/-
# GrammarQueries.Proofs.Route -- a name below a path is one more step

Joining a name to a path and resolving the result is the same as resolving the
path and then stepping down by that name (`arrive_child`), however the path is
spelled: `a`, `a/`, `./a` or a path through links.  So a directory met on a walk
and the spelled path of it never part.

A route can be taken with more links left than it needs (`follow_more_links`),
so what is reached by a long way round is reached by a shorter one too.
-/
import GrammarQueries.FileSystem.Route

namespace GrammarQueries

set_option autoImplicit false

/-! ## Pieces of a joined path -/

theorem chunks_ne_nil (bytes : List UInt8) : chunks bytes ≠ [] := by
  cases bytes with
  | nil => simp [chunks]
  | cons b bs =>
      rw [chunks]
      split
      · simp
      · split <;> simp

/-- A separator divides the pieces into those before and those behind it. -/
theorem chunks_append_separator (xs ys : List UInt8) :
    chunks (xs ++ separator :: ys) = chunks xs ++ chunks ys := by
  induction xs with
  | nil => simp [chunks]
  | cons x xs ih =>
      rw [List.cons_append, chunks, chunks]
      by_cases sep : x = separator
      · simp [sep, ih]
      · rw [if_neg sep, if_neg sep, ih]
        cases pieces : chunks xs with
        | nil => exact absurd pieces (chunks_ne_nil xs)
        | cons c cs => simp

theorem chunks_of_not_mem {xs : List UInt8} (absent : separator ∉ xs) : chunks xs = [xs] := by
  induction xs with
  | nil => rfl
  | cons x xs ih =>
      rw [List.mem_cons, not_or] at absent
      rw [chunks, if_neg (Ne.symm absent.1), ih absent.2]

/-- What the bytes of a name are not, and what is not among them. -/
theorem Name.spelling (n : Name) :
    n.bytes ≠ [] ∧ n.bytes ≠ [dot] ∧ n.bytes ≠ [dot, dot] ∧ separator ∉ n.bytes ∧
      (0 : UInt8) ∉ n.bytes := by
  have valid := n.valid
  simp only [isName, Bool.and_eq_true, decide_eq_true_eq, Bool.not_eq_true', List.contains_eq_mem,
    decide_eq_false_iff_not] at valid
  obtain ⟨⟨⟨⟨⟨some, here⟩, up⟩, separators⟩, zero⟩, -⟩ := valid
  exact ⟨some, here, up, separators, zero⟩

theorem Name.separator_not_mem (n : Name) : separator ∉ n.bytes := n.spelling.2.2.2.1

theorem RouteStep.ofChunk_name (n : Name) : RouteStep.ofChunk n.bytes = .down n := by
  obtain ⟨some, here, up, -⟩ := n.spelling
  simp [RouteStep.ofChunk, some, here, up, n.valid]

namespace Path

/-- The bytes of a name below a path. -/
theorem bytes_child {p : Path} {n : List UInt8} (spelled : p.bytes ≠ []) :
    (p.child n).bytes =
      p.bytes ++ (if p.bytes.getLast? = some separator then [] else [separator]) ++ n := by
  unfold child
  by_cases ends : p.bytes.getLast? = some separator <;> simp [spelled, ends]

theorem isAbsolute_child {p : Path} (spelled : p.bytes ≠ []) (n : List UInt8) :
    (p.child n).isAbsolute = p.isAbsolute := by
  unfold isAbsolute
  rw [bytes_child spelled, List.append_assoc, List.head?_append]
  cases eq : p.bytes with
  | nil => exact absurd eq spelled
  | cons b bs => rfl

/-- A name below a path is one more step; a separator at the path's end is a
step that stays, and is lost. -/
theorem steps_child {p : Path} (spelled : p.bytes ≠ []) (n : Name) :
    ∃ above, (p.child n.bytes).steps = above ++ [.down n] ∧
      (p.steps = above ∨ p.steps = above ++ [.here]) := by
  by_cases ends : p.bytes.getLast? = some separator
  · obtain ⟨front, eq⟩ := List.getLast?_eq_some_iff.1 ends
    refine ⟨(chunks front).map RouteStep.ofChunk, ?_, .inr ?_⟩
    · rw [steps, bytes_child spelled, if_pos ends, eq, List.append_nil, List.append_assoc,
        List.singleton_append, chunks_append_separator, chunks_of_not_mem n.separator_not_mem,
        List.map_append, List.map_singleton, RouteStep.ofChunk_name]
    · rw [steps, eq, chunks_append_separator, List.map_append]
      rfl
  · refine ⟨p.steps, ?_, .inl rfl⟩
    rw [steps, bytes_child spelled, if_neg ends, List.append_assoc, List.singleton_append,
      chunks_append_separator, chunks_of_not_mem n.separator_not_mem, List.map_append,
      List.map_singleton, RouteStep.ofChunk_name, steps]

end Path

namespace FileSystem

/-! ## Steps down -/

/-- Staying asks only that there be a directory. -/
theorem follow_here {fs : FileSystem} {links left : Nat} {l m : Location}
    (reached : fs.follow links l [.here] = .reached m left) : m = l ∧ left = links := by
  rw [follow_cons] at reached
  split at reached
  · cases reached
  · rw [follow_nil] at reached
    cases reached
    exact ⟨rfl, rfl⟩
  · cases reached

/-- The path of a route that has some end is spelled as a path has to be. -/
theorem spelling_of_arrive {fs : FileSystem} {p : Path} {a : Arrival} (arrived : fs.arrive p = a)
    (led : ∀ e, a ≠ .failed e) : (0 : UInt8) ∉ p.bytes ∧ p.bytes ≠ [] := by
  unfold arrive at arrived
  split at arrived
  · exact absurd arrived.symm (led _)
  · next zero =>
      split at arrived
      · exact absurd arrived.symm (led _)
      · next spelled => exact ⟨zero, spelled⟩

theorem arrive_of_spelling {fs : FileSystem} {p : Path}
    (spelling : (0 : UInt8) ∉ p.bytes ∧ p.bytes ≠ []) :
    fs.arrive p = fs.follow mostLinks (p.origin fs.workingDirectory) p.steps := by
  rw [arrive, if_neg spelling.1, if_neg spelling.2]

/-- **The route to a name below a path** is the route to the path and one step down. -/
theorem arrive_child {fs : FileSystem} {p : Path} {l : Location} {left : Nat}
    (reached : fs.arrive p = .reached l left) (n : Name) :
    fs.arrive (p.child n.bytes) = fs.follow left l [.down n] := by
  obtain ⟨zero, spelled⟩ := spelling_of_arrive reached nofun
  have bytes := Path.bytes_child (n := n.bytes) spelled
  have zero' : (0 : UInt8) ∉ (p.child n.bytes).bytes := by
    rw [bytes]
    have ne : (0 : UInt8) ≠ separator := by decide
    have inName : (0 : UInt8) ∉ n.bytes := n.spelling.2.2.2.2
    split <;> simp [zero, inName, ne]
  have spelled' : (p.child n.bytes).bytes ≠ [] := by simp [bytes, spelled]
  have origin : (p.child n.bytes).origin fs.workingDirectory = p.origin fs.workingDirectory := by
    rw [Path.origin, Path.isAbsolute_child spelled, Path.origin]
  rw [arrive_of_spelling ⟨zero, spelled⟩] at reached
  rw [arrive_of_spelling ⟨zero', spelled'⟩, origin]
  obtain ⟨above, steps, same | stays⟩ := Path.steps_child spelled n
  · rw [steps, follow_append, ← same, reached]
    rfl
  · rw [stays, follow_append] at reached
    rw [steps, follow_append]
    cases first : fs.follow mostLinks (p.origin fs.workingDirectory) above with
    | reached m k =>
        rw [first] at reached
        obtain ⟨rfl, rfl⟩ := follow_here reached
        rfl
    | absent m rest => rw [first] at reached; cases reached
    | failed e => rw [first] at reached; cases reached

/-- No step can be taken from what is no directory. -/
theorem follow_of_not_directory {fs : FileSystem} {l : Location} {n : Node} {links : Nat}
    {step : RouteStep} {rest : List RouteStep} (node : fs.node? l = some n)
    (other : n ≠ .object .directory) :
    fs.follow links l (step :: rest) = .failed .notADirectory := by
  rw [follow_cons, node]
  cases n with
  | link target => rfl
  | object o =>
      cases o with
      | directory => exact absurd rfl other
      | file content => rfl
      | socket => rfl

/-- One step down in a directory. -/
theorem follow_down {fs : FileSystem} {l : Location} (links : Nat) (n : Name)
    (directory : fs.node? l = some (.object .directory)) :
    fs.follow links l [.down n] =
      match fs.node? (n :: l) with
      | none => .absent (n :: l) []
      | some (.object _) => .reached (n :: l) links
      | some (.link target) =>
        match links with
        | 0 => .failed .tooManyLinks
        | left + 1 => fs.follow left (target.origin l) target.steps := by
  rw [follow_cons, directory]
  cases below : fs.node? (n :: l) with
  | none => simp only [below]
  | some node =>
      cases node with
      | object o => simp only [below, follow_nil]
      | link target =>
          cases links with
          | zero => simp only [below]
          | succ left => simp only [below, List.append_nil]

/-- **A route never fails for links left over.** -/
theorem follow_more_links {fs : FileSystem} {links left : Nat} {l m : Location}
    {steps : List RouteStep} (reached : fs.follow links l steps = .reached m left) (more : Nat) :
    fs.follow (links + more) l steps = .reached m (left + more) := by
  fun_induction follow fs links l steps with
  | case1 links l =>
      cases reached
      rw [follow_nil]
  | case2 => cases reached
  | case3 links l rest directory ih => simpa only [follow_cons, directory] using ih reached
  | case4 links l rest directory ih => simpa only [follow_cons, directory] using ih reached
  | case5 => cases reached
  | case6 => cases reached
  | case7 links l rest directory name o found ih =>
      simpa only [follow_cons, directory, found] using ih reached
  | case8 => cases reached
  | case9 l rest directory name target found left ih =>
      have again := ih reached
      rw [Nat.succ_add]
      simpa only [follow_cons, directory, found] using again
  | case10 => cases reached

/-! ## What a path names -/

/-- A path names what its route ends at. -/
theorem resolve_eq_ok_iff {fs : FileSystem} {p : Path} {l : Location} {o : Object} :
    fs.resolve p = .ok (l, o) ↔
      ∃ left, fs.arrive p = .reached l left ∧ fs.node? l = some (.object o) := by
  constructor
  · intro named
    have node := node?_of_resolve named
    unfold resolve at named
    split at named
    · next m left reached =>
        split at named
        · cases named
          exact ⟨left, reached, node⟩
        · cases named
    · cases named
    · cases named
  · rintro ⟨left, reached, node⟩
    rw [resolve, reached]
    simp only [object?_eq_some.2 node]

/-- A lone separator names the root. -/
theorem resolve_root (fs : FileSystem) : fs.resolve ⟨[separator]⟩ = .ok ([], .directory) := by
  have route : fs.arrive ⟨[separator]⟩ = fs.follow mostLinks [] [.here, .here] := rfl
  have reached : fs.arrive ⟨[separator]⟩ = .reached [] mostLinks := by
    rw [route, follow_cons, follow_cons]
    exact follow_nil ..
  exact resolve_eq_ok_iff.2 ⟨_, reached, rfl⟩

/-- What stands below a directory under a name of its own is named by the joined path. -/
theorem resolve_child_of_object {fs : FileSystem} {p : Path} {l : Location} {n : Name} {o : Object}
    (directory : fs.resolve p = .ok (l, .directory)) (below : fs.node? (n :: l) = some (.object o)) :
    fs.resolve (p.child n.bytes) = .ok (n :: l, o) := by
  obtain ⟨left, reached, node⟩ := resolve_eq_ok_iff.1 directory
  refine resolve_eq_ok_iff.2 ⟨left, ?_, below⟩
  rw [arrive_child reached, follow_down left n node, below]

theorem list_eq_ok_iff {fs : FileSystem} {p : Path} {names : List Name} :
    fs.list p = .ok names ↔ ∃ l, fs.resolve p = .ok (l, .directory) ∧ fs.names l = names := by
  unfold list
  cases named : fs.resolve p with
  | error e => simp
  | ok found =>
      obtain ⟨l, o⟩ := found
      cases o <;> simp

theorem mem_names_iff {fs : FileSystem} {l : Location} {n : Name} :
    n ∈ fs.names l ↔ ∃ e ∈ fs.entries, e.location = n :: l := by
  rw [names, List.mem_filterMap]
  refine exists_congr fun e => and_congr_right fun _ => ?_
  unfold nameIn?
  cases e.location with
  | nil => simp
  | cons name parent => by_cases same : parent = l <;> simp [same]

theorem exists_node?_of_mem {fs : FileSystem} {e : Entry} (member : e ∈ fs.entries) :
    ∃ n, fs.node? e.location = some n := by
  by_cases root : e.location = []
  · exact ⟨_, by rw [root, node?, if_pos rfl]⟩
  · rw [node?, if_neg root]
    cases found : fs.entries.find? fun e' => decide (e'.location = e.location) with
    | none =>
        rw [List.find?_eq_none] at found
        exact absurd (decide_eq_true rfl) (found e member)
    | some e' => exact ⟨e'.node, rfl⟩

end FileSystem

end GrammarQueries
