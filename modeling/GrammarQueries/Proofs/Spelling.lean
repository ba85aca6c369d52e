/-
# GrammarQueries.Proofs.Spelling -- paths with the same components are searched alike

Two spellings of one path differ in separators and `.` components, and these are
steps that stay.  A step that stays asks only for a directory, so leaving such
steps out changes no route that ends in a directory (`follow_moves`,
`follow_of_moves`).  It can change others: a file `f` is named by `f` and not by
`f/`.  But a search begins in a directory or gives nothing, so what begins at two
spellings of one path begins in one directory or gives nothing at both
(`arrive_of_sameComponents`).

From one directory two walks keep step: they stand in the same locations with
the same links left, and only the paths by which they spell what they meet are
different (`Alike`).  So the results have the same names below the spellings
they begin with, and so again the same components (`Path.components_descend_congr`).
-/
import GrammarQueries.Proofs.Bundle
import GrammarQueries.Proofs.Component

namespace GrammarQueries

set_option autoImplicit false

namespace FileSystem

variable {fs : FileSystem} {wanted : List UInt8}

/-! ## Routes without the steps that stay -/

theorem exists_follow_head {links left : Nat} {l m : Location} {step : RouteStep}
    {rest : List RouteStep} (reached : fs.follow links l (step :: rest) = .reached m left) :
    ∃ next between, fs.follow links l [step] = .reached next between ∧
      fs.follow between next rest = .reached m left := by
  rw [← List.singleton_append, follow_append] at reached
  cases first : fs.follow links l [step] with
  | reached next between =>
      rw [first] at reached
      exact ⟨next, between, rfl, reached⟩
  | absent missing later => rw [first] at reached; cases reached
  | failed e => rw [first] at reached; cases reached

theorem follow_of_head {links between : Nat} {l next : Location} {step : RouteStep}
    {rest : List RouteStep} (first : fs.follow links l [step] = .reached next between) :
    fs.follow links l (step :: rest) = fs.follow between next rest := by
  rw [← List.singleton_append, follow_append, first]
  rfl

/-- A route can be taken without the steps that stay. -/
theorem follow_moves {links left : Nat} {l m : Location} {steps : List RouteStep}
    (reached : fs.follow links l steps = .reached m left) :
    fs.follow links l (steps.filter fun s => decide (s ≠ .here)) = .reached m left := by
  induction steps generalizing links l with
  | nil => exact reached
  | cons step rest ih =>
      obtain ⟨next, between, first, later⟩ := exists_follow_head reached
      by_cases stays : step = .here
      · subst stays
        obtain ⟨rfl, rfl⟩ := follow_here first
        rw [List.filter_cons_of_neg (by simp)]
        exact ih later
      · rw [List.filter_cons_of_pos (by simpa using stays), follow_of_head first]
        exact ih later

/-- **Steps that stay can be put anywhere on a route that ends in a directory.** -/
theorem follow_of_moves {links left : Nat} {l m : Location} {steps : List RouteStep}
    (reached : fs.follow links l (steps.filter fun s => decide (s ≠ .here)) = .reached m left)
    (directory : fs.node? m = some (.object .directory)) :
    fs.follow links l steps = .reached m left := by
  induction steps generalizing links l with
  | nil => exact reached
  | cons step rest ih =>
      by_cases stays : step = .here
      · subst stays
        rw [List.filter_cons_of_neg (by simp)] at reached
        have here : fs.node? l = some (.object .directory) := by
          cases moves : rest.filter fun s => decide (s ≠ .here) with
          | nil =>
              rw [moves, follow_nil] at reached
              cases reached
              exact directory
          | cons move later =>
              rw [moves] at reached
              exact directory_of_follow reached
        rw [follow_cons, here]
        exact ih reached
      · rw [List.filter_cons_of_pos (by simpa using stays)] at reached
        obtain ⟨next, between, first, later⟩ := exists_follow_head reached
        rw [follow_of_head first]
        exact ih later

/-! ## Where spellings of one path lead -/

/-- **Spellings of one path lead to one directory**, with the same links left, if one of
them leads to a directory. -/
theorem arrive_of_sameComponents {p q : Path} {l : Location} {left : Nat}
    (same : p.components = q.components) (reached : fs.arrive p = .reached l left)
    (directory : fs.node? l = some (.object .directory)) : fs.arrive q = .reached l left := by
  obtain ⟨lead, body⟩ := Path.components_eq_iff.1 same
  obtain ⟨zero, spelled⟩ := spelling_of_arrive reached nofun
  have spelling : (0 : UInt8) ∉ q.bytes ∧ q.bytes ≠ [] := by
    constructor
    · rwa [Path.zero_mem_iff, ← body, ← Path.zero_mem_iff]
    · rwa [ne_eq, ← Path.components_eq_nil_iff, ← same, Path.components_eq_nil_iff]
  have origin : q.origin fs.workingDirectory = p.origin fs.workingDirectory := by
    have absolute : q.isAbsolute = p.isAbsolute := by
      rw [Bool.eq_iff_iff, ← Path.lead_eq_root_iff, ← Path.lead_eq_root_iff, lead]
    rw [Path.origin, Path.origin, absolute]
  have moves : q.moves = p.moves := by rw [Path.moves_eq, Path.moves_eq, body]
  rw [arrive_of_spelling ⟨zero, spelled⟩] at reached
  rw [arrive_of_spelling spelling, origin]
  refine follow_of_moves ?_ directory
  rw [← Path.moves, moves]
  exact follow_moves reached

theorem resolve_congr {p q : Path} (same : fs.arrive p = fs.arrive q) :
    fs.resolve p = fs.resolve q := by
  rw [resolve, resolve, same]

theorem resolve_of_sameComponents {p q : Path} {l : Location}
    (same : p.components = q.components) (directory : fs.resolve p = .ok (l, .directory)) :
    fs.resolve q = .ok (l, .directory) ∧ fs.arrive q = fs.arrive p := by
  obtain ⟨left, reached, node⟩ := resolve_eq_ok_iff.1 directory
  have again := arrive_of_sameComponents same reached node
  exact ⟨resolve_eq_ok_iff.2 ⟨left, again, node⟩, by rw [reached, again]⟩

theorem list_of_sameComponents {p q : Path} {listing : List Name}
    (same : p.components = q.components) (lists : fs.list p = .ok listing) :
    fs.list q = .ok listing := by
  obtain ⟨l, directory, rfl⟩ := list_eq_ok_iff.1 lists
  exact list_eq_ok_iff.2 ⟨l, (resolve_of_sameComponents same directory).1, rfl⟩

/-- A name below two spellings of a directory names one thing. -/
theorem resolve_child_congr {p q : Path} {l : Location}
    (directory : fs.resolve p = .ok (l, .directory)) (same : fs.arrive q = fs.arrive p) (n : Name) :
    fs.resolve (q.child n.bytes) = fs.resolve (p.child n.bytes) := by
  obtain ⟨left, reached, -⟩ := resolve_eq_ok_iff.1 directory
  refine resolve_congr ?_
  rw [arrive_child reached, arrive_child (same.trans reached)]

/-! ## Walks that keep step -/

/-- Two branches that stand in the same directories, reached with the same links left,
whatever the spellings. -/
structure Alike (fs : FileSystem) (b b' : Branch) : Prop where
  locations : b'.stands.map Stand.location = b.stands.map Stand.location
  arrives : fs.arrive b'.here.path = fs.arrive b.here.path
  stands : fs.resolve b.here.path = .ok (b.here.location, .directory)

namespace Alike

variable {b b' : Branch} {name : Name}

theorem here (alike : Alike fs b b') : b'.here.location = b.here.location :=
  (List.cons.inj alike.locations).1

theorem standing?_isSome (alike : Alike fs b b') (l : Location) :
    (b'.standing? l).isSome = (b.standing? l).isSome := by
  have stood : ∀ c : Branch, (c.standing? l).isSome = true ↔ l ∈ c.stands.map Stand.location := by
    intro c
    simp [Branch.standing?]
  rw [Bool.eq_iff_iff, stood, stood, alike.locations]

/-- Both walks make the same of a name, but for the paths of a problem. -/
theorem examine (alike : Alike fs b b') (name : Name) :
    (∃ p p', fs.examine b name = .problem p ∧ fs.examine b' name = .problem p') ∨
      fs.examine b' name = fs.examine b name := by
  have named : fs.resolve (b'.pathOf name) = fs.resolve (b.pathOf name) :=
    resolve_child_congr alike.stands alike.arrives name
  unfold FileSystem.examine
  rw [alike.here, named]
  split
  · exact .inr rfl
  · exact .inr rfl
  · split
    · exact .inl ⟨_, _, rfl, rfl⟩
    · next l _ =>
        have both := alike.standing?_isSome l
        cases stood : b.standing? l with
        | none =>
            rw [stood, Option.isSome_none, Option.isSome_eq_false_iff, Option.isNone_iff_eq_none]
              at both
            rw [both]
            exact .inr rfl
        | some above =>
            rw [stood, Option.isSome_some, Option.isSome_iff_exists] at both
            obtain ⟨above', stood'⟩ := both
            rw [stood']
            exact .inl ⟨_, _, rfl, rfl⟩
    · exact .inr rfl

theorem enter {l : Location} (alike : Alike fs b b') (enters : fs.examine b name = .directory l) :
    Alike fs (b.enter ⟨b.pathOf name, l⟩) (b'.enter ⟨b'.pathOf name, l⟩) := by
  obtain ⟨-, named⟩ := resolve_of_examine_directory alike.stands enters
  obtain ⟨left, reached, -⟩ := resolve_eq_ok_iff.1 alike.stands
  refine ⟨congrArg (l :: ·) alike.locations, ?_, named⟩
  show fs.arrive (b'.here.path.child name.bytes) = fs.arrive (b.here.path.child name.bytes)
  rw [arrive_child reached, arrive_child (alike.arrives.trans reached)]

end Alike

/-- Two results that have the same names below two paths. -/
def SameBelow (p q : Path) : Option Path → Option Path → Prop :=
  Option.Rel fun a b => ∃ names : List Name, a = p.descend names ∧ b = q.descend names

theorem SameBelow.of_child {p q : Path} {n : Name} {a b : Option Path}
    (below : SameBelow (p.child n.bytes) (q.child n.bytes) a b) : SameBelow p q a b := by
  cases below with
  | none => exact .none
  | some spelled =>
      obtain ⟨names, rfl, rfl⟩ := spelled
      exact .some ⟨n :: names, rfl, rfl⟩

theorem SameBelow.or {p q : Path} {a b a' b' : Option Path} (first : SameBelow p q a b)
    (later : SameBelow p q a' b') : SameBelow p q (a.or a') (b.or b') := by
  cases first with
  | none => exact later
  | some spelled => exact .some spelled

theorem searchAmong_cons (b : Branch) (name : Name) (rest : List Name) :
    (fs.searchAmong wanted b (name :: rest)).file? =
      (fs.hit? wanted b name).or (fs.searchAmong wanted b rest).file? := by
  rw [searchAmong_file?, searchAmong_file?, List.findSome?_cons]
  cases fs.hit? wanted b name <;> rfl

/-- Both walks get the same from one name, if they do below it. -/
theorem Alike.hit? {b b' : Branch} {name : Name} (alike : Alike fs b b')
    (below : ∀ l, fs.examine b name = .directory l →
      SameBelow (b.pathOf name) (b'.pathOf name)
        (fs.searchAmong wanted (b.enter ⟨b.pathOf name, l⟩) (fs.names l)).file?
        (fs.searchAmong wanted (b'.enter ⟨b'.pathOf name, l⟩) (fs.names l)).file?) :
    SameBelow b.here.path b'.here.path (fs.hit? wanted b name) (fs.hit? wanted b' name) := by
  unfold FileSystem.hit?
  obtain ⟨p, p', problem, problem'⟩ | same := alike.examine name
  · rw [problem, problem']
    exact .none
  · rw [same]
    cases finding : fs.examine b name with
    | problem p => exact .none
    | hidden => exact .none
    | other => exact .none
    | file =>
        dsimp only
        split
        · exact .some ⟨[name], rfl, rfl⟩
        · exact .none
    | directory l => exact (below l finding).of_child

/-- **Walks that keep step find the same names.** -/
theorem Alike.searchAmong {b b' : Branch} (alike : Alike fs b b') (names : List Name) :
    SameBelow b.here.path b'.here.path (fs.searchAmong wanted b names).file?
      (fs.searchAmong wanted b' names).file? := by
  -- the complete walk goes on behind every name, so its induction serves both searches
  induction b, names using outcomesAmong.induct fs generalizing b' with
  | case1 b =>
      rw [FileSystem.searchAmong, FileSystem.searchAmong]
      exact .none
  | case6 b name rest l enters ih_below ih =>
      rw [searchAmong_cons, searchAmong_cons]
      refine .or (alike.hit? fun m finding => ?_) (ih alike)
      cases enters.symm.trans finding
      exact ih_below (alike.enter enters)
  | _ =>
      rename_i b name rest finding ih
      rw [searchAmong_cons, searchAmong_cons]
      refine .or (alike.hit? fun m enters => ?_) (ih alike)
      cases finding.symm.trans enters

theorem search_of_not_directory {p : Path} (other : ∀ l, fs.resolve p ≠ .ok (l, .directory)) :
    (fs.search wanted p).file? = none := by
  unfold search
  split
  · rfl
  · next l directory => exact absurd directory (other l)
  · rfl

/-- **Searches at spellings of one path find the same names** below them. -/
theorem search_of_sameComponents {p q : Path} (same : p.components = q.components) :
    SameBelow p q (fs.search wanted p).file? (fs.search wanted q).file? := by
  by_cases directory : ∃ l, fs.resolve p = .ok (l, .directory)
  · obtain ⟨l, directory⟩ := directory
    obtain ⟨again, arrives⟩ := resolve_of_sameComponents same directory
    rw [search, directory, search, again]
    have alike : Alike fs ⟨⟨p, l⟩, []⟩ ⟨⟨q, l⟩, []⟩ := ⟨rfl, arrives, directory⟩
    exact alike.searchAmong (fs.names l)
  · have other : ∀ l, fs.resolve p ≠ .ok (l, .directory) := fun l eq => directory ⟨l, eq⟩
    have other' : ∀ l, fs.resolve q ≠ .ok (l, .directory) := fun l eq =>
      other l (resolve_of_sameComponents same.symm eq).1
    rw [search_of_not_directory other, search_of_not_directory other']
    exact .none

end FileSystem

/-! ## Places that are the same -/

theorem FileSystem.SameBelow.sameComponents {p q : Path} {a b : Option Path}
    (below : FileSystem.SameBelow p q a b) (same : p.components = q.components) :
    Option.Rel (fun a b : Path => a.sameComponents b = true) a b := by
  cases below with
  | none => exact .none
  | some spelled =>
      obtain ⟨names, rfl, rfl⟩ := spelled
      exact .some (Path.sameComponents_iff.2 (Path.components_descend_congr same names))

namespace Base

variable {fs : FileSystem} {p q : Path}

/-- At spellings of one base the same entry is the bundle. -/
theorem bundleIn?_of_sameComponents (same : p.components = q.components) (bundle : String) :
    FileSystem.SameBelow p q (bundleIn? fs p bundle).value (bundleIn? fs q bundle).value := by
  cases lists : fs.list p with
  | ok listing =>
      obtain ⟨l, directory, -⟩ := FileSystem.list_eq_ok_iff.1 lists
      have arrives := (FileSystem.resolve_of_sameComponents same directory).2
      have qualifies : isBundle fs q bundle = isBundle fs p bundle := by
        funext e
        unfold isBundle FileSystem.isDirectory
        rw [FileSystem.resolve_child_congr directory arrives e]
      rw [value_bundleIn?_of_list lists,
        value_bundleIn?_of_list (FileSystem.list_of_sameComponents same lists), qualifies]
      cases listing.find? (isBundle fs p bundle) with
      | none => exact .none
      | some e => exact .some ⟨[e], rfl, rfl⟩
  | error err =>
      have fails : ∃ err', fs.list q = .error err' := by
        cases lists' : fs.list q with
        | error err' => exact ⟨err', rfl⟩
        | ok listing =>
            rw [FileSystem.list_of_sameComponents same.symm lists'] at lists
            cases lists
      obtain ⟨err', fails⟩ := fails
      rw [bundleIn?_of_error lists, bundleIn?_of_error fails]
      exact .none

/-- **Bases that are the same have the same bundles**, spelled with the same components. -/
theorem bundle?_of_same {b b' : Base} (same : b.same b' = true) (w : World) (bundle : String) :
    Option.Rel (fun p q : Path => p.sameComponents q = true) (b.bundle? w bundle).value
      (b'.bundle? w bundle).value := by
  have itself : ∀ p? : Option Path, Option.Rel (fun p q : Path => p.sameComponents q = true) p? p? := by
    intro p?
    cases p? with
    | none => exact .none
    | some p => exact .some (Path.sameComponents_iff.2 rfl)
  cases b with
  | given p =>
      cases b' with
      | given q =>
          have components := Path.sameComponents_iff.1 same
          have base : ((given p).directory w).value = some p := rfl
          have base' : ((given q).directory w).value = some q := rfl
          rw [value_bundle? base, value_bundle? base']
          exact (bundleIn?_of_sameComponents components bundle).sameComponents components
      | beside => cases same
      | detected => cases same
  | beside =>
      cases b' with
      | beside => exact itself _
      | given q => cases same
      | detected => cases same
  | detected =>
      cases b' with
      | detected => exact itself _
      | given q => cases same
      | beside => cases same

end Base

/-- **Equality of places is kept by lookup.**  Below directories with equal paths a search
finds a file at both or at neither, and so does locating a bundle under equal bases; what
is found has equal paths again.  Paths are equal when they have the same components: a
separator may be repeated or stand at the end, and a `.` may stand behind one, but a `.`
that begins a path counts. -/
theorem equal_places_are_searched_alike :
    (∀ (fs : FileSystem) (p q : Path), p.sameComponents q = true → ∀ name : String,
      Option.Rel (fun a b : Path => a.sameComponents b = true) (fs.findFile name p).value
        (fs.findFile name q).value) ∧
    (∀ (w : World) (b b' : Base), b.same b' = true → ∀ bundle : String,
      Option.Rel (fun p q : Path => p.sameComponents q = true) (b.bundle? w bundle).value
        (b'.bundle? w bundle).value) ∧
    (∀ xs ys : List UInt8,
      Path.sameComponents ⟨xs ++ separator :: separator :: ys⟩ ⟨xs ++ separator :: ys⟩ = true ∧
      Path.sameComponents ⟨xs ++ separator :: dot :: separator :: ys⟩ ⟨xs ++ separator :: ys⟩ =
        true) ∧
    (∀ p : Path, p.bytes ≠ [] →
      Path.sameComponents ⟨p.bytes ++ [separator]⟩ p = true ∧
      Path.sameComponents ⟨p.bytes ++ [separator, dot]⟩ p = true) ∧
    ∀ p : Path, Path.sameComponents ⟨dot :: separator :: p.bytes⟩ p = true ↔
      Path.Component.here ∈ p.components := by
  refine ⟨fun fs p q same name => ?_, fun w b b' same => Base.bundle?_of_same same w,
    Path.sameComponents_inner, fun p => Path.sameComponents_at_end,
    fun p => Path.sameComponents_here_iff⟩
  have components := Path.sameComponents_iff.1 same
  exact (FileSystem.search_of_sameComponents components).sameComponents components

/-- In `r` are a link `k` to a directory `t`, and `t` with the file `f`. -/
def linkedDirectory : FileSystem :=
  (FileSystem.mk [] [] (.error .notFound)).afterAll
    [.makeLink ⟨[0x74, separator, dot]⟩ ⟨[0x72, separator, 0x6B]⟩,
      .writeFile ⟨[0x72, separator, 0x74, separator, 0x66]⟩ []]

/-- The path `r//k/.` is searched as `r/k` is, and so is the base `r/.` as `r`.  The system does
tell equal paths apart: `r/t/f` can be read and `r/t/f/` cannot. -/
theorem linkedDirectory_is_searched_alike :
    Path.sameComponents ⟨[0x72, separator, separator, 0x6B, separator, dot]⟩
        ⟨[0x72, separator, 0x6B]⟩ = true ∧
      Option.Rel (fun a b : Path => a.sameComponents b = true)
        (linkedDirectory.findFile "f" ⟨[0x72, separator, separator, 0x6B, separator, dot]⟩).value
        (linkedDirectory.findFile "f" ⟨[0x72, separator, 0x6B]⟩).value ∧
      (linkedDirectory.findFile "f" ⟨[0x72, separator, separator, 0x6B, separator, dot]⟩).value =
        some ⟨[0x72, separator, separator, 0x6B, separator, dot, separator, 0x66]⟩ ∧
      (Base.given ⟨[0x72, separator, dot]⟩).same (.given ⟨[0x72]⟩) = true ∧
      Option.Rel (fun p q : Path => p.sameComponents q = true)
        ((Base.given ⟨[0x72, separator, dot]⟩).bundle? ⟨linkedDirectory, none⟩ "k").value
        ((Base.given ⟨[0x72]⟩).bundle? ⟨linkedDirectory, none⟩ "k").value ∧
      ((Base.given ⟨[0x72]⟩).bundle? ⟨linkedDirectory, none⟩ "k").value =
        some ⟨[0x72, separator, 0x6B]⟩ ∧
      linkedDirectory.read ⟨[0x72, separator, 0x74, separator, 0x66]⟩ = .ok [] ∧
      linkedDirectory.read ⟨[0x72, separator, 0x74, separator, 0x66, separator]⟩ =
        .error .notADirectory := by
  have same : Path.sameComponents ⟨[0x72, separator, separator, 0x6B, separator, dot]⟩
      ⟨[0x72, separator, 0x6B]⟩ = true := by decide
  have same_base : (Base.given ⟨[0x72, separator, dot]⟩).same (.given ⟨[0x72]⟩) = true := by decide
  obtain ⟨searches, bundles, -⟩ := equal_places_are_searched_alike
  have lists : linkedDirectory.list ⟨[0x72]⟩ = .ok [⟨[0x6B], by decide⟩, ⟨[0x74], by decide⟩] := by
    cbv
  have directory : linkedDirectory.resolve ⟨[0x72, separator, 0x6B]⟩ =
      .ok ([⟨[0x74], by decide⟩, ⟨[0x72], by decide⟩], .directory) := by cbv
  have qualifies : Base.Qualifies linkedDirectory ⟨[0x72]⟩ "k" ⟨[0x6B], by decide⟩ :=
    ⟨⟨"k", by decide, List.infix_refl _⟩, _, directory⟩
  have located : ((Base.given ⟨[0x72]⟩).bundle? ⟨linkedDirectory, none⟩ "k").value =
      some ⟨[0x72, separator, 0x6B]⟩ := by
    rw [Base.value_bundle? rfl, Base.value_bundleIn?_of_list lists,
      List.find?_cons_of_pos (Base.isBundle_iff.2 qualifies)]
    rfl
  exact ⟨same, searches linkedDirectory _ _ same "f", by cbv, same_base,
    bundles ⟨linkedDirectory, none⟩ _ _ same_base "k", located, by cbv, by cbv⟩

end GrammarQueries
