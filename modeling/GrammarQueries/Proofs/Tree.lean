/-
# GrammarQueries.Proofs.Tree -- what a change of the tree does at each location

Every change of the files is made of four: a new entry, another node in an
entry's place, an entry taken away with all below it, and entries moved with all
below them.  For each, the node at any location afterwards is given in terms of
the nodes before (`node?_insert`, `node?_replace`, `node?_removeBelow`,
`node?_relocate`).

A tree is rooted when every entry stands in a directory.  All four changes keep
this where they are made, so nothing ever stands below a place that is free
(`Rooted.free_below`), and what moves there meets nothing.
-/
import GrammarQueries.FileSystem.Edit
import GrammarQueries.Proofs.Route
import Mathlib.Data.List.Find

namespace GrammarQueries

set_option autoImplicit false

namespace FileSystem

variable {fs : FileSystem} {l x : Location} {n : Node}

theorem node?_of_ne_nil (ne : l ≠ []) :
    fs.node? l = (fs.entries.find? fun e => decide (e.location = l)).map Entry.node := by
  rw [node?, if_neg ne]

theorem ne_nil_of_file {content : List UInt8}
    (file : fs.node? l = some (.object (.file content))) : l ≠ [] := by
  rintro rfl
  rw [node?, if_pos rfl] at file
  cases file

/-! ## A new entry -/

theorem node?_insert (free : fs.node? l = none) :
    (fs.insert l n).node? x = if x = l then some n else fs.node? x := by
  by_cases root : x = []
  · subst root
    have ne : ([] : Location) ≠ l := by
      rintro rfl
      rw [node?, if_pos rfl] at free
      cases free
    rw [if_neg ne, node?, node?, if_pos rfl, if_pos rfl]
  · rw [node?_of_ne_nil root, node?_of_ne_nil root, insert, List.find?_append, Option.map_or]
    by_cases same : x = l
    · subst same
      rw [node?_of_ne_nil root] at free
      rw [free, if_pos rfl]
      simp
    · have differs : l ≠ x := fun eq => same eq.symm
      rw [if_neg same]
      simp [differs]

theorem node?_insert_of_some {m : Node} (free : fs.node? l = none) (node : fs.node? x = some m) :
    (fs.insert l n).node? x = some m := by
  rw [node?_insert free, if_neg, node]
  rintro rfl
  rw [free] at node
  cases node

/-! ## Another node -/

theorem node?_replace (ne : l ≠ []) (stands : fs.node? l ≠ none) :
    (fs.replace l n).node? x = if x = l then some n else fs.node? x := by
  by_cases root : x = []
  · subst root
    rw [if_neg ne.symm, node?, node?, if_pos rfl, if_pos rfl]
  · have same_place : ∀ e : Entry,
        (if e.location = l then (⟨e.location, n⟩ : Entry) else e).location = e.location := by
      intro e
      split <;> rfl
    rw [node?_of_ne_nil root, node?_of_ne_nil root, replace, List.find?_map]
    simp only [Function.comp_def, same_place, Option.map_map]
    cases found : fs.entries.find? fun e => decide (e.location = x) with
    | none =>
        have differs : x ≠ l := by
          rintro rfl
          rw [node?_of_ne_nil root, found] at stands
          exact stands rfl
        rw [if_neg differs]
        rfl
    | some e =>
        have here : e.location = x := by simpa using List.find?_some found
        by_cases same : x = l
        · simp [here, same]
        · simp [here, same]

/-! ## An entry taken away -/

theorem node?_removeBelow (ne : l ≠ []) :
    (fs.removeBelow l).node? x = if l <:+ x then none else fs.node? x := by
  by_cases root : x = []
  · subst root
    rw [if_neg (by rw [List.suffix_nil]; exact ne), node?, node?, if_pos rfl, if_pos rfl]
  · rw [node?_of_ne_nil root, node?_of_ne_nil root, removeBelow, List.find?_filter]
    by_cases below : l <:+ x
    · rw [if_pos below, Option.map_eq_none_iff, List.find?_eq_none]
      intro e _ here
      simp only [Bool.not_eq_true', decide_eq_true_eq] at here
      have apart : ¬l <:+ e.location := by
        rw [← List.isSuffixOf_iff_suffix, here.1]
        exact Bool.false_ne_true
      exact apart (here.2 ▸ below)
    · rw [if_neg below]
      refine congrArg _ (List.find?_congr fun e _ => ?_)
      by_cases here : e.location = x
      · have kept : l.isSuffixOf x = false := by
          rw [← Bool.not_eq_true, List.isSuffixOf_iff_suffix]
          exact below
        simp [here, kept]
      · simp [here]

/-! ## Entries moved -/

theorem moved_append (source goal below : Location) :
    moved source goal (below ++ source) = below ++ goal := by
  rw [moved, if_pos (List.isSuffixOf_iff_suffix.2 (List.suffix_append _ _))]
  simp

theorem moved_of_not_suffix {source : Location} (goal : Location) (apart : ¬source <:+ l) :
    moved source goal l = l := by
  rw [moved, if_neg]
  rwa [List.isSuffixOf_iff_suffix]

theorem moved_self (source l : Location) : moved source source l = l := by
  by_cases below : source <:+ l
  · obtain ⟨ls, rfl⟩ := below
    exact moved_append source source ls
  · exact moved_of_not_suffix source below

/-- Places that are not below the goal stay apart when they move. -/
theorem moved_inj {source goal a b : Location} (ha : ¬goal <:+ a) (hb : ¬goal <:+ b)
    (same : moved source goal a = moved source goal b) : a = b := by
  by_cases below_a : source <:+ a
  · obtain ⟨as, rfl⟩ := below_a
    rw [moved_append] at same
    by_cases below_b : source <:+ b
    · obtain ⟨bs, rfl⟩ := below_b
      rw [moved_append, List.append_left_inj] at same
      rw [same]
    · rw [moved_of_not_suffix goal below_b] at same
      exact absurd ⟨as, same⟩ hb
  · rw [moved_of_not_suffix goal below_a] at same
    by_cases below_b : source <:+ b
    · obtain ⟨bs, rfl⟩ := below_b
      rw [moved_append] at same
      exact absurd ⟨bs, same.symm⟩ ha
    · rwa [moved_of_not_suffix goal below_b] at same

/-- What stands somewhere stands where that has moved to, if nothing stood below the goal. -/
theorem node?_relocate {source goal : Location} (movable : source ≠ []) (real : goal ≠ [])
    (free : ∀ e ∈ fs.entries, ¬goal <:+ e.location) (apart : ¬goal <:+ x) :
    (fs.relocate source goal).node? (moved source goal x) = fs.node? x := by
  by_cases root : x = []
  · subst root
    rw [moved_of_not_suffix goal (by rw [List.suffix_nil]; exact movable), node?, node?, if_pos rfl,
      if_pos rfl]
  · have ne : moved source goal x ≠ [] := by
      intro none_left
      by_cases below : source <:+ x
      · obtain ⟨xs, rfl⟩ := below
        rw [moved_append, List.append_eq_nil_iff] at none_left
        exact real none_left.2
      · rw [moved_of_not_suffix goal below] at none_left
        exact root none_left
    rw [node?_of_ne_nil ne, node?_of_ne_nil root, relocate, List.find?_map, Option.map_map]
    refine congrArg _ (List.find?_congr fun e member => ?_)
    have same : moved source goal e.location = moved source goal x ↔ e.location = x :=
      ⟨moved_inj (free e member) apart, fun eq => by rw [eq]⟩
    simp [same]

/-- Whatever stands somewhere after a move stood in some place before it. -/
theorem exists_moved {source goal : Location} (movable : source ≠ []) (real : goal ≠ [])
    (free : ∀ e ∈ fs.entries, ¬goal <:+ e.location)
    (node : (fs.relocate source goal).node? x = some n) :
    ∃ y, ¬goal <:+ y ∧ moved source goal y = x := by
  by_cases root : x = []
  · refine ⟨[], ?_, ?_⟩
    · rwa [List.suffix_nil]
    · rw [root]
      exact moved_of_not_suffix goal (by rwa [List.suffix_nil])
  · obtain ⟨e, member, location, -⟩ := node?_eq_some_of_ne_nil root node
    obtain ⟨old, stood, rfl⟩ := List.mem_map.1 member
    exact ⟨old.location, free old stood, location⟩

/-! ## Rooted trees -/

/-- Every entry stands in a directory, as in any tree that a system keeps. -/
def Rooted (fs : FileSystem) : Prop :=
  ∀ e ∈ fs.entries, ∃ name d, e.location = name :: d ∧ fs.node? d = some (.object .directory)

/-- Above what stands in a rooted tree are directories, and they are not empty. -/
theorem Rooted.directory_above (rooted : fs.Rooted) {below : List Name} {name : Name} {n : Node}
    (node : fs.node? (name :: below ++ l) = some n) :
    fs.node? l = some (.object .directory) ∧ fs.names l ≠ [] := by
  induction below generalizing name n with
  | nil =>
      obtain ⟨e, member, location, -⟩ := node?_eq_some_of_ne_nil (List.cons_ne_nil _ _) node
      obtain ⟨first, d, eq, directory⟩ := rooted e member
      have listed : name ∈ fs.names l := mem_names_iff.2 ⟨e, member, location⟩
      rw [location] at eq
      cases eq
      exact ⟨directory, List.ne_nil_of_mem listed⟩
  | cons second below ih =>
      obtain ⟨e, member, location, -⟩ := node?_eq_some_of_ne_nil (List.cons_ne_nil _ _) node
      obtain ⟨first, d, eq, directory⟩ := rooted e member
      rw [location] at eq
      cases eq
      exact ih directory

/-- **Nothing stands below a free place** of a rooted tree. -/
theorem Rooted.free_below (rooted : fs.Rooted) (free : fs.node? l = none) :
    ∀ e ∈ fs.entries, ¬l <:+ e.location := by
  intro e member below
  obtain ⟨n, node⟩ := exists_node?_of_mem member
  obtain ⟨above, eq⟩ := below
  rw [← eq] at node
  cases above with
  | nil =>
      rw [List.nil_append, free] at node
      cases node
  | cons name above =>
      rw [(rooted.directory_above node).1] at free
      cases free

/-- Only below a directory that is not empty is there anything else. -/
theorem Rooted.not_below (rooted : fs.Rooted) (node : fs.node? x = some n) (other : x ≠ l)
    (bare : fs.node? l ≠ some (.object .directory) ∨ fs.names l = []) : ¬l <:+ x := by
  rintro ⟨above, eq⟩
  cases above with
  | nil => exact other eq.symm
  | cons name above =>
      rw [← eq] at node
      obtain ⟨directory, some_name⟩ := rooted.directory_above node
      cases bare with
      | inl differs => exact differs directory
      | inr empty => exact some_name empty

theorem Rooted.insert {name : Name} (rooted : fs.Rooted) (free : fs.node? (name :: l) = none)
    (directory : fs.node? l = some (.object .directory)) : (fs.insert (name :: l) n).Rooted := by
  intro e member
  rcases List.mem_append.1 member with old | new
  · obtain ⟨first, d, eq, above⟩ := rooted e old
    exact ⟨first, d, eq, node?_insert_of_some free above⟩
  · rw [List.mem_singleton] at new
    subst new
    exact ⟨name, l, rfl, node?_insert_of_some free directory⟩

theorem Rooted.replace {old new : List UInt8} (rooted : fs.Rooted)
    (file : fs.node? l = some (.object (.file old))) :
    (fs.replace l (.object (.file new))).Rooted := by
  have ne : l ≠ [] := ne_nil_of_file file
  intro e member
  obtain ⟨e', old', rfl⟩ := List.mem_map.1 member
  obtain ⟨first, d, eq, above⟩ := rooted e' old'
  have differs : d ≠ l := by
    rintro rfl
    rw [above] at file
    cases file
  refine ⟨first, d, ?_, ?_⟩
  · rw [← eq]
    split <;> rfl
  · rw [node?_replace ne (by rw [file]; exact Option.some_ne_none _), if_neg differs, above]

theorem Rooted.removeBelow (rooted : fs.Rooted) (ne : l ≠ []) : (fs.removeBelow l).Rooted := by
  intro e member
  obtain ⟨old, kept⟩ := List.mem_filter.1 member
  obtain ⟨first, d, eq, above⟩ := rooted e old
  refine ⟨first, d, eq, ?_⟩
  rw [node?_removeBelow ne, if_neg, above]
  intro below
  have gone : l.isSuffixOf e.location = true := by
    rw [List.isSuffixOf_iff_suffix, eq]
    exact below.trans (List.suffix_cons _ _)
  simp [gone] at kept

theorem Rooted.relocate {source : Location} {name : Name} (rooted : fs.Rooted)
    (movable : source ≠ []) (free : ∀ e ∈ fs.entries, ¬(name :: l) <:+ e.location)
    (directory : fs.node? l = some (.object .directory)) (outside : ¬source <:+ name :: l) :
    (fs.relocate source (name :: l)).Rooted := by
  have free_above : ∀ {first : Name} {d : Location}, ¬(name :: l) <:+ first :: d →
      ¬(name :: l) <:+ d := fun apart below => apart (below.trans (List.suffix_cons _ _))
  have still : moved source (name :: l) l = l :=
    moved_of_not_suffix _ fun below => outside (below.trans (List.suffix_cons _ _))
  have not_itself : ¬(name :: l) <:+ l := fun below =>
    absurd below.length_le (Nat.not_succ_le_self _)
  intro e member
  obtain ⟨e', old, rfl⟩ := List.mem_map.1 member
  obtain ⟨first, d, eq, above⟩ := rooted e' old
  have apart : ¬(name :: l) <:+ d := free_above (eq ▸ free e' old)
  have moved_above := node?_relocate movable (List.cons_ne_nil name l) free apart
  rw [above] at moved_above
  by_cases below : source <:+ d
  · obtain ⟨ds, rfl⟩ := below
    refine ⟨first, ds ++ name :: l, ?_, ?_⟩
    · rw [eq, ← List.cons_append, moved_append]
      rfl
    · rwa [moved_append] at moved_above
  · by_cases whole : source = first :: d
    · -- the entry itself moves: it comes to stand in the goal's directory
      refine ⟨name, l, ?_, ?_⟩
      · have lands := moved_append source (name :: l) []
        rw [List.nil_append, List.nil_append] at lands
        rw [eq, ← whole, lands]
      · have stays := node?_relocate movable (List.cons_ne_nil name l) free not_itself
        rwa [still, directory] at stays
    · refine ⟨first, d, ?_, ?_⟩
      · rw [eq, moved_of_not_suffix]
        rw [List.suffix_cons_iff]
        exact not_or.2 ⟨whole, below⟩
      · rwa [moved_of_not_suffix _ below] at moved_above

end FileSystem

end GrammarQueries
