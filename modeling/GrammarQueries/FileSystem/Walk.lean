/-
# GrammarQueries.FileSystem.Walk -- going through a tree, links and all

A walk goes through a directory in listing order, depth first, and into links
to directories as into directories.  What it makes of one listed name is a
`Finding`: a bad link, a link back to a directory the walk already stands in, a
hidden name, a file, a directory to enter, or nothing of interest.  Links are
resolved by their whole spelled path, and a bad one is bad even if its name is
hidden.

`outcomes` is the complete walk as a list of what it meets.

The walk ends although it can enter a directory more than once: a link is
entered only if it leads to a directory that is not on the branch (`Branch`),
so it makes the number of directories off the branch smaller, and a real
directory makes the location longer, which the height of the tree bounds
(`offBranch_enter_lt`, `offBranch_enter_le`, `enter_decreases`).
-/
import GrammarQueries.FileSystem.Route

namespace GrammarQueries

set_option autoImplicit false

namespace FileSystem

/-! ## Where a walk stands -/

/-- A directory on the walk: how it is spelled and where it is. -/
structure Stand where
  path : Path
  location : Location
  deriving DecidableEq

/-- The directories from the current one up to the start of the walk. -/
structure Branch where
  here : Stand
  above : List Stand

namespace Branch

/-- All directories of a branch, the current one first. -/
def stands (b : Branch) : List Stand := b.here :: b.above

def enter (b : Branch) (s : Stand) : Branch := ⟨s, b.stands⟩

/-- The innermost directory of the branch at a location. -/
def standing? (b : Branch) (location : Location) : Option Stand :=
  b.stands.find? (fun s => decide (s.location = location))

def pathOf (b : Branch) (name : Name) : Path := b.here.path.child name.bytes

end Branch

/-! ## One listed name -/

/-- Why an entry is passed over. -/
inductive Problem where
  /-- The path cannot be followed or listed. -/
  | unreadable (path : Path) (error : FileError)
  /-- The link leads to a directory the walk stands in. -/
  | loop (link ancestor : Path)
  deriving DecidableEq

def Problem.message : Problem → String
  | .unreadable path error => "IO error for operation on " ++ path.display ++ ": " ++ error.message
  | .loop link ancestor =>
    "File system loop found: " ++ link.display ++ " points to an ancestor " ++ ancestor.display

inductive Finding where
  | problem (p : Problem)
  | hidden
  | file
  | directory (location : Location)
  | other
  deriving DecidableEq

/-- An entry that can be followed, under a name that may be hidden. -/
def found (name : Name) (o : Object) (location : Location) : Finding :=
  if name.isHidden then .hidden
  else
    match o with
    | .directory => .directory location
    | .file _ => .file
    | .socket => .other

/-- What a walk on branch `b` makes of a name listed in its current directory. -/
def examine (fs : FileSystem) (b : Branch) (name : Name) : Finding :=
  match fs.node? (name :: b.here.location) with
  -- never met by a walk, for a directory lists only what stands in it
  | none => .other
  | some (.object o) => found name o (name :: b.here.location)
  | some (.link _) =>
    match fs.resolve (b.pathOf name) with
    | .error e => .problem (.unreadable (b.pathOf name) e)
    | .ok (location, .directory) =>
      match b.standing? location with
      | some ancestor => .problem (.loop (b.pathOf name) ancestor.path)
      | none => found name .directory location
    | .ok (location, o) => found name o location

/-! ## The measure of a walk -/

def offBranch (fs : FileSystem) (b : Branch) : Nat :=
  fs.directories.countP (fun d => decide (d ∉ b.stands.map Stand.location))

/-- A member on which only the wider test holds makes its count larger. -/
theorem countP_lt_countP {α : Type} {p q : α → Bool} (h : ∀ x, p x = true → q x = true)
    {a : α} {xs : List α} (hm : a ∈ xs) (hp : p a = false) (hq : q a = true) :
    xs.countP p < xs.countP q := by
  induction xs with
  | nil => cases hm
  | cons x xs ih =>
    have mono : xs.countP p ≤ xs.countP q := List.countP_mono_left fun x _ => h x
    rw [List.countP_cons, List.countP_cons]
    rcases List.mem_cons.1 hm with rfl | hm
    · simp only [hp, hq, if_true]
      simpa using Nat.lt_succ_of_le mono
    · have lt := ih hm
      cases hx : p x
      · cases q x <;> simp <;> omega
      · simp [h x hx]; omega

theorem offBranch_enter_le (fs : FileSystem) (b : Branch) (s : Stand) :
    fs.offBranch (b.enter s) ≤ fs.offBranch b := by
  refine List.countP_mono_left fun d _ => ?_
  simp [Branch.enter, Branch.stands]

/-- Entering a directory that was off the branch leaves fewer of them. -/
theorem offBranch_enter_lt {fs : FileSystem} {b : Branch} {s : Stand}
    (hd : s.location ∈ fs.directories) (hb : s.location ∉ b.stands.map Stand.location) :
    fs.offBranch (b.enter s) < fs.offBranch b := by
  refine countP_lt_countP ?_ hd ?_ ?_
  · intro d
    simp [Branch.enter, Branch.stands]
  · simp [Branch.enter, Branch.stands]
  · simpa using hb

theorem standing?_eq_none {b : Branch} {location : Location} (h : b.standing? location = none) :
    location ∉ b.stands.map Stand.location := by
  rw [Branch.standing?, List.find?_eq_none] at h
  intro hm
  obtain ⟨s, hs, rfl⟩ := List.mem_map.1 hm
  exact h s hs (by simp)

/-- A directory is entered under its own name, or through a link and then off
the branch. -/
theorem examine_eq_directory {fs : FileSystem} {b : Branch} {name : Name} {location : Location}
    (h : fs.examine b name = .directory location) :
    fs.node? location = some (.object .directory) ∧
      (location = name :: b.here.location ∨ location ∉ b.stands.map Stand.location) := by
  have of_found : ∀ {o : Object} {l : Location},
      found name o l = .directory location → o = .directory ∧ l = location := by
    intro o l hf
    unfold found at hf
    split at hf
    · cases hf
    · cases o <;> simp_all
  unfold examine at h
  split at h
  · cases h
  · next o hn =>
    obtain ⟨rfl, rfl⟩ := of_found h
    exact ⟨hn, .inl rfl⟩
  · split at h
    · cases h
    · next l hr =>
      split at h
      · cases h
      · next hs =>
        obtain ⟨_, rfl⟩ := of_found h
        exact ⟨node?_of_resolve hr, .inr (standing?_eq_none hs)⟩
    · next l o hne hr =>
      obtain ⟨rfl, rfl⟩ := of_found h
      exact (hne rfl).elim

/-- How far below the tree's height the current directory is. -/
def room (fs : FileSystem) (b : Branch) : Nat := fs.height - b.here.location.length

/-- Entering a directory makes the measure of the walk smaller. -/
theorem enter_decreases {fs : FileSystem} {b : Branch} {name : Name} {location : Location}
    (h : fs.examine b name = .directory location) :
    Prod.Lex (· < ·) (· < ·)
      (fs.offBranch (b.enter ⟨b.pathOf name, location⟩),
        fs.room (b.enter ⟨b.pathOf name, location⟩))
      (fs.offBranch b, fs.room b) := by
  obtain ⟨hn, hl⟩ := examine_eq_directory h
  rcases hl with rfl | hl
  · have le := fs.offBranch_enter_le b ⟨b.pathOf name, name :: b.here.location⟩
    have hh := length_le_height hn
    rcases Nat.lt_or_eq_of_le le with lt | eq
    · exact .left _ _ lt
    · rw [eq]
      refine .right _ ?_
      simp only [room, Branch.enter, List.length_cons] at hh ⊢
      omega
  · exact .left _ _ (offBranch_enter_lt (mem_directories hn) hl)

/-! ## The complete walk -/

/-- What a walk meets: a problem, or an entry that is a file or not. -/
inductive Outcome where
  | problem (p : Problem)
  | entry (path : Path) (name : Name) (isFile : Bool)
  deriving DecidableEq

/-- All outcomes among the given names of the current directory and below, in
the order of the walk. -/
def outcomesAmong (fs : FileSystem) (b : Branch) : List Name → List Outcome
  | [] => []
  | name :: rest =>
    match _ : fs.examine b name with
    | .problem p => .problem p :: fs.outcomesAmong b rest
    | .hidden => fs.outcomesAmong b rest
    | .file => .entry (b.pathOf name) name true :: fs.outcomesAmong b rest
    | .other => .entry (b.pathOf name) name false :: fs.outcomesAmong b rest
    | .directory location =>
      .entry (b.pathOf name) name false ::
        (fs.outcomesAmong (b.enter ⟨b.pathOf name, location⟩) (fs.names location) ++
          fs.outcomesAmong b rest)
termination_by names => ((fs.offBranch b, fs.room b), names.length)
decreasing_by
  all_goals first
    | exact .right _ (Nat.lt_succ_self _)
    | exact .left _ _ (enter_decreases (by assumption))

/-- All outcomes of a walk from the directory a path names.  A start that cannot be
followed is a problem; one that is no directory has nothing in it. -/
def outcomes (fs : FileSystem) (start : Path) : List Outcome :=
  match fs.resolve start with
  | .error e => [.problem (.unreadable start e)]
  | .ok (location, .directory) => fs.outcomesAmong ⟨⟨start, location⟩, []⟩ (fs.names location)
  | .ok _ => []

end FileSystem

end GrammarQueries
