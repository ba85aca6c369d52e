/-
# GrammarQueries.FileSystem.Search -- finding a file by its name

`search` goes the way of the complete walk (`FileSystem.outcomes`) but stops at
the first file of the wanted name, and keeps the problems met before it.  A
problem never ends it: one bad entry must not hide a file elsewhere.
-/
import GrammarQueries.FileSystem.Walk

namespace GrammarQueries

set_option autoImplicit false

namespace FileSystem

/-- What a search gives: the file, if one is met, and the problems met before it. -/
structure Search where
  file? : Option Path
  problems : List Problem
  deriving DecidableEq

/-- A search that has met one more problem before. -/
def Search.after (p : Problem) (s : Search) : Search := ⟨s.file?, p :: s.problems⟩

/-- Searches the given names of the current directory and below, up to the first
file called `wanted`. -/
def searchAmong (fs : FileSystem) (wanted : List UInt8) (b : Branch) : List Name → Search
  | [] => ⟨none, []⟩
  | name :: rest =>
    match _ : fs.examine b name with
    | .problem p => (fs.searchAmong wanted b rest).after p
    | .hidden => fs.searchAmong wanted b rest
    | .other => fs.searchAmong wanted b rest
    | .file =>
      if name.bytes = wanted then ⟨some (b.pathOf name), []⟩
      else fs.searchAmong wanted b rest
    | .directory location =>
      let below := fs.searchAmong wanted (b.enter ⟨b.pathOf name, location⟩) (fs.names location)
      match below.file? with
      | some p => ⟨some p, below.problems⟩
      | none =>
        let later := fs.searchAmong wanted b rest
        ⟨later.file?, below.problems ++ later.problems⟩
termination_by names => ((fs.offBranch b, fs.room b), names.length)
decreasing_by
  all_goals first
    | exact .right _ (Nat.lt_succ_self _)
    | exact .left _ _ (enter_decreases (by assumption))

/-- Searches the directory a path names for a file called `wanted`, at any depth.
The start itself is searched even if it is hidden or a link. -/
def search (fs : FileSystem) (wanted : List UInt8) (start : Path) : Search :=
  match fs.resolve start with
  | .error e => ⟨none, [.unreadable start e]⟩
  | .ok (location, .directory) =>
    fs.searchAmong wanted ⟨⟨start, location⟩, []⟩ (fs.names location)
  | .ok _ => ⟨none, []⟩

end FileSystem

end GrammarQueries
