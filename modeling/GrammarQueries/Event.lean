/-
# GrammarQueries.Event -- what lookups report while they run

Absence is never an error to a caller, so the reasons for it are told here:
one constructor of `Event` for each thing that can be reported, with its level,
its text and its fields.  `Logged` carries a value together with the events
reported on the way, in order (`Logged.events_bind`).
-/
import GrammarQueries.FileSystem.Search
import GrammarQueries.QueryFile

namespace GrammarQueries

set_option autoImplicit false

inductive Level where
  | trace
  | debug
  | warn
  deriving DecidableEq, Repr

inductive FieldValue where
  | number (n : Nat)
  | text (s : String)
  deriving DecidableEq, Repr

inductive Event where
  | executableUnknown (error : FileError)
  /-- The executable stands in a directory of test binaries, so `root` is the one above. -/
  | underTestHarness (root : Path)
  | baseUnreadable (root : Path) (bundle : String) (error : FileError)
  | bundleFound (bundle : String) (path : Path)
  | bundleMissing (bundle : String) (root : Path)
  | entrySkipped (directory : Path) (problem : FileSystem.Problem)
  | queryMissing (kind : QueryFile)
  | queryRejected (path : Path) (row column : Nat) (reason : String)
  deriving DecidableEq

namespace Event

def level : Event → Level
  | .executableUnknown _ => .debug
  | .underTestHarness _ => .trace
  | .baseUnreadable _ _ _ => .debug
  | .bundleFound _ _ => .debug
  | .bundleMissing _ _ => .debug
  | .entrySkipped _ _ => .trace
  | .queryMissing _ => .debug
  | .queryRejected _ _ _ _ => .warn

def message : Event → String
  | .executableUnknown _ => "Cannot determine current executable"
  | .underTestHarness _ => "Running under test harness"
  | .baseUnreadable _ _ _ => "Cannot read bundle root"
  | .bundleFound _ _ => "Resolved resource bundle"
  | .bundleMissing _ _ => "No resource bundle found"
  | .entrySkipped _ _ => "Skipping unreadable entry"
  | .queryMissing _ => "No query file shipped"
  | .queryRejected _ _ _ _ => "Query compilation failed"

/-- The fields of an event, paths as displayed. -/
def fields : Event → List (String × FieldValue)
  | .executableUnknown error => [("error", .text error.message)]
  | .underTestHarness root => [("root", .text root.display)]
  | .baseUnreadable root bundle error =>
    [("root", .text root.display), ("bundle", .text bundle), ("error", .text error.message)]
  | .bundleFound bundle path => [("bundle", .text bundle), ("path", .text path.display)]
  | .bundleMissing bundle root => [("bundle", .text bundle), ("root", .text root.display)]
  | .entrySkipped directory problem =>
    [("dir", .text directory.display), ("error", .text problem.message)]
  | .queryMissing kind => [("query", .text kind.label)]
  | .queryRejected path row column reason =>
    [("path", .text path.display), ("row", .number row), ("column", .number column),
      ("error", .text reason)]

end Event

/-- A value and the events reported on the way to it. -/
structure Logged (α : Type) where
  value : α
  events : List Event
  deriving DecidableEq

namespace Logged

variable {α β : Type}

def report (e : Event) : Logged Unit := ⟨(), [e]⟩

instance : Monad Logged where
  pure a := ⟨a, []⟩
  bind x f := ⟨(f x.value).value, x.events ++ (f x.value).events⟩

instance : LawfulMonad Logged := LawfulMonad.mk' Logged
  (fun x => by cases x; simp [Functor.map])
  (fun _ _ => by simp [bind, pure])
  (fun _ _ _ => by simp [bind])

@[simp] theorem value_pure (a : α) : (pure a : Logged α).value = a := rfl

@[simp] theorem events_pure (a : α) : (pure a : Logged α).events = [] := rfl

@[simp] theorem value_bind (x : Logged α) (f : α → Logged β) :
    (x >>= f).value = (f x.value).value := rfl

@[simp] theorem events_bind (x : Logged α) (f : α → Logged β) :
    (x >>= f).events = x.events ++ (f x.value).events := rfl

@[simp] theorem value_map (f : α → β) (x : Logged α) : (f <$> x).value = f x.value := rfl

@[simp] theorem events_map (f : α → β) (x : Logged α) : (f <$> x).events = x.events :=
  List.append_nil _

@[simp] theorem events_report (e : Event) : (report e).events = [e] := rfl

theorem ext {x y : Logged α} (value : x.value = y.value) (events : x.events = y.events) :
    x = y := by
  cases x
  cases y
  cases value
  cases events
  rfl

end Logged

/-! ## A search that reports what it passed over -/

/-- The file called `wanted` under a directory; each entry passed over is reported. -/
def FileSystem.findFile (fs : FileSystem) (wanted : String) (directory : Path) :
    Logged (Option Path) :=
  let s := fs.search (Utf8.encode wanted.toList) directory
  ⟨s.file?, s.problems.map (Event.entrySkipped directory)⟩

end GrammarQueries
