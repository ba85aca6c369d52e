/-
# GrammarQueries.FileSystem.Route -- where a path leads

A path is read as a list of steps (`Path.steps`) and the steps are taken one
by one (`FileSystem.follow`).  A step can be taken only in a directory.  A step
down onto a link continues with the steps of the link's path, from the root or
from the directory the link stands in, and then with what was left; at most
forty links are followed on one route.  Because what is left is simply
appended, taking `xs ++ ys` is taking `xs` and then `ys` from where it led
(`follow_append`).

An empty piece of a path is a step that stays: so `a//b` is `a/b`, and `f/`
asks that `f` be a directory.
-/
import GrammarQueries.FileSystem.Basic

namespace GrammarQueries

set_option autoImplicit false

/-! ## Steps -/

inductive RouteStep where
  | here
  | up
  | down (name : Name)
  /-- A step down that no directory can offer: the piece is too long for a name. -/
  | overlong
  deriving DecidableEq

def RouteStep.ofChunk (chunk : List UInt8) : RouteStep :=
  if chunk = [] ∨ chunk = [dot] then .here
  else if chunk = [dot, dot] then .up
  else if h : isName chunk = true then .down ⟨chunk, h⟩
  else .overlong

/-- The steps of a path, from the root or from the directory it is relative to. -/
def Path.steps (p : Path) : List RouteStep := (chunks p.bytes).map RouteStep.ofChunk

/-- Where the steps of a path begin when it is met in `directory`. -/
def Path.origin (p : Path) (directory : Location) : Location :=
  if p.isAbsolute then [] else directory

namespace FileSystem

/-! ## Taking steps -/

/-- How far a route leads. -/
inductive Arrival where
  /-- All steps are taken; `links` more links could be followed. -/
  | reached (location : Location) (links : Nat)
  /-- A step down found nothing at `location`; `rest` was still to be taken. -/
  | absent (location : Location) (rest : List RouteStep)
  | failed (error : FileError)
  deriving DecidableEq

def mostLinks : Nat := 40

/-- Takes steps from a directory, following at most `links` links. -/
def follow (fs : FileSystem) (links : Nat) (location : Location) :
    List RouteStep → Arrival
  | [] => .reached location links
  | step :: rest =>
    match fs.node? location with
    -- only a place to begin at can be gone: the working directory may have been removed
    | none => .failed .notFound
    | some (.object .directory) =>
      match step with
      | .here => fs.follow links location rest
      | .up => fs.follow links location.tail rest
      | .overlong => .failed .nameTooLong
      | .down name =>
        match fs.node? (name :: location) with
        | none => .absent (name :: location) rest
        | some (.object _) => fs.follow links (name :: location) rest
        | some (.link target) =>
          match links with
          | 0 => .failed .tooManyLinks
          | left + 1 => fs.follow left (target.origin location) (target.steps ++ rest)
    | some _ => .failed .notADirectory
termination_by steps => (links, steps.length)

def Arrival.andThen (fs : FileSystem) (a : Arrival) (more : List RouteStep) : Arrival :=
  match a with
  | .reached location links => fs.follow links location more
  | .absent location rest => .absent location (rest ++ more)
  | .failed e => .failed e

@[simp] theorem follow_nil (fs : FileSystem) (links : Nat) (location : Location) :
    fs.follow links location [] = .reached location links := by
  rw [follow]

/-- The rule for one step, as an equation. -/
theorem follow_cons (fs : FileSystem) (links : Nat) (location : Location) (step : RouteStep)
    (rest : List RouteStep) :
    fs.follow links location (step :: rest) =
      match fs.node? location with
      | none => .failed .notFound
      | some (.object .directory) =>
        match step with
        | .here => fs.follow links location rest
        | .up => fs.follow links location.tail rest
        | .overlong => .failed .nameTooLong
        | .down name =>
          match fs.node? (name :: location) with
          | none => .absent (name :: location) rest
          | some (.object _) => fs.follow links (name :: location) rest
          | some (.link target) =>
            match links with
            | 0 => .failed .tooManyLinks
            | left + 1 => fs.follow left (target.origin location) (target.steps ++ rest)
      | some _ => .failed .notADirectory := by
  rw [follow.eq_def]

/-- Steps in a row are taken one part after the other. -/
theorem follow_append (fs : FileSystem) (links : Nat) (location : Location)
    (xs ys : List RouteStep) :
    fs.follow links location (xs ++ ys) = (fs.follow links location xs).andThen fs ys := by
  fun_induction follow fs links location xs with
  | case1 => rfl
  | case2 links location step rest h => simp [follow_cons, h, Arrival.andThen]
  | case3 links location rest h ih => simp only [List.cons_append, follow_cons, h, ih]
  | case4 links location rest h ih => simp only [List.cons_append, follow_cons, h, ih]
  | case5 links location rest h => simp [follow_cons, h, Arrival.andThen]
  | case6 links location rest h name hn => simp [follow_cons, h, hn, Arrival.andThen]
  | case7 links location rest h name o hn ih =>
    simp only [List.cons_append, follow_cons, h, hn, ih]
  | case8 location rest h name target hn => simp [follow_cons, h, hn, Arrival.andThen]
  | case9 location rest h name target hn left ih =>
    rw [List.append_assoc] at ih
    simp only [List.cons_append, follow_cons, h, hn, ih]
  | case10 links location step rest n hd h =>
    rw [List.cons_append, follow_cons, h]
    cases n with
    | link t => simp [Arrival.andThen]
    | object o => cases o <;> simp_all [Arrival.andThen]

/-! ## Whole paths -/

/-- Takes the route of a path.  The empty path leads nowhere. -/
def arrive (fs : FileSystem) (p : Path) : Arrival :=
  if (0 : UInt8) ∈ p.bytes then .failed .zeroByte
  else if p.bytes = [] then .failed .notFound
  else fs.follow mostLinks (p.origin fs.workingDirectory) p.steps

/-- What a location holds when it holds no link. -/
def object? (fs : FileSystem) (location : Location) : Option Object :=
  match fs.node? location with
  | some (.object o) => some o
  | _ => none

/-- The location and the object a path names, all links followed. -/
def resolve (fs : FileSystem) (p : Path) : Except FileError (Location × Object) :=
  match fs.arrive p with
  | .reached location _ =>
    match fs.object? location with
    | some o => .ok (location, o)
    | none => .error .notFound
  | .absent _ _ => .error .notFound
  | .failed e => .error e

theorem object?_eq_some {fs : FileSystem} {location : Location} {o : Object} :
    fs.object? location = some o ↔ fs.node? location = some (.object o) := by
  unfold object?
  split <;> simp_all

/-- A resolved path names what stands at its location. -/
theorem node?_of_resolve {fs : FileSystem} {p : Path} {location : Location} {o : Object}
    (h : fs.resolve p = .ok (location, o)) : fs.node? location = some (.object o) := by
  unfold resolve at h
  split at h
  · split at h
    · next ho =>
      injection h with h
      obtain ⟨rfl, rfl⟩ := Prod.mk.inj h
      exact object?_eq_some.1 ho
    · cases h
  · cases h
  · cases h

def list (fs : FileSystem) (p : Path) : Except FileError (List Name) :=
  match fs.resolve p with
  | .ok (location, .directory) => .ok (fs.names location)
  | .ok _ => .error .notADirectory
  | .error e => .error e

def read (fs : FileSystem) (p : Path) : Except FileError (List UInt8) :=
  match fs.resolve p with
  | .ok (_, .file content) => .ok content
  | .ok (_, .directory) => .error .isADirectory
  | .ok (_, .socket) => .error .noSuchDevice
  | .error e => .error e

def isDirectory (fs : FileSystem) (p : Path) : Bool :=
  match fs.resolve p with
  | .ok (_, .directory) => true
  | _ => false

end FileSystem

end GrammarQueries
