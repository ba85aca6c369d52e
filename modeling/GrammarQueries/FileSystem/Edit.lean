/-
# GrammarQueries.FileSystem.Edit -- changing the tree

Making directories, writing files through links, making links and sockets,
removing and renaming.  A new entry is listed last; writing an existing file
keeps its place.  `makeDirectories` makes what is missing on the way, and every
operation that makes an entry makes the directories above it first.

The running executable goes where its entry goes; when it is removed, its last
names stay what they were (`location_withdrawn`).

An operation that concerns the entry itself and not what a link leads to
(a link's own making, removal, renaming) looks at its `slot`: all steps but the
last are taken, and the last is only a name.
-/
import GrammarQueries.FileSystem.Route

namespace GrammarQueries

set_option autoImplicit false

namespace FileSystem

/-! ## Changes at a location -/

/-- A new entry, listed last. -/
def insert (fs : FileSystem) (location : Location) (n : Node) : FileSystem :=
  { fs with entries := fs.entries ++ [⟨location, n⟩] }

def replace (fs : FileSystem) (location : Location) (n : Node) : FileSystem :=
  { fs with
    entries := fs.entries.map (fun e => if e.location = location then ⟨e.location, n⟩ else e) }

/-- Where something is after the entry at `location` is removed: if it stood there
or below, its names from that entry on are gone. -/
def withdrawn (location : Location) (w : Whereabouts) : Whereabouts :=
  if location.isSuffixOf w.standing then
    let lost := w.standing.length - location.tail.length
    ⟨w.standing.drop lost, w.gone ++ w.standing.take lost⟩
  else w

theorem location_withdrawn (location : Location) (w : Whereabouts) :
    (withdrawn location w).location = w.location := by
  unfold withdrawn
  split <;> simp [Whereabouts.location]

def removeBelow (fs : FileSystem) (location : Location) : FileSystem :=
  { fs with
    entries := fs.entries.filter (fun e => !location.isSuffixOf e.location)
    executable := fs.executable.map (withdrawn location) }

/-- A location after what stands at `source` has moved to `goal`. -/
def moved (source goal location : Location) : Location :=
  if source.isSuffixOf location then
    location.take (location.length - source.length) ++ goal
  else location

def relocate (fs : FileSystem) (source goal : Location) : FileSystem :=
  { entries := fs.entries.map (fun e => ⟨moved source goal e.location, e.node⟩)
    workingDirectory := moved source goal fs.workingDirectory
    executable := fs.executable.map (fun w => ⟨moved source goal w.standing, w.gone⟩) }

/-! ## Making directories -/

/-- Takes steps and makes each directory that is missing.  What a broken link
points to is not made. -/
def makeSteps (fs : FileSystem) (links : Nat) (location : Location) :
    List RouteStep → Except FileError FileSystem
  | [] =>
    match fs.object? location with
    | some .directory => .ok fs
    | _ => .error .alreadyExists
  | step :: rest =>
    match fs.follow links location [step] with
    | .reached next left => fs.makeSteps left next rest
    | .failed e => .error e
    | .absent missing _ =>
      match step with
      | .down name =>
        if missing = name :: location then
          (fs.insert missing (.object .directory)).makeSteps links missing rest
        -- another place is missing behind a link: the broken link itself is in the way
        else .error .alreadyExists
      | _ => .error .notFound

/-- Makes a directory and the directories above it.  The empty path asks for nothing. -/
def makeDirectories (fs : FileSystem) (p : Path) : Except FileError FileSystem :=
  if (0 : UInt8) ∈ p.bytes then .error .zeroByte
  else if p.bytes = [] then .ok fs
  else fs.makeSteps mostLinks (p.origin fs.workingDirectory) p.steps

def makeParents (fs : FileSystem) (p : Path) : Except FileError FileSystem :=
  match p.parent? with
  | some parent => fs.makeDirectories parent
  | none => .ok fs

/-! ## Files -/

/-- Writes a file: the file a path names, through links, or a new one. -/
def write (fs : FileSystem) (p : Path) (content : List UInt8) : Except FileError FileSystem := do
  let fs ← fs.makeParents p
  match fs.arrive p with
  | .failed e => .error e
  | .absent location [] => .ok (fs.insert location (.object (.file content)))
  | .absent _ _ => .error .notFound
  | .reached location _ =>
    match fs.object? location with
    | some (.file _) => .ok (fs.replace location (.object (.file content)))
    | some .directory => .error .isADirectory
    | some .socket => .error .noSuchDevice
    | none => .error .notFound

/-! ## Entries themselves -/

/-- The steps of a path before its last name, and that name; separators and `.`
behind the name do not count. -/
def splitLast (steps : List RouteStep) : Option (List RouteStep × Name) :=
  match steps.reverse.dropWhile (fun s => decide (s = .here)) with
  | .down name :: above => some (above.reverse, name)
  | _ => none

/-- The location of the entry a path names, a link at its end not followed. -/
def slot (fs : FileSystem) (p : Path) : Except FileError Location :=
  if (0 : UInt8) ∈ p.bytes then .error .zeroByte
  else
    match splitLast p.steps with
    | none => .error .notFound
    | some (above, name) =>
      match fs.follow mostLinks (p.origin fs.workingDirectory) above with
      | .failed e => .error e
      | .absent _ _ => .error .notFound
      | .reached location _ =>
        match fs.object? location with
        | some .directory => .ok (name :: location)
        | _ => .error .notADirectory

/-- Puts a node where nothing stands yet. -/
def place (fs : FileSystem) (p : Path) (n : Node) : Except FileError FileSystem := do
  let fs ← fs.makeParents p
  let location ← fs.slot p
  match fs.node? location with
  | none => .ok (fs.insert location n)
  | some _ => .error .alreadyExists

/-- Makes a link that stores `target` as it is. -/
def makeLink (fs : FileSystem) (target p : Path) : Except FileError FileSystem :=
  if (0 : UInt8) ∈ target.bytes then .error .zeroByte
  else if target.bytes = [] then .error .notFound
  else fs.place p (.link target)

def makeSocket (fs : FileSystem) (p : Path) : Except FileError FileSystem :=
  fs.place p (.object .socket)

/-- Removes an entry, and what is below it when it is a directory.  A link goes
and what it leads to stays. -/
def remove (fs : FileSystem) (p : Path) : Except FileError FileSystem := do
  let location ← fs.slot p
  match fs.node? location with
  | none => .error .notFound
  | some _ => .ok (fs.removeBelow location)

/-- Whether an entry may give its place to one that moves there: a directory
only when it is empty and a directory comes, anything else only when no
directory comes. -/
def yields (fs : FileSystem) (location : Location) (standing coming : Node) :
    Except FileError Unit :=
  match standing, coming with
  | .object .directory, .object .directory =>
    if fs.names location = [] then .ok () else .error .directoryNotEmpty
  | .object .directory, _ => .error .isADirectory
  | _, .object .directory => .error .notADirectory
  | _, _ => .ok ()

/-- Moves an entry with all below it.  An entry stays where it is when it is
moved onto itself. -/
def rename (fs : FileSystem) (p goal : Path) : Except FileError FileSystem := do
  -- the way to the goal is made before it is known that there is anything to move
  let fs ← fs.makeParents goal
  let source ← fs.slot p
  let place ← fs.slot goal
  match fs.node? source with
  | none => .error .notFound
  | some coming =>
    if source = place then .ok fs
    else if source.isSuffixOf place then .error .directoryNotEmpty
    else
      match fs.node? place with
      | none => .ok (fs.relocate source place)
      | some standing => do
        fs.yields place standing coming
        .ok ((fs.removeBelow place).relocate source place)

end FileSystem

end GrammarQueries
