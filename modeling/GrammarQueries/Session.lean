/-
# GrammarQueries.Session -- runs of steps on a world that changes

A session holds the world, the descriptors and sources that exist, and handles
by name.  A step changes the world, makes a handle or asks a question, and
gives an answer with the events reported on the way (`Session.step`).  A run is
its steps in order (`Session.run`).

A base is chosen when the step that names it is taken: a bundle source keeps
the base that the variable asked for when its handle was made.
-/
import Std.Data.HashSet
import GrammarQueries.FileSystem.Edit
import GrammarQueries.Handle

namespace GrammarQueries

set_option autoImplicit false

/-! ## Steps -/

inductive BaseChoice where
  | fixed (base : Base)
  /-- What the variable asks for at this moment. -/
  | environment
  deriving DecidableEq

inductive GrammarChoice where
  | named (name : String)
  /-- A new descriptor for these tables. -/
  | fresh (grammar : Grammar)
  deriving DecidableEq

inductive SourceChoice where
  | none
  | directory (path : Path)
  | bundle (name : String) (base : BaseChoice)
  | sequence (answers : List (Option Path))
  /-- The source of another handle, shared, or none if that has none. -/
  | sourceOf (handle : String)
  deriving DecidableEq

inductive Step where
  | makeDirectory (path : Path)
  | writeFile (path : Path) (content : List UInt8)
  | makeLink (target path : Path)
  | makeSocket (path : Path)
  | remove (path : Path)
  | rename (path goal : Path)
  | setVariable (value? : Option Path)
  | findFile (name : String) (directory : Path)
  | base (choice : BaseChoice)
  | showBase (choice : BaseChoice)
  | baseDirectory (choice : BaseChoice)
  | sameBase (a b : BaseChoice)
  | samePath (a b : Path)
  | locate (bundle : String) (choice : BaseChoice)
  | bundle (name : String) (choice : BaseChoice)
  | makeHandle (id : String) (grammar : GrammarChoice) (source : SourceChoice)
  | cloneHandle (source id : String)
  | sameHandle (a b : String)
  | distinctHandles (ids : List String)
  | showHandle (id : String)
  | hasSource (id : String)
  | resourceDirectory (id : String)
  | resource (id name : String)
  | queryFile (id : String) (kind : QueryFile)
  | loadPath (id : String) (path : Path)
  | loadQuery (id : String) (kind : QueryFile)
  | loadQueries (id : String)
  deriving DecidableEq

inductive Answer where
  | done
  /-- The system refused a change. -/
  | refused (error : FileError)
  | unknownName (name : String)
  | flag (b : Bool)
  /-- Whether two bases are the same, and whether the searchers on them are. -/
  | sameBases (bases locators : Bool)
  | count (n : Nat)
  | text (s : String)
  | base (b : Base)
  | path (p? : Option Path)
  | bundle (name : String) (p? : Option Path)
  | loaded (result : Except LoadFailure (Option Query))
  | loadedSet (result : Except LoadFailure QuerySet)

/-! ## Sessions -/

/-- The state between two steps. -/
structure Session where
  world : World
  /-- All descriptors made, the one at address `n` at place `n`. -/
  descriptors : List Descriptor
  named : List (String × Descriptor)
  sources : List SharedSource
  /-- The handles by name, the latest of a name first. -/
  handles : List (String × Handle)

namespace Session

def start (w : World) : Session := ⟨w, [], [], [], []⟩

def newDescriptor (s : Session) (g : Grammar) : Descriptor × Session :=
  let d : Descriptor := ⟨s.descriptors.length, g⟩
  (d, { s with descriptors := s.descriptors ++ [d] })

def name (s : Session) (name : String) (d : Descriptor) : Session :=
  { s with named := (name, d) :: s.named }

/-- A new descriptor with a name. -/
def declare (s : Session) (name : String) (g : Grammar) : Session :=
  let (d, t) := s.newDescriptor g
  t.name name d

/-- A new shared source, not asked yet. -/
def newSource (s : Session) (source : Source) : SourceId × Session :=
  (s.sources.length, { s with sources := s.sources ++ [⟨source, 0⟩] })

def chosenBase (s : Session) : BaseChoice → Base
  | .fixed b => b
  | .environment => Base.ofVariable s.world.variableValue?

def handle? (s : Session) (id : String) : Option Handle := s.handles.lookup id

/-- The descriptor a step names, or the name that has none. -/
def chosenDescriptor (s : Session) : GrammarChoice → Except String (Descriptor × Session)
  | .fresh g => .ok (s.newDescriptor g)
  | .named name =>
    match s.named.lookup name with
    | some d => .ok (d, s)
    | none => .error name

/-- The source a step names, or the name of a handle that is missing. -/
def chosenSource (s : Session) : SourceChoice → Except String (Option SourceId × Session)
  | .none => .ok (Option.none, s)
  | .directory path =>
    let (id, t) := s.newSource (.directory path)
    .ok (some id, t)
  | .bundle name base =>
    let (id, t) := s.newSource (.bundle name (s.chosenBase base))
    .ok (some id, t)
  | .sequence answers =>
    let (id, t) := s.newSource (.sequence answers)
    .ok (some id, t)
  | .sourceOf id =>
    match s.handle? id with
    | some h => .ok (h.source?, s)
    | Option.none => .error id

/-- Makes or replaces a handle. -/
def putHandle (s : Session) (id : String) (h : Handle) : Session :=
  { s with handles := (id, h) :: s.handles }

def makeHandle (s : Session) (id : String) (grammar : GrammarChoice) (source : SourceChoice) :
    Except String Session := do
  -- a missing name leaves the session as it was, also when a descriptor was to be new
  let (d, s) ← s.chosenDescriptor grammar
  let (source?, s) ← s.chosenSource source
  return s.putHandle id ⟨d, source?⟩

/-! ## Taking a step -/

/-- A change of the files, or the system's refusal. -/
def change (s : Session) (result : Except FileError FileSystem) : Logged (Answer × Session) :=
  match result with
  | .ok files => pure (.done, { s with world := { s.world with files := files } })
  | .error e => pure (.refused e, s)

/-- An answer that leaves the session as it is. -/
def tell (s : Session) (answer : Logged Answer) : Logged (Answer × Session) := do
  return (← answer, s)

def tellOf (s : Session) (id : String) (answer : Handle → Logged Answer) :
    Logged (Answer × Session) :=
  match s.handle? id with
  | some h => s.tell (answer h)
  | none => pure (.unknownName id, s)

/-- An answer that asks the sources. -/
def lookup (s : Session) (id : String) (answer : Handle → Lookup Answer) :
    Logged (Answer × Session) :=
  match s.handle? id with
  | some h => do
    let (a, sources) ← (answer h).run s.sources
    return (a, { s with sources := sources })
  | none => pure (.unknownName id, s)

def distinct (hs : List Handle) : Nat := (Std.HashSet.ofList hs).size

def step (s : Session) : Step → Logged (Answer × Session)
  | .makeDirectory path => s.change (s.world.files.makeDirectories path)
  | .writeFile path content => s.change (s.world.files.write path content)
  | .makeLink target path => s.change (s.world.files.makeLink target path)
  | .makeSocket path => s.change (s.world.files.makeSocket path)
  | .remove path => s.change (s.world.files.remove path)
  | .rename path goal => s.change (s.world.files.rename path goal)
  | .setVariable value? =>
    pure (.done, { s with world := { s.world with variableValue? := value? } })
  | .findFile name directory => s.tell (.path <$> s.world.files.findFile name directory)
  | .base choice => s.tell (pure (.base (s.chosenBase choice)))
  | .showBase choice =>
    let b := s.chosenBase choice
    s.tell (pure (.text (b.quoted ++ " " ++ b.quotedLocator)))
  | .baseDirectory choice => s.tell (.path <$> (s.chosenBase choice).directory s.world)
  | .sameBase a b =>
    -- a searcher holds nothing but its base, so both comparisons come out alike
    let same := (s.chosenBase a).same (s.chosenBase b)
    s.tell (pure (.sameBases same same))
  | .samePath a b => s.tell (pure (.flag (a.sameComponents b)))
  | .locate bundle choice => s.tell (.path <$> (s.chosenBase choice).bundle? s.world bundle)
  | .bundle name choice =>
    s.tell (.bundle name <$> (s.chosenBase choice).bundle? s.world name)
  | .makeHandle id grammar source =>
    match s.makeHandle id grammar source with
    | .ok t => pure (.done, t)
    | .error name => pure (.unknownName name, s)
  | .cloneHandle source id =>
    match s.handle? source with
    | some h => pure (.done, s.putHandle id h)
    | none => pure (.unknownName source, s)
  | .sameHandle a b => s.tellOf a fun h => match s.handle? b with
    | some k => pure (.flag (h == k))
    | none => pure (.unknownName b)
  | .distinctHandles ids =>
    match ids.find? (fun id => (s.handle? id).isNone) with
    | some id => pure (.unknownName id, s)
    | none => pure (.count (distinct (ids.filterMap s.handle?)), s)
  | .showHandle id => s.tellOf id fun h => pure (.text h.quoted)
  | .hasSource id => s.tellOf id fun h => pure (.flag h.source?.isSome)
  | .resourceDirectory id => s.lookup id fun h => .path <$> h.resourceDirectory? s.world
  | .resource id name => s.lookup id fun h => .path <$> h.resource? s.world name
  | .queryFile id kind => s.lookup id fun h => .path <$> h.queryFile? s.world kind
  | .loadPath id path => s.tellOf id fun h => do
    let loaded ← h.loadPath s.world path
    return .loaded (loaded.map some)
  | .loadQuery id kind => s.lookup id fun h => .loaded <$> h.loadQuery s.world kind
  | .loadQueries id => s.lookup id fun h => .loadedSet <$> h.loadQueries s.world

/-- Takes steps in order; gives each answer with its events, and the session after the last. -/
def run (s : Session) : List Step → List (Logged Answer) × Session
  | [] => ([], s)
  | step :: rest =>
    let taken := s.step step
    let (answers, last) := taken.value.2.run rest
    (⟨taken.value.1, taken.events⟩ :: answers, last)

end Session

end GrammarQueries
