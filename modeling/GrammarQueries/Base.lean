/-
# GrammarQueries.Base -- where bundles are, and finding one by its name

A bundle is a directory directly under a base directory, and its name contains
the logical name it is asked for by, since build tools decorate names.  The base
is given, or it is the directory of the running executable; a detected base is
the directory above it when the executable is a test binary, which stands in a
directory called `deps`.

`Base.bundle?` gives the first entry that qualifies.  Hidden directories and
links to directories qualify; names that are not text never do.
-/
import GrammarQueries.Event
import GrammarQueries.World

namespace GrammarQueries

set_option autoImplicit false

/-- Where the search for bundles begins. -/
inductive Base where
  | given (path : Path)
  /-- The directory of the running executable. -/
  | beside
  /-- The directory of the running executable, or the one above it for a test binary. -/
  | detected
  deriving DecidableEq

namespace Base

/-- The base without any choice made. -/
def standard : Base := .detected

/-- The base that a value of the variable asks for; an empty value asks for nothing. -/
def ofVariable : Option Path → Base
  | none => .detected
  | some path => if path.bytes = [] then .detected else .given path

/-- Bases are the same when they are of one sort and given paths have the same components. -/
def same : Base → Base → Bool
  | .given p, .given q => p.sameComponents q
  | .beside, .beside => true
  | .detected, .detected => true
  | _, _ => false

def quoted : Base → String
  | .given path => "Explicit(" ++ path.quoted ++ ")"
  | .beside => "Executable"
  | .detected => "Detect"

def quotedLocator (b : Base) : String := "BundleLocator \x7b root: " ++ b.quoted ++ " \x7d"

/-! ## The directory of a base -/

def harnessName : List UInt8 := Utf8.encode "deps".toList

def executableDirectory (w : World) : Logged (Option Path) :=
  match w.executable with
  | .ok path => pure path.parent?
  | .error e => do
    Logged.report (.executableUnknown e)
    pure none

/-- The directory where bundles stand for an executable in `directory`. -/
def detect (directory : Path) : Logged Path :=
  if directory.fileName? = some harnessName then
    match directory.parent? with
    | some above => do
      Logged.report (.underTestHarness above)
      pure above
    | none => pure directory
  else pure directory

def directory (w : World) : Base → Logged (Option Path)
  | .given path => pure (some path)
  | .beside => executableDirectory w
  | .detected => do
    match ← executableDirectory w with
    | some d => some <$> detect d
    | none => pure none

/-! ## Bundles -/

/-- Whether `part` occurs in `whole`, as consecutive characters. -/
def occursIn (part : List Char) : List Char → Bool
  | [] => part.isEmpty
  | c :: cs => part.isPrefixOf (c :: cs) || occursIn part cs

/-- Whether a name listed under `root` is that of a bundle asked for as `bundle`. -/
def isBundle (fs : FileSystem) (root : Path) (bundle : String) (name : Name) : Bool :=
  fs.isDirectory (root.child name.bytes) &&
    match Utf8.decode name.bytes with
    | .ok cs => occursIn bundle.toList cs
    | .error _ => false

/-- The bundle in a directory, the first one listed. -/
def bundleIn? (fs : FileSystem) (root : Path) (bundle : String) : Logged (Option Path) :=
  match fs.list root with
  | .error e => do
    Logged.report (.baseUnreadable root bundle e)
    pure none
  | .ok names =>
    match names.find? (isBundle fs root bundle) with
    | some name => do
      Logged.report (.bundleFound bundle (root.child name.bytes))
      pure (some (root.child name.bytes))
    | none => do
      Logged.report (.bundleMissing bundle root)
      pure none

def bundle? (w : World) (b : Base) (bundle : String) : Logged (Option Path) := do
  match ← b.directory w with
  | some root => bundleIn? w.files root bundle
  | none => pure none

end Base

end GrammarQueries
