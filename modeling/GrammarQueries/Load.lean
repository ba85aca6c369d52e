/-
# GrammarQueries.Load -- a query from a file

Loading reads the file, decodes it and compiles it, afresh each time, and the
first of the three that fails gives the failure (`loadFile`).  A failure keeps
the path as it was asked for and its cause unaltered.  Only a rejection by the
compiler is reported.
-/
import GrammarQueries.Base
import GrammarQueries.FileSystem.Route
import GrammarQueries.Query.Compile

namespace GrammarQueries

set_option autoImplicit false

/-- Why a query file gives no query. -/
inductive LoadFailure where
  | unreadable (path : Path) (error : FileError)
  | undecodable (path : Path) (fault : Utf8.Malformed)
  /-- The text is no query for the grammar. -/
  | rejected (path : Path) (error : Query.Error)
  deriving DecidableEq

namespace LoadFailure

def path : LoadFailure → Path
  | .unreadable p _ => p
  | .undecodable p _ => p
  | .rejected p _ => p

def cause : LoadFailure → String
  | .unreadable _ e => e.message
  | .undecodable _ m => m.message
  | .rejected _ e => e.display

def message (f : LoadFailure) : String :=
  match f with
  | .unreadable p _ => "failed to read query file " ++ p.display ++ ": " ++ f.cause
  | .undecodable p _ => "query file " ++ p.display ++ " is not valid UTF-8: " ++ f.cause
  | .rejected p e =>
    "failed to compile query " ++ p.display ++ s!" at {e.row + 1}:{e.column + 1}: " ++ f.cause

def isUnreadable : LoadFailure → Bool
  | .unreadable _ _ => true
  | _ => false

def isRejected : LoadFailure → Bool
  | .rejected _ _ => true
  | _ => false

def queryError? : LoadFailure → Option Query.Error
  | .rejected _ e => some e
  | _ => none

end LoadFailure

/-- Reads, decodes and compiles the query in a file. -/
def loadFile (fs : FileSystem) (g : Grammar) (path : Path) : Logged (Except LoadFailure Query) :=
  match fs.read path with
  | .error e => pure (.error (.unreadable path e))
  | .ok bytes =>
    match Utf8.decode bytes with
    | .error m => pure (.error (.undecodable path m))
    | .ok text =>
      match g.compile (String.ofList text) with
      | .ok q => pure (.ok q)
      | .error e => do
        Logged.report (.queryRejected path e.row e.column e.message)
        pure (.error (.rejected path e))

/-- The conventional queries of a grammar, each present if it is shipped. -/
structure QuerySet where
  highlights : Option Query
  injections : Option Query
  deriving DecidableEq

namespace QuerySet

def get (s : QuerySet) : QueryFile → Option Query
  | .highlights => s.highlights
  | .injections => s.injections

def isEmpty (s : QuerySet) : Bool := s.highlights.isNone && s.injections.isNone

end QuerySet

end GrammarQueries
