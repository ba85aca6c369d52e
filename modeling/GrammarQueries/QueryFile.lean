/-
# GrammarQueries.QueryFile -- the query files a grammar ships by convention

Each kind of query has one file name, and a file name belongs to at most one
kind (`ofFileName?_fileName`).
-/

namespace GrammarQueries

set_option autoImplicit false

/-- A query that is looked up by convention. -/
inductive QueryFile where
  /-- Captures for highlighting. -/
  | highlights
  /-- Rules for embedded languages. -/
  | injections
  deriving DecidableEq, Repr

namespace QueryFile

/-- Both kinds, in the order in which they are loaded. -/
def all : List QueryFile := [.highlights, .injections]

/-- What the kind is called in messages. -/
def label : QueryFile → String
  | .highlights => "highlights"
  | .injections => "injections"

def fileName (k : QueryFile) : String := k.label ++ ".scm"

def ofFileName? (name : String) : Option QueryFile :=
  all.find? (fun k => k.fileName == name)

theorem ofFileName?_fileName (k : QueryFile) : ofFileName? k.fileName = some k := by
  cases k <;> decide

end QueryFile

end GrammarQueries
