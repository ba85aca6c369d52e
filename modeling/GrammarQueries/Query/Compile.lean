/-
# GrammarQueries.Query.Compile -- a query from its text

`compile` reads the patterns of a text against a grammar, asks whether each can
occur in a tree, and settles the predicates, in this order; the first fault
ends it.  A grammar whose interface version is out of range fails before
anything is read, so the kind `incompatible` says nothing about the text.

An error gives the place in bytes and as row and column.  Faults of predicates
are placed at the row of their pattern only.
-/
import GrammarQueries.Query.Position
import GrammarQueries.Query.Predicate

namespace GrammarQueries.Query

set_option autoImplicit false

/-! ## Errors -/

inductive ErrorKind where
  | malformed
  | unknownNode
  | unknownField
  | unknownCapture
  | badPredicate
  /-- No tree has the shape of the pattern. -/
  | impossible
  /-- The grammar's interface version is out of range. -/
  | incompatible
  deriving DecidableEq, Repr

structure Error where
  kind : ErrorKind
  row : Nat
  column : Nat
  offset : Nat
  message : String
  deriving DecidableEq, Repr

def FaultKind.errorKind : FaultKind → ErrorKind
  | .malformed => .malformed
  | .unknownNode => .unknownNode
  | .unknownField => .unknownField
  | .unknownCapture => .unknownCapture
  | .impossible => .impossible

def ErrorKind.introduction : ErrorKind → String
  | .malformed => "Invalid syntax:\n"
  | .unknownNode => "Invalid node type "
  | .unknownField => "Invalid field name "
  | .unknownCapture => "Invalid capture name "
  | .badPredicate => "Invalid predicate: "
  | .impossible => "Impossible pattern:\n"
  | .incompatible => ""

/-- The text of an error; rows and columns are counted from 1 in it. -/
def Error.display (e : Error) : String :=
  match e.kind with
  | .incompatible => e.message
  | kind => s!"Query error at {e.row + 1}:{e.column + 1}. " ++ kind.introduction ++ e.message

/-- What a fault blames: the name at its place, or the line. -/
def Fault.message {source : List Char} (f : Fault source) (p : Position) : String :=
  match f.kind with
  | .unknownNode | .unknownField | .unknownCapture => f.place.blamedName
  | .malformed | .impossible => p.marked

def Fault.error {source : List Char} (f : Fault source) : Error :=
  let p := position source f.place.offset
  ⟨f.kind.errorKind, p.row, p.column, f.place.offset, f.message p⟩

def PredicateFault.error {source : List Char} (f : PredicateFault) (start : Cursor source) :
    Error :=
  ⟨.badPredicate, start.passed.count '\n', 0, 0, f.message⟩

def incompatibleError (abiVersion : Nat) : Error :=
  ⟨.incompatible, 0, 0, 0,
    s!"Incompatible language version {abiVersion}. " ++
      s!"Expected minimum {oldestAbi}, maximum {newestAbi}"⟩

end GrammarQueries.Query

namespace GrammarQueries

set_option autoImplicit false

/-! ## Queries -/

/-- A pattern of a compiled query: where it stands in its text, and its conditions. -/
structure QueryPattern where
  start : Nat
  stop : Nat
  conditions : Query.Conditions
  deriving DecidableEq, Repr

/-- A compiled query: the capture names in the order of their numbers, and the patterns. -/
structure Query where
  captures : List String
  patterns : List QueryPattern
  deriving DecidableEq, Repr

namespace Query

def firstImpossible? {source : List Char} (g : Grammar) (ps : List (TopPattern source)) :
    Option (Cursor source) :=
  ps.findSome? fun p => (impossibleStep? g p.steps).map p.placeOf

def TopPattern.settle {source : List Char} (captures : List String) (p : TopPattern source) :
    Except Error QueryPattern :=
  match Conditions.ofPredicates captures p.predicates with
  | .ok conditions => .ok ⟨p.start.offset, p.stop.offset, conditions⟩
  | .error f => .error (f.error p.start)

/-- The query that a text is, for a grammar that can be used. -/
def compileCharacters (g : Grammar) (source : List Char) : Except Error Query :=
  match Reading.query g source with
  | .error f => .error f.error
  | .ok (captures, patterns) =>
    match firstImpossible? g patterns with
    | some place => .error (Fault.error ⟨.impossible, place⟩)
    | none => do
      let settled ← patterns.mapM (TopPattern.settle captures)
      return ⟨captures, settled⟩

end Query

/-- The query that a text is for a grammar. -/
def Grammar.compile (g : Grammar) (source : String) : Except Query.Error Query :=
  if g.abiVersion < oldestAbi ∨ newestAbi < g.abiVersion then
    .error (Query.incompatibleError g.abiVersion)
  else Query.compileCharacters g source.toList

end GrammarQueries
