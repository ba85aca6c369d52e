/-
# GrammarQueries.Grammar.Basic -- the tables of a grammar

A grammar numbers its symbols from 0 and its fields from 1.  `kindId` and
`fieldNumber` are the engine's own lookups, where the number 0 stands for
absence: symbol 0 is the end of the input and is never asked for by name.  The
lookups `symbolName?`, `symbolId?`, `fieldName?` and `fieldId?` answer with
absence proper and refuse every number outside the table; in particular the
symbol of syntax errors, which is built into the engine, is reported as absent.
-/
import GrammarQueries.Grammar.Automaton

namespace GrammarQueries

set_option autoImplicit false

structure Symbol where
  name : String
  visible : Bool
  named : Bool
  supertype : Bool
  /-- The number under which the symbol is known outside; several symbols can share one. -/
  publicId : SymbolId
  deriving DecidableEq, Repr

/-- A grammar: its interface version and its tables. -/
structure Grammar where
  abiVersion : Nat
  symbols : List Symbol
  fields : List String
  subtypes : List (SymbolId × List SymbolId)
  /-- How nodes are read; absent for a grammar that has only tables. -/
  automaton? : Option Automaton
  deriving DecidableEq, Repr

/-! ## Interface versions -/

def newestAbi : Nat := 15

def oldestAbi : Nat := 13

/-- The interface version from which the subtypes of a supertype are listed. -/
def subtypesAbi : Nat := 15

namespace Grammar

def isCompatible (g : Grammar) : Bool := oldestAbi ≤ g.abiVersion && g.abiVersion ≤ newestAbi

/-! ## Symbols -/

def symbolCount (g : Grammar) : Nat := g.symbols.length

/-- The number of the symbol of syntax errors, which is in no table. -/
def errorSymbol : SymbolId := 65535

def errorName : String := "ERROR"

def answersTo (s : Symbol) (name : String) (named : Bool) : Bool :=
  (s.visible || s.supertype) && s.named == named && s.name == name

/-- The number of the kind of node called `name`, and 0 if there is none.  Every
beginning of the error symbol's name, the empty one included, stands for it. -/
def kindId (g : Grammar) (name : String) (named : Bool) : SymbolId :=
  if named && name.toList.isPrefixOf errorName.toList then errorSymbol
  else
    match g.symbols.find? (answersTo · name named) with
    | some s => s.publicId
    | none => 0

def isSupertype (g : Grammar) (id : SymbolId) : Bool :=
  match g.symbols[id]? with
  | some s => s.supertype
  | none => false

def subtypesOf (g : Grammar) (id : SymbolId) : List SymbolId :=
  match g.subtypes.lookup id with
  | some ids => ids
  | none => []

def symbolName? (g : Grammar) (id : SymbolId) : Option String :=
  if g.symbolCount ≤ id then none else g.symbols[id]?.map Symbol.name

/-- The name of the symbol that ends the input, the one symbol with number 0 that is asked for. -/
def endName : String := "end"

/-- The number of the symbol called `name`, if it is in the table. -/
def symbolId? (g : Grammar) (name : String) (named : Bool) : Option SymbolId :=
  let id := g.kindId name named
  -- 0 is the engine's absence, and also the number of the symbol that ends the input
  if id = 0 ∧ name ≠ endName then none
  else if g.symbolCount ≤ id then none
  else some id

/-! ## Fields -/

def fieldCount (g : Grammar) : Nat := g.fields.length

/-- The number of the first field called `name`, and 0 if there is none. -/
def fieldNumber (g : Grammar) (name : String) : FieldId :=
  match g.fields.findIdx? (· == name) with
  | some i => i + 1
  | none => 0

def fieldName? (g : Grammar) (id : FieldId) : Option String :=
  if id = 0 ∨ g.fieldCount < id then none else g.fields[id - 1]?

def fieldId? (g : Grammar) (name : String) : Option FieldId :=
  match g.fieldNumber name with
  | 0 => none
  | id => some id

end Grammar

end GrammarQueries
