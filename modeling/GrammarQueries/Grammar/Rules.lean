/-
# GrammarQueries.Grammar.Rules -- how nodes are made of children

The rules of a grammar say of each symbol what its children can be.  A rule is
written with sequences, choices and repetitions (`Rule`) and read as
productions (`Rules.ofDefinitions`): a choice becomes several productions, and a
repetition becomes a hidden symbol of its own that is twice itself or once what
is repeated.  Hidden symbols have no nodes, so their children count as those of
the node around them.
-/

namespace GrammarQueries

set_option autoImplicit false

abbrev SymbolId := Nat

/-- The number of a field; the first field has number 1. -/
abbrev FieldId := Nat

/-! ## Productions -/

/-- A symbol in a production, with the name it goes by there and its field. -/
structure Part where
  symbol : SymbolId
  alias? : Option SymbolId
  field? : Option FieldId
  deriving DecidableEq, Repr

/-- One way to make a symbol of parts.  The number tells productions apart. -/
structure Production where
  number : Nat
  symbol : SymbolId
  parts : List Part
  deriving DecidableEq, Repr

structure Making where
  productions : List Production
  /-- A hidden symbol has no node of its own. -/
  hidden : Bool
  /-- A hidden symbol that nothing tells apart from the one symbol it may stand for. -/
  transparent : Bool
  deriving DecidableEq, Repr

/-- How the symbols of a grammar are made, each at the place of its number.  Tokens are made of
nothing and have no productions. -/
structure Rules where
  makings : Array Making
  /-- Symbols that can stand between any two others. -/
  extras : List SymbolId
  deriving DecidableEq, Repr

namespace Rules

def productionsOf (r : Rules) (symbol : SymbolId) : List Production :=
  match r.makings[symbol]? with
  | some m => m.productions
  | none => []

def isMade (r : Rules) (symbol : SymbolId) : Bool := !(r.productionsOf symbol).isEmpty

/-- Whether a symbol is made of parts and has no node. -/
def isHidden (r : Rules) (symbol : SymbolId) : Bool :=
  match r.makings[symbol]? with
  | some m => m.hidden
  | none => false

def isTransparent (r : Rules) (symbol : SymbolId) : Bool :=
  match r.makings[symbol]? with
  | some m => m.transparent
  | none => false

/-- The symbols that go by `name` in some production. -/
def calledSo (r : Rules) (name : SymbolId) : List SymbolId :=
  r.makings.toList.flatMap fun m => m.productions.flatMap fun p =>
    (p.parts.filter fun part => part.alias? = some name).map Part.symbol

end Rules

/-! ## Rules as they are written -/

inductive Rule where
  | symbol (id : SymbolId)
  | blank
  | both (first second : Rule)
  | either (first second : Rule)
  /-- Once or more often. -/
  | repeated (rule : Rule)
  | field (id : FieldId) (rule : Rule)
  /-- The rule's symbol goes by another name. -/
  | called (name : SymbolId) (rule : Rule)
  deriving Repr

namespace Rule

def sequence : List Rule → Rule
  | [] => .blank
  | [r] => r
  | r :: rs => .both r (sequence rs)

def choice : List Rule → Rule
  | [] => .blank
  | [r] => r
  | r :: rs => .either r (choice rs)

def optional (r : Rule) : Rule := .either r .blank

def many (r : Rule) : Rule := optional (.repeated r)

/-- The hidden symbols made for repetitions, each with its sequences of parts; the symbol with
the number `first` is the first of them.  What is repeated twice alike has one symbol. -/
structure Repetitions where
  first : SymbolId
  made : List (List (List Part))

def Repetitions.next (s : Repetitions) : SymbolId := s.first + s.made.length

/-- Twice a hidden symbol, or once what is repeated. -/
def repetition (id : SymbolId) (once : List (List Part)) : List (List Part) :=
  [⟨id, none, none⟩, ⟨id, none, none⟩] :: once

/-- The sequences of parts that a rule allows, under a name and a field given from outside. -/
def sequences (alias? : Option SymbolId) (field? : Option FieldId) :
    Rule → StateM Repetitions (List (List Part))
  | .symbol id => pure [[⟨id, alias?, field?⟩]]
  | .blank => pure [[]]
  | .both first second => do
    let xs ← first.sequences alias? field?
    let ys ← second.sequences alias? field?
    return xs.flatMap fun x => ys.map (x ++ ·)
  | .either first second => do
    return (← first.sequences alias? field?) ++ (← second.sequences alias? field?)
  | .repeated rule => do
    let once ← rule.sequences none none
    let s ← get
    match s.made.findIdx? fun sequences => sequences.tail == once with
    | some i => return [[⟨s.first + i, alias?, field?⟩]]
    | none =>
      set { s with made := s.made ++ [repetition s.next once] }
      return [[⟨s.next, alias?, field?⟩]]
  | .field id rule => rule.sequences alias? (some id)
  | .called name rule => rule.sequences (some name) field?

/-- The sequences of parts of a symbol.  A hidden symbol that is a repetition is its own
repetition symbol. -/
def sequencesOf (symbol : SymbolId) (hidden : Bool) (r : Rule) :
    StateM Repetitions (List (List Part)) :=
  match hidden, r with
  | true, .repeated rule => do return repetition symbol (← rule.sequences none none)
  | _, r => r.sequences none none

end Rule

structure Definition where
  symbol : SymbolId
  hidden : Bool
  rule : Rule

namespace Rules

/-- The symbols with the sequences of parts that definitions allow, repetitions last; `first`
is a number above those of all symbols. -/
def expanded (first : SymbolId) (definitions : List Definition) :
    List (SymbolId × List (List Part)) :=
  let expand : StateM Rule.Repetitions (List (SymbolId × List (List Part))) :=
    definitions.mapM fun d => do return (d.symbol, ← Rule.sequencesOf d.symbol d.hidden d.rule)
  let (named, s) := expand.run ⟨first, []⟩
  named ++ s.made.mapIdx fun i made => (first + i, made)

def numbered (made : List (SymbolId × List (List Part))) : List Production :=
  (made.flatMap fun m => m.2.map fun parts => (m.1, parts)).mapIdx fun i m => ⟨i, m.1, m.2⟩

/-- The rules that definitions make up; `first` is a number above those of all symbols.  Of
hidden symbols those are transparent that are no supertypes and have one name only. -/
def ofDefinitions (first : SymbolId) (extras supertypes : List SymbolId)
    (definitions : List Definition) : Rules :=
  let made := expanded first definitions
  let productions := numbered made
  let renamed := productions.flatMap fun p =>
    (p.parts.filter fun part => part.alias?.isSome).map Part.symbol
  let hidden := (definitions.filter Definition.hidden).map Definition.symbol ++
    (made.map Prod.fst).filter (first ≤ ·)
  let unmade : Array Making := (Array.range (first + made.length)).map fun id =>
    let isHidden := hidden.contains id
    ⟨[], isHidden, isHidden && !supertypes.contains id && !renamed.contains id⟩
  let makings := productions.reverse.foldl (fun table p =>
    table.modify p.symbol fun m => { m with productions := p :: m.productions }) unmade
  ⟨makings, extras⟩

end Rules

end GrammarQueries
