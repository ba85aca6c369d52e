/-
# GrammarQueries.Grammar.Notation -- rules written as text

A line defines a symbol, as in `pair = key:string ':' value:_value`.  A word is
a node with that name or a hidden symbol, a quoted text is a token, and `#` with
a number is the symbol with that number.  Parts stand one after the other,
alternatives are separated by `|`, and round brackets group.  `?`, `*` and `+`
behind a part make it optional or repeat it, `a % b` is any number of `a`, but
at least one, with `b` between each two, `name:` in front of a part is its
field, and `>name` behind a part is the name it goes by.

A line whose name is not that of a symbol defines an abbreviation for the lines
below it.
-/
import GrammarQueries.Grammar.Basic

namespace GrammarQueries

set_option autoImplicit false

namespace Notation

/-! ## Signs -/

inductive Sign where
  | opening
  | closing
  | bar
  | optional
  | many
  | more
  | separated
  | field (name : String)
  | called (name : String)
  | word (name : String)
  | text (token : String)
  deriving DecidableEq

def isWordPart (c : Char) : Bool := c.isAlphanum || c = '_' || c = '#'

def ofCharacter? (c : Char) : Option Sign :=
  if c = '(' then some .opening
  else if c = ')' then some .closing
  else if c = '|' then some .bar
  else if c = '?' then some .optional
  else if c = '*' then some .many
  else if c = '+' then some .more
  else if c = '%' then some .separated
  else none

/-- The sign at the beginning of a line that does not begin with a blank, and how many
characters it takes behind the first.  A quoted text has at least one character, so a quote can
be quoted. -/
def sign? : List Char → Option (Sign × Nat)
  | [] => none
  | '\'' :: c :: cs =>
    let body := cs.takeWhile (· != '\'')
    some (.text (String.ofList (c :: body)), body.length + 2)
  | '>' :: cs =>
    let name := cs.takeWhile isWordPart
    some (.called (String.ofList name), name.length)
  | c :: cs =>
    match ofCharacter? c with
    | some sign => some (sign, 0)
    | none =>
      let name := String.ofList (c :: cs.takeWhile isWordPart)
      let length := (cs.takeWhile isWordPart).length
      if !isWordPart c then none
      else if (cs.drop length).head? = some ':' then some (.field name, length + 1)
      else some (.word name, length)

def signs? : List Char → Option (List Sign)
  | [] => some []
  | c :: cs =>
    if c.isWhitespace then signs? cs
    else
      match sign? (c :: cs) with
      | none => none
      | some (sign, more) => (signs? (cs.drop more)).map (sign :: ·)
termination_by cs => cs.length
decreasing_by
  all_goals simp only [List.length_cons, List.length_drop]
  all_goals omega

/-! ## Rules -/

structure Group where
  /-- The alternatives before the one in progress. -/
  alternatives : List Rule
  /-- The parts of the alternative in progress, the last one first. -/
  parts : List Rule
  field? : Option FieldId
  /-- Whether the next part is a separator. -/
  separating : Bool

namespace Group

def empty : Group := ⟨[], [], none, false⟩

def rule (g : Group) : Rule :=
  Rule.choice (g.alternatives ++ [Rule.sequence g.parts.reverse])

def add (g : Group) (r : Rule) : Group :=
  match g.separating, g.parts with
  | true, p :: parts =>
    { g with parts := .both p (Rule.many (.both r p)) :: parts, separating := false }
  | _, parts =>
    let part := match g.field? with
      | some id => .field id r
      | none => r
    { g with parts := part :: parts, field? := none }

def change (g : Group) (f : Rule → Rule) : Group :=
  match g.parts with
  | p :: parts => { g with parts := f p :: parts }
  | [] => g

end Group

/-- The number of a node or a hidden symbol by its name, or of the symbol with a number. -/
def symbolId? (g : Grammar) (name : String) : Option SymbolId :=
  match name.toList with
  | '#' :: digits => (String.ofList digits).toNat?
  | _ => g.symbols.findIdx? fun s => s.name == name && (s.named || !s.visible)

/-- Reads signs into the innermost group; those around it are kept with it. -/
def read? (g : Grammar) (abbreviations : List (String × Rule)) :
    List Sign → Group → List Group → Option Rule
  | [], inner, [] => some inner.rule
  | [], _, _ :: _ => none
  | .opening :: rest, inner, outer => read? g abbreviations rest .empty (inner :: outer)
  | .closing :: _, _, [] => none
  | .closing :: rest, inner, around :: outer =>
    read? g abbreviations rest (around.add inner.rule) outer
  | .bar :: rest, inner, outer =>
    let ended := { Group.empty with
      alternatives := inner.alternatives ++ [Rule.sequence inner.parts.reverse] }
    read? g abbreviations rest ended outer
  | .optional :: rest, inner, outer => read? g abbreviations rest (inner.change .optional) outer
  | .many :: rest, inner, outer => read? g abbreviations rest (inner.change .many) outer
  | .more :: rest, inner, outer => read? g abbreviations rest (inner.change .repeated) outer
  | .separated :: rest, inner, outer =>
    read? g abbreviations rest { inner with separating := true } outer
  | .field name :: rest, inner, outer =>
    read? g abbreviations rest { inner with field? := some (g.fieldNumber name) } outer
  | .called name :: rest, inner, outer =>
    (symbolId? g name).bind fun id =>
      read? g abbreviations rest (inner.change (.called id)) outer
  | .text token :: rest, inner, outer =>
    (g.symbols.findIdx? fun s => s.name == token && s.visible && !s.named).bind fun id =>
      read? g abbreviations rest (inner.add (.symbol id)) outer
  | .word name :: rest, inner, outer =>
    match abbreviations.lookup name, symbolId? g name with
    | some r, _ => read? g abbreviations rest (inner.add r) outer
    | none, some id => read? g abbreviations rest (inner.add (.symbol id)) outer
    | none, none => none

/-- Splits a line at its first equals sign and drops the blanks of the name. -/
def splitLine (line : List Char) : String × List Char :=
  let left := line.takeWhile (· != '=')
  (String.ofList (left.filter isWordPart), line.drop (left.length + 1))

def definitions? (g : Grammar) :
    List (List Char) → List (String × Rule) → Option (List Definition)
  | [], _ => some []
  | line :: rest, abbreviations => do
    let (name, text) := splitLine line
    let rule ← read? g abbreviations (← signs? text) .empty []
    match symbolId? g name with
    | none => definitions? g rest ((name, rule) :: abbreviations)
    | some id =>
      let hidden := g.symbols[id]?.any fun s => !s.visible
      return ⟨id, hidden, rule⟩ :: (← definitions? g rest abbreviations)

end Notation

/-- A grammar with rules written as text; `extras` can stand between any two symbols. -/
def Grammar.withRules? (g : Grammar) (extras : List String) (lines : List String) :
    Option Grammar := do
  let definitions ← Notation.definitions? g (lines.map String.toList) []
  let extras ← extras.mapM (Notation.symbolId? g)
  let supertypes := (List.range g.symbols.length).filter g.isSupertype
  let rules := Rules.ofDefinitions g.symbols.length extras supertypes definitions
  let kinds := (g.symbols.map Symbol.publicId).toArray
  return { g with automaton? := some (Automaton.ofRules kinds rules) }

end GrammarQueries
