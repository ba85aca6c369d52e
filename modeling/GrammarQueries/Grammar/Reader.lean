/-
# GrammarQueries.Grammar.Reader -- reading the children of a node from left to right

While the children of a node are read, several productions can be under way at
once: those of the node itself and of the hidden symbols in it.  A `Reader`
is the set of places in productions that agree with what is read
(`Item`), and `Reader.successors` says which symbols can come next and where
each of them leads.  What is not yet begun is not listed but follows from the
items (`Reader.items`), so equal readers have equal lists.

A reader that has just read what a transparent symbol may stand for behaves as
if it had read that symbol, and is replaced by that reader.
-/
import GrammarQueries.Grammar.Rules

namespace GrammarQueries

set_option autoImplicit false

/-! ## Items -/

/-- A place in a production: the number of parts that are read. -/
structure Item where
  production : Production
  position : Nat
  deriving DecidableEq, Repr

namespace Item

/-- What tells two items apart. -/
def key (i : Item) : Nat × Nat := (i.production.number, i.position)

def next? (i : Item) : Option Part := i.production.parts[i.position]?

def isComplete (i : Item) : Bool := i.production.parts.length ≤ i.position

def advance (i : Item) : Item := { i with position := i.position + 1 }

def before (i j : Item) : Bool :=
  i.key.1 < j.key.1 || (i.key.1 == j.key.1 && i.key.2 < j.key.2)

/-- Puts an item in its place in an ascending list; an item that is there is not added. -/
def insert (i : Item) : List Item → List Item
  | [] => [i]
  | j :: js => if i.key = j.key then j :: js else if i.before j then i :: j :: js
    else j :: insert i js

end Item

/-! ## Readers -/

/-- The places reached in productions, ascending. -/
structure Reader where
  reached : List Item
  deriving Repr

namespace Reader

def key (s : Reader) : List (Nat × Nat) := s.reached.map Item.key

def same (a b : Reader) : Bool := a.key == b.key

/-- A reader that has read nothing of the given productions. -/
def start (ps : List Production) : Reader :=
  ⟨ps.foldl (fun items p => Item.insert ⟨p, 0⟩ items) []⟩

/-- The hidden symbols that can begin the parts given, in at most `rounds` rounds. -/
def begun (r : Rules) : Nat → List SymbolId → List SymbolId → List SymbolId
  | 0, found, _ => found
  | rounds + 1, found, fresh =>
    if fresh.isEmpty then found
    else
      let found := found ++ fresh
      let heads := fresh.flatMap fun id =>
        (r.productionsOf id).filterMap fun p => p.parts.head?.map Part.symbol
      begun r rounds found
        ((heads.filter fun id => r.isHidden id && !found.contains id).eraseDups)

/-- All places of a reader: those reached and the beginnings of hidden symbols that can
come next.  A round adds a symbol or is the last one. -/
def items (r : Rules) (s : Reader) : List Item :=
  let next := (s.reached.filterMap fun i => i.next?.map Part.symbol).filter r.isHidden
  let symbols := begun r (r.makings.size + 1) [] next.eraseDups
  s.reached ++ symbols.flatMap fun id => (r.productionsOf id).map fun p => ⟨p, 0⟩

def addMove (symbol : SymbolId) (i : Item) :
    List (SymbolId × Reader) → List (SymbolId × Reader)
  | [] => [(symbol, ⟨[i]⟩)]
  | (x, s) :: rest =>
    if x = symbol then (x, ⟨i.insert s.reached⟩) :: rest else (x, s) :: addMove symbol i rest

/-- The symbols that can come next, and the places behind each. -/
def moves (r : Rules) (s : Reader) : List (SymbolId × Reader) :=
  (s.items r).foldl (fun found i =>
    match i.next? with
    | some part => addMove part.symbol i.advance found
    | none => found) []

/-- The transparent symbol that is all a reader has read, if it is one. -/
def standsFor? (r : Rules) (s : Reader) : Option SymbolId :=
  match s.reached with
  | [] => none
  | i :: _ =>
    let id := i.production.symbol
    let stands := fun (j : Item) =>
      j.production.symbol == id && j.isComplete &&
        (match j.production.parts with
        | [part] => part.alias?.isNone && part.field?.isNone
        | _ => false)
    if r.isTransparent id && s.reached.all stands then some id else none

/-- The reader behind a symbol, at most `rounds` transparent symbols being put for it. -/
def behind (r : Rules) (moves : List (SymbolId × Reader)) : Nat → Reader → Reader
  | 0, s => s
  | rounds + 1, s =>
    match s.standsFor? r with
    | none => s
    | some id =>
      match moves.lookup id with
      | some t => behind r moves rounds t
      | none => s

/-- The symbols that can come next, and the reader behind each. -/
def successors (r : Rules) (s : Reader) : List (SymbolId × Reader) :=
  let moves := s.moves r
  moves.map fun m => (m.1, behind r moves r.makings.size m.2)

/-- Whether reading can go on from an item of a reader with the given successors.  A part that
leaves the reader where it is, as in the middle of a repetition, leads on only if a token does
the same. -/
def goesOn (r : Rules) (s : Reader) (successors : List (SymbolId × Reader)) (i : Item) : Bool :=
  match i.position, i.next? with
  | _, none => false
  | 0, some _ => true
  | n + 1, some part =>
    if (i.production.parts[n]?).map Part.symbol ≠ some part.symbol then true
    else
      match successors.lookup part.symbol with
      | none => false
      | some t => !t.same s || successors.any fun m => !r.isMade m.1 && m.2.same s

end Reader

end GrammarQueries
