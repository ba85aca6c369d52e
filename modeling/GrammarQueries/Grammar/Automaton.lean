/-
# GrammarQueries.Grammar.Automaton -- all readers of a grammar, numbered

There are as many readers as sets of places that reading can reach, and that is
a finite number.  An `Automaton` lists them: a reader becomes a number, and what
can come next is a list of readers with the symbols that lead to each
(`Station`).  For each kind of node it tells the symbols that make it and the
reader that has read nothing of it (`Origin`).
-/
import Std.Data.HashMap
import GrammarQueries.Grammar.Reader

namespace GrammarQueries

set_option autoImplicit false

/-! ## Stations -/

/-- A reader in an automaton. -/
structure Station where
  /-- The places in it from which reading goes on. -/
  ongoing : List Item
  /-- The places in it where a production ends. -/
  ended : List Item
  /-- The readers that can come next by their numbers, and the symbols that lead to each. -/
  moves : List (Nat × List SymbolId)
  deriving DecidableEq, Repr

structure Origin where
  owners : List SymbolId
  /-- The number of the reader that has read nothing. -/
  reader : Nat
  deriving DecidableEq, Repr

structure Automaton where
  rules : Rules
  stations : Array Station
  /-- The origins of the kinds of node that are made of parts, by the kind. -/
  origins : Array (Option Origin)
  deriving DecidableEq, Repr

namespace Automaton

/-! ## Numbering readers -/

structure Numbering where
  readers : Array Reader
  numbers : Std.HashMap (List (Nat × Nat)) Nat

/-- The number of a reader, which may be new. -/
def Numbering.number (n : Numbering) (s : Reader) : Nat × Numbering :=
  match n.numbers[s.key]? with
  | some i => (i, n)
  | none => (n.readers.size, ⟨n.readers.push s, n.numbers.insert s.key n.readers.size⟩)

def Numbering.numberAll {α : Type} (n : Numbering) (items : List (α × Reader)) :
    List (α × Nat) × Numbering :=
  items.foldr (fun m (rest, n) =>
    let (i, n) := n.number m.2
    ((m.1, i) :: rest, n)) ([], n)

def addMove (m : SymbolId × Nat) : List (Nat × List SymbolId) → List (Nat × List SymbolId)
  | [] => [(m.2, [m.1])]
  | (reader, symbols) :: rest =>
    if reader = m.2 then (reader, m.1 :: symbols) :: rest else (reader, symbols) :: addMove m rest

def mostReaders : Nat := 65536

/-- Makes stations of the readers from the next one on, at most `fuel` of them. -/
def explore (r : Rules) : Nat → Array Station → Numbering → Array Station
  | 0, made, _ => made
  | fuel + 1, made, n =>
    match n.readers[made.size]? with
    | none => made
    | some s =>
      let successors := s.successors r
      let (moves, n) := n.numberAll successors
      let station : Station :=
        ⟨s.reached.filter (s.goesOn r successors), s.reached.filter Item.isComplete,
          moves.foldr addMove []⟩
      explore r fuel (made.push station) n

/-- The symbols that make a kind of node, which go by it in the tables, where symbol `i` is
known by `kinds[i]`, or in some production. -/
def ownersOf (kinds : Array SymbolId) (r : Rules) (kind : SymbolId) : List SymbolId :=
  let known := (List.range kinds.size).filter fun id => kinds[id]? = some kind
  ((known ++ r.calledSo kind).filter r.isMade).eraseDups

/-- The automaton of rules for symbols that are known by the given kinds. -/
def ofRules (kinds : Array SymbolId) (r : Rules) : Automaton :=
  let begun := (List.range kinds.size).filterMap fun kind =>
    match ownersOf kinds r kind with
    | [] => none
    | owners => some ((kind, owners), Reader.start (owners.flatMap r.productionsOf))
  let (starts, numbering) := Numbering.numberAll ⟨#[], {}⟩ begun
  let origins := starts.foldl (fun table s => table.set! s.1.1 (some ⟨s.1.2, s.2⟩))
    (Array.replicate kinds.size none)
  ⟨r, explore r mostReaders #[] numbering, origins⟩

/-! ## Reading -/

def origin? (a : Automaton) (kind : SymbolId) : Option Origin := (a.origins[kind]?).join

def movesOf (a : Automaton) (reader : Nat) : List (Nat × List SymbolId) :=
  match a.stations[reader]? with
  | some s => s.moves
  | none => []

/-- The places at which a reader can be in the symbols of `owners` after `read` children: those
where reading goes on, and one where it ends. -/
def placesIn (a : Automaton) (owners : List SymbolId) (reader read : Nat) : List Item :=
  if read = 0 then
    (((owners.flatMap a.rules.productionsOf).filter fun p => p.parts.isEmpty).map
      fun p => (⟨p, 0⟩ : Item)).take 1
  else
    match a.stations[reader]? with
    | some s =>
      let here := fun (i : Item) => i.position == read && owners.contains i.production.symbol
      s.ongoing.filter here ++ (s.ended.filter here).take 1
    | none => []

end Automaton

end GrammarQueries
