/-
# GrammarQueries.Query.Analysis -- whether a tree can have the shape of a pattern

For each step with children the trees that the grammar allows under its kind of
node are walked through from left to right, beside the child steps.  A `Walk`
is a place in such a tree with the step that is looked for next; hidden symbols
are entered, so that a walk keeps a reader for each symbol it is inside of.
The step is impossible when no walk gets past the last child step, and what is
blamed is the farthest step at which a walk ended.

Grammars are recursive, so walks are bounded: a symbol is entered inside itself
only as long as that makes a walk get farther, and a pattern for which the
bounds do not suffice is let pass.
-/
import Std.Data.TreeSet
import GrammarQueries.Query.Step

namespace GrammarQueries.Query

set_option autoImplicit false

/-! ## Walks -/

/-- The largest number of symbols a walk can be inside of is one less than this. -/
def mostLevels : Nat := 8

/-- The number of rounds after which walking is given up. -/
def mostRounds : Nat := 256

structure Level where
  reader : Nat
  symbol : SymbolId
  /-- The number of children read. -/
  read : Nat
  /-- The field of all that is inside. -/
  field? : Option FieldId
  /-- Whether nothing more has to be read. -/
  complete : Bool

/-- A place in a tree, and the child step looked for there. -/
structure Walk where
  /-- The symbols the walk is inside of, innermost first. -/
  levels : List Level
  step : Nat

namespace Walk

/-- Compares equally many levels, the outermost first. -/
def compareLevels (f : Level → Level → Ordering) : List Level → List Level → Ordering
  | a :: as, b :: bs => (compareLevels f as bs).then (f a b)
  | _, _ => .eq

/-- Compares how far walks have come: by the children read from the outermost symbol on; of two
that agree the one that is deeper inside comes first. -/
def compareReads (a b : List Level) : Ordering :=
  let common := min a.length b.length
  (compareLevels (fun x y => compare x.read y.read) (a.drop (a.length - common))
    (b.drop (b.length - common))).then (compare b.length a.length)

def comparePosition (a b : Walk) : Ordering :=
  (compareReads a.levels b.levels).then (compare a.step b.step)

def compareLevel (a b : Level) : Ordering :=
  (compare a.symbol b.symbol).then
    ((compare a.reader b.reader).then (compare (a.field?.getD 0) (b.field?.getD 0)))

/-- The order of walks: first their progress, then what else tells them apart. -/
def order (a b : Walk) : Ordering :=
  (comparePosition a b).then (compareLevels compareLevel a.levels b.levels)

/-- How often a walk is inside of a symbol inside the same symbol. -/
def recursion : List Level → Nat
  | [] => 0
  | l :: outer => (if outer.any (·.symbol == l.symbol) then 1 else 0) + recursion outer

def leave (levels : List Level) : List Level := levels.dropWhile Level.complete

end Walk

/-! ## Walking -/

abbrev Walks := Std.TreeSet Walk Walk.order

/-- What is fixed while one step is looked at. -/
structure Scene where
  symbols : Array Symbol
  automaton : Automaton
  steps : Steps
  /-- The kind of node whose children are looked at, and the symbols that make it. -/
  parent : SymbolId
  owners : List SymbolId

structure Progress where
  next : Walks
  /-- Walks that enter a symbol inside itself too often for now. -/
  deeper : Walks
  /-- The steps at which walks have ended. -/
  ends : List Nat
  /-- Whether a walk has got past the last child step. -/
  finished : Bool
  cutOff : Bool

namespace Scene

/-- The symbols whose productions are read in a level for a symbol. -/
def ownersOf (s : Scene) (symbol : SymbolId) : List SymbolId :=
  if symbol = s.parent then s.owners else [symbol]

/-- The kind of node that a child is, if it is a node. -/
def kindOf? (s : Scene) (alias? : Option SymbolId) (symbol : SymbolId) : Option SymbolId :=
  match alias?, s.symbols[symbol]? with
  | some name, _ => some name
  | none, some t => if t.visible then some t.publicId else none
  | none, none => none

def isNamed (s : Scene) (kind : SymbolId) : Bool :=
  match s.symbols[kind]? with
  | some t => t.named
  | none => false

/-- Whether a node in a field, inside of symbols, is what a step asks for. -/
def fits (s : Scene) (step : PatternStep) (levels : List Level) (kind? : Option SymbolId)
    (field? : Option FieldId) : Bool :=
  let inside := fun id => levels.any (·.symbol == id)
  let inField := step.field?.isNone || step.field? == field?
  match step.asked, kind? with
  | .error, _ => true
  | _, none => false
  | .anything, some _ => inField
  | .anyNamed, some kind => inField && s.isNamed kind
  | .subtypeOf supertype, some _ => inField && inside supertype
  | .kind id supertype?, some kind =>
    inField && id == kind && supertype?.all inside

/-- The step behind a step and all below it. -/
def stepAfter (s : Scene) (depth i : Nat) : Nat :=
  match h : s.steps[i + 1]? with
  | none => i + 1
  | some next =>
    have _ : i + 1 < s.steps.size := (Array.getElem?_eq_some_iff.1 h).1
    if next.depth ≤ depth then i + 1 else s.stepAfter depth (i + 1)
termination_by s.steps.size - i

/-- Goes on with a step of the given depth in the levels that are left: the walk has got past
the last child step, has ended at this step or walks on.  When the step before matched, the
alternatives of this one are taken as well. -/
def goOn (s : Scene) (depth : Nat) (levels : List Level) (matched : Bool) (i : Nat)
    (p : Progress) : Progress :=
  match h : s.steps[i]? with
  | none => { p with finished := true }
  | some step =>
    have _ : i < s.steps.size := (Array.getElem?_eq_some_iff.1 h).1
    if step.passThrough then s.goOn depth levels matched (i + 1) p
    else
      let q :=
        if step.deadEnd then p
        else if step.depth ≠ depth then { p with finished := true }
        else if levels.isEmpty then { p with ends := p.ends.insert i }
        else { p with next := p.next.insert ⟨levels, i⟩ }
      match step.alternative? with
      | some a => if matched ∧ i < a then s.goOn depth levels matched a q else q
      | none => q
termination_by s.steps.size - i

/-- Lets a walk enter a hidden symbol; `advanced` is the level around it when it is left. -/
def enter (s : Scene) (limit depth : Nat) (w : Walk) (inner advanced : Level)
    (outer : List Level) (p : Progress) : Progress :=
  let levels := if advanced.complete then inner :: outer else inner :: advanced :: outer
  if mostLevels ≤ levels.length ∧ !advanced.complete then { p with cutOff := true }
  else if limit < Walk.recursion levels then
    { p with deeper := p.deeper.insert ⟨levels, w.step⟩ }
  else if advanced.reader = inner.reader then p
  else s.goOn depth levels false w.step p

/-- Lets a walk read one of several symbols and come to a place in the level it is in.  The
walks behind those that match are the same, and so are those behind tokens that do not. -/
def read (s : Scene) (limit : Nat) (w : Walk) (step : PatternStep) (top : Level)
    (outer : List Level) (reader count : Nat) (symbols : List SymbolId) (p : Progress)
    (place : Item) : Progress :=
  let part? := place.production.parts[top.read]?
  let field? := top.field?.or (part?.bind Part.field?)
  let advanced : Level :=
    { top with reader, read := count, complete := top.complete || place.isComplete }
  let behind := Walk.leave (advanced :: outer)
  let kinds := symbols.map fun symbol => (symbol, s.kindOf? (part?.bind Part.alias?) symbol)
  let (matching, others) := kinds.partition fun k => s.fits step w.levels k.2 field?
  let (hidden, passed) :=
    others.partition fun k => k.2.isNone && s.automaton.rules.isMade k.1
  let p := if matching.isEmpty then p
    else s.goOn step.depth behind true (s.stepAfter step.depth w.step) p
  let p := if passed.isEmpty ∨ reader = top.reader then p
    else s.goOn step.depth behind false w.step p
  hidden.foldl (fun p k =>
    s.enter limit step.depth w ⟨top.reader, k.1, 0, field?, false⟩ advanced outer p) p

def advance (s : Scene) (limit : Nat) (w : Walk) (p : Progress) : Progress :=
  match w.levels, s.steps[w.step]? with
  | top :: outer, some step =>
    let rules := s.automaton.rules
    let owners := s.ownersOf top.symbol
    let take := fun (p : Progress) (reader count : Nat) (symbols : List SymbolId) =>
      if symbols.isEmpty then p
      else (s.automaton.placesIn owners reader count).foldl
        (s.read limit w step top outer reader count symbols) p
    let moves := s.automaton.movesOf top.reader
    let extras := rules.extras.filter fun x => !moves.any fun m => m.2.contains x
    let p := moves.foldl (fun p m =>
      if m.1 = top.reader then
        let (made, tokens) := m.2.partition rules.isMade
        take (take p m.1 top.read made) m.1 (top.read + 1) tokens
      else take p m.1 (top.read + 1) m.2) p
    take p top.reader top.read extras
  | _, _ => p

/-- One round: the walks with least progress go on, and the others wait for them. -/
def round (s : Scene) (limit : Nat) : List Walk → Progress → Progress
  | [], p => p
  | w :: ws, p =>
    match p.next.max? with
    | none => s.round limit ws (s.advance limit w p)
    | some last =>
      match w.comparePosition last with
      | .lt => s.round limit ws (s.advance limit w p)
      | .eq => s.round limit ws { p with next := p.next.insert w }
      | .gt => { p with next := p.next.insertMany (w :: ws) }

/-- Walks in at most `rounds` rounds, until it is known that the step is not to be blamed.  When
no walk is left those that wait are let deeper, provided that walks have ended at a new step
since that was done last. -/
def walk (s : Scene) : Nat → (limit ended : Nat) → Walks → Progress → Progress
  | 0, _, _, _, p => { p with cutOff := true }
  | rounds + 1, limit, ended, walks, p =>
    if p.finished ∨ p.cutOff then p
    else if walks.isEmpty then
      if p.deeper.isEmpty ∨ p.ends.length ≤ ended then p
      else s.walk rounds (limit + 1) p.ends.length p.deeper { p with deeper := ∅ }
    else
      let q := s.round limit walks.toList { p with next := ∅ }
      s.walk rounds limit ended q.next q

end Scene

/-! ## Patterns -/

/-- The step to be blamed when no tree has the children that stand below step `i`, which asks
for `kind`. -/
def blamedChild? (g : Grammar) (steps : Steps) (i : Nat) (kind : SymbolId) : Option Nat :=
  match g.automaton? with
  | none => some (i + 1)
  | some automaton =>
    match automaton.origin? kind with
    | none => some (i + 1)
    | some origin =>
      let s : Scene := ⟨g.symbols.toArray, automaton, steps, kind, origin.owners⟩
      let first : Walk := ⟨[⟨origin.reader, kind, 0, none, false⟩], i + 1⟩
      let p := s.walk mostRounds 0 0 ((∅ : Walks).insert first) ⟨∅, ∅, [], false, false⟩
      if p.cutOff ∨ p.finished then none else some (p.ends.max?.getD i)

/-- The step to be blamed for a step that has children no tree has. -/
def blamedStep? (g : Grammar) (steps : Steps) (i : Nat) : Option Nat :=
  match steps[i]?, steps[i + 1]? with
  | some step, some next =>
    match step.asked with
    | .kind id _ => if step.depth < next.depth then blamedChild? g steps i id else none
    | _ => none
  | _, _ => none

/-- The step to be blamed when no tree has the shape of a pattern. -/
def impossibleStep? (g : Grammar) (steps : Steps) : Option Nat :=
  (List.range steps.size).findSome? (blamedStep? g steps)

end GrammarQueries.Query
