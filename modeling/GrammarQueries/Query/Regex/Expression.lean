/-
# GrammarQueries.Query.Regex.Expression -- expressions, how deep and how large they are

An expression is kept as it was written, so far as that decides two things: how
deep its parts stand in one another (`depth`), and the room that an automaton
for it takes (`size`).  A part that is counted is built as often as it is
counted, which makes a short text large.

Parts that add nothing take no room: what is empty in a sequence, a count of
zero, and the repetitions of what can only match an empty text.  Alternatives of
one character each are one set.
-/
import GrammarQueries.Query.Regex.CharSet

namespace GrammarQueries.Query.Regex

set_option autoImplicit false

inductive Expression where
  | nothing
  /-- A change of flags, which stands where an expression can stand. -/
  | flags
  /-- A place between characters. -/
  | assertion
  | oneOf (alphabet : Alphabet) (members : CharSet)
  /-- One of a set in brackets, which stand in one another `depth` deep. -/
  | bracketed (depth : Nat) (alphabet : Alphabet) (members : CharSet)
  | repeated (body : Expression) (least : Nat) (most? : Option Nat)
  /-- A group; what it matches is kept if it captures. -/
  | group (captures : Bool) (body : Expression)
  | sequence (items : List Expression)
  | choice (branches : List Expression)

namespace Expression

def ofItems : List Expression → Expression
  | [] => .nothing
  | [e] => e
  | es => .sequence es

/-- Expressions of which one counts. -/
def ofBranches : List Expression → Expression
  | [e] => e
  | es => .choice es

/-! ## Depth -/

mutual

/-- How deep the parts of an expression stand in one another. -/
def depth : Expression → Nat
  | .bracketed depth _ _ => depth
  | .repeated body _ _ => body.depth + 1
  | .group _ body => body.depth + 1
  | .sequence items => deepest items + 1
  | .choice branches => deepest branches + 1
  | .nothing | .flags | .assertion | .oneOf _ _ => 0

def deepest : List Expression → Nat
  | [] => 0
  | e :: es => max e.depth (deepest es)

end

/-! ## Room -/

/-- What is known of the automaton for an expression. -/
structure Extent where
  /-- The bytes of its states; zero if it is left out where others stand beside it. -/
  bytes : Nat
  /-- Whether it can match an empty text. -/
  canBeEmpty : Bool
  /-- Whether it can match no other text. -/
  isHollow : Bool
  /-- The set, if one of a set is all that it matches. -/
  set? : Option (Alphabet × CharSet)

namespace Extent

open CharSet (stateSize branchSize)

/-- What needs no automaton. -/
def nothing : Extent := ⟨0, true, true, none⟩

/-- The room for an expression where it cannot be left out. -/
def room (e : Extent) : Nat := if e.bytes = 0 then stateSize else e.bytes

def assertion : Extent := ⟨stateSize, true, true, none⟩

def ofSet (d : Direction) (a : Alphabet) (s : CharSet) : Extent :=
  ⟨s.size a d, false, false, some (a, s)⟩

def inSequence (es : List Extent) : Extent :=
  match es.filter (fun e => e.bytes ≠ 0) with
  | [] => nothing
  | [e] => e
  | parts =>
    ⟨CharSet.total (parts.map Extent.bytes), parts.all Extent.canBeEmpty, parts.all Extent.isHollow, none⟩

/-- Whether a set has the same members as characters and as bytes. -/
def isPlain (p : Alphabet × CharSet) : Bool :=
  p.1 = .bytes || (p.2.isKnown && p.2.ranges.all (fun r => r.2 < 0x80))

/-- One set for several, if one alphabet has all their members. -/
def commonSet? (sets : List (Alphabet × CharSet)) : Option (Alphabet × CharSet) :=
  let all := (sets.map Prod.snd).foldl CharSet.union .empty
  if sets.all (fun p => p.1 = .characters) then some (.characters, all)
  else if sets.all isPlain then some (.bytes, all)
  else none

/-- Alternatives that are not one set. -/
def branching (es : List Extent) : Extent :=
  ⟨2 * stateSize + CharSet.total (es.map fun e => branchSize + e.room), es.any Extent.canBeEmpty,
    es.all Extent.isHollow, none⟩

def inChoice (d : Direction) (es : List Extent) : Extent :=
  if es.all (fun e => e.set?.isSome) then
    match commonSet? (es.filterMap Extent.set?) with
    | some (a, s) => ofSet d a s
    | none => branching es
  else branching es

/-- A group; its beginning and its end are states if what it matches is kept, which is done
only forwards. -/
def grouped (d : Direction) (captures : Bool) (e : Extent) : Extent :=
  if captures then
    { e with
      bytes := if d = .forward then 2 * stateSize + e.room else e.room
      set? := none }
  else e

def unboundedRoom (e : Extent) (least : Nat) : Nat :=
  let loop := stateSize + 2 * branchSize
  if least ≠ 0 then least * e.room + loop
  else if e.canBeEmpty then e.room + 2 * loop + stateSize
  else e.room + loop

def boundedRoom (e : Extent) (least most : Nat) : Nat :=
  let optional := stateSize + 2 * branchSize + e.room
  let before := if least = 0 ∧ most ≠ 1 then stateSize else least * e.room
  before + stateSize + (most - least) * optional

/-- A repetition.  What can only match an empty text is not repeated. -/
def counted (e : Extent) (least : Nat) (most? : Option Nat) : Extent :=
  let least := if e.isHollow then min least 1 else least
  let most? := if e.isHollow then some (min (most?.getD 1) 1) else most?
  let make := fun bytes => ⟨bytes, e.canBeEmpty || least = 0, e.isHollow, none⟩
  match most? with
  | none => make (e.unboundedRoom least)
  | some most =>
    if most = 0 then nothing
    else if least = most then (if most = 1 then e else make (most * e.room))
    else make (e.boundedRoom least most)

end Extent

mutual

def extent (d : Direction) : Expression → Extent
  | .nothing | .flags => .nothing
  | .assertion => .assertion
  | .oneOf a s | .bracketed _ a s => .ofSet d a s
  | .repeated body least most? => (body.extent d).counted least most?
  | .group captures body => (body.extent d).grouped d captures
  | .sequence items => .inSequence (extents d items)
  | .choice branches => .inChoice d (extents d branches)

def extents (d : Direction) : List Expression → List Extent
  | [] => []
  | e :: es => e.extent d :: extents d es

end

/-- The bytes of the states that pass over what stands before a match. -/
def searchSize : Nat := 112

/-- The bytes of an automaton that searches for an expression: what passes over the text before
it, the whole match, which is kept forwards like a group, and the state where it ends. -/
def size (d : Direction) (e : Expression) : Nat :=
  searchSize + ((e.extent d).grouped d true).room + CharSet.stateSize

end Expression

end GrammarQueries.Query.Regex
