/-
# GrammarQueries.Query.Regex.CharSet -- sets of characters and the room their automata take

A set is a list of ranges, ascending and apart, and beside them the classes that
were named: of those only the sizes are known.  The operations are exact on sets
of ranges.  Where a named class takes part, `inter` and `diff` give one of the
two sets, which holds all members and may hold more.

An automaton reads characters byte by byte.  A set becomes one state when all
its members are single bytes.  Otherwise its ranges are cut into words, the
spans of bytes that stand at one place of the encoding (`words`): forwards,
states that read the same are shared; backwards, only words that end the same
way are.
-/
import GrammarQueries.Unicode.NamedClass

namespace GrammarQueries.Query.Regex

set_option autoImplicit false

/-! ## Alphabets -/

/-- What a regular expression reads as one thing. -/
inductive Alphabet where
  | characters
  | bytes
  deriving DecidableEq, Repr

def Alphabet.last : Alphabet → Nat
  | .characters => 0x10FFFF
  | .bytes => 0xFF

def Alphabet.width : Alphabet → Nat → Nat
  | .bytes, _ => 1
  | .characters, n =>
    if n < 0x80 then 1 else if n < 0x800 then 2 else if n < 0x10000 then 3 else 4

/-- The way in which an automaton goes through a text. -/
inductive Direction where
  | forward
  | backward
  deriving DecidableEq, Repr

/-! ## Sets -/

structure CharSet where
  ranges : List (Nat × Nat)
  /-- The size of the automata for the named classes in the set; zero if there is none. -/
  named : Nat
  /-- The size of the automata for what those classes leave out. -/
  namedOthers : Nat
  deriving DecidableEq, Repr

namespace CharSet

/-- Puts a range behind ranges that begin no later, last first. -/
def addLast (before : List (Nat × Nat)) (r : Nat × Nat) : List (Nat × Nat) :=
  match before with
  | [] => [r]
  | (low, high) :: rest =>
    if r.1 ≤ high + 1 then (low, max high r.2) :: rest else r :: (low, high) :: rest

def ofRanges (rs : List (Nat × Nat)) : CharSet :=
  let sorted := rs.mergeSort (fun a b => decide (a.1 ≤ b.1))
  ⟨(sorted.foldl addLast []).reverse, 0, 0⟩

def single (n : Nat) : CharSet := ⟨[(n, n)], 0, 0⟩

def empty : CharSet := ⟨[], 0, 0⟩

def ofClass (c : Unicode.NamedClass) : CharSet := ⟨[], c.size, c.sizeOfOthers⟩

def isKnown (s : CharSet) : Bool := s.named = 0

/-- What ascending ranges leave out between `next` and `last`. -/
def gaps (next last : Nat) : List (Nat × Nat) → List (Nat × Nat)
  | [] => if next ≤ last then [(next, last)] else []
  | (low, high) :: rest =>
    let later := gaps (high + 1) last rest
    if next < low then (next, low - 1) :: later else later

def others (a : Alphabet) (s : CharSet) : CharSet :=
  if s.isKnown then ⟨gaps 0 a.last s.ranges, 0, 0⟩ else ⟨s.ranges, s.namedOthers, s.named⟩

def union (s t : CharSet) : CharSet :=
  { ofRanges (s.ranges ++ t.ranges) with
    named := s.named + t.named
    namedOthers := s.namedOthers + t.namedOthers }

def inter (a : Alphabet) (s t : CharSet) : CharSet :=
  if s.isKnown && t.isKnown then ((s.others a).union (t.others a)).others a
  else if t.isKnown then t
  else s

def diff (a : Alphabet) (s t : CharSet) : CharSet :=
  if s.isKnown && t.isKnown then s.inter a (t.others a) else s

def symmDiff (a : Alphabet) (s t : CharSet) : CharSet :=
  if s.isKnown && t.isKnown then (s.union t).diff a (s.inter a t) else s.union t

/-! ## Letters in both cases -/

def between (low high : Nat) (s : CharSet) : List (Nat × Nat) :=
  s.ranges.filterMap fun r =>
    if max r.1 low ≤ min r.2 high then some (max r.1 low, min r.2 high) else none

/-- Characters outside ASCII that differ only in case from an ASCII letter, and that letter. -/
def distantCases : List (Nat × Nat) := [(0x6B, 0x212A), (0x73, 0x17F)]

def inBothCases (a : Alphabet) (s : CharSet) : CharSet :=
  let lowered := (s.between 0x41 0x5A).map fun r => (r.1 + 0x20, r.2 + 0x20)
  let raised := (s.between 0x61 0x7A).map fun r => (r.1 - 0x20, r.2 - 0x20)
  let folded := s.union (ofRanges (lowered ++ raised))
  let distant := distantCases.filter fun d => folded.ranges.any fun r => r.1 ≤ d.1 && d.1 ≤ r.2
  match a with
  | .characters => folded.union (ofRanges (distant.map fun d => (d.2, d.2)))
  | .bytes => folded

/-! ## Bytes of characters -/

abbrev Span := Nat × Nat

/-- The words for the numbers from `low` to `high`, written with `k` later bytes of six bits
behind a first one that begins with `mark`. -/
def wordsFrom (mark : Nat) : Nat → Nat → Nat → List (List Span)
  | 0, low, high => [[(mark + low, mark + high)]]
  | k + 1, low, high =>
    let unit := 64 ^ (k + 1)
    let first := low / unit
    let last := high / unit
    let exactly := fun n => (mark + n, mark + n)
    if first = last then (wordsFrom 0x80 k (low % unit) (high % unit)).map (exactly first :: ·)
    else
      let cutBelow := low % unit ≠ 0
      let cutAbove := high % unit ≠ unit - 1
      let below := if cutBelow then
        (wordsFrom 0x80 k (low % unit) (unit - 1)).map (exactly first :: ·) else []
      let above := if cutAbove then
        (wordsFrom 0x80 k 0 (high % unit)).map (exactly last :: ·) else []
      let start := if cutBelow then first + 1 else first
      let stop := if cutAbove then last - 1 else last
      let whole := if start ≤ stop then
        [(mark + start, mark + stop) :: List.replicate (k + 1) (0x80, 0xBF)] else []
      below ++ whole ++ above

/-- The parts of the characters that are encoded alike: the first and last of them, the number
of later bytes and the mark of the first byte. -/
def encodings : List (Nat × Nat × Nat × Nat) := [
  (0, 0x7F, 0, 0), (0x80, 0x7FF, 1, 0xC0), (0x800, 0xD7FF, 2, 0xE0), (0xE000, 0xFFFF, 2, 0xE0),
  (0x10000, 0x10FFFF, 3, 0xF0)]

def rangeWords (r : Nat × Nat) : List (List Span) :=
  encodings.flatMap fun e =>
    let low := max r.1 e.1
    let high := min r.2 e.2.1
    if low ≤ high then wordsFrom e.2.2.2 e.2.2.1 low high else []

/-- The words for the ranges of a set, in ascending order. -/
def words (s : CharSet) : List (List Span) := s.ranges.flatMap rangeWords

/-! ## Room -/

/-- The bytes of a state. -/
def stateSize : Nat := 32

/-- The bytes of a span in a state with several. -/
def spanSize : Nat := 8

/-- The bytes of a way on from a state that reads nothing. -/
def branchSize : Nat := 4

/-- How many spans two words share at their beginning. -/
def shared : List Span → List Span → Nat
  | a :: v, b :: w => if a = b then shared v w + 1 else 0
  | _, _ => 0

/-- The room for words read backwards, when `before` stands before them: a state for each span
that the word before does not share, and a branch for each word. -/
def backwardSize (before : List Span) : List (List Span) → Nat
  | [] => 0
  | w :: rest => stateSize * (w.length - shared before w) + branchSize + backwardSize w rest

/-- Words that begin with the same span, together. -/
def byFirst (ws : List (List Span)) : List (List (List Span)) :=
  ws.splitBy fun v w => v.head? == w.head?

/-- What the states that read words forwards have before them, `depth` spans at most. -/
def statesOf : Nat → List (List Span) → List (List (List Span))
  | 0, _ => []
  | depth + 1, ws =>
    if ws.all List.isEmpty then []
    else ws :: (byFirst ws).flatMap fun group => statesOf depth (group.map List.tail)

def total (rooms : List Nat) : Nat := rooms.foldr (· + ·) 0

/-- The room for words read forwards: a state and its spans for all that reads the same. -/
def forwardSize (ws : List (List Span)) : Nat :=
  total ((statesOf 4 ws).eraseDups.map fun s => stateSize + spanSize * (byFirst s).length)

def rangesSize (a : Alphabet) (d : Direction) (s : CharSet) : Nat :=
  if a = .bytes ∨ s.ranges.all (fun r => r.2 < 0x80) then
    2 * stateSize + spanSize * s.ranges.length
  else
    match d with
    | .forward => stateSize + forwardSize s.words
    | .backward => 2 * stateSize + backwardSize [] s.words

/-- The room for the known members of a set; a set of one member is read as its bytes. -/
def knownSize (a : Alphabet) (d : Direction) (s : CharSet) : Nat :=
  match s.ranges with
  | [(low, high)] => if low = high then stateSize * a.width low else s.rangesSize a d
  | _ => s.rangesSize a d

/-- The room that the automaton for one member of a set takes.  The automaton of a named class
takes about half its room when it goes forward. -/
def size (a : Alphabet) (d : Direction) (s : CharSet) : Nat :=
  if s.isKnown then s.knownSize a d
  else
    let known := if s.ranges.isEmpty then 0 else s.knownSize a d
    match d with
    | .forward => known + s.named / 2
    | .backward => known + s.named

end CharSet

end GrammarQueries.Query.Regex
