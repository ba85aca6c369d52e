/-
# GrammarQueries.Query.Cursor -- a place in the text of a query

A cursor splits its source into what is passed and what is left, and its type
says that the two make up the source.  So every place that a reader can report
lies in the source and between two characters (`offset_le`), whatever the
reader did to get there.

The readers of the smallest parts stand here too: blanks and comments,
identifiers and quoted strings.  Each says by a lemma how much it leaves.
-/
import GrammarQueries.Utf8

namespace GrammarQueries.Query

set_option autoImplicit false

/-- A place in a source.  What is passed is kept last character first. -/
structure Cursor (source : List Char) where
  passed : List Char
  rest : List Char
  whole : passed.reverse ++ rest = source

namespace Cursor

variable {source : List Char}

def start (source : List Char) : Cursor source := ⟨[], source, rfl⟩

def offset (c : Cursor source) : Nat := Utf8.byteLength c.passed.reverse

/-- No more bytes are before a cursor than the source has. -/
theorem offset_le (c : Cursor source) : c.offset ≤ Utf8.byteLength source := by
  have h := congrArg Utf8.byteLength c.whole
  rw [Utf8.byteLength_append] at h
  unfold offset
  omega

/-- The next character; the zero character stands for the end. -/
def peek (c : Cursor source) : Char := c.rest.headD '\x00'

/-- The cursor after the next character.  It stays at the end. -/
def advance (c : Cursor source) : Cursor source :=
  match h : c.rest with
  | [] => c
  | x :: xs => ⟨x :: c.passed, xs, by have w := c.whole; simp_all⟩

/-- The cursor before the last character passed.  It stays at the beginning. -/
def back (c : Cursor source) : Cursor source :=
  match h : c.passed with
  | [] => c
  | x :: xs => ⟨xs, x :: c.rest, by have w := c.whole; simp_all⟩

def advanceBy (c : Cursor source) : Nat → Cursor source
  | 0 => c
  | n + 1 => c.advance.advanceBy n

theorem rest_advance (c : Cursor source) : c.advance.rest = c.rest.tail := by
  unfold advance
  split <;> simp_all

theorem rest_advanceBy (c : Cursor source) (n : Nat) : (c.advanceBy n).rest = c.rest.drop n := by
  induction n generalizing c with
  | zero => rfl
  | succ n ih => rw [advanceBy, ih, rest_advance, List.drop_tail]

/-! ## Blanks and comments -/

/-- The characters between parts of a query. -/
def isBlank (c : Char) : Bool :=
  c = ' ' || c = '\t' || c = '\n' || c = '\x0b' || c = '\x0c' || c = '\r'

/-- How many characters at the beginning are blanks and comments.  A comment
runs from a semicolon up to a newline or a zero character. -/
def blankLength (inComment : Bool) : List Char → Nat
  | [] => 0
  | c :: cs =>
    if inComment then
      if c = '\n' then blankLength false cs + 1
      else if c = '\x00' then 0
      else blankLength true cs + 1
    else if isBlank c then blankLength false cs + 1
    else if c = ';' then blankLength true cs + 1
    else 0

def skip (c : Cursor source) : Cursor source := c.advanceBy (blankLength false c.rest)

theorem length_rest_skip (c : Cursor source) : c.skip.rest.length ≤ c.rest.length := by
  rw [skip, rest_advanceBy, List.length_drop]
  omega

theorem length_rest_advance (c : Cursor source) : c.advance.rest.length ≤ c.rest.length := by
  rw [rest_advance, List.length_tail]
  omega

theorem length_rest_advance_lt {c : Cursor source} {x : Char} {xs : List Char}
    (h : c.rest = x :: xs) : c.advance.rest.length < c.rest.length := by
  rw [rest_advance, h]
  simp

/-! ## Identifiers -/

/-- The characters an identifier begins with; they are ASCII. -/
def isIdentifierStart (c : Char) : Bool := c.isAlphanum || c = '_' || c = '-'

def isIdentifierPart (c : Char) : Bool :=
  isIdentifierStart c || c = '.' || c = '?' || c = '!'

def identifier? (c : Cursor source) : Option (String × Cursor source) :=
  match c.rest with
  | [] => none
  | x :: xs =>
    if isIdentifierStart x then
      let name := x :: xs.takeWhile isIdentifierPart
      some (String.ofList name, c.advanceBy name.length)
    else none

theorem length_rest_identifier {c d : Cursor source} {name : String}
    (h : c.identifier? = some (name, d)) : d.rest.length < c.rest.length := by
  unfold identifier? at h
  split at h
  · cases h
  · next x xs hc =>
    split at h
    · obtain ⟨_, rfl⟩ := Prod.mk.inj (Option.some.inj h)
      simp only [rest_advanceBy, hc, List.length_cons, List.drop_succ_cons, List.length_drop]
      omega
    · cases h

/-! ## Quoted strings -/

def unescape (c : Char) : Char :=
  if c = 'n' then '\n'
  else if c = 'r' then '\r'
  else if c = 't' then '\t'
  else if c = '0' then '\x00'
  else c

/-- The content of a string up to its closing quote, and how many characters it
takes with the quote.  A newline that is not escaped breaks the string. -/
def quotedContent (escaped : Bool) : List Char → Option (List Char × Nat)
  | [] => none
  | c :: cs =>
    if escaped then (quotedContent false cs).map fun r => (unescape c :: r.1, r.2 + 1)
    else if c = '\\' then (quotedContent true cs).map fun r => (r.1, r.2 + 1)
    else if c = '"' then some ([], 1)
    else if c = '\n' then none
    else (quotedContent false cs).map fun r => (c :: r.1, r.2 + 1)

/-- The string that opens at the cursor, and the cursor after its closing quote. -/
def string? (c : Cursor source) : Option (String × Cursor source) :=
  (quotedContent false c.advance.rest).map fun r => (String.ofList r.1, c.advance.advanceBy r.2)

theorem length_rest_string {c d : Cursor source} {x : Char} {xs : List Char} {s : String}
    (hx : c.rest = x :: xs) (h : c.string? = some (s, d)) :
    d.rest.length < c.rest.length := by
  obtain ⟨r, _, hr⟩ := Option.map_eq_some_iff.1 h
  obtain ⟨_, rfl⟩ := Prod.mk.inj hr
  have := length_rest_advance_lt hx
  rw [rest_advanceBy, List.length_drop]
  omega

end Cursor

end GrammarQueries.Query
