/-
# GrammarQueries.Query.Position -- rows and columns, and the text that is blamed

A row and a column are found by going through the lines of the source.  A line
is counted without its ending and the ending always as one byte, so a line
that ends in a carriage return and a newline puts the lines after it one byte
too early; an offset in no line lies behind the last one.
-/
import GrammarQueries.Query.Cursor
import GrammarQueries.Unicode.Alphanumeric

namespace GrammarQueries.Query

set_option autoImplicit false

/-! ## Lines -/

/-- A line that a newline ends, given backwards; a carriage return before the newline goes too. -/
def endedLine : List Char → List Char
  | '\r' :: line => line.reverse
  | line => line.reverse

/-- The lines of a text, given the beginning of the current one backwards.  The text behind
the last newline is a line if there is any. -/
def linesFrom (begun : List Char) : List Char → List (List Char)
  | [] => if begun.isEmpty then [] else [begun.reverse]
  | c :: cs =>
    if c = '\n' then endedLine begun :: linesFrom [] cs
    else linesFrom (c :: begun) cs

/-- The lines of a text without their endings. -/
def lines (text : List Char) : List (List Char) := linesFrom [] text

/-- A place by row and column, both from 0, and the line there is at it. -/
structure Position where
  row : Nat
  column : Nat
  line? : Option (List Char)
  deriving DecidableEq

/-- The position of an offset among lines, the first of which is in `row` and starts at `start`. -/
def positionAmong (offset row start : Nat) : List (List Char) → Position
  | [] => ⟨row, offset - start, none⟩
  | line :: later =>
    -- one byte for the ending, even where a carriage return was dropped with it
    let next := start + Utf8.byteLength line + 1
    if offset < next then ⟨row, offset - start, some line⟩
    else positionAmong offset (row + 1) next later

def position (text : List Char) (offset : Nat) : Position :=
  positionAmong offset 0 0 (lines text)

/-! ## What is blamed -/

/-- The line of a position with a mark under its column. -/
def Position.marked (p : Position) : String :=
  match p.line? with
  | some line => String.ofList (line ++ '\n' :: List.replicate p.column ' ' ++ ['^'])
  | none => "Unexpected EOF"

/-- The text up to a quote behind an even number of backslashes; `odd` says whether an odd
number stands before. -/
def upToQuote (odd : Bool) : List Char → List Char
  | [] => []
  | c :: cs =>
    if c = '"' && !odd then []
    else c :: upToQuote (c = '\\' && !odd) cs

def isNameCharacter (c : Char) : Bool := Unicode.isAlphanumeric c || c = '_' || c = '-'

/-- The name that stands at a cursor, or the content of a string that opens just before it. -/
def Cursor.blamedName {source : List Char} (c : Cursor source) : String :=
  if c.passed.head? = some '"' then String.ofList (upToQuote false c.rest)
  else String.ofList (c.rest.takeWhile isNameCharacter)

end GrammarQueries.Query
