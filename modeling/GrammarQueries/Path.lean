/-
# GrammarQueries.Path -- paths as they are spelled

A path is a sequence of bytes and stays one: joining adds a name behind a
separator and nothing is normalised.  Two spellings name the same components
when they differ only in repeated or trailing separators and in `.` components
that do not begin a relative path (`Path.sameComponents`); `..` is kept, for it
has a meaning only in a file system.
-/
import GrammarQueries.Utf8

namespace GrammarQueries

set_option autoImplicit false

/-- A path: bytes, neither decoded nor normalised. -/
structure Path where
  bytes : List UInt8
  deriving DecidableEq, Inhabited

def separator : UInt8 := 0x2F

/-- The byte that begins a hidden name, and makes up `.` and `..`. -/
def dot : UInt8 := 0x2E

/-- The pieces between separators, empty ones included. -/
def chunks : List UInt8 → List (List UInt8)
  | [] => [[]]
  | b :: bs =>
    if b = separator then [] :: chunks bs
    else
      match chunks bs with
      | [] => [[b]]
      | c :: cs => (b :: c) :: cs

namespace Path

def ofString (s : String) : Path := ⟨Utf8.encode s.toList⟩

/-- An absolute path begins with a separator. -/
def isAbsolute (p : Path) : Bool := p.bytes.head? == some separator

/-- The path of `name` below `p`.  A separator comes between them unless `p`
ends in one or is empty. -/
def child (p : Path) (name : List UInt8) : Path :=
  if p.bytes = [] ∨ p.bytes.getLast? = some separator then ⟨p.bytes ++ name⟩
  else ⟨p.bytes ++ separator :: name⟩

/-! ## Components -/

inductive Component where
  | root
  | here
  | up
  | name (bytes : List UInt8)
  deriving DecidableEq

/-- The component a piece stands for; empty pieces and `.` stand for none. -/
def componentOf (chunk : List UInt8) : Option Component :=
  if chunk = [] ∨ chunk = [dot] then none
  else if chunk = [dot, dot] then some .up
  else some (.name chunk)

/-- The components of a path.  A `.` counts only where it begins a relative path. -/
def components (p : Path) : List Component :=
  let pieces := chunks p.bytes
  let body := pieces.filterMap componentOf
  if p.isAbsolute then .root :: body
  else if pieces.head? = some [dot] then .here :: body
  else body

def sameComponents (p q : Path) : Bool := p.components == q.components

/-- The bytes of a path, last first, without the separators and `.` components
at its end; a lone root stays. -/
def trimmedEnd : List UInt8 → List UInt8
  | [] => []
  | b :: bs =>
    if b = separator then (if bs = [] then [b] else trimmedEnd bs)
    else if b = dot ∧ bs.head? = some separator then trimmedEnd bs
    else b :: bs

/-- The last component of a path when it is a name. -/
def fileName? (p : Path) : Option (List UInt8) :=
  let last := ((trimmedEnd p.bytes.reverse).takeWhile (· != separator)).reverse
  if last = [] ∨ last = [dot] ∨ last = [dot, dot] then none else some last

/-- The path without its last component; the root and the empty path have none. -/
def parent? (p : Path) : Option Path :=
  let trimmed := trimmedEnd p.bytes.reverse
  if trimmed = [] ∨ trimmed = [separator] then none
  else some ⟨(trimmedEnd (trimmed.dropWhile (· != separator))).reverse⟩

/-! ## Showing -/

/-- A path in a message: bytes that are not text are replaced. -/
def display (p : Path) : String := Utf8.lossy p.bytes

def hexDigits (n : Nat) : List Char := Nat.toDigits 16 n

/-- A character between quotes: the quote, the backslash and control
characters are escaped.  The rule is the one for ASCII text. -/
def quotedChar (c : Char) : List Char :=
  if c = '"' then ['\\', '"']
  else if c = '\\' then ['\\', '\\']
  else if c = '\t' then ['\\', 't']
  else if c = '\n' then ['\\', 'n']
  else if c = '\r' then ['\\', 'r']
  else if c = '\x00' then ['\\', '0']
  else if c.toNat < 0x20 ∨ c.toNat = 0x7F then
    ['\\', 'u', '\x7b'] ++ hexDigits c.toNat ++ ['\x7d']
  else [c]

def quoted (p : Path) : String :=
  String.ofList (['"'] ++ p.display.toList.flatMap quotedChar ++ ['"'])

end Path

end GrammarQueries
