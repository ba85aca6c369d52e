/-
# GrammarQueries.Query.Regex.Escape -- flags, and what stands behind a backslash

Flags change how the text behind them is read.  A primitive is the least thing
that is read: a character by itself or by its number, a set with a name, or a
place between characters.

With the flag for Unicode off, sets have bytes as members: a set by a property
is refused, and so is a character beyond ASCII in a set, unless it is written as
a byte with two digits.
-/
import GrammarQueries.Query.Regex.Expression
import GrammarQueries.Query.Regex.Scan

namespace GrammarQueries.Query.Regex

set_option autoImplicit false

/-! ## Flags -/

/-- The flags in force, so far as they decide what is read. -/
structure Flags where
  /-- Letters match in both cases. -/
  ignoreCase : Bool
  /-- A dot matches the end of a line too. -/
  dotAll : Bool
  /-- Blanks and comments do not count. -/
  verbose : Bool
  unicode : Bool
  /-- A carriage return ends a line too. -/
  carriageReturn : Bool
  deriving DecidableEq, Repr

namespace Flags

def initial : Flags := ⟨false, false, false, true, false⟩

def letters : List Char := ['i', 'm', 's', 'U', 'u', 'R', 'x']

/-- Sets the flag of a letter; `m` and `U` change only what is matched. -/
def set (on : Bool) (f : Flags) (letter : Char) : Flags :=
  match letter with
  | 'i' => { f with ignoreCase := on }
  | 's' => { f with dotAll := on }
  | 'x' => { f with verbose := on }
  | 'u' => { f with unicode := on }
  | 'R' => { f with carriageReturn := on }
  | _ => f

/-- Whether a text sets flags: each at most once, and a hyphen only before others. -/
def areFlags (cs : List Char) : Bool :=
  cs.all (fun c => c = '-' || letters.contains c) && cs.Nodup && cs.getLast? != some '-'

/-- Sets the flags before a hyphen and takes back those behind it. -/
def apply (f : Flags) (cs : List Char) : Flags :=
  let on := cs.takeWhile (· != '-')
  let off := cs.dropWhile (· != '-')
  off.foldl (set false) (on.foldl (set true) f)

/-- What sets have as members. -/
def alphabet (f : Flags) : Alphabet := if f.unicode then .characters else .bytes

/-- A set with both cases of its letters, where case does not count. -/
def fold (f : Flags) (s : CharSet) : CharSet :=
  if f.ignoreCase then s.inBothCases f.alphabet else s

end Flags

/-! ## Primitives -/

/-- The least thing that is read. -/
inductive Primitive where
  /-- A character by its number; a byte if it was written as one. -/
  | literal (value : Nat) (asByte : Bool)
  | set (members : CharSet)
  | assertion
  deriving DecidableEq, Repr

namespace Primitive

/-- The number of a literal as a member of a set. -/
def memberOf? (f : Flags) (value : Nat) (asByte : Bool) : Option Nat :=
  if f.unicode || asByte || value < 0x80 then some value else none

def members? (f : Flags) : Primitive → Option CharSet
  | .literal value asByte => (memberOf? f value asByte).map fun n => f.fold (.single n)
  | .set members => some members
  | .assertion => none

def rangeMembers? (f : Flags) : Primitive → Primitive → Option CharSet
  | .literal low lowByte, .literal high highByte =>
    match memberOf? f low lowByte, memberOf? f high highByte with
    | some a, some b => if a ≤ b then some (f.fold (.ofRanges [(a, b)])) else none
    | _, _ => none
  | _, _ => none

/-- The expression of a primitive that stands outside brackets.  A character beyond ASCII has no
cases that are bytes. -/
def expression? (f : Flags) : Primitive → Option Expression
  | .assertion => some .assertion
  | .set members => some (.oneOf f.alphabet members)
  | .literal value asByte =>
    if f.unicode then some (.oneOf .characters (f.fold (.single value)))
    else if value < 0x80 then some (.oneOf .bytes (f.fold (.single value)))
    else if asByte then some (.oneOf .bytes (.single value))
    else if f.ignoreCase then none
    else some (.oneOf .characters (.single value))

end Primitive

/-! ## Characters by number -/

def hexDigit? (c : Char) : Option Nat :=
  if '0' ≤ c ∧ c ≤ '9' then some (c.toNat - '0'.toNat)
  else if 'a' ≤ c ∧ c ≤ 'f' then some (c.toNat - 'a'.toNat + 10)
  else if 'A' ≤ c ∧ c ≤ 'F' then some (c.toNat - 'A'.toNat + 10)
  else none

/-- The value of hexadecimal digits; there is at least one, and all are digits. -/
def hexValue? : List Char → Option Nat
  | [] => none
  | cs => cs.foldl (fun acc c => acc.bind fun n => (hexDigit? c).map (n * 16 + ·)) (some 0)

def isScalar (n : Nat) : Bool := n < 0xD800 || (0xE000 ≤ n && n ≤ 0x10FFFF)

namespace Scan

/-- Takes `n` characters, with blanks and comments behind each. -/
def several (verbose : Bool) : Nat → Scan (List Char)
  | 0 => pure []
  | n + 1 => do
    let c ← char
    blanks verbose
    let later ← several verbose n
    return c :: later

def braced (verbose : Bool) : Scan (List Char) := do
  expect '\x7b'
  let content ← each verbose (· != '\x7d')
  expect '\x7d'
  return content

/-- Takes the number of a character: `width` digits, or any number of them in braces. -/
def hexEscape (f : Flags) (width : Nat) : Scan Primitive := do
  blanks f.verbose
  let isBraced := (← ahead).head? = some '\x7b'
  let digits ← if isBraced then braced f.verbose else several f.verbose width
  let value ← given (hexValue? digits)
  if isScalar value then return .literal value (!isBraced && width = 2) else refuse

/-! ## Named sets -/

/-- The parts of a text before and behind the first place where `mark` stands. -/
def splitAt? (mark : List Char) : List Char → Option (List Char × List Char)
  | [] => none
  | c :: cs =>
    if mark.isPrefixOf (c :: cs) then some ([], (c :: cs).drop mark.length)
    else (splitAt? mark cs).map fun r => (c :: r.1, r.2)

/-- The class that a text in braces asks for, by a name or by a property and its value; what is
asked for by `!=` is what the class leaves out. -/
def askedClass? (content : List Char) : Option Unicode.NamedClass :=
  match splitAt? ['!', '='] content with
  | some (property, value) => (Unicode.valueClass? property value).map Unicode.NamedClass.others
  | none =>
    match (splitAt? [':'] content).or (splitAt? ['='] content) with
    | some (property, value) => Unicode.valueClass? property value
    | none => Unicode.namedClass? content

/-- Takes the name of a class: one letter, or any name in braces. -/
def classEscape (f : Flags) (negated : Bool) : Scan Primitive := do
  blanks f.verbose
  let content ← if (← ahead).head? = some '\x7b' then braced f.verbose else several f.verbose 1
  if content = ['\\'] || !f.unicode then refuse
  let asked ← given (askedClass? content)
  return .set (.ofClass (if negated then asked.others else asked))

/-- The ASCII characters of the sets for digits, blanks and word characters. -/
def asciiRanges (letter : Char) : List (Nat × Nat) :=
  if letter = 'd' then [(0x30, 0x39)]
  else if letter = 's' then [(0x09, 0x0D), (0x20, 0x20)]
  else [(0x30, 0x39), (0x41, 0x5A), (0x5F, 0x5F), (0x61, 0x7A)]

/-- The set of one of the letters `d`, `s` and `w`; a capital letter asks for what it leaves out. -/
def letterSet (f : Flags) (letter : Char) : CharSet :=
  let lower := letter.toLower
  let set :=
    if f.unicode then
      CharSet.ofClass (
        if lower = 'd' then Unicode.digits
        else if lower = 's' then Unicode.blanks
        else Unicode.wordCharacters)
    else CharSet.ofRanges (asciiRanges lower)
  if letter.isUpper then set.others f.alphabet else set

/-! ## Escapes -/

/-- Characters that stand for others behind a backslash. -/
def controls : List (Char × Nat) :=
  [('a', 0x07), ('f', 0x0C), ('t', 0x09), ('n', 0x0A), ('r', 0x0D), ('v', 0x0B)]

def boundaryKinds : List String := ["start", "end", "start-half", "end-half"]

/-- Takes the kind of a word boundary, if one is asked for.  A brace that no letter follows
begins a count and stays. -/
def boundaryKind (verbose : Bool) : Scan Unit := do
  match ← ahead with
  | '\x7b' :: cs =>
    let isKindPart := fun (c : Char) => c.isAlpha || c = '-'
    let inner := if verbose then passBlanks false cs else cs
    if inner.isEmpty then refuse
    else if inner.head?.any isKindPart then
      let kind ← braced verbose
      if boundaryKinds.contains (String.ofList kind) then pure () else refuse
    else pure ()
  | _ => pure ()

def escape (f : Flags) : Scan Primitive := do
  let c ← char
  match c with
  | 'x' => hexEscape f 2
  | 'u' => hexEscape f 4
  | 'U' => hexEscape f 8
  | 'p' => classEscape f false
  | 'P' => classEscape f true
  | 'b' => do
    boundaryKind f.verbose
    return .assertion
  | _ =>
    if ['d', 'D', 's', 'S', 'w', 'W'].contains c then return .set (letterSet f c)
    else if ['A', 'B', 'z', '<', '>'].contains c then return .assertion
    else
      match controls.lookup c with
      | some value => return .literal value false
      | none =>
        if c.isAlphanum || 0x80 ≤ c.toNat then refuse else return .literal c.toNat false

end Scan

end GrammarQueries.Query.Regex
