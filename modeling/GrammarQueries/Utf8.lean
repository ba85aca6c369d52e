/-
# GrammarQueries.Utf8 -- text as bytes, and the place where bytes stop being text

`encode` writes a list of characters in UTF-8.  `decode` reads bytes one at a
time: between two bytes either nothing is begun, or a character is (`Begun`),
whose lead byte has fixed how many bytes follow and the range of the next one.
The ranges after `E0`, `ED`, `F0` and `F4` are what keeps out overlong forms,
surrogates and numbers above `10FFFF`.

Where bytes are not text, `Malformed` says how many bytes before the fault are
text and how many bytes the fault covers; the second number is absent when the
bytes end inside a character.  `lossy` shows any bytes as text, one
replacement character per fault.
-/

namespace GrammarQueries.Utf8

set_option autoImplicit false

/-! ## Writing -/

/-- A byte that continues a character: the low six bits of `n` behind the mark `10`. -/
def tailByte (n : Nat) : UInt8 := UInt8.ofNat (0x80 + n % 0x40)

/-- The one to four bytes of a character. -/
def encodeChar (c : Char) : List UInt8 :=
  let v := c.toNat
  if v < 0x80 then [UInt8.ofNat v]
  else if v < 0x800 then [UInt8.ofNat (0xC0 + v / 0x40), tailByte v]
  else if v < 0x10000 then
    [UInt8.ofNat (0xE0 + v / 0x1000), tailByte (v / 0x40), tailByte v]
  else
    [UInt8.ofNat (0xF0 + v / 0x40000), tailByte (v / 0x1000), tailByte (v / 0x40), tailByte v]

def encode (cs : List Char) : List UInt8 := cs.flatMap encodeChar

def charLength (c : Char) : Nat :=
  let v := c.toNat
  if v < 0x80 then 1 else if v < 0x800 then 2 else if v < 0x10000 then 3 else 4

def byteLength (cs : List Char) : Nat := cs.foldl (fun n c => n + charLength c) 0

@[simp] theorem encode_nil : encode [] = [] := rfl

@[simp] theorem encode_cons (c : Char) (cs : List Char) :
    encode (c :: cs) = encodeChar c ++ encode cs := rfl

theorem encode_append (as bs : List Char) : encode (as ++ bs) = encode as ++ encode bs := by
  simp [encode]

theorem length_encodeChar (c : Char) : (encodeChar c).length = charLength c := by
  simp only [encodeChar, charLength]
  repeat' split
  all_goals rfl

theorem foldl_charLength (n : Nat) (cs : List Char) :
    cs.foldl (fun n c => n + charLength c) n = n + (encode cs).length := by
  induction cs generalizing n with
  | nil => rfl
  | cons c cs ih =>
    rw [List.foldl_cons, ih, encode_cons, List.length_append, length_encodeChar, Nat.add_assoc]

theorem byteLength_eq (cs : List Char) : byteLength cs = (encode cs).length := by
  rw [byteLength, foldl_charLength, Nat.zero_add]

theorem byteLength_append (as bs : List Char) :
    byteLength (as ++ bs) = byteLength as + byteLength bs := by
  simp only [byteLength_eq, encode_append, List.length_append]

/-! ## Reading, byte by byte -/

structure ByteRange where
  low : UInt8
  high : UInt8
  deriving DecidableEq, Repr

def ByteRange.contains (r : ByteRange) (b : UInt8) : Bool := r.low ≤ b && b ≤ r.high

/-- The range of a byte that continues a character without further restriction. -/
def tailRange : ByteRange := ⟨0x80, 0xBF⟩

/-- A character of which `taken` bytes are read: the bits so far, the range of
the byte that has to come next, and the ranges of those after it. -/
structure Begun where
  value : Nat
  taken : Nat
  next : ByteRange
  later : List ByteRange
  deriving DecidableEq, Repr

/-- What one byte does to a reading. -/
inductive Move where
  | done (c : Char)
  | more (b : Begun)
  | refuse

/-- A byte where a character has to begin. -/
def lead (b : UInt8) : Move :=
  let n := b.toNat
  if n < 0x80 then .done (Char.ofNat n)
  -- `C0` and `C1` could begin only an overlong form of a character of one byte
  else if n < 0xC2 then .refuse
  else if n < 0xE0 then .more ⟨n - 0xC0, 1, tailRange, []⟩
  else if n = 0xE0 then .more ⟨0, 1, ⟨0xA0, 0xBF⟩, [tailRange]⟩
  else if n = 0xED then .more ⟨0xD, 1, ⟨0x80, 0x9F⟩, [tailRange]⟩
  else if n < 0xF0 then .more ⟨n - 0xE0, 1, tailRange, [tailRange]⟩
  else if n = 0xF0 then .more ⟨0, 1, ⟨0x90, 0xBF⟩, [tailRange, tailRange]⟩
  else if n < 0xF4 then .more ⟨n - 0xF0, 1, tailRange, [tailRange, tailRange]⟩
  else if n = 0xF4 then .more ⟨4, 1, ⟨0x80, 0x8F⟩, [tailRange, tailRange]⟩
  else .refuse

/-- A byte after a character has begun. -/
def Begun.feed (p : Begun) (b : UInt8) : Move :=
  if p.next.contains b then
    let value := p.value * 0x40 + (b.toNat - 0x80)
    match p.later with
    | [] => .done (Char.ofNat value)
    | next :: later => .more ⟨value, p.taken + 1, next, later⟩
  else .refuse

/-- Where and how bytes fail to be text: the first `validUpTo` bytes are text,
and the fault after them covers `errorLen` bytes, or is a character cut short
by the end when that is absent. -/
structure Malformed where
  validUpTo : Nat
  errorLen : Option Nat
  deriving DecidableEq, Repr

def Malformed.message (m : Malformed) : String :=
  match m.errorLen with
  | some n => s!"invalid utf-8 sequence of {n} bytes from index {m.validUpTo}"
  | none => s!"incomplete utf-8 byte sequence from index {m.validUpTo}"

/-- Decoding with a character possibly begun; `upTo` counts the bytes of the
characters completed so far. -/
def decodeFrom : Option Begun → Nat → List UInt8 → Except Malformed (List Char)
  | none, _, [] => .ok []
  | some _, upTo, [] => .error ⟨upTo, none⟩
  | none, upTo, b :: bs =>
    match lead b with
    | .done c => (c :: ·) <$> decodeFrom none (upTo + 1) bs
    | .more p => decodeFrom (some p) upTo bs
    | .refuse => .error ⟨upTo, some 1⟩
  | some p, upTo, b :: bs =>
    match p.feed b with
    | .done c => (c :: ·) <$> decodeFrom none (upTo + p.taken + 1) bs
    | .more q => decodeFrom (some q) upTo bs
    -- the byte that does not fit may begin a character, so it is no part of the fault
    | .refuse => .error ⟨upTo, some p.taken⟩

/-- The characters of a byte sequence, or the first fault in it. -/
def decode (bytes : List UInt8) : Except Malformed (List Char) := decodeFrom none 0 bytes

def toString? (bytes : List UInt8) : Option String :=
  match decode bytes with
  | .ok cs => some (String.ofList cs)
  | .error _ => none

/-! ## Showing any bytes -/

def replacement : Char := '\uFFFD'

/-- A byte at the start of a character: what is shown for it now, and what it begins. -/
def showLead (b : UInt8) : List Char × Option Begun :=
  match lead b with
  | .done c => ([c], none)
  | .more p => ([], some p)
  | .refuse => ([replacement], none)

/-- A byte anywhere.  One that does not fit a begun character closes it with a
replacement character and is then read afresh. -/
def showByte : Option Begun → UInt8 → List Char × Option Begun
  | none, b => showLead b
  | some p, b =>
    match p.feed b with
    | .done c => ([c], none)
    | .more q => ([], some q)
    | .refuse => (replacement :: (showLead b).1, (showLead b).2)

/-- Showing with a character possibly begun. -/
def lossyFrom : Option Begun → List UInt8 → List Char
  | none, [] => []
  | some _, [] => [replacement]
  | begun, b :: bs => (showByte begun b).1 ++ lossyFrom (showByte begun b).2 bs

/-- Bytes as text, with one replacement character for each fault. -/
def lossy (bytes : List UInt8) : String := String.ofList (lossyFrom none bytes)

end GrammarQueries.Utf8
