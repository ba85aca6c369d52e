/-
# GrammarQueries.Query.Regex.Scan -- reading a text from left to right

A scan takes characters from the beginning of a text and gives a value, or it
refuses the text.  What it leaves is always an end of the text (`Left`), so a
loop that takes one character before each scan comes to an end.

Where a text is written with room for comments, blanks and comments stand
between any two parts and are passed over (`Scan.blanks`, `Scan.each`).
-/
import GrammarQueries.Unicode.Whitespace

namespace GrammarQueries.Query.Regex

set_option autoImplicit false

/-! ## What is left -/

/-- An end of a text. -/
abbrev Left (cs : List Char) := { rest : List Char // rest <:+ cs }

theorem Left.length_le {cs : List Char} (left : Left cs) : left.val.length ≤ cs.length :=
  left.property.length_le

/-- A reader of the beginning of a text. -/
def Scan (α : Type) : Type := (cs : List Char) → Option (α × Left cs)

namespace Scan

instance : Monad Scan where
  pure a := fun cs => some (a, ⟨cs, List.suffix_refl cs⟩)
  bind s f := fun cs =>
    match s cs with
    | none => none
    | some (a, left) =>
      match f a left.val with
      | none => none
      | some (b, last) => some (b, ⟨last.val, last.property.trans left.property⟩)

def refuse {α : Type} : Scan α := fun _ => none

def given {α : Type} (a? : Option α) : Scan α :=
  match a? with
  | some a => pure a
  | none => refuse

/-- The whole text ahead, which stays. -/
def ahead : Scan (List Char) := fun cs => some (cs, ⟨cs, List.suffix_refl cs⟩)

def skip (n : Nat) : Scan Unit := fun cs => some ((), ⟨cs.drop n, List.drop_suffix n cs⟩)

/-- Takes a character; there has to be one. -/
def char : Scan Char
  | [] => none
  | c :: cs => some (c, ⟨cs, List.suffix_cons c cs⟩)

/-- Takes the character `c`, which has to be there. -/
def expect (c : Char) : Scan Unit := do
  if (← char) = c then pure () else refuse

def takeWhile (p : Char → Bool) : Scan (List Char) := fun cs =>
  some (cs.takeWhile p, ⟨cs.dropWhile p, List.dropWhile_suffix p⟩)

/-! ## Blanks and comments -/

/-- A text without the blanks and comments at its beginning; a comment goes from `#` to the end
of the line. -/
def passBlanks (inComment : Bool) : List Char → List Char
  | [] => []
  | c :: cs =>
    if inComment then passBlanks (c != '\n') cs
    else if Unicode.isWhitespace c then passBlanks false cs
    else if c = '#' then passBlanks true cs
    else c :: cs

theorem passBlanks_suffix (inComment : Bool) (cs : List Char) :
    passBlanks inComment cs <:+ cs := by
  fun_induction passBlanks inComment cs with
  | case1 | case5 => exact List.suffix_refl _
  | case2 | case3 | case4 => exact .trans (by assumption) (List.suffix_cons _ _)

/-- Passes over blanks and comments in a text that has room for them. -/
def blanks (verbose : Bool) : Scan Unit := fun cs =>
  if verbose then some ((), ⟨passBlanks false cs, passBlanks_suffix false cs⟩)
  else some ((), ⟨cs, List.suffix_refl cs⟩)

/-- The characters that qualify, with blanks and comments between them left out, and the rest. -/
def pick (p : Char → Bool) (inComment : Bool) : List Char → List Char × List Char
  | [] => ([], [])
  | c :: cs =>
    if inComment then pick p (c != '\n') cs
    else if Unicode.isWhitespace c then pick p false cs
    else if c = '#' then pick p true cs
    else if p c then
      let later := pick p false cs
      (c :: later.1, later.2)
    else ([], c :: cs)

theorem pick_suffix (p : Char → Bool) (inComment : Bool) (cs : List Char) :
    (pick p inComment cs).2 <:+ cs := by
  fun_induction pick p inComment cs with
  | case1 | case6 => exact List.suffix_refl _
  | case2 | case3 | case4 | case5 => exact .trans (by assumption) (List.suffix_cons _ _)

/-- Takes the characters that qualify; in a text with room for them, blanks and comments may
stand between these and behind the last. -/
def each (verbose : Bool) (p : Char → Bool) : Scan (List Char) := fun cs =>
  if verbose then some ((pick p false cs).1, ⟨(pick p false cs).2, pick_suffix p false cs⟩)
  else takeWhile p cs

end Scan

end GrammarQueries.Query.Regex
