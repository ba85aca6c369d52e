/-
# GrammarQueries.Query.Regex.Reader -- the expression that a text spells

A text is read from left to right with a state that holds what is open: the
groups around the place, and the sets in brackets.  Each step takes one
character and what belongs to it (`Reader.step`), so reading ends
(`Reader.run`).

A text is refused for brackets that do not pair, a repetition of nothing or with
a bad count, a range that runs backwards, an escape without a meaning (a back
reference is one), a group opening without a meaning (looking around is one) and
a group name given twice.
-/
import GrammarQueries.Query.Regex.Escape
import GrammarQueries.Unicode.Alphanumeric

namespace GrammarQueries.Query.Regex

set_option autoImplicit false

/-! ## Sets in brackets -/

/-- A part of a set in brackets: how deep its own parts stand, and its members. -/
structure SetPart where
  depth : Nat
  members : CharSet

inductive SetOperation where
  | inter
  | diff
  | symmDiff
  deriving DecidableEq, Repr

/-- The operation whose sign is a character written twice. -/
def SetOperation.ofSign? : Char → Option SetOperation
  | '&' => some .inter
  | '-' => some .diff
  | '~' => some .symmDiff
  | _ => none

def SetOperation.apply (a : Alphabet) : SetOperation → CharSet → CharSet → CharSet
  | .inter => CharSet.inter a
  | .diff => CharSet.diff a
  | .symmDiff => CharSet.symmDiff a

structure Bracket where
  negated : Bool
  /-- The operation before the parts that are read, and all that stands before it. -/
  left? : Option (SetOperation × SetPart)
  /-- The parts read since, last first. -/
  parts : List SetPart

namespace Bracket

def add (b : Bracket) (p : SetPart) : Bracket := { b with parts := p :: b.parts }

/-- The parts read since the last operation, as one. -/
def together (b : Bracket) : SetPart :=
  match b.parts with
  | [] => ⟨0, .empty⟩
  | [p] => p
  | ps =>
    ⟨(ps.map SetPart.depth).foldl max 0 + 1, (ps.map SetPart.members).foldl CharSet.union .empty⟩

def content (a : Alphabet) (b : Bracket) : SetPart :=
  match b.left? with
  | none => b.together
  | some (operation, left) =>
    let right := b.together
    ⟨max left.depth right.depth + 1, operation.apply a left.members right.members⟩

/-- The bracket behind the sign of an operation. -/
def operate (a : Alphabet) (b : Bracket) (operation : SetOperation) : Bracket :=
  ⟨b.negated, some (operation, b.content a), []⟩

def close (a : Alphabet) (b : Bracket) : SetPart :=
  let all := b.content a
  ⟨all.depth + 1, if b.negated then all.members.others a else all.members⟩

end Bracket

/-- The ASCII classes that have a name of their own in brackets. -/
def asciiClasses : List (String × List (Nat × Nat)) := [
  ("alnum", [(0x30, 0x39), (0x41, 0x5A), (0x61, 0x7A)]), ("alpha", [(0x41, 0x5A), (0x61, 0x7A)]),
  ("ascii", [(0x00, 0x7F)]), ("blank", [(0x09, 0x09), (0x20, 0x20)]),
  ("cntrl", [(0x00, 0x1F), (0x7F, 0x7F)]), ("digit", [(0x30, 0x39)]), ("graph", [(0x21, 0x7E)]),
  ("lower", [(0x61, 0x7A)]), ("print", [(0x20, 0x7E)]),
  ("punct", [(0x21, 0x2F), (0x3A, 0x40), (0x5B, 0x60), (0x7B, 0x7E)]),
  ("space", [(0x09, 0x0D), (0x20, 0x20)]), ("upper", [(0x41, 0x5A)]),
  ("word", [(0x30, 0x39), (0x41, 0x5A), (0x5F, 0x5F), (0x61, 0x7A)]),
  ("xdigit", [(0x30, 0x39), (0x41, 0x46), (0x61, 0x66)])]

/-- An ASCII class such as `[:alpha:]` behind its first bracket: its members, and how many
characters it takes. -/
def asciiClass? (f : Flags) (cs : List Char) : Option (CharSet × Nat) :=
  match cs with
  | ':' :: rest =>
    let negated := rest.head? = some '^'
    let body := if negated then rest.tail else rest
    let name := body.takeWhile (· != ':')
    match asciiClasses.lookup (String.ofList name) with
    | none => none
    | some ranges =>
      let members := f.fold (.ofRanges ranges)
      if (body.drop name.length).take 2 = [':', ']'] then
        some (if negated then (members.others f.alphabet, name.length + 4)
          else (members, name.length + 3))
      else none
  | _ => none

/-- The character that comes next, where a hyphen asks whether it stands for a range.  Within a
comment it is the first of the comment. -/
def nextThing? (verbose : Bool) (cs : List Char) : Option Char :=
  if verbose then
    let rest := cs.dropWhile Unicode.isWhitespace
    let seen := if rest.head? = some '#' then rest.tail.dropWhile Unicode.isWhitespace else rest
    seen.head?.or cs.head?
  else cs.head?

namespace Scan

/-- Takes the beginning of a set behind its bracket: a negation, and the hyphens or the bracket
that stand for themselves there. -/
def openBracket (f : Flags) : Scan Bracket := do
  blanks f.verbose
  let negated := (← ahead).head? = some '^'
  if negated then
    skip 1
    blanks f.verbose
  let hyphens ← each f.verbose (· = '-')
  let firstCloses := hyphens.isEmpty && (← ahead).head? = some ']'
  if firstCloses then
    skip 1
    blanks f.verbose
  let own := if firstCloses then [']'] else hyphens
  return ⟨negated, none, own.map fun c => ⟨0, f.fold (.single c.toNat)⟩⟩

/-- Goes on with a member of a set whose first character was `c`. -/
def bracketItem (f : Flags) (c : Char) : Scan Primitive :=
  if c = '\\' then escape f else pure (.literal c.toNat false)

/-- Goes on with a member or a range whose first character was `c`. -/
def bracketRange (f : Flags) (c : Char) : Scan SetPart := do
  let first ← bracketItem f c
  blanks f.verbose
  let isRange := match ← ahead with
    | '-' :: rest =>
      let next := nextThing? f.verbose rest
      next ≠ some ']' && next ≠ some '-'
    | _ => false
  if isRange then
    skip 1
    blanks f.verbose
    let second ← bracketItem f (← char)
    return ⟨0, ← given (first.rangeMembers? f second)⟩
  else return ⟨0, ← given (first.members? f)⟩

/-! ## Counts -/

def largestCount : Nat := 0xFFFFFFFF

/-- Takes a number, with blanks around it. -/
def count (verbose : Bool) : Scan Nat := do
  let _ ← takeWhile Unicode.isWhitespace
  let digits ← each verbose Char.isDigit
  let _ ← takeWhile Unicode.isWhitespace
  blanks verbose
  let value := digits.foldl (fun n d => n * 10 + (d.toNat - '0'.toNat)) 0
  if digits.isEmpty || largestCount < value then refuse else return value

/-- Takes the bounds of a counted repetition behind the brace: a count, a lower bound, or two
bounds in order. -/
def bounds (verbose : Bool) : Scan (Nat × Option Nat) := do
  blanks verbose
  let least ← count verbose
  match ← char with
  | '\x7d' => return (least, some least)
  | ',' => do
    blanks verbose
    if (← ahead).head? = some '\x7d' then
      skip 1
      return (least, none)
    else
      let most ← count verbose
      expect '\x7d'
      if least ≤ most then return (least, some most) else refuse
  | _ => refuse

/-! ## Groups -/

def isNameStart (c : Char) : Bool := c = '_' || Unicode.isAlphabetic c

def isNamePart (c : Char) : Bool :=
  c = '_' || c = '.' || c = '[' || c = ']' || Unicode.isAlphanumeric c

def groupName : Scan (List Char) := do
  let name ← takeWhile (· != '>')
  expect '>'
  match name with
  | [] => refuse
  | c :: rest => if isNameStart c && rest.all isNamePart then return name else refuse

/-- What opens behind a round bracket. -/
inductive Opening where
  | group (captures : Bool) (flags : Flags)
  | named (name : List Char)
  /-- Flags for what follows, and no group. -/
  | flags (flags : Flags)

/-- Takes flags behind a question mark, and what ends them. -/
def flagOpening (f : Flags) : Scan Opening := do
  let flags ← takeWhile (fun c => c != ':' && c != ')')
  let last ← char
  if !Flags.areFlags flags then refuse
  else if last = ':' then return .group false (f.apply flags)
  else if flags.isEmpty then refuse
  else return .flags (f.apply flags)

/-- Takes the beginning of a group behind its bracket.  Looking around is not provided. -/
def opening (f : Flags) : Scan Opening := do
  blanks f.verbose
  match ← ahead with
  | '?' :: '=' :: _ | '?' :: '!' :: _ => refuse
  | '?' :: '<' :: '=' :: _ | '?' :: '<' :: '!' :: _ => refuse
  | '?' :: 'P' :: '<' :: _ => do
    skip 3
    return .named (← groupName)
  | '?' :: '<' :: _ => do
    skip 2
    return .named (← groupName)
  | '?' :: _ => do
    skip 1
    flagOpening f
  | _ => return .group true f

end Scan

/-! ## The state of reading -/

/-- What stands before the place in the innermost group, last first. -/
structure Level where
  /-- The branches that are complete. -/
  branches : List Expression
  /-- The items of the branch that is read. -/
  items : List Expression

namespace Level

def empty : Level := ⟨[], []⟩

def add (l : Level) (e : Expression) : Level := { l with items := e :: l.items }

def branch (l : Level) : Level := ⟨.ofItems l.items.reverse :: l.branches, []⟩

def expression (l : Level) : Expression := .ofBranches l.branch.branches.reverse

/-- Repeats the last item, if there is one; flags are no item to repeat. -/
def repeatLast? (l : Level) (least : Nat) (most? : Option Nat) : Option Level :=
  match l.items with
  | [] | .flags :: _ => none
  | e :: before => some { l with items := .repeated e least most? :: before }

end Level

/-- An open group, with the level around it and the flags to go back to. -/
structure OpenGroup where
  captures : Bool
  around : Level
  flags : Flags

/-- The state in the middle of a text. -/
structure Reader where
  flags : Flags
  names : List (List Char)
  level : Level
  /-- The groups around the place, innermost first. -/
  groups : List OpenGroup
  /-- The brackets around the place, innermost first. -/
  brackets : List Bracket

namespace Reader

def initial : Reader := ⟨.initial, [], .empty, [], []⟩

def add (r : Reader) (e : Expression) : Reader := { r with level := r.level.add e }

def openGroup (r : Reader) (captures : Bool) (flags : Flags) : Reader :=
  { r with
    flags := flags
    level := .empty
    groups := ⟨captures, r.level, r.flags⟩ :: r.groups }

/-- Closes the innermost group, if one is open. -/
def closeGroup? (r : Reader) : Option Reader :=
  match r.groups with
  | [] => none
  | g :: outer =>
    some { r with
      flags := g.flags
      level := g.around.add (.group g.captures r.level.expression)
      groups := outer }

/-- Closes the innermost bracket `b`: its set is a part of the one around it, or an item. -/
def closeBracket (r : Reader) (b : Bracket) (outer : List Bracket) : Reader :=
  let a := r.flags.alphabet
  let part := b.close a
  match outer with
  | [] => { r with brackets := [], level := r.level.add (.bracketed part.depth a part.members) }
  | o :: os => { r with brackets := o.add part :: os }

/-- A dot: any member of the alphabet but those that end a line. -/
def dot (f : Flags) : Expression :=
  let lineEnds := if f.carriageReturn then [(0x0A, 0x0A), (0x0D, 0x0D)] else [(0x0A, 0x0A)]
  .oneOf f.alphabet ((CharSet.ofRanges (if f.dotAll then [] else lineEnds)).others f.alphabet)

/-! ## Steps -/

def opened (r : Reader) : Scan Reader := do
  match ← Scan.opening r.flags with
  | .group captures flags => return r.openGroup captures flags
  | .named name =>
    if r.names.contains name then Scan.refuse
    else return { r.openGroup true r.flags with names := name :: r.names }
  | .flags flags => return { r.add .flags with flags := flags }

/-- Repeats the last item; a question mark behind the sign changes only what is preferred. -/
def repeated (r : Reader) (least : Nat) (most? : Option Nat) : Scan Reader := do
  if (← Scan.ahead).head? = some '?' then Scan.skip 1
  let level ← Scan.given (r.level.repeatLast? least most?)
  return { r with level := level }

/-- A step within the bracket `b`, with the character `c` taken. -/
def bracketStep (r : Reader) (b : Bracket) (outer : List Bracket) (c : Char) : Scan Reader := do
  let rest ← Scan.ahead
  let operation? := if rest.head? = some c then SetOperation.ofSign? c else none
  if c = '[' then
    match asciiClass? r.flags rest with
    | some (members, n) => do
      Scan.skip n
      return { r with brackets := b.add ⟨0, members⟩ :: outer }
    | none => return { r with brackets := (← Scan.openBracket r.flags) :: b :: outer }
  else if c = ']' then return r.closeBracket b outer
  else
    match operation? with
    | some operation => do
      Scan.skip 1
      return { r with brackets := b.operate r.flags.alphabet operation :: outer }
    | none => return { r with brackets := b.add (← Scan.bracketRange r.flags c) :: outer }

/-- A step outside brackets, with the character `c` taken. -/
def plainStep (r : Reader) (c : Char) : Scan Reader :=
  match c with
  | '(' => r.opened
  | ')' => Scan.given r.closeGroup?
  | '|' => pure { r with level := r.level.branch }
  | '[' => do return { r with brackets := [← Scan.openBracket r.flags] }
  | '?' => r.repeated 0 (some 1)
  | '*' => r.repeated 0 none
  | '+' => r.repeated 1 none
  | '\x7b' => do
    let (least, most?) ← Scan.bounds r.flags.verbose
    Scan.blanks r.flags.verbose
    r.repeated least most?
  | '.' => pure (r.add (dot r.flags))
  | '^' | '$' => pure (r.add .assertion)
  | '\\' => do return r.add (← Scan.given ((← Scan.escape r.flags).expression? r.flags))
  | _ => do return r.add (← Scan.given ((Primitive.literal c.toNat false).expression? r.flags))

def step (r : Reader) (c : Char) : Scan Reader :=
  match r.brackets with
  | [] => r.plainStep c
  | b :: outer => r.bracketStep b outer c

def run (r : Reader) (cs : List Char) : Option Reader :=
  match _ : if r.flags.verbose then Scan.passBlanks false cs else cs with
  | [] => some r
  | c :: rest =>
    match r.step c rest with
    | none => none
    | some (next, left) => next.run left.val
termination_by cs.length
decreasing_by
  rename_i h
  have shorter : (c :: rest).length ≤ cs.length := by
    rw [← h]
    split
    · exact (Scan.passBlanks_suffix false cs).length_le
    · exact Nat.le_refl _
  exact Nat.lt_of_lt_of_le (Nat.lt_succ_of_le left.length_le) shorter

/-- What was read, if nothing is left open. -/
def expression? (r : Reader) : Option Expression :=
  if r.groups.isEmpty && r.brackets.isEmpty then some r.level.expression else none

end Reader

def Expression.ofText? (text : String) : Option Expression :=
  (Reader.initial.run text.toList).bind Reader.expression?

end GrammarQueries.Query.Regex
