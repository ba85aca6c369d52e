/-
# GrammarQueries.Query.Reading -- reading the patterns of a query

A reading is a cursor with what has been read so far: the capture names in the
order of their numbers, and of the pattern in progress its predicates and its
steps.  A step begins with the outermost bracket, field name or quote in front
of it that no other step has taken.

Texts are kept once.  A text is taken for an earlier one that has as many bytes
and agrees with it up to a zero character, which ends the comparison.

Every reader takes at least one character when it succeeds, and its type says
so (`Shorter`); that is why reading ends.  A fault carries the cursor it is
found at, so a fault always lies in the source.
-/
import GrammarQueries.Query.Analysis
import GrammarQueries.Query.Cursor

namespace GrammarQueries.Query

set_option autoImplicit false

/-! ## What is read -/

inductive Argument where
  | capture (id : Nat)
  | literal (text : String)
  deriving DecidableEq, Repr

structure Predicate where
  operator : String
  args : List Argument
  deriving DecidableEq, Repr

/-- A pattern at the top of a query: its bounds, its steps and its predicates. -/
structure TopPattern (source : List Char) where
  start : Cursor source
  stop : Cursor source
  steps : Steps
  /-- Where steps begin, ascending; steps that only jump are not among them. -/
  places : List (Nat × Cursor source)
  predicates : List Predicate

/-- The place to which a step belongs: where it begins, or the next step that has a place. -/
def TopPattern.placeOf {source : List Char} (p : TopPattern source) (step : Nat) :
    Cursor source :=
  match p.places.find? (fun place => step ≤ place.1), p.places.getLast? with
  | some place, _ => place.2
  | none, some place => place.2
  | none, none => p.start

inductive FaultKind where
  | malformed
  | unknownNode
  | unknownField
  | unknownCapture
  | impossible
  deriving DecidableEq, Repr

structure Fault (source : List Char) where
  kind : FaultKind
  place : Cursor source

structure Reading (source : List Char) where
  cursor : Cursor source
  captures : List String
  /-- The texts with a zero character, each as it was read first. -/
  texts : List String
  /-- Whether the pattern in progress is the first one. -/
  isFirst : Bool
  predicates : List Predicate
  steps : Steps
  /-- Where steps begin, the last one first. -/
  places : List (Nat × Cursor source)

namespace Reading

variable {source : List Char}

def start (source : List Char) : Reading source := ⟨.start source, [], [], true, [], #[], []⟩

def beginPattern (r : Reading source) : Reading source :=
  { r with predicates := [], steps := #[], places := [] }

def size (r : Reading source) : Nat := r.cursor.rest.length

def peek (r : Reading source) : Char := r.cursor.peek

def moveTo (r : Reading source) (c : Cursor source) : Reading source := { r with cursor := c }

def advance (r : Reading source) : Reading source := r.moveTo r.cursor.advance

def skip (r : Reading source) : Reading source := r.moveTo r.cursor.skip

/-- The next step begins here unless it has begun already. -/
def beginStep (r : Reading source) : Reading source :=
  if r.places.head?.map Prod.fst = some r.steps.size then r
  else { r with places := (r.steps.size, r.cursor) :: r.places }

def withSteps (r : Reading source) (steps : Steps) : Reading source := { r with steps := steps }

def addStep (r : Reading source) (asked : Asked) (depth : Nat) : Reading source :=
  r.withSteps (r.steps.push (.plain asked depth))

/-- A name in front of which `@` stands: it gets the next number unless it has one. -/
def capture (r : Reading source) (name : String) : Reading source :=
  if r.captures.contains name then r else { r with captures := r.captures ++ [name] }

/-- Whether a text is taken for an earlier one. -/
def isTakenFor (earlier text : String) : Bool :=
  Utf8.byteLength earlier.toList == Utf8.byteLength text.toList &&
    earlier.toList.takeWhile (· != '\x00') == text.toList.takeWhile (· != '\x00')

/-- Keeps a text; gives the earlier one it is taken for, or the text itself. -/
def keep (r : Reading source) (text : String) : String × Reading source :=
  if text.toList.contains '\x00' then
    match r.texts.find? (isTakenFor · text) with
    | some earlier => (earlier, r)
    | none => (text, { r with texts := r.texts ++ [text] })
  else (text, r)

def addPredicate (r : Reading source) (p : Predicate) : Reading source :=
  { r with predicates := r.predicates ++ [p] }

def pastAnchor (r : Reading source) : Reading source :=
  if r.peek = '.' then r.advance.skip else r

def captureId? (r : Reading source) (name : String) : Option Nat :=
  r.captures.findIdx? (· == name)

def fault (r : Reading source) (kind : FaultKind) : Fault source := ⟨kind, r.cursor⟩

/-- The readings with fewer than `n` characters left. -/
abbrev Shorter (source : List Char) (n : Nat) := { r : Reading source // r.size < n }

@[simp] theorem size_moveTo (r : Reading source) (c : Cursor source) :
    (r.moveTo c).size = c.rest.length := rfl

@[simp] theorem size_beginPattern (r : Reading source) : r.beginPattern.size = r.size := rfl

@[simp] theorem size_beginStep (r : Reading source) : r.beginStep.size = r.size := by
  unfold beginStep
  split <;> rfl

@[simp] theorem size_withSteps (r : Reading source) (steps : Steps) :
    (r.withSteps steps).size = r.size := rfl

@[simp] theorem size_addStep (r : Reading source) (asked : Asked) (depth : Nat) :
    (r.addStep asked depth).size = r.size := rfl

@[simp] theorem size_keep (r : Reading source) (text : String) : (r.keep text).2.size = r.size := by
  unfold keep
  split
  · split <;> rfl
  · rfl

@[simp] theorem size_capture (r : Reading source) (name : String) :
    (r.capture name).size = r.size := by
  unfold capture
  split <;> rfl

@[simp] theorem size_addPredicate (r : Reading source) (p : Predicate) :
    (r.addPredicate p).size = r.size := rfl

theorem size_skip (r : Reading source) : r.skip.size ≤ r.size :=
  Cursor.length_rest_skip r.cursor

theorem size_advance (r : Reading source) : r.advance.size ≤ r.size :=
  Cursor.length_rest_advance r.cursor

theorem size_pastAnchor (r : Reading source) : r.pastAnchor.size ≤ r.size := by
  unfold pastAnchor
  split
  · exact Nat.le_trans r.advance.size_skip r.size_advance
  · exact Nat.le_refl _

theorem size_advance_lt {r : Reading source} {c : Char} {cs : List Char}
    (h : r.cursor.rest = c :: cs) : r.advance.size < r.size :=
  Cursor.length_rest_advance_lt h

/-! ## Behind a pattern -/

/-- Reads quantifiers and captures of the pattern that begins at step `i`, in any order and
number. -/
def suffixes (r : Reading source) (i depth : Nat) :
    Except (Fault source) { s : Reading source // s.size ≤ r.size } :=
  have skipped := r.size_skip
  match h : r.skip.cursor.rest with
  | [] => .ok ⟨r.skip, skipped⟩
  | c :: _ =>
    have shorter := size_advance_lt h
    if c = '+' ∨ c = '*' ∨ c = '?' then do
      let repeated := if c = '?' then r.steps else r.steps.repeatFrom i depth
      let steps :=
        if c = '+' then repeated
        else if c = '*' then repeated.skipFrom i (repeated.size - 1)
        else repeated.skipFrom i repeated.size
      let ⟨s, hs⟩ ← (r.skip.advance.withSteps steps).suffixes i depth
      return ⟨s, by rw [size_withSteps] at hs; omega⟩
    else if c = '@' then
      match hi : r.skip.advance.cursor.identifier? with
      | none => .error (r.skip.advance.fault .malformed)
      | some (name, d) => do
        have named : ((r.skip.moveTo d).capture name).size < r.skip.advance.size := by
          rw [size_capture]
          exact Cursor.length_rest_identifier hi
        let ⟨s, hs⟩ ← ((r.skip.moveTo d).capture name).suffixes i depth
        return ⟨s, by omega⟩
    else .ok ⟨r.skip, skipped⟩
termination_by r.size
decreasing_by
  · rw [size_withSteps]
    omega
  · omega

/-! ## Predicates -/

def arguments (r : Reading source) (read : List Argument) :
    Except (Fault source) (List Argument × Shorter source r.size) :=
  match h : r.cursor.rest with
  | [] => .error (r.fault .malformed)
  | c :: _ =>
    have shorter := size_advance_lt h
    if c = ')' then
      .ok (read, ⟨r.advance.skip, Nat.lt_of_le_of_lt r.advance.size_skip shorter⟩)
    else if c = '@' then
      match hi : r.advance.cursor.identifier? with
      | none => .error (r.advance.fault .malformed)
      | some (name, d) =>
        match r.captureId? name with
        | none => .error (r.advance.fault .unknownCapture)
        | some id => do
          have named : d.rest.length < r.advance.size := Cursor.length_rest_identifier hi
          have skipped : (r.moveTo d).skip.size ≤ d.rest.length := (r.moveTo d).size_skip
          let ⟨args, s, hs⟩ ← (r.moveTo d).skip.arguments (read ++ [.capture id])
          return (args, ⟨s, Nat.lt_trans (Nat.lt_of_lt_of_le hs skipped) (Nat.lt_trans named shorter)⟩)
    else if c = '"' then
      match hq : r.cursor.string? with
      | none => .error (r.fault .malformed)
      | some (text, d) => do
        have quoted : d.rest.length < r.size := Cursor.length_rest_string h hq
        have skipped : ((r.moveTo d).keep text).2.skip.size ≤ d.rest.length := by
          have := ((r.moveTo d).keep text).2.size_skip
          rwa [size_keep, size_moveTo] at this
        let ⟨args, s, hs⟩ ← ((r.moveTo d).keep text).2.skip.arguments
          (read ++ [.literal ((r.moveTo d).keep text).1])
        return (args, ⟨s, Nat.lt_trans (Nat.lt_of_lt_of_le hs skipped) quoted⟩)
    else
      match hi : r.cursor.identifier? with
      | none => .error (r.fault .malformed)
      | some (text, d) => do
        have named : d.rest.length < r.size := Cursor.length_rest_identifier hi
        have skipped : (r.moveTo d).skip.size ≤ d.rest.length := (r.moveTo d).size_skip
        let ⟨args, s, hs⟩ ← (r.moveTo d).skip.arguments (read ++ [.literal text])
        return (args, ⟨s, Nat.lt_trans (Nat.lt_of_lt_of_le hs skipped) named⟩)
termination_by r.size

/-- Reads a predicate behind its mark, and adds it to those of the pattern. -/
def predicate (r : Reading source) : Except (Fault source) (Shorter source r.size) :=
  match hi : r.cursor.identifier? with
  | none => .error (r.fault .malformed)
  | some (operator, d) => do
    have named : d.rest.length < r.size := Cursor.length_rest_identifier hi
    have skipped : (r.moveTo d).skip.size ≤ d.rest.length := (r.moveTo d).size_skip
    let ⟨args, s, hs⟩ ← (r.moveTo d).skip.arguments []
    return ⟨s.addPredicate ⟨operator, args⟩, by rw [size_addPredicate]; omega⟩

/-! ## What a node asks for -/

/-- What a step asks for that looks for a symbol, perhaps as a subtype of another. -/
def asking (id : SymbolId) (supertype? : Option SymbolId) : Asked :=
  if id = Grammar.errorSymbol then .error else .kind id supertype?

/-- The name that asks for a node the parser had to add; its beginnings do too. -/
def missingName : String := "MISSING"

/-- The number of the kind of node called `name`; an unknown name is a fault at its beginning. -/
def knownNode (g : Grammar) (name : String) (named : Bool) (place : Cursor source) :
    Except (Fault source) SymbolId :=
  match g.kindId name named with
  | 0 => .error ⟨.unknownNode, place⟩
  | id => .ok id

/-- Reads what is asked for behind `MISSING`: a named node, a token, or anything. -/
def missingNode (g : Grammar) (r : Reading source) :
    Except (Fault source) (Option SymbolId × { s : Reading source // s.size ≤ r.size }) :=
  have skipped := r.size_skip
  match h : r.skip.cursor.rest with
  | [] => .error (r.skip.fault .malformed)
  | c :: _ =>
    match hi : r.skip.cursor.identifier? with
    | some (name, d) => do
      have named : d.rest.length < r.skip.size := Cursor.length_rest_identifier hi
      let id ← knownNode g name true r.skip.cursor
      return (some id, ⟨r.moveTo d, by simp only [size_moveTo]; omega⟩)
    | none =>
      if c = '"' then
        match hq : r.skip.cursor.string? with
        | none => .error (r.skip.fault .malformed)
        | some (text, d) => do
          have quoted : d.rest.length < r.skip.size := Cursor.length_rest_string h hq
          let id ← knownNode g text false r.skip.cursor.advance
          return (some id, ⟨r.moveTo d, by simp only [size_moveTo]; omega⟩)
      else if c = ')' then .ok (none, ⟨r.skip, skipped⟩)
      else .error (r.skip.fault .malformed)

/-- Reads the subtype behind a supertype, the cursor being at the slash; `name` is where the
supertype's name begins. -/
def subtypeNode (g : Grammar) (supertype : SymbolId) (name : Cursor source)
    (r : Reading source) :
    Except (Fault source) (SymbolId × { s : Reading source // s.size ≤ r.size }) :=
  have shorter := r.size_advance
  match hi : r.advance.cursor.identifier? with
  | none => .error (r.advance.fault .malformed)
  | some (text, d) => do
    have named : d.rest.length < r.advance.size := Cursor.length_rest_identifier hi
    have skipped := (r.moveTo d).size_skip
    let id ← knownNode g text true r.advance.cursor
    if subtypesAbi ≤ g.abiVersion ∧ ¬(g.subtypesOf supertype).contains id then
      throw ⟨.impossible, name.back⟩
    return (id, ⟨(r.moveTo d).skip, by simp only [size_moveTo] at skipped; omega⟩)

/-- Reads the name behind the bracket of a node and a subtype behind it. -/
def nodeName (g : Grammar) (r : Reading source) :
    Except (Fault source) (Asked × Shorter source r.size) :=
  match hi : r.cursor.identifier? with
  | none => .error (r.fault .malformed)
  | some (name, d) => do
    have named : d.rest.length < r.size := Cursor.length_rest_identifier hi
    let ⟨asked, s, hs⟩ ←
      if name = "_" then pure (none, ⟨r.moveTo d, Nat.le_refl _⟩)
      else if name.toList.isPrefixOf missingName.toList then missingNode g (r.moveTo d)
      else do
        let id ← knownNode g name true r.cursor
        pure (some id, ⟨r.moveTo d, Nat.le_refl _⟩)
    have skipped := s.size_skip
    if s.skip.peek = '/' then
      match asked.filter g.isSupertype with
      | none => throw ⟨.impossible, r.cursor.back⟩
      | some supertype =>
        let ⟨id, t, ht⟩ ← subtypeNode g supertype r.cursor s.skip
        return (asking id (some supertype), ⟨t, by simp only [size_moveTo] at hs; omega⟩)
    else
      let found := match asked with
        | none => .anyNamed
        | some id => if g.isSupertype id then .subtypeOf id else asking id none
      return (found, ⟨s.skip, by simp only [size_moveTo] at hs; omega⟩)

/-! ## Patterns -/

/-- What stands where a pattern may stand. -/
inductive Item (source : List Char) (n : Nat) where
  /-- A closing bracket, which is not taken. -/
  | closer
  | pattern (next : Shorter source n)

/-- A pattern that begins at step `i`, with what stands behind it. -/
def finish {n : Nat} (i depth : Nat) (s : Shorter source n) :
    Except (Fault source) (Item source n) := do
  let ⟨t, ht⟩ ← s.val.suffixes i depth
  return .pattern ⟨t, Nat.lt_of_le_of_lt ht s.property⟩

mutual

def pattern (g : Grammar) (depth : Nat) (r : Reading source) :
    Except (Fault source) (Item source r.size) :=
  match h : r.cursor.rest with
  | [] => .error (r.fault .malformed)
  | c :: _ =>
    have same := r.size_beginStep
    have shorter : r.beginStep.advance.size < r.beginStep.size := by
      have left : r.beginStep.cursor.rest = c :: r.cursor.rest.tail := by
        unfold beginStep
        split <;> simp [h]
      exact size_advance_lt left
    have behind := r.beginStep.advance.size_skip
    if c = '\x00' then .error (r.fault .malformed)
    else if c = ')' ∨ c = ']' then .ok .closer
    else if c = '[' then do
      let ⟨branches, s, hs⟩ ← alternatives g depth r.beginStep.advance.skip []
      finish r.steps.size depth ⟨s.withSteps (s.steps.closeBranches branches),
        by rw [size_withSteps]; omega⟩
    else if c = '(' then
      let inner := r.beginStep.advance.skip
      have innerShorter : inner.size < r.size := by
        show r.beginStep.advance.skip.size < r.size
        omega
      have marked : inner.advance.size ≤ inner.size := inner.size_advance
      if inner.peek = '(' ∨ inner.peek = '"' ∨ inner.peek = '[' then do
        let ⟨s, hs⟩ ← group g depth inner
        finish r.steps.size depth ⟨s, by omega⟩
      else if inner.peek = '.' ∨ inner.peek = '#' then do
        let ⟨s, hs⟩ ← inner.advance.predicate
        return .pattern ⟨s, by omega⟩
      else do
        let ⟨asked, s, hs⟩ ← nodeName g inner
        have added : (s.addStep asked depth).size < inner.size := hs
        let ⟨t, ht⟩ ← children g (depth + 1) (s.addStep asked depth) false none
        finish r.steps.size depth ⟨t, by omega⟩
    else if c = '_' then
      finish r.steps.size depth
        ⟨r.beginStep.advance.addStep .anything depth, by rw [size_addStep]; omega⟩
    else if c = '"' then
      match hq : r.cursor.string? with
      | none => .error (r.fault .malformed)
      | some (text, d) => do
        let id ← knownNode g text false r.cursor.advance
        finish r.steps.size depth ⟨(r.beginStep.moveTo d).addStep (asking id none) depth,
          Cursor.length_rest_string h hq⟩
    else
      match hi : r.cursor.identifier? with
      | none => .error (r.fault .malformed)
      | some (name, d) => do
        have named : d.rest.length < r.size := Cursor.length_rest_identifier hi
        let colon := (r.beginStep.moveTo d).skip
        if colon.peek ≠ ':' then throw (r.fault .malformed)
        let inner := colon.advance.skip
        have innerShorter : inner.size < r.size := by
          have a : colon.size ≤ d.rest.length := (r.beginStep.moveTo d).size_skip
          have b := colon.size_advance
          have c : inner.size ≤ colon.advance.size := colon.advance.size_skip
          omega
        match ← pattern g depth inner with
        | .closer => throw (inner.fault .malformed)
        | .pattern ⟨s, hs⟩ =>
          match g.fieldNumber name with
          | 0 => throw (r.fault .unknownField)
          | id =>
            finish r.steps.size depth ⟨s.withSteps (s.steps.inField r.steps.size id),
              by rw [size_withSteps]; omega⟩
termination_by 2 * r.size

/-- Reads the branches of an alternation up to its bracket; there has to be one.  Gives the
step at which each begins. -/
def alternatives (g : Grammar) (depth : Nat) (r : Reading source) (begun : List Nat) :
    Except (Fault source) (List Nat × Shorter source r.size) := do
  match ← pattern g depth r with
  | .closer =>
    match h : r.cursor.rest with
    | ']' :: _ =>
      if begun.isEmpty then throw (r.fault .malformed)
      return (begun, ⟨r.advance, size_advance_lt h⟩)
    | _ => throw (r.fault .malformed)
  | .pattern ⟨s, hs⟩ =>
    have ended : (s.withSteps (s.steps.endBranch depth)).size < r.size := hs
    let ⟨branches, t, ht⟩ ←
      alternatives g depth (s.withSteps (s.steps.endBranch depth)) (begun ++ [r.steps.size])
    return (branches, ⟨t, by omega⟩)
termination_by 2 * r.size + 1

/-- Reads the members of a group, with anchors between them, up to its bracket. -/
def group (g : Grammar) (depth : Nat) (r : Reading source) :
    Except (Fault source) (Shorter source r.size) := do
  have le := r.size_pastAnchor
  match ← pattern g depth r.pastAnchor with
  | .closer =>
    match h : r.pastAnchor.cursor.rest with
    | ')' :: _ =>
      have shorter := size_advance_lt h
      return ⟨r.pastAnchor.advance, by omega⟩
    | _ => throw (r.pastAnchor.fault .malformed)
  | .pattern ⟨s, hs⟩ =>
    let ⟨t, ht⟩ ← group g depth s
    return ⟨t, by omega⟩
termination_by 2 * r.size + 1

/-- Reads the children of a node, with anchors and absent fields between them, up to its
bracket.  `last?` is the step of the child read last, or the step before it if that child is
a predicate.  An anchor at the end holds on to that step, which cannot be the first of all. -/
def children (g : Grammar) (depth : Nat) (r : Reading source) (anchored : Bool)
    (last? : Option Nat) : Except (Fault source) (Shorter source r.size) := do
  have a := r.size_advance
  have b := r.advance.size_skip
  if r.peek = '!' then
    match hi : r.advance.skip.cursor.identifier? with
    | none => throw (r.advance.skip.fault .malformed)
    | some (name, d) =>
      have named : d.rest.length < r.advance.skip.size := Cursor.length_rest_identifier hi
      have skipped : (r.moveTo d).skip.size ≤ d.rest.length := (r.moveTo d).size_skip
      if g.fieldNumber name = 0 then throw (r.advance.skip.fault .unknownField)
      let ⟨t, ht⟩ ← children g depth (r.moveTo d).skip anchored last?
      return ⟨t, by omega⟩
  else
    have le := r.size_pastAnchor
    match ← pattern g depth r.pastAnchor with
    | .closer =>
      match h : r.pastAnchor.cursor.rest with
      | ')' :: _ =>
        have shorter := size_advance_lt h
        let loose := match last? with
          | none => true
          | some i => r.isFirst && i == 0
        if (anchored || r.peek = '.') && loose then
          throw (r.pastAnchor.fault .malformed)
        return ⟨r.pastAnchor.advance, by omega⟩
      | _ => throw (r.pastAnchor.fault .malformed)
    | .pattern ⟨s, hs⟩ =>
      let child := if s.steps.size = r.steps.size then r.steps.size - 1 else r.steps.size
      let ⟨t, ht⟩ ← children g depth s false (some child)
      return ⟨t, by omega⟩
termination_by 2 * r.size + 1

end

/-! ## Whole queries -/

/-- Reads patterns up to the end of the source; gives the capture names too. -/
def topPatterns (g : Grammar) (r : Reading source) :
    Except (Fault source) (List String × List (TopPattern source)) :=
  if r.cursor.rest = [] then .ok (r.captures, [])
  else do
    match ← pattern g 0 r.beginPattern with
    | .closer => throw (r.fault .malformed)
    | .pattern ⟨s, hs⟩ =>
      have : s.size < r.size := hs
      let ⟨captures, later⟩ ← topPatterns g { s with isFirst := false }
      return (captures, ⟨r.cursor, s.cursor, s.steps, s.places.reverse, s.predicates⟩ :: later)
termination_by r.size

def query (g : Grammar) (source : List Char) :
    Except (Fault source) (List String × List (TopPattern source)) :=
  topPatterns g (start source).skip

end Reading

end GrammarQueries.Query
