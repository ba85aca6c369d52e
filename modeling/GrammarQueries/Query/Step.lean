/-
# GrammarQueries.Query.Step -- a pattern as a list of steps

A pattern is matched by steps that are taken one after the other, children
right behind their parent and one level deeper.  Choices are made by jumps: a
step can have an alternative, which is tried beside it.  The branches of an
alternation are separated by dead ends that jump behind the last branch, what
is repeated ends in a step that jumps back, and what is optional has an
alternative behind it.

A step number that is the number of all steps stands for the end of the pattern.
-/
import GrammarQueries.Grammar.Basic

namespace GrammarQueries.Query

set_option autoImplicit false

/-- What a step asks of a node. -/
inductive Asked where
  /-- Any node or token. -/
  | anything
  /-- Any node with a name. -/
  | anyNamed
  /-- Anything that stands for a supertype. -/
  | subtypeOf (supertype : SymbolId)
  | error
  /-- A node of one kind, if asked for as a subtype of a supertype. -/
  | kind (id : SymbolId) (supertype? : Option SymbolId)
  deriving DecidableEq, Repr

structure PatternStep where
  asked : Asked
  depth : Nat
  field? : Option FieldId
  /-- The step that is tried beside this one. -/
  alternative? : Option Nat
  /-- A step that only jumps. -/
  passThrough : Bool
  /-- The end of a branch, where nothing is matched. -/
  deadEnd : Bool
  deriving DecidableEq, Repr

def PatternStep.plain (asked : Asked) (depth : Nat) : PatternStep :=
  ⟨asked, depth, none, none, false, false⟩

abbrev Steps := Array PatternStep

namespace Steps

def link (steps : Steps) (i alternative : Nat) : Steps :=
  steps.modify i fun s => { s with alternative? := some alternative }

/-- The last step reached by alternatives that lie before `bound`; at most `jumps` are made. -/
def lastAlternative (steps : Steps) (bound : Nat) : Nat → Nat → Nat
  | 0, i => i
  | jumps + 1, i =>
    match steps[i]?.bind PatternStep.alternative? with
    | some a => if a < bound then lastAlternative steps bound jumps a else i
    | none => i

/-- The steps behind which all alternatives of a step lie, each farther on than the one before. -/
def chain (steps : Steps) : Nat → Nat → List Nat
  | 0, _ => []
  | jumps + 1, i =>
    match steps[i]?.bind PatternStep.alternative? with
    | some a => if i < a ∧ a < steps.size then i :: chain steps jumps a else [i]
    | none => [i]

def inField (steps : Steps) (i : Nat) (field : FieldId) : Steps :=
  (steps.chain (steps.size + 1) i).foldl
    (fun steps j => steps.modify j fun s => { s with field? := some field }) steps

def repeatFrom (steps : Steps) (i depth : Nat) : Steps :=
  steps.push { PatternStep.plain .anything depth with alternative? := some i, passThrough := true }

/-- Makes what begins at a step optional, its alternatives before `bound` included. -/
def skipFrom (steps : Steps) (i bound : Nat) : Steps :=
  steps.link (steps.lastAlternative bound steps.size i) steps.size

def endBranch (steps : Steps) (depth : Nat) : Steps := steps.push (.plain .anything depth)

/-- Joins the branches that begin at the given steps: each has the next as its alternative, and
the dead end before the next branch jumps to the end. -/
def joinBranches (steps : Steps) : List Nat → Steps
  | i :: j :: later =>
    let linked := steps.link i j
    let ended := linked.modify (j - 1) fun s =>
      { s with alternative? := some linked.size, deadEnd := true }
    joinBranches ended (j :: later)
  | _ => steps

/-- Ends an alternation whose branches begin at the given steps; the last one needs no end. -/
def closeBranches (steps : Steps) (begun : List Nat) : Steps :=
  joinBranches (Array.pop steps) begun

end Steps

end GrammarQueries.Query
