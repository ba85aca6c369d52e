/-
# GrammarQueries.Query.Predicate -- what the predicates of a pattern mean

The operators that compare captures with text are checked for their arguments
and leave nothing behind for a caller.  `set!` gives a setting, `is?` and
`is-not?` a property, and every other operator is kept as it is written.  The
predicates of a pattern are taken in order and the first fault counts.
-/
import GrammarQueries.Query.Reading
import GrammarQueries.Query.Regex

namespace GrammarQueries.Query

set_option autoImplicit false

/-! ## What is left for a caller -/

/-- A key with a value and a capture, both optional. -/
structure Property where
  key : String
  value : Option String
  capture : Option Nat
  deriving DecidableEq, Repr

/-- The predicates of a pattern that a caller has to interpret. -/
structure Conditions where
  settings : List Property
  /-- Properties that have to hold (`true`) or not to hold. -/
  properties : List (Property × Bool)
  general : List Predicate
  deriving DecidableEq, Repr

def Conditions.empty : Conditions := ⟨[], [], []⟩

/-! ## Faults -/

/-- What is wrong with the arguments of a predicate; `operator` is its name in messages. -/
inductive PredicateFault where
  | wrongCount (operator expected : String) (count : Nat)
  | firstNotCapture (operator text : String)
  | secondNotLiteral (operator capture : String)
  | laterNotLiteral (operator capture : String)
  | badRegex (text : String)
  | secondCapture (operator capture : String)
  | thirdText (operator text : String)
  | noKey (operator : String)
  deriving DecidableEq, Repr

def PredicateFault.message : PredicateFault → String
  | .wrongCount operator expected count =>
    s!"Wrong number of arguments to {operator} predicate. Expected {expected}, got {count}."
  | .firstNotCapture operator text =>
    s!"First argument to {operator} predicate must be a capture name. Got literal \"{text}\"."
  | .secondNotLiteral operator capture =>
    s!"Second argument to {operator} predicate must be a literal. Got capture @{capture}."
  | .laterNotLiteral operator capture =>
    s!"Arguments to {operator} predicate must be literals. Got capture @{capture}."
  | .badRegex text => s!"Invalid regex '{text}'"
  | .secondCapture operator capture =>
    s!"Invalid arguments to {operator} predicate. Unexpected second capture name @{capture}"
  | .thirdText operator text =>
    s!"Invalid arguments to {operator} predicate. Unexpected third argument @{text}"
  | .noKey operator => s!"Invalid arguments to {operator} predicate. Missing key argument"

/-! ## Operators -/

inductive Operator where
  /-- Compares a capture with a text or another capture. -/
  | equality
  /-- Compares a capture with a regular expression. -/
  | matching
  /-- Compares a capture with several texts. -/
  | membership
  | setting
  | property (positive : Bool)
  | other
  deriving DecidableEq, Repr

def Operator.ofName (name : String) : Operator :=
  if ["eq?", "not-eq?", "any-eq?", "any-not-eq?"].contains name then .equality
  else if ["match?", "not-match?", "any-match?", "any-not-match?"].contains name then .matching
  else if ["any-of?", "not-any-of?"].contains name then .membership
  else if name = "set!" then .setting
  else if name = "is?" then .property true
  else if name = "is-not?" then .property false
  else .other

def captureName (captures : List String) (id : Nat) : String := captures.getD id ""

def firstCapture (operator : String) : List Argument → Except PredicateFault Unit
  | .literal text :: _ => .error (.firstNotCapture operator text)
  | _ => .ok ()

/-- Asks that two arguments be given and the first be a capture. -/
def captureAndOne (operator : String) (args : List Argument) : Except PredicateFault Unit :=
  if args.length ≠ 2 then .error (.wrongCount operator "2" args.length)
  else firstCapture operator args

def checkMatching (captures : List String) (args : List Argument) :
    Except PredicateFault Unit := do
  captureAndOne "#match?" args
  match args with
  | [_, .capture id] => .error (.secondNotLiteral "#match?" (captureName captures id))
  | [_, .literal text] => if Regex.isValid text then .ok () else .error (.badRegex text)
  | _ => .ok ()

def allLiterals (operator : String) (captures : List String) :
    List Argument → Except PredicateFault Unit
  | [] => .ok ()
  | .capture id :: _ => .error (.laterNotLiteral operator (captureName captures id))
  | .literal _ :: later => allLiterals operator captures later

def checkMembership (captures : List String) (args : List Argument) :
    Except PredicateFault Unit := do
  if args.isEmpty then
    throw (.wrongCount "#any-of?" "at least 1" 0)
  firstCapture "#any-of?" args
  allLiterals "#any-of?" captures args.tail

/-- Takes the arguments of a setting or a property in order. -/
def propertyFrom (operator : String) (captures : List String) (key value : Option String)
    (capture : Option Nat) : List Argument → Except PredicateFault Property
  | [] =>
    match key with
    | some k => .ok ⟨k, value, capture⟩
    | none => .error (.noKey operator)
  | .capture id :: later =>
    match capture with
    | none => propertyFrom operator captures key value (some id) later
    | some _ => .error (.secondCapture operator (captureName captures id))
  | .literal text :: later =>
    match key, value with
    | none, _ => propertyFrom operator captures (some text) value capture later
    | some _, none => propertyFrom operator captures key (some text) capture later
    | some _, some _ => .error (.thirdText operator text)

/-- The setting or property that arguments give: a key, and a value and a capture if given. -/
def property (operator : String) (captures : List String) (args : List Argument) :
    Except PredicateFault Property :=
  if args.isEmpty ∨ 3 < args.length then .error (.wrongCount operator "1 to 3" args.length)
  else propertyFrom operator captures none none none args

def Conditions.add (captures : List String) (c : Conditions) (p : Predicate) :
    Except PredicateFault Conditions :=
  match Operator.ofName p.operator with
  | .equality => do
    captureAndOne "#eq?" p.args
    return c
  | .matching => do
    checkMatching captures p.args
    return c
  | .membership => do
    checkMembership captures p.args
    return c
  | .setting => do
    let s ← property p.operator captures p.args
    return { c with settings := c.settings ++ [s] }
  | .property positive => do
    let s ← property p.operator captures p.args
    return { c with properties := c.properties ++ [(s, positive)] }
  | .other => return { c with general := c.general ++ [p] }

def Conditions.ofPredicates (captures : List String) (ps : List Predicate) :
    Except PredicateFault Conditions :=
  ps.foldlM (Conditions.add captures) .empty

end GrammarQueries.Query
