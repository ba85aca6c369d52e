/-
# GrammarQueries.Handle -- a grammar together with its source of resources

A descriptor is a grammar at an address, and a handle is a descriptor with a
source or none.  Handles are equal when they have the same descriptor: the
tables do not count, for two descriptors can hold the same tables, and the
source does not count either.

Absence runs through a lookup: no source, no directory and no file all mean
that there is no resource, and a kind of query without a file is no failure.
-/
import GrammarQueries.Load
import GrammarQueries.Source

namespace GrammarQueries

set_option autoImplicit false

structure Descriptor where
  address : Nat
  grammar : Grammar
  deriving DecidableEq

structure Handle where
  descriptor : Descriptor
  source? : Option SourceId

namespace Handle

def address (h : Handle) : Nat := h.descriptor.address

def grammar (h : Handle) : Grammar := h.descriptor.grammar

/-! ## Identity -/

def same (a b : Handle) : Bool := a.address == b.address

instance : BEq Handle := ⟨same⟩

/-- Equal handles have equal hashes, for both go by the address alone. -/
instance : Hashable Handle := ⟨fun h => hash h.address⟩

theorem beq_iff {a b : Handle} : (a == b) = true ↔ a.address = b.address := by
  show (a.address == b.address) = true ↔ _
  exact beq_iff_eq

/-- A handle as it is shown to a programmer, its address left out. -/
def quoted (h : Handle) : String :=
  let source := if h.source?.isSome then "Some(\"..\")" else "None"
  "GrammarHandle \x7b language: Language(<address>), provider: " ++ source ++ " \x7d"

/-! ## Lookups -/

/-- The directory that the source of a handle answers with. -/
def resourceDirectory? (w : World) (h : Handle) : Lookup (Option Path) :=
  match h.source? with
  | none => pure none
  | some id => consult w id

/-- The file called `name` anywhere under the directory of the source. -/
def resource? (w : World) (h : Handle) (name : String) : Lookup (Option Path) := do
  match ← h.resourceDirectory? w with
  | none => pure none
  | some root => w.files.findFile name root

def queryFile? (w : World) (h : Handle) (kind : QueryFile) : Lookup (Option Path) :=
  h.resource? w kind.fileName

/-! ## Loading -/

def loadPath (w : World) (h : Handle) (path : Path) : Logged (Except LoadFailure Query) :=
  loadFile w.files h.grammar path

/-- Loads the query of a kind, if it is shipped. -/
def loadQuery (w : World) (h : Handle) (kind : QueryFile) :
    Lookup (Except LoadFailure (Option Query)) := do
  match ← h.queryFile? w kind with
  | none => do
    Logged.report (.queryMissing kind)
    pure (.ok none)
  | some path => do
    let loaded ← h.loadPath w path
    pure (loaded.map some)

/-- Loads both conventional queries.  The first failure ends it, and then the
second kind is not looked up. -/
def loadQueries (w : World) (h : Handle) : Lookup (Except LoadFailure QuerySet) := do
  match ← h.loadQuery w .highlights with
  | .error f => pure (.error f)
  | .ok highlights =>
    match ← h.loadQuery w .injections with
    | .error f => pure (.error f)
    | .ok injections => pure (.ok ⟨highlights, injections⟩)

end Handle

end GrammarQueries
