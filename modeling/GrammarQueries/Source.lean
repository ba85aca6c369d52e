/-
# GrammarQueries.Source -- where the resources of a grammar are

A source is asked for a directory each time a resource is wanted and never
before, so it can answer differently each time.  Handles share sources; a
`SharedSource` counts how often it was asked, and that count is the only state
of a lookup (`Lookup`).
-/
import GrammarQueries.Base

namespace GrammarQueries

set_option autoImplicit false

/-- What a grammar's resource directory is taken from. -/
inductive Source where
  | directory (path : Path)
  /-- The bundle of this name under a base, wherever it is when asked. -/
  | bundle (name : String) (base : Base)
  /-- The listed answers in turn, again from the first after the last. -/
  | sequence (answers : List (Option Path))
  deriving DecidableEq

/-- The answer of a source that was asked `asked` times before. -/
def Source.answer (w : World) (asked : Nat) : Source → Logged (Option Path)
  | .directory path => pure (some path)
  | .bundle name base => base.bundle? w name
  | .sequence answers => pure (answers[asked % answers.length]?).join

structure SharedSource where
  source : Source
  asked : Nat
  deriving DecidableEq

/-- The place of a shared source among all. -/
abbrev SourceId := Nat

/-- A computation that can ask shared sources and report events. -/
abbrev Lookup (α : Type) := StateT (List SharedSource) Logged α

def consult (w : World) (id : SourceId) : Lookup (Option Path) := do
  let sources ← get
  match sources[id]? with
  | none => pure none
  | some s => do
    set (sources.set id { s with asked := s.asked + 1 })
    s.source.answer w s.asked

end GrammarQueries
