/-
# GrammarQueries.Proofs.Lookup -- what a lookup answers, leaves and reports

A lookup run on the shared sources gives an answer, the sources after it and the
events on the way.  Each lookup of a handle is written out here as that triple,
in terms of the lookup it is made of: a resource asks its source once
(`run_resourceDirectory?`), a query is a resource and then a load
(`run_loadQuery`), and both queries are one after the other, the second only if
the first did not fail (`run_loadQueries`).
-/
import GrammarQueries.Handle

namespace GrammarQueries

set_option autoImplicit false

namespace Lookup

variable {α β : Type}

def answer (x : Lookup α) (sources : List SharedSource) : α := (x.run sources).value.1

def after (x : Lookup α) (sources : List SharedSource) : List SharedSource :=
  (x.run sources).value.2

def events (x : Lookup α) (sources : List SharedSource) : List Event := (x.run sources).events

theorem run_map (f : α → β) (x : Lookup α) (sources : List SharedSource) :
    (f <$> x).run sources = (fun r => (f r.1, r.2)) <$> x.run sources := rfl

end Lookup

namespace Handle

variable (w : World) (h : Handle) (sources : List SharedSource)

/-- Asking a shared source counts as one question and gives what it answers at
that count. -/
theorem run_consult (id : SourceId) :
    (consult w id).run sources =
      match sources[id]? with
      | none => ⟨(none, sources), []⟩
      | some s =>
        ⟨((s.source.answer w s.asked).value, sources.set id { s with asked := s.asked + 1 }),
          (s.source.answer w s.asked).events⟩ := by
  unfold consult
  rw [StateT.run_bind]
  cases found : sources[id]? with
  | none => exact Logged.ext (by simp [found]) (by simp [found])
  | some s => exact Logged.ext (by simp [found]) (by simp [found])

/-- The directory of a handle is what its source answers; without one there is none. -/
theorem run_resourceDirectory? :
    (h.resourceDirectory? w).run sources =
      match h.source? with
      | none => ⟨(none, sources), []⟩
      | some id => (consult w id).run sources := by
  unfold resourceDirectory?
  cases h.source? with
  | none => rfl
  | some id => rfl

/-- A resource is searched for under the directory of the source. -/
theorem run_resource? (name : String) :
    (h.resource? w name).run sources =
      let asked := (h.resourceDirectory? w).run sources
      match asked.value.1 with
      | none => ⟨(none, asked.value.2), asked.events⟩
      | some root =>
        ⟨((w.files.findFile name root).value, asked.value.2),
          asked.events ++ (w.files.findFile name root).events⟩ := by
  unfold resource?
  rw [StateT.run_bind]
  cases (h.resourceDirectory? w).run sources with
  | mk value events =>
      obtain ⟨root?, rest⟩ := value
      cases root? with
      | none => exact Logged.ext rfl (List.append_nil _)
      | some root => exact Logged.ext rfl (congrArg (events ++ ·) (List.append_nil _))

/-- A query is loaded from the file that is found for its kind. -/
theorem run_loadQuery (kind : QueryFile) :
    (h.loadQuery w kind).run sources =
      let looked := (h.queryFile? w kind).run sources
      match looked.value.1 with
      | none => ⟨(.ok none, looked.value.2), looked.events ++ [.queryMissing kind]⟩
      | some path =>
        ⟨((h.loadPath w path).value.map some, looked.value.2),
          looked.events ++ (h.loadPath w path).events⟩ := by
  unfold loadQuery
  rw [StateT.run_bind]
  cases (h.queryFile? w kind).run sources with
  | mk value events =>
      obtain ⟨path?, rest⟩ := value
      cases path? with
      | none => rfl
      | some path =>
          refine Logged.ext rfl ?_
          show events ++ (((h.loadPath w path).events ++ []) ++ []) = _
          simp only [List.append_nil]

/-- Both queries are loaded in order, the second on the sources that the first left. -/
theorem run_loadQueries :
    (h.loadQueries w).run sources =
      let first := (h.loadQuery w .highlights).run sources
      match first.value.1 with
      | .error f => ⟨(.error f, first.value.2), first.events⟩
      | .ok highlights =>
        let second := (h.loadQuery w .injections).run first.value.2
        ⟨(second.value.1.map fun injections => ⟨highlights, injections⟩, second.value.2),
          first.events ++ second.events⟩ := by
  unfold loadQueries
  rw [StateT.run_bind]
  cases (h.loadQuery w .highlights).run sources with
  | mk value events =>
      obtain ⟨result, rest⟩ := value
      cases result with
      | error f => exact Logged.ext rfl (List.append_nil _)
      | ok highlights =>
          show Logged.mk _ _ = _
          dsimp only
          rw [StateT.run_bind]
          cases (h.loadQuery w .injections).run rest with
          | mk value later =>
              obtain ⟨result, last⟩ := value
              cases result with
              | error f => exact Logged.ext rfl (congrArg (events ++ ·) (List.append_nil _))
              | ok injections => exact Logged.ext rfl (congrArg (events ++ ·) (List.append_nil _))

/-! ## Answers -/

/-- The directory of a handle is what the entry of its source answers at its count. -/
theorem answer_resourceDirectory? :
    (h.resourceDirectory? w).answer sources =
      (h.source?.bind fun id => sources[id]?).bind
        fun entry => (entry.source.answer w entry.asked).value := by
  rw [Lookup.answer, run_resourceDirectory?]
  cases h.source? with
  | none => rfl
  | some id =>
      dsimp only
      rw [run_consult, Option.bind_some]
      cases sources[id]? with
      | none => rfl
      | some entry => rfl

/-- The source of the handle, among the shared ones, is `source`. -/
def DrawsOn (source : Source) : Prop :=
  ∃ id asked, h.source? = some id ∧ sources[id]? = some ⟨source, asked⟩

/-- The directory of a handle is what its source answers to the next question. -/
theorem answer_resourceDirectory?_of_drawsOn {source : Source} (draws : h.DrawsOn sources source) :
    ∃ asked, (h.resourceDirectory? w).answer sources = (source.answer w asked).value := by
  obtain ⟨id, asked, given, shared⟩ := draws
  refine ⟨asked, ?_⟩
  rw [answer_resourceDirectory?, given, Option.bind_some, shared, Option.bind_some]

theorem answer_resource? (name : String) :
    (h.resource? w name).answer sources =
      ((h.resourceDirectory? w).answer sources).bind
        fun root => (w.files.findFile name root).value := by
  rw [Lookup.answer, run_resource?, Lookup.answer]
  dsimp only
  cases ((h.resourceDirectory? w).run sources).value.1 with
  | none => rfl
  | some root => rfl

theorem answer_loadQuery (kind : QueryFile) :
    (h.loadQuery w kind).answer sources =
      match (h.queryFile? w kind).answer sources with
      | none => .ok none
      | some path => (h.loadPath w path).value.map some := by
  rw [Lookup.answer, run_loadQuery, Lookup.answer]
  dsimp only
  cases ((h.queryFile? w kind).run sources).value.1 with
  | none => rfl
  | some path => rfl

theorem answer_loadQueries :
    (h.loadQueries w).answer sources =
      match (h.loadQuery w .highlights).answer sources with
      | .error f => .error f
      | .ok highlights =>
        ((h.loadQuery w .injections).answer ((h.loadQuery w .highlights).after sources)).map
          fun injections => ⟨highlights, injections⟩ := by
  rw [Lookup.answer, run_loadQueries, Lookup.answer, Lookup.answer, Lookup.after]
  dsimp only
  cases ((h.loadQuery w .highlights).run sources).value.1 with
  | error f => rfl
  | ok highlights => rfl

end Handle

end GrammarQueries
