/-
# GrammarQueries.Proofs.Inquiry -- what a lookup on a handle does with its source

Five steps of a session look something up on a handle (`Inquiry`).  To the shared
sources such a lookup does nothing but count: the source of the handle was asked
once or twice more, all others as often as before (`Inquiry.after_lookup`).

Its answer depends on the source only by the directories that the source gives
to these questions (`Session.ask_inquiry`).  `Inquiry.answerFrom` says what is
made of them, from the files and the grammar alone.
-/
import GrammarQueries.Proofs.Lookup
import GrammarQueries.Session

namespace GrammarQueries

set_option autoImplicit false

/-! ## Lookups as steps -/

inductive Inquiry where
  | directory
  | resource (name : String)
  | queryFile (kind : QueryFile)
  | loadQuery (kind : QueryFile)
  | loadQueries
  deriving DecidableEq

namespace Inquiry

/-- The step that makes the lookup on the handle called `id`. -/
def step (id : String) : Inquiry → Step
  | .directory => .resourceDirectory id
  | .resource name => .resource id name
  | .queryFile kind => .queryFile id kind
  | .loadQuery kind => .loadQuery id kind
  | .loadQueries => .loadQueries id

def lookup (w : World) (h : Handle) : Inquiry → Lookup Answer
  | .directory => .path <$> h.resourceDirectory? w
  | .resource name => .path <$> h.resource? w name
  | .queryFile kind => .path <$> h.queryFile? w kind
  | .loadQuery kind => .loaded <$> h.loadQuery w kind
  | .loadQueries => .loadedSet <$> h.loadQueries w

end Inquiry

namespace Session

/-- The answer to a step with its events. -/
def ask (s : Session) (step : Step) : Logged Answer := Prod.fst <$> s.step step

theorem step_inquiry (s : Session) (id : String) (i : Inquiry) :
    s.step (i.step id) = s.lookup id (i.lookup s.world) := by
  cases i <;> rfl

end Session

/-! ## Counting questions -/

def SharedSource.more (n : Nat) (s : SharedSource) : SharedSource :=
  { s with asked := s.asked + n }

namespace Handle

/-- The shared sources after the source of a handle was asked `n` times more.  A handle
without a source asks none. -/
def asking (h : Handle) (n : Nat) (sources : List SharedSource) : List SharedSource :=
  match h.source? with
  | none => sources
  | some id => sources.modify id (.more n)

variable (h : Handle) (w : World) (sources : List SharedSource)

theorem getElem?_asking (n : Nat) (id : SourceId) :
    (h.asking n sources)[id]? =
      if h.source? = some id then (sources[id]?).map (.more n) else sources[id]? := by
  unfold asking
  cases h.source? with
  | none => rfl
  | some own =>
      simp only [List.getElem?_modify, Option.some.injEq]
      split <;> simp

theorem length_asking (n : Nat) : (h.asking n sources).length = sources.length := by
  unfold asking
  cases h.source? with
  | none => rfl
  | some own => simp

theorem asking_asking (m n : Nat) : h.asking n (h.asking m sources) = h.asking (m + n) sources := by
  refine List.ext_getElem? fun id => ?_
  rw [getElem?_asking, getElem?_asking, getElem?_asking]
  by_cases own : h.source? = some id
  · rw [if_pos own, if_pos own, if_pos own, Option.map_map]
    refine congrArg (Option.map · _) (funext fun s => ?_)
    simp [SharedSource.more, Nat.add_assoc]
  · rw [if_neg own, if_neg own, if_neg own]

theorem after_resourceDirectory? : (h.resourceDirectory? w).after sources = h.asking 1 sources := by
  rw [Lookup.after, run_resourceDirectory?, asking]
  cases h.source? with
  | none => rfl
  | some id =>
      dsimp only
      rw [run_consult]
      refine List.ext_getElem? fun k => ?_
      cases found : sources[id]? with
      | none =>
          have short : sources.length ≤ id := List.getElem?_eq_none_iff.1 found
          rw [List.modify_eq_self short]
      | some s =>
          obtain ⟨inside, rfl⟩ := List.getElem?_eq_some_iff.1 found
          rw [List.getElem?_modify, List.getElem?_set]
          by_cases same : id = k
          · subst same
            simp [inside, SharedSource.more]
          · simp [same]

theorem after_resource? (name : String) :
    (h.resource? w name).after sources = h.asking 1 sources := by
  rw [← after_resourceDirectory? h w, Lookup.after, Lookup.after, run_resource?]
  dsimp only
  cases ((h.resourceDirectory? w).run sources).value.1 with
  | none => rfl
  | some root => rfl

theorem after_loadQuery (kind : QueryFile) :
    (h.loadQuery w kind).after sources = h.asking 1 sources := by
  rw [← after_resource? h w sources kind.fileName, Lookup.after, Lookup.after, run_loadQuery,
    queryFile?]
  dsimp only
  cases ((h.resource? w kind.fileName).run sources).value.1 with
  | none => rfl
  | some path => rfl

/-- The second query is looked up unless the first could not be loaded. -/
theorem after_loadQueries :
    (h.loadQueries w).after sources =
      match (h.loadQuery w .highlights).answer sources with
      | .error _ => h.asking 1 sources
      | .ok _ => h.asking 2 sources := by
  have first := after_loadQuery h w sources .highlights
  have second := after_loadQuery h w (h.asking 1 sources) .injections
  rw [asking_asking] at second
  rw [Lookup.after] at first second ⊢
  rw [run_loadQueries, Lookup.answer]
  dsimp only
  cases ((h.loadQuery w .highlights).run sources).value.1 with
  | error f => exact first
  | ok highlights =>
      dsimp only
      rw [first]
      exact second

end Handle

namespace Inquiry

/-- How often the lookup asks the source of the handle. -/
def questions (w : World) (h : Handle) (sources : List SharedSource) : Inquiry → Nat
  | .loadQueries =>
    match (h.loadQuery w .highlights).answer sources with
    | .error _ => 1
    | .ok _ => 2
  | _ => 1

/-- **A lookup only counts its questions.** -/
theorem after_lookup (i : Inquiry) (w : World) (h : Handle) (sources : List SharedSource) :
    (i.lookup w h).after sources = h.asking (i.questions w h sources) sources := by
  cases i with
  | directory => exact h.after_resourceDirectory? w sources
  | resource name => exact h.after_resource? w sources name
  | queryFile kind => exact h.after_resource? w sources kind.fileName
  | loadQuery kind => exact h.after_loadQuery w sources kind
  | loadQueries =>
      refine (h.after_loadQueries w sources).trans ?_
      rw [questions]
      cases (h.loadQuery w .highlights).answer sources with
      | error f => rfl
      | ok highlights => rfl

end Inquiry

/-! ## Answers from directories -/

/-- The file called `name` under a directory, if there is a directory. -/
def FileSystem.findIn (fs : FileSystem) (name : String) (directory : Logged (Option Path)) :
    Logged (Option Path) := do
  match ← directory with
  | none => pure none
  | some root => fs.findFile name root

/-- The query of a kind under a directory, if there is a directory and a file. -/
def Grammar.loadIn (g : Grammar) (fs : FileSystem) (kind : QueryFile)
    (directory : Logged (Option Path)) : Logged (Except LoadFailure (Option Query)) := do
  match ← fs.findIn kind.fileName directory with
  | none => do
    Logged.report (.queryMissing kind)
    pure (.ok none)
  | some path => Except.map some <$> loadFile fs g path

/-- Both queries, each under a directory of its own; the first failure counts. -/
def Grammar.loadSetIn (g : Grammar) (fs : FileSystem) (first second : Logged (Option Path)) :
    Logged (Except LoadFailure QuerySet) := do
  match ← g.loadIn fs .highlights first with
  | .error f => pure (.error f)
  | .ok highlights =>
    Except.map (fun injections => ⟨highlights, injections⟩) <$> g.loadIn fs .injections second

/-- What a lookup makes of the directories that a source gives to its first and to its
second question; only the loading of both queries asks a second one. -/
def Inquiry.answerFrom (fs : FileSystem) (g : Grammar) (first second : Logged (Option Path)) :
    Inquiry → Logged Answer
  | .directory => .path <$> first
  | .resource name => .path <$> fs.findIn name first
  | .queryFile kind => .path <$> fs.findIn kind.fileName first
  | .loadQuery kind => .loaded <$> g.loadIn fs kind first
  | .loadQueries => .loadedSet <$> g.loadSetIn fs first second

section Held

variable {w : World} {h : Handle} {sources : List SharedSource} {id : SourceId} {source : Source}
  {n : Nat}

namespace Handle

theorem run_resourceDirectory?_of_held (given : h.source? = some id)
    (held : sources[id]? = some ⟨source, n⟩) :
    (h.resourceDirectory? w).run sources = (·, h.asking 1 sources) <$> source.answer w n := by
  have after := h.after_resourceDirectory? w sources
  rw [Lookup.after, run_resourceDirectory?, given] at after
  rw [run_resourceDirectory?, given]
  dsimp only at after ⊢
  rw [run_consult, held] at after ⊢
  refine Logged.ext (Prod.ext rfl after) ?_
  rw [Logged.events_map]

theorem run_resource?_of_held (given : h.source? = some id)
    (held : sources[id]? = some ⟨source, n⟩) (name : String) :
    (h.resource? w name).run sources =
      (·, h.asking 1 sources) <$> w.files.findIn name (source.answer w n) := by
  rw [run_resource?, run_resourceDirectory?_of_held given held, FileSystem.findIn]
  cases source.answer w n with
  | mk root? events =>
      cases root? with
      | none => exact Logged.ext rfl (by simp)
      | some root => exact Logged.ext rfl (by simp)

theorem run_loadQuery_of_held (given : h.source? = some id)
    (held : sources[id]? = some ⟨source, n⟩) (kind : QueryFile) :
    (h.loadQuery w kind).run sources =
      (·, h.asking 1 sources) <$> h.grammar.loadIn w.files kind (source.answer w n) := by
  rw [run_loadQuery, queryFile?, run_resource?_of_held given held, Grammar.loadIn]
  cases w.files.findIn kind.fileName (source.answer w n) with
  | mk path? events =>
      cases path? with
      | none => exact Logged.ext rfl (by simp)
      | some path => exact Logged.ext rfl (by simp [loadPath])

theorem run_loadQueries_of_held (given : h.source? = some id)
    (held : sources[id]? = some ⟨source, n⟩) :
    Prod.fst <$> (h.loadQueries w).run sources =
      h.grammar.loadSetIn w.files (source.answer w n) (source.answer w (n + 1)) := by
  have held_then : (h.asking 1 sources)[id]? = some ⟨source, n + 1⟩ := by
    rw [getElem?_asking, if_pos given, held]
    rfl
  rw [run_loadQueries, run_loadQuery_of_held given held, Grammar.loadSetIn]
  cases h.grammar.loadIn w.files .highlights (source.answer w n) with
  | mk first events =>
      cases first with
      | error f => exact Logged.ext rfl (by simp)
      | ok highlights =>
          dsimp only [Logged.value_map]
          rw [run_loadQuery_of_held given held_then]
          exact Logged.ext rfl (by simp)

end Handle

/-- **The answer to a lookup** is made of the directories that the source of the handle
gives, and the source is asked for them at its count. -/
theorem Session.ask_inquiry {s : Session} {name : String} (called : s.handle? name = some h)
    (given : h.source? = some id) (held : s.sources[id]? = some ⟨source, n⟩) (i : Inquiry) :
    s.ask (i.step name) =
      i.answerFrom s.world.files h.grammar (source.answer s.world n)
        (source.answer s.world (n + 1)) := by
  have answered : s.ask (i.step name) = Prod.fst <$> (i.lookup s.world h).run s.sources := by
    rw [ask, step_inquiry, Session.lookup, called]
    exact Logged.ext rfl (by simp)
  rw [answered]
  cases i with
  | directory =>
      rw [Inquiry.lookup, Inquiry.answerFrom, Lookup.run_map,
        h.run_resourceDirectory?_of_held given held]
      exact Logged.ext rfl (by simp)
  | resource name =>
      rw [Inquiry.lookup, Inquiry.answerFrom, Lookup.run_map, h.run_resource?_of_held given held]
      exact Logged.ext rfl (by simp)
  | queryFile kind =>
      rw [Inquiry.lookup, Inquiry.answerFrom, Lookup.run_map, Handle.queryFile?,
        h.run_resource?_of_held given held]
      exact Logged.ext rfl (by simp)
  | loadQuery kind =>
      rw [Inquiry.lookup, Inquiry.answerFrom, Lookup.run_map, h.run_loadQuery_of_held given held]
      exact Logged.ext rfl (by simp)
  | loadQueries =>
      rw [Inquiry.lookup, Inquiry.answerFrom, Lookup.run_map,
        ← h.run_loadQueries_of_held given held]
      exact Logged.ext rfl (by simp)

end Held

end GrammarQueries
