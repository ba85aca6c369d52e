/-
# GrammarQueries.Proofs.Consultation -- a source is asked once for each lookup

A source is shared by any number of handles, and how often it was asked decides
what it answers.  `Session.questions` says how often one step asks a source:
only lookups on handles that hold it do, once, but for the loading of both
queries, which asks twice unless the first query fails.

What a step can do to handles and sources is said once (`Session.Turn`).  Over a
run the count of a source is then the sum over the steps (`Session.asked_run`),
for a source that nobody holds yet is asked by nobody (`Session.Closed`).
-/
import GrammarQueries.Proofs.Inquiry
import GrammarQueries.Proofs.Run

namespace GrammarQueries

set_option autoImplicit false

namespace Session

/-! ## Questions of a step -/

/-- Whether the handle of a name holds a source. -/
def holds (s : Session) (id : String) (source : SourceId) : Bool :=
  decide ((s.handle? id).bind Handle.source? = some source)

/-- Whether the first of the two conventional queries would fail to load now. -/
def firstFails (s : Session) (id : String) : Bool :=
  match (s.ask (.loadQuery id .highlights)).value with
  | .loaded (.error _) => true
  | _ => false

/-- How often a step asks a source. -/
def questions (s : Session) (source : SourceId) : Step → Nat
  | .resourceDirectory id | .resource id _ | .queryFile id _ | .loadQuery id _ =>
    if s.holds id source then 1 else 0
  | .loadQueries id =>
    if s.holds id source then (if s.firstFails id then 1 else 2) else 0
  | _ => 0

def questionsIn (s : Session) (source : SourceId) : List Step → Nat
  | [] => 0
  | step :: rest => s.questions source step + (s.step step).value.2.questionsIn source rest

variable {s t : Session} {h : Handle} {id : String} {source : SourceId}

theorem holds_of_handle? (called : s.handle? id = some h) :
    s.holds id source = decide (h.source? = some source) := by
  rw [holds, called]
  rfl

theorem not_holds_of_handle?_eq_none (missing : s.handle? id = none) :
    s.holds id source = false := by
  rw [holds, missing]
  rfl

theorem value_ask_inquiry (called : s.handle? id = some h) (i : Inquiry) :
    (s.ask (i.step id)).value = (i.lookup s.world h).answer s.sources := by
  rw [ask, step_inquiry, Session.lookup, called]
  rfl

theorem firstFails_eq (called : s.handle? id = some h) :
    s.firstFails id = !((h.loadQuery s.world .highlights).answer s.sources).isOk := by
  have answered : (s.ask (.loadQuery id .highlights)).value =
      .loaded ((h.loadQuery s.world .highlights).answer s.sources) :=
    value_ask_inquiry called (.loadQuery .highlights)
  rw [firstFails, answered]
  cases (h.loadQuery s.world .highlights).answer s.sources with
  | error f => rfl
  | ok highlights => rfl

theorem questions_inquiry (called : s.handle? id = some h) (i : Inquiry) (source : SourceId) :
    s.questions source (i.step id) =
      if h.source? = some source then i.questions s.world h s.sources else 0 := by
  cases i with
  | loadQueries =>
      simp only [Inquiry.step, questions, holds_of_handle? called, firstFails_eq called,
        Inquiry.questions, decide_eq_true_eq]
      cases (h.loadQuery s.world .highlights).answer s.sources with
      | error f => rfl
      | ok highlights => rfl
  | _ => simp only [Inquiry.step, questions, holds_of_handle? called, Inquiry.questions,
      decide_eq_true_eq]

theorem questions_inquiry_of_missing (missing : s.handle? id = none) (i : Inquiry)
    (source : SourceId) : s.questions source (i.step id) = 0 := by
  cases i with
  | _ => simp [Inquiry.step, questions, not_holds_of_handle?_eq_none missing]

/-! ## What a step does to handles and sources -/

/-- What a step can do to the handles and the sources of a session. -/
inductive Turn (s t : Session) (step : Step) : Prop where
  /-- Nothing, and no source is asked. -/
  | leaves (sources : t.sources = s.sources) (handles : t.handles = s.handles)
      (silent : ∀ source, s.questions source step = 0)
  /-- A lookup asks the source of its handle. -/
  | asks (id : String) (h : Handle) (n : Nat) (called : s.handle? id = some h)
      (sources : t.sources = h.asking n s.sources) (handles : t.handles = s.handles)
      (questions : ∀ source, s.questions source step = if h.source? = some source then n else 0)
  /-- A handle is made, with a source that a handle had already or with a new one. -/
  | makes (id : String) (h : Handle) (new : List SharedSource)
      (sources : t.sources = s.sources ++ new) (handles : t.handles = (id, h) :: s.handles)
      (unasked : ∀ x ∈ new, x.asked = 0) (silent : ∀ source, s.questions source step = 0)
      (given : ∀ source, h.source? = some source →
        (∃ id, s.holds id source) ∨ source < t.sources.length)

theorem handle?_congr (same : t.handles = s.handles) : t.handle? id = s.handle? id := by
  rw [handle?, same, handle?]

theorem holds_congr (same : t.handles = s.handles) : t.holds id source = s.holds id source := by
  rw [holds, handle?_congr same, holds]

theorem handle?_of_made (made : t.handles = (id, h) :: s.handles) (name : String) :
    t.handle? name = if name = id then some h else s.handle? name := by
  rw [handle?, made, List.lookup_cons, handle?]
  by_cases same : name = id
  · rw [if_pos same, beq_iff_eq.2 same]
  · rw [if_neg same, beq_eq_false_iff_ne.2 same]

/-- The source that a step names is one that a handle holds, or it is new. -/
theorem chosenSource_cases {choice : SourceChoice} {id? : Option SourceId}
    (chosen : s.chosenSource choice = .ok (id?, t)) :
    t.handles = s.handles ∧
      ∃ new, t.sources = s.sources ++ new ∧ (∀ x ∈ new, x.asked = 0) ∧
        ∀ source, id? = some source → (∃ id, s.holds id source) ∨ source < t.sources.length := by
  cases choice with
  | none =>
      cases chosen
      exact ⟨rfl, [], by simp, by simp, by simp⟩
  | directory | bundle | sequence =>
      cases chosen
      refine ⟨rfl, _, rfl, by simp, fun source own => .inr ?_⟩
      cases own
      simp
  | sourceOf name =>
      unfold chosenSource at chosen
      dsimp only at chosen
      cases called : s.handle? name with
      | none =>
          rw [called] at chosen
          cases chosen
      | some h =>
          rw [called] at chosen
          cases chosen
          refine ⟨rfl, [], by simp, by simp, fun source own => .inl ⟨name, ?_⟩⟩
          rw [holds_of_handle? called]
          exact decide_eq_true own

theorem turn_makeHandle {grammar : GrammarChoice} {choice : SourceChoice}
    (made : s.makeHandle id grammar choice = .ok t) :
    Turn s t (.makeHandle id grammar choice) := by
  obtain ⟨⟨d, s'⟩, descriptor, made⟩ := exists_of_bind_ok made
  obtain ⟨⟨id?, s''⟩, chosen, made⟩ := exists_of_bind_ok made
  cases made
  obtain ⟨-, sources, handles⟩ := kept_of_chosenDescriptor descriptor
  obtain ⟨handles', new, sources', unasked, given⟩ := chosenSource_cases chosen
  refine .makes id ⟨d, id?⟩ new ?_ ?_ unasked (fun _ => rfl) fun source own => ?_
  · exact sources'.trans (by rw [sources])
  · exact congrArg (_ :: ·) (handles'.trans handles)
  · obtain ⟨name, held⟩ | inside := given source own
    · exact .inl ⟨name, by rwa [holds_congr handles] at held⟩
    · exact .inr inside

theorem turn_lookup (s : Session) (id : String) (i : Inquiry) :
    Turn s (s.lookup id (i.lookup s.world)).value.2 (i.step id) := by
  unfold Session.lookup
  cases called : s.handle? id with
  | none => exact .leaves rfl rfl (questions_inquiry_of_missing called i)
  | some h =>
      exact .asks id h _ called (i.after_lookup s.world h s.sources) rfl
        (questions_inquiry called i)

theorem turn_step (s : Session) (step : Step) : Turn s (s.step step).value.2 step := by
  cases step with
  | makeDirectory | writeFile | makeLink | makeSocket | remove | rename =>
      exact .leaves (s.kept_of_change _).1 (s.kept_of_change _).2 fun _ => rfl
  | makeHandle id grammar choice =>
      unfold Session.step
      dsimp only
      cases made : s.makeHandle id grammar choice with
      | ok t => exact turn_makeHandle made
      | error name => exact .leaves rfl rfl fun _ => rfl
  | cloneHandle original id =>
      unfold Session.step
      dsimp only
      cases called : s.handle? original with
      | none => exact .leaves rfl rfl fun _ => rfl
      | some h =>
          refine .makes id h [] (by simp [putHandle]) rfl (by simp) (fun _ => rfl)
            fun source own => .inl ⟨original, ?_⟩
          rw [holds_of_handle? called]
          exact decide_eq_true own
  | distinctHandles ids =>
      unfold Session.step
      dsimp only
      cases ids.find? fun id => (s.handle? id).isNone with
      | none => exact .leaves rfl rfl fun _ => rfl
      | some id => exact .leaves rfl rfl fun _ => rfl
  | sameHandle | showHandle | hasSource | loadPath =>
      exact .leaves (congrArg sources (value_tellOf s _ _)) (congrArg handles (value_tellOf s _ _))
        fun _ => rfl
  | resourceDirectory id => exact turn_lookup s id .directory
  | resource id name => exact turn_lookup s id (.resource name)
  | queryFile id kind => exact turn_lookup s id (.queryFile kind)
  | loadQuery id kind => exact turn_lookup s id (.loadQuery kind)
  | loadQueries id => exact turn_lookup s id .loadQueries
  | _ => exact .leaves rfl rfl fun _ => rfl

/-! ## Counts over a run -/

/-- **A step adds its questions to the count** of a source and leaves what it is. -/
theorem getElem?_sources_step {x : SharedSource} (shared : s.sources[source]? = some x)
    (step : Step) :
    (s.step step).value.2.sources[source]? = some (x.more (s.questions source step)) := by
  cases turn_step s step with
  | leaves sources handles silent =>
      rw [sources, shared, silent]
      rfl
  | asks id h n called sources handles questions =>
      rw [sources, Handle.getElem?_asking, shared, questions]
      split <;> rfl
  | makes id h new sources handles unasked silent given =>
      obtain ⟨inside, -⟩ := List.getElem?_eq_some_iff.1 shared
      rw [sources, List.getElem?_append_left inside, shared, silent]
      rfl

/-- **A run adds the questions of its steps**, one after the other. -/
theorem getElem?_sources_run {x : SharedSource} (shared : s.sources[source]? = some x)
    (steps : List Step) :
    (s.run steps).2.sources[source]? = some (x.more (s.questionsIn source steps)) := by
  induction steps generalizing s x with
  | nil => exact shared
  | cons step rest ih =>
      refine (ih (getElem?_sources_step shared step)).trans (congrArg some ?_)
      simp [SharedSource.more, questionsIn, Nat.add_assoc]

/-- Every source that a handle holds exists. -/
def Closed (s : Session) : Prop :=
  ∀ id source, s.holds id source → source < s.sources.length

theorem Closed.step (closed : s.Closed) (step : Step) : (s.step step).value.2.Closed := by
  intro name source held
  cases turn_step s step with
  | leaves sources handles silent =>
      rw [sources]
      exact closed name source (by rwa [holds_congr handles] at held)
  | asks id h n called sources handles questions =>
      rw [sources, Handle.length_asking]
      exact closed name source (by rwa [holds_congr handles] at held)
  | makes id h new sources handles unasked silent given =>
      have old : (∃ name, s.holds name source) → source < (s.step step).value.2.sources.length := by
        rintro ⟨name, held⟩
        rw [sources, List.length_append]
        exact Nat.lt_add_right _ (closed name source held)
      rw [holds, handle?_of_made handles] at held
      by_cases same : name = id
      · rw [if_pos same] at held
        exact (given source (of_decide_eq_true held)).elim old fun inside => inside
      · rw [if_neg same] at held
        exact old ⟨name, held⟩

theorem questions_of_unheld (unheld : ∀ id, s.holds id source = false) (step : Step) :
    s.questions source step = 0 := by
  cases step with
  | _ => simp [questions, unheld]

/-- A source that was not there before a step is new after it. -/
theorem asked_of_new {x : SharedSource} (missing : s.sources[source]? = none) {step : Step}
    (shared : (s.step step).value.2.sources[source]? = some x) : x.asked = 0 := by
  have outside : s.sources.length ≤ source := List.getElem?_eq_none_iff.1 missing
  cases turn_step s step with
  | leaves sources handles silent =>
      rw [sources, missing] at shared
      cases shared
  | asks id h n called sources handles questions =>
      rw [sources, Handle.getElem?_asking, missing] at shared
      split at shared <;> cases shared
  | makes id h new sources handles unasked silent given =>
      rw [sources, List.getElem?_append_right outside] at shared
      exact unasked x (List.mem_of_getElem? shared)

/-- **A source that comes up in a run was asked as often as the steps of the run asked
it**; the steps before it came up did not, for no handle held it. -/
theorem asked_run {x : SharedSource} (closed : s.Closed) (missing : s.sources[source]? = none)
    {steps : List Step} (shared : (s.run steps).2.sources[source]? = some x) :
    x.asked = s.questionsIn source steps := by
  induction steps generalizing s with
  | nil => cases missing.symm.trans shared
  | cons step rest ih =>
      have unheld : ∀ name, s.holds name source = false := fun name => by
        have outside : s.sources.length ≤ source := List.getElem?_eq_none_iff.1 missing
        exact Bool.eq_false_iff.2 fun held => Nat.not_lt.2 outside (closed name source held)
      rw [questionsIn, questions_of_unheld unheld, Nat.zero_add]
      cases found : (s.step step).value.2.sources[source]? with
      | none => exact ih (closed.step step) found shared
      | some y =>
          -- it came up in this step, so all its questions are those of the rest
          cases (getElem?_sources_run found rest).symm.trans shared
          show y.asked + _ = _
          rw [asked_of_new missing found, Nat.zero_add]

/-! ## Answers in a run -/

/-- The answer to a step of a run is the one that the session after the steps before it
gives. -/
theorem getElem?_run (s : Session) (before : List Step) (step : Step) (after : List Step) :
    (s.run (before ++ step :: after)).1[before.length]? = some ((s.run before).2.ask step) := by
  induction before generalizing s with
  | nil =>
      refine congrArg some (Logged.ext rfl ?_)
      rw [ask, Logged.events_map]
      rfl
  | cons first rest ih => exact ih _

theorem answer_sequence {answers : List (Option Path)} (nonempty : answers ≠ []) (w : World)
    (n : Nat) :
    ∃ item, answers[n % answers.length]? = some item ∧
      (Source.sequence answers).answer w n = pure item := by
  have inside : n % answers.length < answers.length :=
    Nat.mod_lt n (List.length_pos_iff.2 nonempty)
  refine ⟨answers[n % answers.length], List.getElem?_eq_getElem inside, ?_⟩
  rw [Source.answer, List.getElem?_eq_getElem inside]
  rfl

/-- A clone has the descriptor and the source of its original. -/
theorem handle?_clone {original : String} (called : s.handle? original = some h) (id : String) :
    (s.step (.cloneHandle original id)).value.2.handle? id = some h := by
  have handles : (s.step (.cloneHandle original id)).value.2.handles = (id, h) :: s.handles := by
    unfold Session.step
    dsimp only
    rw [called]
    rfl
  rw [handle?_of_made handles, if_pos rfl]

/-- A session in which no handle and no source was made yet. -/
def beginning (w : World) (descriptors : List Descriptor) (named : List (String × Descriptor)) :
    Session :=
  ⟨w, descriptors, named, [], []⟩

theorem closed_beginning (w : World) (descriptors : List Descriptor)
    (named : List (String × Descriptor)) : (beginning w descriptors named).Closed :=
  fun _ _ held => by cases of_decide_eq_true held

/-- **Sources are asked once for each lookup**, in every run from the beginning: the count
of a source is the sum of the questions of the steps.  Hence a lookup whose source answers
with listed items in turn is answered from the item that its place in this count says, and
the loading of both queries from that item and the one after it.  A clone holds the source
of its original, so that both go on in one count. -/
theorem sources_count_lookups (w : World) (descriptors : List Descriptor)
    (named : List (String × Descriptor)) (steps : List Step) :
    let first := beginning w descriptors named
    (∀ source x, (first.run steps).2.sources[source]? = some x →
      x.asked = first.questionsIn source steps) ∧
    (∀ before (i : Inquiry) id after, steps = before ++ i.step id :: after →
      let now := (first.run before).2
      ∀ h source answers n, now.handle? id = some h → h.source? = some source →
        now.sources[source]? = some ⟨.sequence answers, n⟩ → answers ≠ [] →
        n = first.questionsIn source before ∧
        ∃ item next, answers[n % answers.length]? = some item ∧
          answers[(n + 1) % answers.length]? = some next ∧
          (first.run steps).1[before.length]? =
            some (i.answerFrom now.world.files h.grammar (pure item) (pure next))) ∧
    ∀ original id source, (first.run steps).2.holds original source →
      ((first.run steps).2.step (.cloneHandle original id)).value.2.holds id source := by
  intro first
  have closed : first.Closed := closed_beginning w descriptors named
  refine ⟨fun source x shared => asked_run closed rfl shared, ?_, ?_⟩
  · rintro before i id after rfl now h source answers n called given shared nonempty
    obtain ⟨item, at_count, answered⟩ := answer_sequence nonempty now.world n
    obtain ⟨next, after_count, answered_next⟩ := answer_sequence nonempty now.world (n + 1)
    refine ⟨asked_run closed rfl shared, item, next, at_count, after_count, ?_⟩
    rw [getElem?_run, ask_inquiry called given shared, answered, answered_next]
  · intro original id source held
    have own := of_decide_eq_true held
    obtain ⟨h, called, given⟩ := Option.bind_eq_some_iff.1 own
    rw [holds_of_handle? (handle?_clone called id)]
    exact decide_eq_true given

def bare : Session := beginning ⟨⟨[], [], .error .notFound⟩, none⟩ [] []

/-- No directory twice, then the directories `r` and `s`. -/
def fourAnswers : List (Option Path) := [none, none, some ⟨[0x72]⟩, some ⟨[0x73]⟩]

/-- A handle loads both queries and is cloned; then the clone, the handle and the clone again
are asked for their directory. -/
def askedInTurn : List Step :=
  [.makeHandle "h" (.fresh ⟨14, [], [], [], none⟩) (.sequence fourAnswers), .loadQueries "h",
    .cloneHandle "h" "k", .resourceDirectory "k", .resourceDirectory "h", .resourceDirectory "k"]

theorem clone_goes_on_in_count :
    bare.questionsIn 0 askedInTurn = 5 ∧
    (bare.run askedInTurn).1[3]? = some (pure (.path (some ⟨[0x72]⟩))) ∧
    (bare.run askedInTurn).1[5]? = some (pure (.path none)) ∧
    ((bare.run askedInTurn).2.step (.cloneHandle "k" "m")).value.2.holds "m" 0 := by
  obtain ⟨counts, answers, shared⟩ :=
    sources_count_lookups ⟨⟨[], [], .error .notFound⟩, none⟩ [] [] askedInTurn
  have clone_answers : ∀ before after, askedInTurn = before ++ .resourceDirectory "k" :: after →
      ∀ n, (bare.run before).2.handle? "k" = some ⟨⟨0, ⟨14, [], [], [], none⟩⟩, some 0⟩ →
        (bare.run before).2.sources[0]? = some ⟨.sequence fourAnswers, n⟩ →
        ∃ item, fourAnswers[n % 4]? = some item ∧
          (bare.run askedInTurn).1[before.length]? = some (pure (.path item)) := by
    intro before after eq n called shared
    obtain ⟨-, item, _, at_count, -, answered⟩ :=
      answers before .directory "k" after eq _ 0 fourAnswers n called rfl shared (by decide)
    exact ⟨item, at_count, answered⟩
  obtain ⟨_, at_two, first⟩ := clone_answers (askedInTurn.take 3) _ rfl 2 rfl rfl
  obtain ⟨_, at_four, second⟩ := clone_answers (askedInTurn.take 5) _ rfl 4 rfl rfl
  cases at_two
  cases at_four
  exact ⟨(counts 0 _ rfl).symm, first, second, shared "k" "m" 0 rfl⟩

end Session

end GrammarQueries
