/-
# GrammarQueries.Proofs.Environment -- a handle on a bundle keeps its base and nothing else

A handle that is made for a bundle under the base of the variable takes the base
that the variable asks for at that moment.  The source it draws on stays what it
is in every run, for a step only counts questions (`Handle.DrawsOn.run`), and a
bundle answers the same at every count.  So an answer is made from that base and
from the files of the moment (`Session.ask_of_bundle`), as for a handle that is
made anew on that base.
-/
import GrammarQueries.Proofs.Bundle
import GrammarQueries.Proofs.Consultation

namespace GrammarQueries

set_option autoImplicit false

/-- Where a bundle is depends on the files alone. -/
theorem Base.bundle?_congr {w w' : World} (same : w.files = w'.files) (base : Base)
    (name : String) : base.bundle? w name = base.bundle? w' name := by
  obtain ⟨files, value⟩ := w
  obtain ⟨files', value'⟩ := w'
  cases same
  cases base with
  | _ => rfl

/-- A handle draws on its source throughout a run. -/
theorem Handle.DrawsOn.run {s : Session} {h : Handle} {source : Source}
    (draws : h.DrawsOn s.sources source) (steps : List Step) :
    h.DrawsOn (s.run steps).2.sources source := by
  obtain ⟨id, asked, given, shared⟩ := draws
  exact ⟨id, _, given, Session.getElem?_sources_run shared steps⟩

namespace Session

variable {s t : Session} {h : Handle} {id bundle : String} {base : Base}

/-- **The answer of a handle on a bundle** is made from its base and the files there are. -/
theorem ask_of_bundle (called : s.handle? id = some h)
    (draws : h.DrawsOn s.sources (.bundle bundle base)) (i : Inquiry) :
    s.ask (i.step id) =
      i.answerFrom s.world.files h.grammar (base.bundle? s.world bundle)
        (base.bundle? s.world bundle) := by
  obtain ⟨source, asked, given, shared⟩ := draws
  exact ask_inquiry called given shared i

/-- Handles of one grammar on the bundle of one name under one base answer alike, in
whatever sessions, when the files are the same. -/
theorem ask_eq_of_bundle {h' : Handle} {id' : String} (called : s.handle? id = some h)
    (draws : h.DrawsOn s.sources (.bundle bundle base)) (called' : t.handle? id' = some h')
    (draws' : h'.DrawsOn t.sources (.bundle bundle base)) (grammar : h'.grammar = h.grammar)
    (files : s.world.files = t.world.files) (i : Inquiry) :
    s.ask (i.step id) = t.ask (i.step id') := by
  rw [ask_of_bundle called draws, ask_of_bundle called' draws', files, grammar,
    Base.bundle?_congr files]

theorem exists_makeHandle_fresh (s : Session) (id : String) (g : Grammar) (bundle : String)
    (choice : BaseChoice) :
    ∃ t h, s.makeHandle id (.fresh g) (.bundle bundle choice) = .ok t ∧ t.handle? id = some h ∧
      h.grammar = g :=
  ⟨_, ⟨⟨s.descriptors.length, g⟩, some s.sources.length⟩, rfl, by simp [handle?, putHandle], rfl⟩

/-- The variable names the directory `r`, which is not there. -/
def missingBase : Session := start ⟨⟨[], [], .error .notFound⟩, some ⟨[0x72]⟩⟩

/-- The handle `h` is made on the bundle `b` under the base of the variable. -/
def missingBundle : Session :=
  (missingBase.step
    (.makeHandle "h" (.fresh ⟨14, [], [], [], none⟩) (.bundle "b" .environment))).value.2

/-- The handle `h` is cloned, the variable is unset, and a lookup finds nothing; then the
bundle `r/b` comes to be. -/
def bundleComesLater : List Step :=
  [.cloneHandle "h" "k", .setVariable none, .resourceDirectory "k",
    .makeDirectory ⟨[0x72, separator, 0x62]⟩]

theorem bundle?_missingBundle :
    ((Base.given ⟨[0x72]⟩).bundle? (missingBundle.run bundleComesLater).2.world "b").value =
      some ⟨[0x72, separator, 0x62]⟩ := by
  have files : (missingBundle.run bundleComesLater).2.world.files =
      FileSystem.afterAll ⟨[], [], .error .notFound⟩ bundleComesLater := files_run _ _
  have lists : (missingBundle.run bundleComesLater).2.world.files.list ⟨[0x72]⟩ =
      .ok [⟨[0x62], by decide⟩] := by
    rw [files]
    cbv
  have directory :
      (missingBundle.run bundleComesLater).2.world.files.resolve ⟨[0x72, separator, 0x62]⟩ =
        .ok ([⟨[0x62], by decide⟩, ⟨[0x72], by decide⟩], .directory) := by
    rw [files]
    cbv
  exact Base.value_bundle?_of_sole rfl lists (List.mem_singleton_self _)
    ⟨⟨"b", by decide, List.infix_refl _⟩, _, directory⟩ fun e member _ => List.mem_singleton.1 member

end Session

end GrammarQueries
