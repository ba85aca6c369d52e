/-
# GrammarQueries.Proofs.Compatibility -- a grammar is refused exactly when it is not compatible

A text that is no query has one of three faults (`Query.compileCharacters_error`):
it does not read, one of its patterns is impossible, or a predicate is wrong.
None of them is of the kind `incompatible`, so that kind speaks of the grammar
alone: it is given for every text if the interface version is out of range
(`Grammar.compile_of_not_isCompatible`) and for none if it is in range
(`Grammar.kind_ne_incompatible`).

Loading adds two causes of its own, an unread file and bytes that are no text.
They come before the compiler, so they are what they are with any grammar.
-/
import GrammarQueries.Proofs.Loading

namespace GrammarQueries

set_option autoImplicit false

namespace Query

/-! ## Why a text is no query -/

/-- The elements of a list are mapped in order, so a failure is that of one of them. -/
theorem exists_of_mapM_error {ε α β : Type} {f : α → Except ε β} {xs : List α} {e : ε}
    (fails : xs.mapM f = .error e) : ∃ x ∈ xs, f x = .error e := by
  induction xs with
  | nil => cases fails
  | cons x xs ih =>
      rw [List.mapM_cons] at fails
      cases first : f x with
      | error e' =>
          rw [first] at fails
          cases fails
          exact ⟨x, List.mem_cons_self .., first⟩
      | ok y =>
          rw [first] at fails
          cases later : xs.mapM f with
          | error e' =>
              rw [later] at fails
              cases fails
              obtain ⟨x', member, eq⟩ := ih later
              exact ⟨x', List.mem_cons_of_mem _ member, eq⟩
          | ok ys =>
              rw [later] at fails
              cases fails

/-- **Why a text is no query** for a grammar that can be used. -/
inductive Rejects (g : Grammar) (source : List Char) : Error → Prop where
  /-- Reading comes upon a fault. -/
  | unread {f : Fault source} (fault : Reading.query g source = .error f) :
      Rejects g source f.error
  /-- All is read, but no tree has the shape of a pattern. -/
  | impossible {captures : List String} {patterns : List (TopPattern source)}
      {place : Cursor source} (reads : Reading.query g source = .ok (captures, patterns))
      (found : firstImpossible? g patterns = some place) :
      Rejects g source (Fault.error ⟨.impossible, place⟩)
  /-- A predicate of a pattern has the wrong arguments. -/
  | predicate {captures : List String} {patterns : List (TopPattern source)}
      {pattern : TopPattern source} {f : PredicateFault}
      (reads : Reading.query g source = .ok (captures, patterns))
      (possible : firstImpossible? g patterns = none) (member : pattern ∈ patterns)
      (fault : Conditions.ofPredicates captures pattern.predicates = .error f) :
      Rejects g source (f.error pattern.start)

theorem compileCharacters_error {g : Grammar} {source : List Char} {e : Error}
    (fails : compileCharacters g source = .error e) : Rejects g source e := by
  unfold compileCharacters at fails
  split at fails
  · next f fault =>
      cases fails
      exact .unread fault
  · next captures patterns reads =>
      split at fails
      · next place found =>
          cases fails
          exact .impossible reads found
      · next possible =>
          have settles : patterns.mapM (TopPattern.settle captures) = .error e := by
            cases settled : patterns.mapM (TopPattern.settle captures) with
            | error e' =>
                rw [settled] at fails
                cases fails
                rfl
            | ok all =>
                rw [settled] at fails
                cases fails
          obtain ⟨pattern, member, unsettled⟩ := exists_of_mapM_error settles
          unfold TopPattern.settle at unsettled
          split at unsettled
          · cases unsettled
          · next f fault =>
              cases unsettled
              exact .predicate reads possible member fault

/-- No fault of a text is that the grammar cannot be used. -/
theorem Rejects.kind_ne_incompatible {g : Grammar} {source : List Char} {e : Error}
    (rejects : Rejects g source e) : e.kind ≠ .incompatible := by
  have of_reading : ∀ kind : FaultKind, kind.errorKind ≠ .incompatible := by
    intro kind
    cases kind <;> exact nofun
  cases rejects with
  | unread => exact of_reading _
  | impossible => exact of_reading .impossible
  | predicate => exact nofun

end Query

namespace Grammar

variable {g : Grammar}

/-! ## The compiler's own test -/

theorem isCompatible_iff : g.isCompatible = true ↔ 13 ≤ g.abiVersion ∧ g.abiVersion ≤ 15 := by
  rw [isCompatible, Bool.and_eq_true, decide_eq_true_eq, decide_eq_true_eq, oldestAbi, newestAbi]

/-- The compiler's test of the interface version is the one that a caller can make. -/
theorem out_of_range_iff :
    (g.abiVersion < oldestAbi ∨ newestAbi < g.abiVersion) ↔ g.isCompatible = false := by
  rw [← Bool.not_eq_true, isCompatible_iff, oldestAbi, newestAbi]
  omega

theorem compile_of_isCompatible (fits : g.isCompatible = true) (source : String) :
    g.compile source = Query.compileCharacters g source.toList := by
  rw [compile, if_neg]
  rw [out_of_range_iff, fits]
  exact nofun

/-- A grammar that is not compatible is refused before anything of the text is looked at. -/
theorem compile_of_not_isCompatible (unfit : g.isCompatible = false) (source : String) :
    g.compile source = .error (Query.incompatibleError g.abiVersion) := by
  rw [compile, if_pos (out_of_range_iff.2 unfit)]

/-- No text makes the compiler refuse a compatible grammar. -/
theorem kind_ne_incompatible (fits : g.isCompatible = true) {source : String} {e : Query.Error}
    (fails : g.compile source = .error e) : e.kind ≠ .incompatible := by
  rw [compile_of_isCompatible fits] at fails
  exact (Query.compileCharacters_error fails).kind_ne_incompatible

end Grammar

namespace Handle

variable {w : World} {h : Handle} {sources : List SharedSource} {kind : QueryFile} {f : LoadFailure}

/-! ## Failures of loading -/

theorem exists_loadPath_of_loadQuery
    (fails : (h.loadQuery w kind).answer sources = .error f) :
    ∃ p, (h.loadPath w p).value = .error f := by
  cases found : (h.queryFile? w kind).answer sources with
  | none =>
      rw [answer_loadQuery, found] at fails
      cases fails
  | some p =>
      rw [answer_loadQuery_of_found found] at fails
      refine ⟨p, ?_⟩
      cases loaded : (loadFile w.files h.grammar p).value with
      | error f' =>
          rw [loaded] at fails
          cases fails
          exact loaded
      | ok q =>
          rw [loaded] at fails
          cases fails

theorem exists_loadPath_of_loadQueries
    (fails : (h.loadQueries w).answer sources = .error f) :
    ∃ p, (h.loadPath w p).value = .error f := by
  rw [answer_loadQueries] at fails
  cases first : (h.loadQuery w .highlights).answer sources with
  | error f' =>
      rw [first] at fails
      cases fails
      exact exists_loadPath_of_loadQuery first
  | ok highlights =>
      rw [first] at fails
      dsimp only at fails
      cases second : (h.loadQuery w .injections).answer
          ((h.loadQuery w .highlights).after sources) with
      | error f' =>
          rw [second] at fails
          cases fails
          exact exists_loadPath_of_loadQuery second
      | ok injections =>
          rw [second] at fails
          cases fails

/-- What loading says of a compatible grammar is never that it cannot be used. -/
theorem queryError?_kind_ne_incompatible (fits : h.grammar.isCompatible = true) {p : Path}
    (fails : (h.loadPath w p).value = .error f) {e : Query.Error} (cause : f.queryError? = some e) :
    e.kind ≠ .incompatible := by
  obtain ⟨text, -, rejected⟩ := ((failure_of_loadFile fails).2.2 e).1 cause
  exact Grammar.kind_ne_incompatible fits rejected

/-- **Compatibility is exactly what the compiler asks of a grammar.**  Compiling fails for
the grammar's interface version if and only if the grammar is not compatible.  If it is
not, there is one error for all texts, which says nothing of any place in them, and every
file of text fails with it, while a file that is not read or is no text fails for that.
If it is, neither compiling nor loading in any way gives an error of this kind. -/
theorem incompatible_iff_not_isCompatible (h : Handle) :
    (h.grammar.isCompatible = true ↔ 13 ≤ h.grammar.abiVersion ∧ h.grammar.abiVersion ≤ 15) ∧
    (∀ source, (∃ e, h.grammar.compile source = .error e ∧ e.kind = .incompatible) ↔
      h.grammar.isCompatible = false) ∧
    (h.grammar.isCompatible = false → ∃ e : Query.Error,
      e.kind = .incompatible ∧ e.row = 0 ∧ e.column = 0 ∧ e.offset = 0 ∧
      (∀ source, h.grammar.compile source = .error e) ∧
      ∀ (w : World) (p : Path),
        (∀ text : String, w.files.read p = .ok (Utf8.encode text.toList) →
          (h.loadPath w p).value = .error (.rejected p e)) ∧
        (∀ cause, w.files.read p = .error cause →
          (h.loadPath w p).value = .error (.unreadable p cause)) ∧
        ∀ content, w.files.read p = .ok content →
          (∀ text : String, content ≠ Utf8.encode text.toList) →
          ∃ m, (h.loadPath w p).value = .error (.undecodable p m)) ∧
    (h.grammar.isCompatible = true →
      (∀ source e, h.grammar.compile source = .error e → e.kind ≠ .incompatible) ∧
      ∀ (w : World) (sources : List SharedSource) (f : LoadFailure) (e : Query.Error),
        (∃ p, (h.loadPath w p).value = .error f) ∨
          (∃ kind, (h.loadQuery w kind).answer sources = .error f) ∨
          (h.loadQueries w).answer sources = .error f →
        f.queryError? = some e → e.kind ≠ .incompatible) := by
  refine ⟨Grammar.isCompatible_iff, fun source => ⟨?_, ?_⟩, ?_, ?_⟩
  · rintro ⟨e, fails, kind⟩
    rw [← Bool.not_eq_true]
    exact fun fits => Grammar.kind_ne_incompatible fits fails kind
  · intro unfit
    exact ⟨_, Grammar.compile_of_not_isCompatible unfit source, rfl⟩
  · intro unfit
    -- the error says nothing of the text, so it is the same for all texts
    have refused := Grammar.compile_of_not_isCompatible unfit
    refine ⟨_, rfl, rfl, rfl, rfl, refused, fun w p => ⟨?_, fun cause => loadFile_of_unread, ?_⟩⟩
    · intro text reads
      rw [loadPath, loadFile_of_encoded reads, refused]
      rfl
    · intro content reads no_text
      have loads := loads_loadFile (g := h.grammar) reads
      rw [loadPath]
      generalize (loadFile w.files h.grammar p).value = loaded at loads ⊢
      cases loads with
      | query encoded => exact absurd encoded (no_text _)
      | rejected encoded => exact absurd encoded (no_text _)
      | undecodable => exact ⟨_, rfl⟩
  · intro fits
    refine ⟨fun source e fails => Grammar.kind_ne_incompatible fits fails, ?_⟩
    rintro w sources f e (⟨p, fails⟩ | ⟨kind, fails⟩ | fails) cause
    · exact queryError?_kind_ne_incompatible fits fails cause
    · obtain ⟨p, loads⟩ := exists_loadPath_of_loadQuery fails
      exact queryError?_kind_ne_incompatible fits loads cause
    · obtain ⟨p, loads⟩ := exists_loadPath_of_loadQueries fails
      exact queryError?_kind_ne_incompatible fits loads cause

end Handle

end GrammarQueries
