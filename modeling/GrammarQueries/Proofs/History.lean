/-
# GrammarQueries.Proofs.History -- whose bytes a file has after a run

Through the steps of a run a file can be followed, under another name after a
renaming, until it is removed, replaced or written again (`Keeps`).  What one
step does to the bytes of each file is said once (`Accounts`), for each sort of
step that changes files, and every step is of one of these sorts (`accounts`).

So the bytes of a file are those of the last write that reached it, by whatever
path it was written, or, when none did, those that it had before the run
(`content?_afterAll_iff`).  Loading adds nothing to this: it reads, decodes and
compiles what is there, and remembers nothing.
-/
import Mathlib.Data.List.Basic
import GrammarQueries.Proofs.Loading
import GrammarQueries.Proofs.Run

namespace GrammarQueries

set_option autoImplicit false

namespace FileSystem

variable {fs fs' : FileSystem} {l : Location} {content : List UInt8} {step : Step}

/-! ## Following a file -/

/-- The step writes the file at `l`: the system does it, and the path that is written
names `l` then. -/
def Wrote (fs : FileSystem) (step : Step) (l : Location) (content : List UInt8) : Prop :=
  ∃ p fs' o, step = .writeFile p content ∧ fs.write p content = .ok fs' ∧
    fs'.resolve p = .ok (l, o)

/-- Where the step leaves what stands at `l`, if it leaves it anywhere: a removal takes
away what is below it, a renaming what is at its goal. -/
def carried (fs : FileSystem) (l : Location) : Step → Option Location
  | .remove p =>
    match fs.removed? p with
    | some gone => if gone <:+ l then none else some l
    | none => some l
  | .rename p goal =>
    match fs.move? p goal with
    | some (source, place) =>
      if place <:+ l ∧ ¬source <:+ l then none else some (moved source place l)
    | none => some l
  | _ => some l

/-- The file at `first` is the file at `l` after the steps, and none of them wrote it. -/
inductive Keeps : FileSystem → Location → List Step → Location → Prop where
  | done (fs : FileSystem) (l : Location) : Keeps fs l [] l
  | step {fs : FileSystem} {first next l : Location} {step : Step} {rest : List Step}
      (carried : fs.carried first step = some next)
      (unwritten : ∀ content, ¬fs.Wrote step next content)
      (keeps : Keeps (fs.after step) next rest l) : Keeps fs first (step :: rest) l

/-- The last of the steps that wrote the file now at `l` wrote `content`. -/
def LastWrote (fs : FileSystem) (steps : List Step) (l : Location) (content : List UInt8) : Prop :=
  ∃ before step rest first, steps = before ++ step :: rest ∧
    (fs.afterAll before).Wrote step first content ∧
    ((fs.afterAll before).after step).Keeps first rest l

/-- What holds of the bytes of each file after a step. -/
def Accounts (fs : FileSystem) (step : Step) : Prop :=
  ∀ l content, (fs.after step).content? l = some content ↔
    fs.Wrote step l content ∨
      ∃ first, fs.content? first = some content ∧ fs.carried first step = some l ∧
        ∀ other, ¬fs.Wrote step l other

theorem not_wrote (other : ∀ p content, step ≠ .writeFile p content) :
    ¬fs.Wrote step l content := by
  rintro ⟨p, fs', o, eq, -⟩
  exact other p content eq

/-- A step that moves and writes no file. -/
theorem accounts_of_still (unwritten : ∀ l content, ¬fs.Wrote step l content)
    (stays : ∀ l, fs.carried l step = some l)
    (same : ∀ l, (fs.after step).content? l = fs.content? l) : fs.Accounts step := by
  intro l content
  rw [same]
  constructor
  · intro file
    exact .inr ⟨l, file, stays l, unwritten l⟩
  · rintro (wrote | ⟨first, file, stayed, -⟩)
    · exact absurd wrote (unwritten l content)
    · rw [stays] at stayed
      cases stayed
      exact file

theorem accounts_writeFile (p : Path) (bytes : List UInt8) :
    fs.Accounts (.writeFile p bytes) := by
  cases done : fs.write p bytes with
  | error e =>
      refine accounts_of_still ?_ (fun _ => rfl) fun _ => by
        rw [after_of_refused (.writeFile p bytes) done]
      rintro l content ⟨p', fs', o, eq, written, -⟩
      cases eq
      rw [done] at written
      cases written
  | ok fs' =>
      -- all that is written is one file: the one the path names afterwards, links followed
      obtain ⟨m, named, others⟩ := resolve_write done
      have wrote : ∀ l content, fs.Wrote (.writeFile p bytes) l content ↔
          l = m ∧ content = bytes := by
        intro l content
        constructor
        · rintro ⟨p', fs'', o, eq, written, resolved⟩
          cases eq
          rw [done] at written
          cases written
          rw [named] at resolved
          cases resolved
          exact ⟨rfl, rfl⟩
        · rintro ⟨rfl, rfl⟩
          exact ⟨p, fs', _, rfl, done, named⟩
      intro l content
      rw [after_of_done (.writeFile p bytes) done, wrote]
      by_cases here : l = m
      · subst here
        rw [content?_of_node? (node?_of_resolve named)]
        constructor
        · intro same
          exact .inl ⟨rfl, (Option.some.inj same).symm⟩
        · rintro (⟨-, rfl⟩ | ⟨first, -, -, unwritten⟩)
          · rfl
          · exact absurd ((wrote _ _).2 ⟨rfl, rfl⟩) (unwritten bytes)
      · rw [others l here]
        constructor
        · intro file
          exact .inr ⟨l, file, rfl, fun other written => here ((wrote _ _).1 written).1⟩
        · rintro (⟨same, -⟩ | ⟨first, file, stayed, -⟩)
          · exact absurd same here
          · cases stayed
            exact file

theorem accounts_remove (p : Path) : fs.Accounts (.remove p) := by
  have unwritten : ∀ l content, ¬fs.Wrote (.remove p) l content := fun _ _ => not_wrote nofun
  cases done : fs.remove p with
  | error e =>
      refine accounts_of_still unwritten ?_ fun _ => by rw [after_of_refused (.remove p) done]
      intro l
      simp only [carried, removed?, done]
  | ok fs' =>
      obtain ⟨gone, removed, ne, rfl⟩ := remove_cases done
      intro l content
      rw [after_of_done (.remove p) done, content?_removeBelow ne]
      constructor
      · intro file
        split at file
        · cases file
        · next stands =>
            refine .inr ⟨l, file, ?_, unwritten l⟩
            simp only [carried, removed, if_neg stands]
      · rintro (wrote | ⟨first, file, stayed, -⟩)
        · exact absurd wrote (unwritten l content)
        · simp only [carried, removed] at stayed
          split at stayed
          · cases stayed
          · next stands =>
              cases stayed
              rwa [if_neg stands]

theorem accounts_rename (rooted : fs.Rooted) (p goal : Path) : fs.Accounts (.rename p goal) := by
  have unwritten : ∀ l content, ¬fs.Wrote (.rename p goal) l content := fun _ _ => not_wrote nofun
  cases done : fs.rename p goal with
  | error e =>
      refine accounts_of_still unwritten ?_ fun _ => by rw [after_of_refused (.rename p goal) done]
      intro l
      simp only [carried, move?, done]
  | ok fs' =>
      obtain ⟨-, source, place, -, moves, -⟩ := rename_cases rooted done
      obtain ⟨keeps, before⟩ := content?_rename rooted done moves
      intro l content
      rw [after_of_done (.rename p goal) done]
      constructor
      · intro file
        obtain ⟨first, stays, rfl⟩ := before l content file
        rw [keeps first stays] at file
        refine .inr ⟨first, file, ?_, unwritten _⟩
        simp only [carried, moves, if_neg stays]
      · rintro (wrote | ⟨first, file, landed, -⟩)
        · exact absurd wrote (unwritten l content)
        · simp only [carried, moves] at landed
          split at landed
          · cases landed
          · next stays =>
              cases landed
              rwa [keeps first stays]

/-- A step that only makes entries that are no files. -/
theorem accounts_of_grows (unwritten : ∀ l content, ¬fs.Wrote step l content)
    (stays : ∀ l, fs.carried l step = some l)
    (grows : ∀ fs', step.edit fs = .ok fs' → Grows fs fs') : fs.Accounts step := by
  refine accounts_of_still unwritten stays fun l => ?_
  cases done : step.edit fs with
  | error e => rw [after_of_refused step done]
  | ok fs' => rw [after_of_done step done, (grows fs' done).content?]

/-- **What one step preserves**: the bytes of a file after a step are those that it wrote
there, or those of the file that it left there and did not write. -/
theorem accounts (rooted : fs.Rooted) (step : Step) : fs.Accounts step := by
  have unwritten : (∀ p content, step ≠ .writeFile p content) →
      ∀ l content, ¬fs.Wrote step l content := fun other _ _ => not_wrote other
  cases step with
  | writeFile p bytes => exact accounts_writeFile p bytes
  | remove p => exact accounts_remove p
  | rename p goal => exact accounts_rename rooted p goal
  | makeDirectory =>
      exact accounts_of_grows (unwritten nofun) (fun _ => rfl) fun _ => makeDirectories_grows
  | makeLink => exact accounts_of_grows (unwritten nofun) (fun _ => rfl) fun _ => makeLink_grows
  | makeSocket => exact accounts_of_grows (unwritten nofun) (fun _ => rfl) fun _ => makeSocket_grows
  | _ => exact accounts_of_still (unwritten nofun) (fun _ => rfl) fun _ => rfl

/-! ## Over a run -/

theorem lastWrote_cons {rest : List Step} :
    fs.LastWrote (step :: rest) l content ↔
      (∃ first, fs.Wrote step first content ∧ (fs.after step).Keeps first rest l) ∨
        (fs.after step).LastWrote rest l content := by
  constructor
  · rintro ⟨before, last, tail, first, eq, wrote, keeps⟩
    cases before with
    | nil =>
        cases eq
        exact .inl ⟨first, wrote, keeps⟩
    | cons _ before =>
        cases eq
        exact .inr ⟨before, last, tail, first, rfl, wrote, keeps⟩
  · rintro (⟨first, wrote, keeps⟩ | ⟨before, last, tail, first, rfl, wrote, keeps⟩)
    · exact ⟨[], step, rest, first, rfl, wrote, keeps⟩
    · exact ⟨step :: before, last, tail, first, rfl, wrote, keeps⟩

/-- **The bytes of a file are those of the last write that reached it**, or those that it
had before the steps if none of them wrote it. -/
theorem content?_afterAll_iff (rooted : fs.Rooted) (steps : List Step) :
    (fs.afterAll steps).content? l = some content ↔
      fs.LastWrote steps l content ∨
        ∃ first, fs.content? first = some content ∧ fs.Keeps first steps l := by
  induction steps generalizing fs with
  | nil =>
      constructor
      · intro file
        exact .inr ⟨l, file, .done fs l⟩
      · rintro (⟨before, step, rest, first, eq, -⟩ | ⟨first, file, keeps⟩)
        · cases before <;> cases eq
        · cases keeps
          exact file
  | cons step rest ih =>
      show ((fs.after step).afterAll rest).content? l = some content ↔ _
      rw [ih (rooted.after step), lastWrote_cons]
      constructor
      · rintro (wrote | ⟨next, file, keeps⟩)
        · exact .inl (.inr wrote)
        · obtain wrote | ⟨first, old, carried, unwritten⟩ := (accounts rooted step next content).1 file
          · exact .inl (.inl ⟨next, wrote, keeps⟩)
          · exact .inr ⟨first, old, .step carried unwritten keeps⟩
      · rintro ((⟨next, wrote, keeps⟩ | wrote) | ⟨first, old, keeps⟩)
        · exact .inr ⟨next, (accounts rooted step next content).2 (.inl wrote), keeps⟩
        · exact .inl wrote
        · cases keeps with
          | step carried unwritten keeps =>
              have file := (accounts rooted step _ content).2 (.inr ⟨first, old, carried, unwritten⟩)
              exact .inr ⟨_, file, keeps⟩

/-- What a path names after the steps is read as it was last written. -/
theorem read_of_lastWrote {steps : List Step} {p : Path} {o : Object} (rooted : fs.Rooted)
    (named : (fs.afterAll steps).resolve p = .ok (l, o)) (wrote : fs.LastWrote steps l content) :
    (fs.afterAll steps).read p = .ok content := by
  have file := (content?_afterAll_iff rooted steps).2 (.inl wrote)
  have node := node?_of_resolve named
  rw [content?, node] at file
  cases o with
  | file bytes =>
      cases file
      rw [read, named]
  | directory => cases file
  | socket => cases file

end FileSystem

namespace Handle

/-- **A file loads as the text in it compiles**, and a failure to read it, to decode it or
to compile it is passed on as it is, with the path that was asked for.  So after any run
of steps, whatever was loaded in it, what a path names loads as the text that was last
written there. -/
theorem loadPath_compiles_last_write :
    (∀ (w : World) (h : Handle) (p : Path),
      (∀ e, w.files.read p = .error e → (h.loadPath w p).value = .error (.unreadable p e)) ∧
      (∀ content, w.files.read p = .ok content →
        ((∀ text : String, content ≠ Utf8.encode text.toList) →
          ∃ m, Utf8.decode content = .error m ∧
            (h.loadPath w p).value = .error (.undecodable p m)) ∧
        ∀ text : String, content = Utf8.encode text.toList →
          (∀ other : String, content = Utf8.encode other.toList → other = text) ∧
            (h.loadPath w p).value = (h.grammar.compile text).mapError (.rejected p)) ∧
      ∀ f, (h.loadPath w p).value = .error f →
        f.path = p ∧ (f.isUnreadable = true ↔ ∃ e, w.files.read p = .error e) ∧
          (f.isRejected = true ↔ ∃ e, f.queryError? = some e) ∧
          ∀ e, f.queryError? = some e ↔ ∃ text : String,
            w.files.read p = .ok (Utf8.encode text.toList) ∧ h.grammar.compile text = .error e) ∧
    ∀ (s : Session) (steps : List Step) (h : Handle) (p : Path) (l : Location) (o : Object)
      (text : String),
      s.world.files.Rooted → (s.run steps).2.world.files.resolve p = .ok (l, o) →
      s.world.files.LastWrote steps l (Utf8.encode text.toList) →
      (∀ q, (h.loadPath (s.run steps).2.world p).value = .ok q ↔
        h.grammar.compile text = .ok q) ∧
      ∀ e, (h.loadPath (s.run steps).2.world p).value = .error (.rejected p e) ↔
        h.grammar.compile text = .error e := by
  refine ⟨fun w h p => ⟨fun e => loadFile_of_unread, fun content reads => ⟨?_, ?_⟩, ?_⟩, ?_⟩
  · intro no_text
    have loads := loads_loadFile (g := h.grammar) reads
    show ∃ m, _ ∧ (loadFile w.files h.grammar p).value = _
    generalize (loadFile w.files h.grammar p).value = loaded at loads ⊢
    cases loads with
    | query encoded => exact absurd encoded (no_text _)
    | rejected encoded => exact absurd encoded (no_text _)
    | undecodable _ fault => exact ⟨_, fault, rfl⟩
  · rintro text rfl
    refine ⟨fun other same => ?_, loadFile_of_encoded reads⟩
    exact (String.toList_injective (Utf8.encode_injective same)).symm
  · intro f failed
    obtain ⟨asked, unread, rejected⟩ := failure_of_loadFile failed
    refine ⟨asked, unread, ?_, rejected⟩
    rw [f.isRejected_eq, Option.isSome_iff_exists]
  · intro s steps h p l o text rooted named wrote
    have reads : (s.run steps).2.world.files.read p = .ok (Utf8.encode text.toList) := by
      rw [s.files_run] at named ⊢
      exact FileSystem.read_of_lastWrote rooted named wrote
    have loaded : (h.loadPath (s.run steps).2.world p).value =
        (h.grammar.compile text).mapError (.rejected p) := loadFile_of_encoded reads
    rw [loaded]
    cases h.grammar.compile text with
    | ok q => exact ⟨fun q' => by simp [Except.mapError], fun e => by simp [Except.mapError]⟩
    | error cause => exact ⟨fun q => by simp [Except.mapError], fun e => by simp [Except.mapError]⟩

/-- The file `a` is written through the link `k`, renamed to `b`, and linked to from `m`. -/
def linkThenRename : List Step :=
  [.writeFile ⟨[0x61]⟩ [], .makeLink ⟨[0x61]⟩ ⟨[0x6B]⟩,
    .writeFile ⟨[0x6B]⟩ (Utf8.encode "(_) @x".toList), .rename ⟨[0x61]⟩ ⟨[0x62]⟩,
    .makeLink ⟨[0x62]⟩ ⟨[0x6D]⟩]

theorem loadPath_after_link_and_rename :
    (FileSystem.mk [] [] (.error .notFound)).Rooted ∧
      (FileSystem.mk [] [] (.error .notFound)).LastWrote linkThenRename [⟨[0x62], by decide⟩]
        (Utf8.encode "(_) @x".toList) ∧
      ∀ q, ((Handle.mk ⟨0, ⟨14, [], [], [], none⟩⟩ none).loadPath
          ((Session.start ⟨⟨[], [], .error .notFound⟩, none⟩).run linkThenRename).2.world
          ⟨[0x6D]⟩).value = .ok q ↔
        (Grammar.mk 14 [] [] [] none).compile "(_) @x" = .ok q := by
  have rooted : (FileSystem.mk [] [] (.error .notFound)).Rooted := by
    intro e member
    cases member
  have named : ((Session.start ⟨⟨[], [], .error .notFound⟩, none⟩).run
      linkThenRename).2.world.files.resolve ⟨[0x6D]⟩ =
        .ok ([⟨[0x62], by decide⟩], .file (Utf8.encode "(_) @x".toList)) := by
    rw [Session.files_run]
    cbv
  have wrote : (FileSystem.mk [] [] (.error .notFound)).LastWrote linkThenRename
      [⟨[0x62], by decide⟩] (Utf8.encode "(_) @x".toList) := by
    refine ⟨linkThenRename.take 2, _, _, [⟨[0x61], by decide⟩], rfl, ?_, ?_⟩
    · exact ⟨_, _, _, rfl, by cbv, by cbv⟩
    · have unwritten : ∀ {fs : FileSystem} {step : Step} {l : Location},
          (∀ p content, step ≠ .writeFile p content) → ∀ content, ¬fs.Wrote step l content :=
        fun other _ => FileSystem.not_wrote other
      have renames : ∀ p content, Step.rename ⟨[0x61]⟩ ⟨[0x62]⟩ ≠ .writeFile p content := by
        intro p content same
        cases same
      have links : ∀ p content, Step.makeLink ⟨[0x62]⟩ ⟨[0x6D]⟩ ≠ .writeFile p content := by
        intro p content same
        cases same
      have renamed : ((FileSystem.mk [] [] (.error .notFound)).afterAll
          (linkThenRename.take 3)).carried [⟨[0x61], by decide⟩] (.rename ⟨[0x61]⟩ ⟨[0x62]⟩) =
            some [⟨[0x62], by decide⟩] := by cbv
      exact .step renamed (unwritten renames) (.step (by cbv) (unwritten links) (.done _ _))
  exact ⟨rooted, wrote,
    (loadPath_compiles_last_write.2 _ linkThenRename _ _ _ _ "(_) @x" rooted named wrote).1⟩

end Handle

end GrammarQueries
