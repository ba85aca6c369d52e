/-
# GrammarQueries.Proofs.Run -- what a run does to the files

Each step either asks the system for a change of the files or leaves them
(`Step.edit`), and a change that is refused is none (`FileSystem.after`).  What
a session holds besides the files has no part in this, so a run does to the
files what its steps do to them one after the other (`files_run`).  A rooted
tree stays rooted throughout.
-/
import GrammarQueries.Proofs.Move
import GrammarQueries.Session

namespace GrammarQueries

set_option autoImplicit false

/-! ## What a run does to the files -/

/-- What the system makes of a step that changes the files; any other leaves them. -/
def Step.edit (fs : FileSystem) : Step → Except FileError FileSystem
  | .makeDirectory path => fs.makeDirectories path
  | .writeFile path content => fs.write path content
  | .makeLink target path => fs.makeLink target path
  | .makeSocket path => fs.makeSocket path
  | .remove path => fs.remove path
  | .rename path goal => fs.rename path goal
  | _ => .ok fs

/-- The files after a step; a change that the system refuses does nothing. -/
def FileSystem.after (fs : FileSystem) (step : Step) : FileSystem :=
  match step.edit fs with
  | .ok fs' => fs'
  | .error _ => fs

def FileSystem.afterAll (fs : FileSystem) (steps : List Step) : FileSystem :=
  steps.foldl FileSystem.after fs

namespace Session

theorem files_change (s : Session) (result : Except FileError FileSystem) :
    (s.change result).value.2.world.files =
      match result with
      | .ok files => files
      | .error _ => s.world.files := by
  cases result with
  | ok files => rfl
  | error e => rfl

/-- A change of the files, done or refused, leaves sources and handles as they are. -/
theorem kept_of_change (s : Session) (result : Except FileError FileSystem) :
    (s.change result).value.2.sources = s.sources ∧
      (s.change result).value.2.handles = s.handles := by
  cases result with
  | ok files => exact ⟨rfl, rfl⟩
  | error e => exact ⟨rfl, rfl⟩

theorem value_tellOf (s : Session) (id : String) (answer : Handle → Logged Answer) :
    (s.tellOf id answer).value.2 = s := by
  unfold tellOf
  split <;> rfl

theorem world_lookup (s : Session) (id : String) (answer : Handle → Lookup Answer) :
    (s.lookup id answer).value.2.world = s.world := by
  unfold Session.lookup
  split <;> rfl

/-- Choosing a descriptor leaves all of a session but its descriptors. -/
theorem kept_of_chosenDescriptor {s t : Session} {grammar : GrammarChoice} {d : Descriptor}
    (chosen : s.chosenDescriptor grammar = .ok (d, t)) :
    t.world = s.world ∧ t.sources = s.sources ∧ t.handles = s.handles := by
  unfold chosenDescriptor at chosen
  split at chosen
  · cases chosen
    exact ⟨rfl, rfl, rfl⟩
  · split at chosen
    · cases chosen
      exact ⟨rfl, rfl, rfl⟩
    · cases chosen

theorem world_chosenSource {s t : Session} {source : SourceChoice} {id? : Option SourceId}
    (chosen : s.chosenSource source = .ok (id?, t)) : t.world = s.world := by
  unfold chosenSource at chosen
  split at chosen
  · cases chosen; rfl
  · cases chosen; rfl
  · cases chosen; rfl
  · cases chosen; rfl
  · split at chosen
    · cases chosen; rfl
    · cases chosen

theorem world_makeHandle {s t : Session} {id : String} {grammar : GrammarChoice}
    {source : SourceChoice} (made : s.makeHandle id grammar source = .ok t) :
    t.world = s.world := by
  obtain ⟨⟨d, s'⟩, descriptor, made⟩ := exists_of_bind_ok made
  obtain ⟨⟨id?, s''⟩, chosen, made⟩ := exists_of_bind_ok made
  cases made
  show s''.world = s.world
  rw [world_chosenSource chosen, (kept_of_chosenDescriptor descriptor).1]

/-- A step does to the files of a session what it does to files, whatever the session
holds besides. -/
theorem files_step (s : Session) (step : Step) :
    (s.step step).value.2.world.files = s.world.files.after step := by
  cases step with
  | makeDirectory | writeFile | makeLink | makeSocket | remove | rename => exact files_change s _
  | makeHandle id grammar source =>
      unfold Session.step
      dsimp only
      split
      · next made => exact congrArg World.files (world_makeHandle made)
      · rfl
  | cloneHandle source id =>
      unfold Session.step
      dsimp only
      split <;> rfl
  | distinctHandles ids =>
      unfold Session.step
      dsimp only
      split <;> rfl
  | sameHandle | showHandle | hasSource | loadPath =>
      exact congrArg (·.world.files) (value_tellOf s _ _)
  | resourceDirectory | resource | queryFile | loadQuery | loadQueries =>
      exact congrArg World.files (world_lookup s _ _)
  | _ => rfl

/-- **A run does to the files what its steps do**, one after the other. -/
theorem files_run (s : Session) (steps : List Step) :
    (s.run steps).2.world.files = s.world.files.afterAll steps := by
  induction steps generalizing s with
  | nil => rfl
  | cons step rest ih =>
      show ((s.step step).value.2.run rest).2.world.files = _
      rw [ih, files_step]
      rfl

end Session

/-! ## Rooted trees -/

namespace FileSystem

variable {fs fs' : FileSystem}

theorem after_of_done (step : Step) (done : step.edit fs = .ok fs') : fs.after step = fs' := by
  rw [after, done]

theorem after_of_refused (step : Step) {e : FileError} (refused : step.edit fs = .error e) :
    fs.after step = fs := by
  rw [after, refused]

theorem Rooted.after (rooted : fs.Rooted) (step : Step) : (fs.after step).Rooted := by
  unfold FileSystem.after
  split
  · next fs' done =>
      cases step with
      | makeDirectory => exact (makeDirectories_grows done).rooted rooted
      | writeFile => exact rooted.write done
      | makeLink => exact (makeLink_grows done).rooted rooted
      | makeSocket => exact (makeSocket_grows done).rooted rooted
      | remove => exact rooted.remove done
      | rename => exact rooted.rename done
      | _ =>
          cases done
          exact rooted
  · exact rooted

/-- Every entry stands in a directory throughout a run. -/
theorem Rooted.afterAll (rooted : fs.Rooted) (steps : List Step) :
    (fs.afterAll steps).Rooted := by
  induction steps generalizing fs with
  | nil => exact rooted
  | cons step rest ih => exact ih (rooted.after step)

end FileSystem

end GrammarQueries
