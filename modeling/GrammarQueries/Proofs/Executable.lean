/-
# GrammarQueries.Proofs.Executable -- the directory that the running executable stands in

Where the executable is, is kept as a location and spelled as an absolute path.  What
is read back from the spelling is what was spelled: the path ends in the name of the
entry (`Path.fileName?_ofLocation`), and its parent is the path of the directory that
the entry is in (`Path.parent?_ofLocation`).  So a base that depends on the executable
depends on two names of its location, and a detected base goes up one directory more
exactly when the first of them is that of a directory of test binaries
(`Base.directory_detected`).

The executable is a file, so it is in some directory.  It stays so in every run: a
removal keeps its names, and a renaming has it end in the name it goes to
(`FileSystem.InDirectory.afterAll`).
-/
import GrammarQueries.Proofs.Creation

namespace GrammarQueries

set_option autoImplicit false

/-! ## Spelled locations -/

/-- The bytes of a name backwards. -/
theorem Name.exists_reverse (n : Name) :
    ∃ b rest, n.bytes.reverse = b :: rest ∧ ∀ x ∈ b :: rest, x ≠ separator := by
  obtain ⟨some_bytes, -, -, absent, -⟩ := n.spelling
  cases bytes : n.bytes.reverse with
  | nil => exact absurd (List.reverse_eq_nil_iff.1 bytes) some_bytes
  | cons b rest =>
      refine ⟨b, rest, rfl, fun x member same => absent ?_⟩
      rw [← List.mem_reverse, bytes, ← same]
      exact member

namespace Path

theorem ofLocation_cons (n : Name) (l : Location) :
    ofLocation (n :: l) = (ofLocation l).child n.bytes := by
  rw [ofLocation, List.reverse_cons, List.foldl_append]
  rfl

/-- A spelled location backwards: its first name, a separator, and the rest, which is nothing
for an entry of the root. -/
theorem reverse_ofLocation_cons (n : Name) (l : Location) :
    (ofLocation (n :: l)).bytes.reverse =
      n.bytes.reverse ++ separator :: (if l = [] then [] else (ofLocation l).bytes.reverse) := by
  induction l generalizing n with
  | nil =>
      rw [ofLocation_cons]
      simp [ofLocation, child]
  | cons m l ih =>
      obtain ⟨b, rest, bytes, apart⟩ := m.exists_reverse
      have backwards := ih m
      rw [bytes, List.cons_append] at backwards
      have inside : (ofLocation (m :: l)).bytes.getLast? ≠ some separator := by
        rw [← List.head?_reverse, backwards, List.head?_cons, Ne, Option.some.injEq]
        exact apart b List.mem_cons_self
      have spelled : (ofLocation (m :: l)).bytes ≠ [] := by
        intro empty
        rw [empty] at backwards
        cases backwards
      rw [ofLocation_cons, bytes_child spelled, if_neg inside, if_neg (List.cons_ne_nil m l)]
      simp

/-- There is nothing to trim behind a name. -/
theorem trimmedEnd_name (n : Name) (back : List UInt8) :
    trimmedEnd (n.bytes.reverse ++ separator :: back) = n.bytes.reverse ++ separator :: back := by
  obtain ⟨b, rest, bytes, apart⟩ := n.exists_reverse
  rw [bytes, List.cons_append, trimmedEnd, if_neg (apart b List.mem_cons_self), if_neg]
  rintro ⟨rfl, first⟩
  cases rest with
  | nil =>
      have here := n.spelling.2.1
      rw [← List.reverse_reverse n.bytes, bytes] at here
      exact here rfl
  | cons x rest =>
      rw [List.cons_append, List.head?_cons, Option.some.injEq] at first
      exact apart x (List.mem_cons_of_mem _ List.mem_cons_self) first

theorem trimmedEnd_ofLocation (l : Location) :
    trimmedEnd (ofLocation l).bytes.reverse = (ofLocation l).bytes.reverse := by
  cases l with
  | nil => rfl
  | cons n l => rw [reverse_ofLocation_cons, trimmedEnd_name]

/-- No byte of a name ends it. -/
theorem all_ne_separator (n : Name) : ∀ b ∈ n.bytes.reverse, (b != separator) = true := by
  obtain ⟨b, rest, bytes, apart⟩ := n.exists_reverse
  rw [bytes]
  exact fun x member => bne_iff_ne.2 (apart x member)

/-- A spelled location ends in its first name. -/
theorem fileName?_ofLocation (n : Name) (l : Location) :
    (ofLocation (n :: l)).fileName? = some n.bytes := by
  obtain ⟨some_bytes, here, up, -⟩ := n.spelling
  rw [fileName?, trimmedEnd_ofLocation, reverse_ofLocation_cons,
    List.takeWhile_append_of_pos (all_ne_separator n), List.takeWhile_cons_of_neg (by simp),
    List.append_nil, List.reverse_reverse, if_neg]
  rintro (empty | single | double)
  · exact some_bytes empty
  · exact here single
  · exact up double

/-- A spelled location without its first name is the location below. -/
theorem parent?_ofLocation (n : Name) (l : Location) :
    (ofLocation (n :: l)).parent? = some (ofLocation l) := by
  obtain ⟨b, rest, bytes, apart⟩ := n.exists_reverse
  have first := apart b List.mem_cons_self
  rw [parent?, trimmedEnd_ofLocation, reverse_ofLocation_cons, if_neg,
    List.dropWhile_append_of_pos (all_ne_separator n), List.dropWhile_cons_of_neg (by simp)]
  · cases l with
    | nil => rfl
    | cons m l =>
        obtain ⟨x, more, spelled, -⟩ := m.exists_reverse
        have more_left : (ofLocation (m :: l)).bytes.reverse ≠ [] := by
          rw [reverse_ofLocation_cons, spelled]
          exact List.cons_ne_nil x _
        rw [if_neg (List.cons_ne_nil m l), trimmedEnd, if_pos rfl, if_neg more_left,
          trimmedEnd_ofLocation, List.reverse_reverse]
  · rw [bytes, List.cons_append, List.cons.injEq]
    rintro (empty | ⟨same, -⟩)
    · cases empty
    · exact first same

end Path

/-! ## The executable in a run -/

namespace FileSystem

variable {fs fs' : FileSystem}

/-- The running executable is known, and it is not the root. -/
def HasExecutable (fs : FileSystem) : Prop :=
  ∃ place, fs.executable = .ok place ∧ place.location ≠ []

/-- A renaming makes directories, and then leaves an entry that is moved onto itself, or moves
it to a goal that has a name, where what stood is removed. -/
theorem relocates_of_rename {p goal : Path} (done : fs.rename p goal = .ok fs') :
    ∃ made, Grows fs made ∧ (fs' = made ∨ ∃ source place cleared, place ≠ [] ∧
      (cleared = made ∨ cleared = made.removeBelow place) ∧
        fs' = cleared.relocate source place) := by
  obtain ⟨made, parents, done⟩ := exists_of_bind_ok done
  obtain ⟨source, -, done⟩ := exists_of_bind_ok done
  obtain ⟨place, slot, done⟩ := exists_of_bind_ok done
  obtain ⟨name, d, place_eq, -⟩ := slot_spec slot
  have place_ne : place ≠ [] := by
    rw [place_eq]
    exact List.cons_ne_nil _ _
  refine ⟨made, makeParents_grows parents, ?_⟩
  cases node : made.node? source with
  | none =>
      simp only [node] at done
      cases done
  | some coming =>
      simp only [node] at done
      split at done
      · cases done
        exact .inl rfl
      · split at done
        · cases done
        · right
          split at done
          · cases done
            exact ⟨source, place, made, place_ne, .inl rfl, rfl⟩
          · obtain ⟨⟨⟩, -, done⟩ := exists_of_bind_ok done
            cases done
            exact ⟨source, place, _, place_ne, .inr rfl, rfl⟩

namespace HasExecutable

theorem of_executable_eq (known : fs.HasExecutable) (same : fs'.executable = fs.executable) :
    fs'.HasExecutable := by
  obtain ⟨place, at_place, entry⟩ := known
  exact ⟨place, same.trans at_place, entry⟩

/-- What is removed keeps its names. -/
theorem removeBelow (known : fs.HasExecutable) (l : Location) :
    (fs.removeBelow l).HasExecutable := by
  obtain ⟨place, at_place, entry⟩ := known
  refine ⟨withdrawn l place, ?_, ?_⟩
  · rw [FileSystem.removeBelow, at_place]
    rfl
  · rw [location_withdrawn]
    exact entry

/-- What goes to a place with a name has a name. -/
theorem relocate (known : fs.HasExecutable) (source : Location) {goal : Location}
    (ne : goal ≠ []) : (fs.relocate source goal).HasExecutable := by
  obtain ⟨place, at_place, entry⟩ := known
  refine ⟨⟨moved source goal place.standing, place.gone⟩, ?_, ?_⟩
  · rw [FileSystem.relocate, at_place]
    rfl
  · intro nothing
    obtain ⟨gone, standing⟩ := List.append_eq_nil_iff.1 nothing
    dsimp only at gone standing
    unfold moved at standing
    split at standing
    · exact ne (List.append_eq_nil_iff.1 standing).2
    · exact entry (List.append_eq_nil_iff.2 ⟨gone, standing⟩)

theorem after (known : fs.HasExecutable) (step : Step) : (fs.after step).HasExecutable := by
  by_cases makes : step.makes = true
  · exact known.of_executable_eq (Extends.after makes).executable
  · cases done : step.edit fs with
    | error e =>
        rw [after_of_refused step done]
        exact known
    | ok fs' =>
        rw [after_of_done step done]
        cases step with
        | makeDirectory | writeFile | makeLink | makeSocket => exact absurd rfl makes
        | remove =>
            obtain ⟨gone, -, -, rfl⟩ := remove_cases done
            exact known.removeBelow gone
        | rename =>
            obtain ⟨made, grows, rfl | ⟨source, place, cleared, ne, cleared_eq, rfl⟩⟩ :=
              relocates_of_rename done
            · exact known.of_executable_eq (Extends.of_grows grows).executable
            · have known_then := known.of_executable_eq (Extends.of_grows grows).executable
              refine HasExecutable.relocate ?_ source ne
              rcases cleared_eq with rfl | rfl
              · exact known_then
              · exact known_then.removeBelow place
        | _ =>
            cases done
            exact known

/-- **The executable stays known**, and in a directory, in every run. -/
theorem afterAll (known : fs.HasExecutable) (steps : List Step) :
    (fs.afterAll steps).HasExecutable := by
  induction steps generalizing fs with
  | nil => exact known
  | cons step rest ih => exact ih (known.after step)

end HasExecutable

end FileSystem

/-! ## The directory of a base -/

namespace Base

variable {w : World} {place : Whereabouts} {name : Name} {above : Location}

/-- The running executable stands in a directory of test binaries. -/
def InHarness (w : World) : Prop :=
  ∃ place name harness above, w.files.executable = .ok place ∧
    place.location = name :: harness :: above ∧ harness.bytes = harnessName

theorem executableDirectory_eq (known : w.files.executable = .ok place)
    (entry : place.location = name :: above) :
    executableDirectory w = ⟨some (Path.ofLocation above), []⟩ := by
  have path : w.executable = .ok (Path.ofLocation (name :: above)) := by
    rw [World.executable, known, ← entry]
    rfl
  rw [executableDirectory, path]
  dsimp only
  rw [Path.parent?_ofLocation]
  rfl

/-- A detected base is the directory of the executable, or the one above it if the executable
is in a directory of test binaries; only the second is reported. -/
theorem directory_detected (known : w.files.executable = .ok place)
    (entry : place.location = name :: above) :
    (∃ harness up, above = harness :: up ∧ harness.bytes = harnessName ∧
      directory w .detected =
        ⟨some (Path.ofLocation up), [.underTestHarness (Path.ofLocation up)]⟩) ∨
    ((∀ harness up, above = harness :: up → harness.bytes ≠ harnessName) ∧
      directory w .detected = ⟨some (Path.ofLocation above), []⟩) := by
  have detects : directory w .detected =
      some <$> detect (Path.ofLocation above) := by
    rw [directory, executableDirectory_eq known entry]
    rfl
  rw [detects, detect]
  cases above with
  | nil =>
      right
      refine ⟨fun harness up same => ?_, ?_⟩
      · cases same
      have nameless : (Path.ofLocation []).fileName? = none := by decide
      rw [nameless, if_neg (by simp)]
      rfl
  | cons harness up =>
      rw [Path.fileName?_ofLocation, Path.parent?_ofLocation]
      by_cases called : harness.bytes = harnessName
      · left
        refine ⟨harness, up, rfl, called, ?_⟩
        rw [if_pos (congrArg some called)]
        rfl
      · right
        refine ⟨?_, ?_⟩
        · rintro other up' same
          cases same
          exact called
        · rw [if_neg fun same => called (Option.some.inj same)]
          rfl

/-- **A base has a directory** when the executable is known, and what is reported on the way is
that the executable is a test binary, if the base is detected and it is one. -/
theorem exists_directory (known : w.files.HasExecutable) (base : Base) :
    ∃ root, (base.directory w).value = some root ∧
      ((base = .detected ∧ InHarness w) ∧ (base.directory w).events = [.underTestHarness root] ∨
        ¬(base = .detected ∧ InHarness w) ∧ (base.directory w).events = []) := by
  obtain ⟨place, at_place, some_name⟩ := known
  obtain ⟨name, above, entry⟩ := List.exists_cons_of_ne_nil some_name
  cases base with
  | given path =>
      refine ⟨path, rfl, .inr ⟨?_, rfl⟩⟩
      rintro ⟨same, -⟩
      cases same
  | beside =>
      rw [directory, executableDirectory_eq at_place entry]
      refine ⟨_, rfl, .inr ⟨?_, rfl⟩⟩
      rintro ⟨same, -⟩
      cases same
  | detected =>
      rcases directory_detected at_place entry with
        ⟨harness, up, rfl, called, eq⟩ | ⟨other, eq⟩
      · rw [eq]
        exact ⟨_, rfl, .inl ⟨⟨rfl, place, name, harness, up, at_place, entry, called⟩, rfl⟩⟩
      · rw [eq]
        refine ⟨_, rfl, .inr ⟨?_, rfl⟩⟩
        rintro ⟨-, place', name', harness, up, at_place', entry', called⟩
        rw [at_place] at at_place'
        cases at_place'
        rw [entry] at entry'
        cases entry'
        exact other harness up rfl called

end Base

end GrammarQueries
