/-
# GrammarQueries.Proofs.Move -- entries made, removed and renamed

These operations look at an entry itself, a link at the end of the path not
followed.  A link or socket is one more new entry (`place_grows`); a removal
takes an entry away with all below it (`remove_cases`); a renaming clears its
goal and moves the entry there with all below it (`rename_cases`).

Of the two places of a renaming neither is below the other, since what stands at
the goal yields only when it is no directory or an empty one.  So what is moved
arrives whole, and keeps its bytes (`content?_rename`).
-/
import GrammarQueries.Proofs.Edit

namespace GrammarQueries

set_option autoImplicit false

namespace FileSystem

variable {fs fs' : FileSystem}

/-! ## Entries themselves -/

/-- An entry's place is a name in a directory. -/
theorem slot_spec {p : Path} {l : Location} (slot : fs.slot p = .ok l) :
    ∃ name d, l = name :: d ∧ fs.node? d = some (.object .directory) := by
  unfold FileSystem.slot at slot
  split at slot
  · cases slot
  split at slot
  · cases slot
  split at slot
  · cases slot
  · cases slot
  · split at slot
    · next directory =>
        cases slot
        exact ⟨_, _, rfl, object?_eq_some.1 directory⟩
    · cases slot

theorem place_grows {p : Path} {n : Node} (bare : n.content? = none)
    (placed : fs.place p n = .ok fs') : Grows fs fs' := by
  obtain ⟨made, parents, placed⟩ := exists_of_bind_ok placed
  obtain ⟨l, slot, placed⟩ := exists_of_bind_ok placed
  obtain ⟨name, d, rfl, directory⟩ := slot_spec slot
  split at placed
  · next free =>
      cases placed
      exact (makeParents_grows parents).trans (.insert free directory bare (.refl _))
  · cases placed

theorem makeLink_grows {target p : Path} (made : fs.makeLink target p = .ok fs') :
    Grows fs fs' := by
  unfold makeLink at made
  split at made
  · cases made
  split at made
  · cases made
  · exact place_grows rfl made

theorem makeSocket_grows {p : Path} (made : fs.makeSocket p = .ok fs') : Grows fs fs' :=
  place_grows rfl made

/-! ## Removing -/

/-- The location of the entry that a removal takes away, if the system does it. -/
def removed? (fs : FileSystem) (p : Path) : Option Location :=
  match fs.remove p, fs.slot p with
  | .ok _, .ok gone => some gone
  | _, _ => none

theorem remove_cases {p : Path} (done : fs.remove p = .ok fs') :
    ∃ gone, fs.removed? p = some gone ∧ gone ≠ [] ∧ fs' = fs.removeBelow gone := by
  have again := done
  obtain ⟨gone, slot, done⟩ := exists_of_bind_ok done
  obtain ⟨name, d, eq, -⟩ := slot_spec slot
  refine ⟨gone, ?_, ?_, ?_⟩
  · rw [removed?, again, slot]
  · rw [eq]
    exact List.cons_ne_nil _ _
  · split at done
    · cases done
    · cases done
      rfl

theorem Rooted.remove {p : Path} (rooted : fs.Rooted) (done : fs.remove p = .ok fs') :
    fs'.Rooted := by
  obtain ⟨gone, -, ne, rfl⟩ := remove_cases done
  exact rooted.removeBelow ne

theorem content?_removeBelow {l x : Location} (ne : l ≠ []) :
    (fs.removeBelow l).content? x = if l <:+ x then none else fs.content? x := by
  rw [content?, node?_removeBelow ne]
  split <;> rfl

/-! ## Renaming -/

/-- From where to where a renaming moves an entry, if the system does it. -/
def move? (fs : FileSystem) (p goal : Path) : Option (Location × Location) :=
  match fs.rename p goal, fs.makeParents goal with
  | .ok _, .ok made =>
    match made.slot p, made.slot goal with
    | .ok source, .ok place => some (source, place)
    | _, _ => none
  | _, _ => none

/-- What gives its place to another entry is no directory, or an empty one. -/
theorem bare_of_yields {l : Location} {standing coming : Node}
    (yielded : fs.yields l standing coming = .ok ()) :
    standing ≠ .object .directory ∨ fs.names l = [] := by
  unfold yields at yielded
  split at yielded
  · split at yielded
    · next empty => exact .inr empty
    · cases yielded
  · cases yielded
  · cases yielded
  · next differs _ _ => exact .inl differs

/-- A tree in which a place has been cleared, with all below it, and nothing else. -/
structure Clears (fs : FileSystem) (place : Location) (fs' : FileSystem) : Prop where
  rooted : fs'.Rooted
  free : ∀ e ∈ fs'.entries, ¬place <:+ e.location
  node? : ∀ x, ¬place <:+ x → fs'.node? x = fs.node? x

theorem Clears.of_free {place : Location} (rooted : fs.Rooted) (free : fs.node? place = none) :
    fs.Clears place fs :=
  ⟨rooted, rooted.free_below free, fun _ _ => rfl⟩

theorem Clears.of_removeBelow {place : Location} (rooted : fs.Rooted) (ne : place ≠ []) :
    fs.Clears place (fs.removeBelow place) := by
  refine ⟨rooted.removeBelow ne, ?_, ?_⟩
  · intro e member below
    obtain ⟨-, kept⟩ := List.mem_filter.1 member
    simp [List.isSuffixOf_iff_suffix.2 below] at kept
  · intro x apart
    rw [node?_removeBelow ne, if_neg apart]

/-- A renaming makes the directories it needs, and then leaves an entry that is moved
onto itself, or clears the goal and moves the entry there.  Neither of the two places
is then below the other. -/
theorem rename_cases {p goal : Path} (rooted : fs.Rooted) (done : fs.rename p goal = .ok fs') :
    ∃ made source place, Grows fs made ∧ fs.move? p goal = some (source, place) ∧
      (source = place ∧ fs' = made ∨
        ∃ cleared, source ≠ [] ∧ (∃ name d, place = name :: d ∧
          made.node? d = some (.object .directory)) ∧ ¬source <:+ place ∧ ¬place <:+ source ∧
          made.Clears place cleared ∧ fs' = cleared.relocate source place) := by
  have again := done
  obtain ⟨made, parents, done⟩ := exists_of_bind_ok done
  obtain ⟨source, source_slot, done⟩ := exists_of_bind_ok done
  obtain ⟨place, place_slot, done⟩ := exists_of_bind_ok done
  have grows := makeParents_grows parents
  have rooted := grows.rooted rooted
  obtain ⟨name, d, place_eq, directory⟩ := slot_spec place_slot
  obtain ⟨source_name, source_above, source_eq, -⟩ := slot_spec source_slot
  have source_ne : source ≠ [] := by rw [source_eq]; exact List.cons_ne_nil _ _
  have place_ne : place ≠ [] := by rw [place_eq]; exact List.cons_ne_nil _ _
  refine ⟨made, source, place, grows, ?_, ?_⟩
  · simp only [move?, again, parents, source_slot, place_slot]
  cases node : made.node? source with
  | none => simp only [node] at done; cases done
  | some coming =>
      simp only [node] at done
      split at done
      · next same =>
          cases done
          exact .inl ⟨same, rfl⟩
      · next differs =>
          split at done
          · cases done
          · next outside =>
              rw [List.isSuffixOf_iff_suffix] at outside
              right
              split at done
              · next free =>
                  cases done
                  refine ⟨made, source_ne, ⟨name, d, place_eq, directory⟩, outside, ?_,
                    .of_free rooted free, rfl⟩
                  exact rooted.not_below node differs (.inl (by rw [free]; exact nofun))
              · next standing stands =>
                  -- what gives its place is no directory or an empty one, so nothing is below it
                  obtain ⟨⟨⟩, yielded, done⟩ := exists_of_bind_ok done
                  cases done
                  refine ⟨made.removeBelow place, source_ne, ⟨name, d, place_eq, directory⟩, outside,
                    ?_, .of_removeBelow rooted place_ne, rfl⟩
                  refine rooted.not_below node differs ?_
                  rw [stands]
                  exact (bare_of_yields yielded).imp_left fun ne eq => ne (Option.some.inj eq)

theorem Rooted.rename {p goal : Path} (rooted : fs.Rooted) (done : fs.rename p goal = .ok fs') :
    fs'.Rooted := by
  obtain ⟨made, source, place, grows, -, ⟨rfl, rfl⟩ | ⟨cleared, movable, ⟨name, d, rfl, directory⟩,
    outside, -, clears, rfl⟩⟩ := rename_cases rooted done
  · exact grows.rooted rooted
  · have apart : ¬(name :: d) <:+ d := fun below =>
      absurd below.length_le (Nat.not_succ_le_self _)
    refine clears.rooted.relocate movable clears.free ?_ outside
    rw [clears.node? d apart, directory]

/-- **What is moved keeps its bytes**, and so does all that a renaming does not replace;
nothing else is there afterwards. -/
theorem content?_rename {p goal : Path} {source place : Location} (rooted : fs.Rooted)
    (done : fs.rename p goal = .ok fs') (moves : fs.move? p goal = some (source, place)) :
    (∀ x, ¬(place <:+ x ∧ ¬source <:+ x) →
      fs'.content? (moved source place x) = fs.content? x) ∧
    (∀ y bytes, fs'.content? y = some bytes →
      ∃ x, ¬(place <:+ x ∧ ¬source <:+ x) ∧ moved source place x = y) := by
  obtain ⟨made, from_place, to_place, grows, ends, cases_of⟩ := rename_cases rooted done
  rw [moves] at ends
  cases ends
  obtain ⟨rfl, rfl⟩ | ⟨cleared, movable, ⟨name, d, eq, -⟩, outside, inside, clears, rfl⟩ := cases_of
  · refine ⟨fun x _ => ?_, fun y _ _ => ⟨y, fun both => both.2 both.1, moved_self source y⟩⟩
    rw [moved_self, grows.content?]
  · have real : place ≠ [] := by rw [eq]; exact List.cons_ne_nil _ _
    constructor
    · intro x stays
      have apart : ¬place <:+ x := by
        intro replaced
        by_cases carried : source <:+ x
        · cases List.suffix_or_suffix_of_suffix replaced carried with
          | inl below => exact inside below
          | inr below => exact outside below
        · exact stays ⟨replaced, carried⟩
      rw [← grows.content?]
      refine content?_congr ?_
      rw [node?_relocate movable real clears.free apart, clears.node? x apart]
    · intro y bytes file
      obtain ⟨n, node, -⟩ := Option.bind_eq_some_iff.1 file
      obtain ⟨x, apart, lands⟩ := exists_moved movable real clears.free node
      exact ⟨x, fun both => apart both.1, lands⟩

end FileSystem

end GrammarQueries
