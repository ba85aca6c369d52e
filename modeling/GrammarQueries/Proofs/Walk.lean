/-
# GrammarQueries.Proofs.Walk -- a search ends, wherever the links lead

`Progress` takes a search one name at a time, as it is carried out: a stack of
listings that are not gone through, which grows by one when a directory is
entered.  Nothing in it bounds the stack.  That it ends, and with what `search`
gives, is `exists_iterate_next_eq_ended`.

A real directory may come up again on a branch, below a link that leads above
it, so neither the directories seen nor the height of the tree bound a branch.
But where a link is entered the directory is new to the branch
(`Grown.origins_nodup`), and between two such places the walk goes down by real
directories, none of them twice (`Grown.exists_run`).  Hence there are at most as
many stretches as directories, and at most as many directories in each
(`Grown.length_stands_le`).
-/
import Mathlib.Data.Finset.Card
import Mathlib.Data.Finset.Filter
import Mathlib.Logic.Function.Iterate
import GrammarQueries.Proofs.Search

namespace GrammarQueries

set_option autoImplicit false

/-- Names that are joined to one path with one result are the same. -/
theorem Path.child_inj {p : Path} {m n : Name} (same : p.child m.bytes = p.child n.bytes) :
    m = n := by
  have bytes : m.bytes = n.bytes := by
    unfold Path.child at same
    split at same
    · exact List.append_cancel_left (Path.mk.inj same)
    · exact (List.cons.inj (List.append_cancel_left (Path.mk.inj same))).2
  cases m
  cases n
  cases bytes
  rfl

namespace FileSystem

/-! ## A search, name by name -/

/-- The names still to be looked at in the current directory of a branch. -/
structure Listing where
  branch : Branch
  names : List Name

/-- How far a search is: the listings not gone through, innermost first, with the problems
met so far, or its result. -/
inductive Progress where
  | going (listings : List Listing) (problems : List Problem)
  | ended (result : Search)

namespace Progress

def start (fs : FileSystem) (directory : Path) : Progress :=
  match fs.resolve directory with
  | .error e => .going [] [.unreadable directory e]
  | .ok (location, .directory) => .going [⟨⟨⟨directory, location⟩, []⟩, fs.names location⟩] []
  | .ok _ => .going [] []

/-- Looks at one more name, or leaves a directory in which none is left. -/
def next (fs : FileSystem) (wanted : List UInt8) : Progress → Progress
  | .ended result => .ended result
  | .going [] problems => .ended ⟨none, problems⟩
  | .going (⟨_, []⟩ :: outer) problems => .going outer problems
  | .going (⟨b, name :: rest⟩ :: outer) problems =>
    match fs.examine b name with
    | .problem p => .going (⟨b, rest⟩ :: outer) (problems ++ [p])
    | .hidden => .going (⟨b, rest⟩ :: outer) problems
    | .other => .going (⟨b, rest⟩ :: outer) problems
    | .file =>
      if name.bytes = wanted then .ended ⟨some (b.pathOf name), problems⟩
      else .going (⟨b, rest⟩ :: outer) problems
    | .directory location =>
      .going (⟨b.enter ⟨b.pathOf name, location⟩, fs.names location⟩ :: ⟨b, rest⟩ :: outer) problems

def branches : Progress → List Branch
  | .going listings _ => listings.map Listing.branch
  | .ended _ => []

/-- A search that was to go on with `outer`, after an inner one that gave `found`. -/
def resume (outer : List Listing) (problems : List Problem) (found : Search) : Progress :=
  match found.file? with
  | some p => .ended ⟨some p, problems ++ found.problems⟩
  | none => .going outer (problems ++ found.problems)

theorem resume_after (outer : List Listing) (problems : List Problem) (p : Problem)
    (found : Search) :
    resume outer problems (found.after p) = resume outer (problems ++ [p]) found := by
  obtain ⟨file?, met⟩ := found
  cases file? <;> simp [resume, Search.after]

end Progress

variable {fs : FileSystem} {wanted : List UInt8}

/-! ## The search ends -/

/-- Some number of steps leads from one stage of a search to another. -/
def Reaches (fs : FileSystem) (wanted : List UInt8) (p q : Progress) : Prop :=
  ∃ n, (Progress.next fs wanted)^[n] p = q

theorem Reaches.refl (p : Progress) : Reaches fs wanted p p := ⟨0, rfl⟩

theorem Reaches.step {p q r : Progress} (taken : Progress.next fs wanted p = q)
    (later : Reaches fs wanted q r) : Reaches fs wanted p r := by
  obtain ⟨n, rfl⟩ := later
  exact ⟨n + 1, by rw [Function.iterate_succ_apply, taken]⟩

theorem Reaches.trans {p q r : Progress} (first : Reaches fs wanted p q)
    (later : Reaches fs wanted q r) : Reaches fs wanted p r := by
  obtain ⟨n, rfl⟩ := first
  obtain ⟨m, rfl⟩ := later
  exact ⟨m + n, Function.iterate_add_apply ..⟩

/-- **A listing is gone through in the end**, whatever links are in it or below it, and
then the search goes on with the one outside it, or has ended with a file. -/
theorem reaches_resume (b : Branch) (names : List Name) (outer : List Listing)
    (problems : List Problem) :
    Reaches fs wanted (.going (⟨b, names⟩ :: outer) problems)
      (.resume outer problems (fs.searchAmong wanted b names)) := by
  fun_induction searchAmong fs wanted b names generalizing outer problems with
  | case1 b =>
      refine .step rfl ?_
      simp only [Progress.resume, List.append_nil]
      exact .refl _
  | case2 b name rest p problem ih =>
      rw [Progress.resume_after]
      exact .step (by simp only [Progress.next, problem]) (ih outer (problems ++ [p]))
  | case3 b name rest hidden ih =>
      exact .step (by simp only [Progress.next, hidden]) (ih outer problems)
  | case4 b name rest other ih =>
      exact .step (by simp only [Progress.next, other]) (ih outer problems)
  | case5 b name rest file called =>
      refine .step (by simp only [Progress.next, file, if_pos called]; rfl) ?_
      simp only [Progress.resume, List.append_nil]
      exact .refl _
  | case6 b name rest file other ih =>
      exact .step (by simp only [Progress.next, file, if_neg other]) (ih outer problems)
  | case7 b name rest l enters below p found ih =>
      refine .step (by simp only [Progress.next, enters]; rfl) ((ih _ _).trans ?_)
      simp only [Progress.resume, below, found]
      exact .refl _
  | case8 b name rest l enters below missing later ih₁ ih₂ =>
      refine .step (by simp only [Progress.next, enters]; rfl) ((ih₁ _ _).trans ?_)
      have goes_on := ih₂ outer (problems ++ below.problems)
      simp only [Progress.resume, below, missing, later] at goes_on ⊢
      simpa only [List.append_assoc] using goes_on

/-- A search, taken name by name, ends with what `search` gives. -/
theorem exists_iterate_next_eq_ended (directory : Path) :
    ∃ n, (Progress.next fs wanted)^[n] (.start fs directory) =
      .ended (fs.search wanted directory) := by
  rw [Progress.start, search]
  cases fs.resolve directory with
  | error e => exact ⟨1, rfl⟩
  | ok found =>
      obtain ⟨l, o⟩ := found
      cases o with
      | directory =>
          dsimp only
          refine (reaches_resume _ _ [] []).trans ?_
          generalize fs.searchAmong wanted ⟨⟨directory, l⟩, []⟩ (fs.names l) = found
          obtain ⟨file?, met⟩ := found
          cases file? with
          | none => exact ⟨1, rfl⟩
          | some p => exact ⟨0, rfl⟩
      | file content => exact ⟨1, rfl⟩
      | socket => exact ⟨1, rfl⟩

/-! ## How a branch grows -/

/-- A branch as a walk makes it: it begins in a directory, and each further directory is
one that the walk enters under a name of the directory above it. -/
inductive Grown (fs : FileSystem) : Branch → Prop where
  | start {s : Stand} (directory : fs.node? s.location = some (.object .directory)) :
      Grown fs ⟨s, []⟩
  | enter {b : Branch} {name : Name} {l : Location} (grown : Grown fs b)
      (enters : fs.examine b name = .directory l) : Grown fs (b.enter ⟨b.pathOf name, l⟩)

theorem grown_start (directory : Path) :
    ∀ b ∈ (Progress.start fs directory).branches, Grown fs b := by
  intro b member
  unfold Progress.start at member
  split at member
  · cases member
  · next l named =>
      rw [Progress.branches, List.map_singleton, List.mem_singleton] at member
      subst member
      exact .start (node?_of_resolve named)
  · cases member

/-- A step of a search leaves the branches it stands on as a walk makes them. -/
theorem grown_next {p : Progress} (grown : ∀ b ∈ p.branches, Grown fs b) :
    ∀ b ∈ (p.next fs wanted).branches, Grown fs b := by
  intro b member
  unfold Progress.next at member
  split at member
  · exact grown b member
  · cases member
  · exact grown b (List.mem_cons_of_mem _ member)
  · next here name rest outer problems =>
      split at member
      · exact grown b member
      · exact grown b member
      · exact grown b member
      · split at member
        · cases member
        · exact grown b member
      · next l enters =>
          rcases List.mem_cons.1 member with rfl | old
          · exact .enter (grown here (List.mem_cons_self ..)) enters
          · exact grown b old

theorem grown_iterate_next (directory : Path) (n : Nat) :
    ∀ b ∈ ((Progress.next fs wanted)^[n] (.start fs directory)).branches, Grown fs b := by
  induction n with
  | zero => exact grown_start directory
  | succ n ih =>
      rw [Function.iterate_succ_apply']
      exact grown_next ih

/-! ## Where links are entered -/

/-- Whether the directory `s` was entered from `above` through a link that stands there. -/
def entersLink (fs : FileSystem) (above s : Stand) : Bool :=
  (fs.names above.location).any fun name =>
    decide (s.path = above.path.child name.bytes) &&
      match fs.node? (name :: above.location) with
      | some (.link _) => true
      | _ => false

/-- Where the stretches of a branch begin that go down by real directories: at its start,
and wherever it enters a link. -/
def origins (fs : FileSystem) : List Stand → List Location
  | [] => []
  | [s] => [s.location]
  | s :: above :: rest =>
    if fs.entersLink above s then s.location :: fs.origins (above :: rest)
    else fs.origins (above :: rest)

theorem entersLink_iff {above s : Stand} :
    fs.entersLink above s = true ↔ ∃ name target, s.path = above.path.child name.bytes ∧
      fs.node? (name :: above.location) = some (.link target) := by
  rw [entersLink, List.any_eq_true]
  constructor
  · rintro ⟨name, -, both⟩
    rw [Bool.and_eq_true, decide_eq_true_eq] at both
    obtain ⟨spelled, link⟩ := both
    split at link
    · next target node => exact ⟨name, target, spelled, node⟩
    · cases link
  · rintro ⟨name, target, spelled, node⟩
    obtain ⟨e, member, location, -⟩ := node?_eq_some_of_ne_nil (List.cons_ne_nil _ _) node
    refine ⟨name, mem_names_iff.2 ⟨e, member, location⟩, ?_⟩
    rw [Bool.and_eq_true, decide_eq_true_eq, node]
    exact ⟨spelled, rfl⟩

theorem origins_subset (stands : List Stand) :
    ∀ l ∈ fs.origins stands, l ∈ stands.map Stand.location := by
  induction stands with
  | nil => exact fun l member => member
  | cons s rest ih =>
      cases rest with
      | nil => exact fun l member => member
      | cons above rest =>
          intro l member
          rw [origins] at member
          split at member
          · rcases List.mem_cons.1 member with rfl | old
            · exact List.mem_cons_self ..
            · exact List.mem_cons_of_mem _ (ih l old)
          · exact List.mem_cons_of_mem _ (ih l member)

/-- A walk enters a directory under its own name, or through a link and then off the branch. -/
theorem enters_cases {b : Branch} {name : Name} {l : Location}
    (enters : fs.examine b name = .directory l) :
    (l = name :: b.here.location ∧ fs.node? (name :: b.here.location) = some (.object .directory)) ∨
      (∃ target, fs.node? (name :: b.here.location) = some (.link target)) ∧
        l ∉ b.stands.map Stand.location := by
  obtain ⟨directory, -⟩ := examine_eq_directory enters
  unfold examine at enters
  split at enters
  · cases enters
  · next o node =>
      obtain ⟨-, -, rfl⟩ := found_eq_directory enters
      exact .inl ⟨rfl, directory⟩
  · next target node =>
      refine .inr ⟨⟨target, node⟩, ?_⟩
      split at enters
      · cases enters
      · split at enters
        · cases enters
        · next off =>
            obtain ⟨-, -, rfl⟩ := found_eq_directory enters
            exact standing?_eq_none off
      · next o other _ =>
          obtain ⟨-, rfl, -⟩ := found_eq_directory enters
          exact absurd rfl other

/-- Where a link is entered another stretch begins, in a directory that is new to the
branch; any other directory stands directly below the one it is entered from. -/
theorem origins_enter {b : Branch} {name : Name} {l : Location}
    (enters : fs.examine b name = .directory l) :
    (l ∉ b.stands.map Stand.location ∧
        fs.origins (b.enter ⟨b.pathOf name, l⟩).stands = l :: fs.origins b.stands) ∨
      (l = name :: b.here.location ∧ fs.entersLink b.here ⟨b.pathOf name, l⟩ = false ∧
        fs.origins (b.enter ⟨b.pathOf name, l⟩).stands = fs.origins b.stands) := by
  have grows : fs.origins (b.enter ⟨b.pathOf name, l⟩).stands =
      if fs.entersLink b.here ⟨b.pathOf name, l⟩ then l :: fs.origins b.stands
      else fs.origins b.stands := rfl
  rw [grows]
  rcases enters_cases enters with ⟨below, node⟩ | ⟨⟨target, node⟩, off⟩
  · have real : fs.entersLink b.here ⟨b.pathOf name, l⟩ = false := by
      rw [← Bool.not_eq_true, entersLink_iff]
      rintro ⟨other, target, spelled, link⟩
      -- the name of the entry is known from its path, so it is the directory and no link
      rw [← Path.child_inj spelled, node] at link
      cases link
    exact .inr ⟨below, real, by rw [real]; rfl⟩
  · have link : fs.entersLink b.here ⟨b.pathOf name, l⟩ = true :=
      entersLink_iff.2 ⟨name, target, rfl, node⟩
    exact .inl ⟨off, by rw [link]; rfl⟩

/-! ## How long a branch gets -/

def realDirectories (fs : FileSystem) : Finset Location :=
  fs.directories.toFinset.filter fun l => fs.node? l = some (.object .directory)

theorem mem_realDirectories {l : Location} :
    l ∈ fs.realDirectories ↔ fs.node? l = some (.object .directory) := by
  rw [realDirectories, Finset.mem_filter, List.mem_toFinset]
  exact ⟨And.right, fun node => ⟨mem_directories node, node⟩⟩

theorem length_le_card_realDirectories {ls : List Location} (nodup : ls.Nodup)
    (real : ∀ l ∈ ls, fs.node? l = some (.object .directory)) :
    ls.length ≤ fs.realDirectories.card := by
  rw [← List.toFinset_card_of_nodup nodup]
  refine Finset.card_le_card fun l member => ?_
  exact mem_realDirectories.2 (real l (List.mem_toFinset.1 member))

namespace Grown

variable {b : Branch}

theorem directory (grown : Grown fs b) :
    ∀ l ∈ b.stands.map Stand.location, fs.node? l = some (.object .directory) := by
  induction grown with
  | start directory => simpa [Branch.stands] using directory
  | enter grown enters ih =>
      intro l member
      rcases List.mem_cons.1 member with rfl | old
      · exact (examine_eq_directory enters).1
      · exact ih l old

/-- **The directories entered through links differ** from each other and from the start. -/
theorem origins_nodup (grown : Grown fs b) : (fs.origins b.stands).Nodup := by
  induction grown with
  | start directory => simp [Branch.stands, origins]
  | @enter b name l grown enters ih =>
      rcases origins_enter enters with ⟨off, eq⟩ | ⟨-, -, eq⟩
      · rw [eq]
        exact List.nodup_cons.2 ⟨fun old => off (origins_subset _ _ old), ih⟩
      · rw [eq]
        exact ih

/-- **A directory entered through a link is none of those above it.** -/
theorem off_above (grown : Grown fs b) {inner rest : List Stand} {s above : Stand}
    (eq : b.stands = inner ++ s :: above :: rest) (link : fs.entersLink above s = true) :
    s.location ∉ (above :: rest).map Stand.location := by
  induction grown generalizing inner with
  | start directory =>
      cases inner with
      | nil => cases eq
      | cons t inner => cases inner <;> cases eq
  | @enter b name l grown enters ih =>
      cases inner with
      | nil =>
          cases eq
          rcases origins_enter enters with ⟨off, -⟩ | ⟨-, real, -⟩
          · exact off
          · exact absurd (real.symm.trans link) Bool.false_ne_true
      | cons t inner => exact ih (List.cons.inj eq).2

/-- The present stretch of a branch: directories each below the one before, as many as
the branch is longer than full stretches from all its other origins. -/
theorem exists_run (grown : Grown fs b) :
    ∃ run : List Location, run.Nodup ∧
      (∀ l ∈ run, fs.node? l = some (.object .directory) ∧
        l.length ≤ b.here.location.length) ∧
      b.stands.length + fs.realDirectories.card ≤
        (fs.origins b.stands).length * fs.realDirectories.card + run.length := by
  induction grown with
  | @start s directory =>
      refine ⟨[s.location], List.nodup_singleton _, ?_, ?_⟩
      · simpa using directory
      · simp [Branch.stands, origins, Nat.add_comm]
  | @enter b name l grown enters ih =>
      obtain ⟨run, nodup, real, bound⟩ := ih
      have directory := (examine_eq_directory enters).1
      rcases origins_enter enters with ⟨-, eq⟩ | ⟨rfl, -, eq⟩
      · -- the stretch that ends here holds no more directories than there are
        have full := length_le_card_realDirectories nodup fun m member => (real m member).1
        refine ⟨[l], List.nodup_singleton _, ?_, ?_⟩
        · simpa [Branch.enter] using directory
        · rw [eq, List.length_cons, List.length_singleton, Nat.succ_mul]
          show b.stands.length + 1 + _ ≤ _
          omega
      · refine ⟨(name :: b.here.location) :: run, List.nodup_cons.2 ⟨?_, nodup⟩, ?_, ?_⟩
        · intro old
          -- the new directory is below all others of the stretch, so it is not among them
          exact absurd (real _ old).2 (Nat.not_succ_le_self _)
        · intro m member
          rcases List.mem_cons.1 member with rfl | old
          · exact ⟨directory, Nat.le_refl _⟩
          · exact ⟨(real m old).1, Nat.le_succ_of_le (real m old).2⟩
        · rw [eq, List.length_cons]
          show b.stands.length + 1 + _ ≤ _
          omega

/-- **A branch holds at most the square of the number of directories.** -/
theorem length_stands_le (grown : Grown fs b) :
    b.stands.length ≤ fs.realDirectories.card * fs.realDirectories.card := by
  obtain ⟨run, nodup, real, bound⟩ := grown.exists_run
  have run_le := length_le_card_realDirectories nodup fun l member => (real l member).1
  have origins_le := length_le_card_realDirectories grown.origins_nodup
    fun l member => grown.directory l (origins_subset _ l member)
  have stretches := Nat.mul_le_mul_right fs.realDirectories.card origins_le
  omega

end Grown

/-! ## Whole searches -/

/-- In the directory `d` stands a link `u` to the root, and so above `d`. -/
def linkAbove : FileSystem where
  entries :=
    [⟨[⟨[0x64], by decide⟩], .object .directory⟩,
      ⟨[⟨[0x75], by decide⟩, ⟨[0x64], by decide⟩], .link ⟨[separator]⟩⟩]
  workingDirectory := []
  executable := .error .notFound

/-- Through the link the search comes to the root, and from there to `d` once more. -/
theorem linkAbove_revisits :
    ∃ b ∈ ((Progress.next linkAbove [])^[2] (.start linkAbove ⟨[0x64]⟩)).branches,
      b.stands.map Stand.location = [[⟨[0x64], by decide⟩], [], [⟨[0x64], by decide⟩]] := by
  have stood : ((Progress.next linkAbove [] (Progress.next linkAbove []
      (.start linkAbove ⟨[0x64]⟩))).branches.map fun b => b.stands.map Stand.location) =
        [[[⟨[0x64], by decide⟩], [], [⟨[0x64], by decide⟩]], [[], [⟨[0x64], by decide⟩]],
          [[⟨[0x64], by decide⟩]]] := by cbv
  exact List.mem_map.1 (stood ▸ List.mem_cons_self ..)

/-- **A search ends, and its branches are bounded by the square of the number of
directories**, whatever links there are and wherever they lead.  On each branch that the
search stands on, the directories entered through links differ from each other and from
the start, and each of them from all directories above it.  This does not keep a real
directory from being entered again, below a link that leads above it. -/
theorem search_ends_on_bounded_branches :
    (∀ (fs : FileSystem) (name : String) (directory : Path),
      (∃ n result,
        (Progress.next fs (Utf8.encode name.toList))^[n] (.start fs directory) = .ended result ∧
        fs.findFile name directory = ⟨result.file?, result.problems.map (.entrySkipped directory)⟩) ∧
      ∀ n, ∀ b ∈ ((Progress.next fs (Utf8.encode name.toList))^[n] (.start fs directory)).branches,
        (fs.origins b.stands).Nodup ∧
        (∀ inner s above rest, b.stands = inner ++ s :: above :: rest →
          fs.entersLink above s = true → s.location ∉ (above :: rest).map Stand.location) ∧
        b.stands.length ≤ fs.realDirectories.card * fs.realDirectories.card) ∧
    ∃ (fs : FileSystem) (name : String) (directory : Path) (n : Nat),
      ∃ b ∈ ((Progress.next fs (Utf8.encode name.toList))^[n] (.start fs directory)).branches,
        ¬(b.stands.map Stand.location).Nodup := by
  refine ⟨fun fs name directory => ⟨?_, ?_⟩, ?_⟩
  · obtain ⟨n, ends⟩ := @exists_iterate_next_eq_ended fs (Utf8.encode name.toList) directory
    exact ⟨n, _, ends, rfl⟩
  · intro n b member
    have grown := grown_iterate_next directory n b member
    exact ⟨grown.origins_nodup, fun inner s above rest => grown.off_above, grown.length_stands_le⟩
  · obtain ⟨b, member, again⟩ := linkAbove_revisits
    refine ⟨linkAbove, "", ⟨[0x64]⟩, 2, b, member, ?_⟩
    rw [again]
    decide

end FileSystem

end GrammarQueries
