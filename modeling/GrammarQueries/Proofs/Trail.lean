/-
# GrammarQueries.Proofs.Trail -- names that lead to a file

A trail is a row of names, none of them with a dot as its first byte, that leads
from a directory through directories to a regular file; every prefix of it is resolved as a
spelled path.  It may pass one directory any number of times.

A `Way` says the same of locations: it keeps the directories stood in and how
many links can still be followed.  A way that comes back to a directory can be
cut short there, because what is left of it can be gone with more links as well
(`Way.of_stop`), so there is always one that stands in no directory twice
(`Way.simple`).
-/
import GrammarQueries.Proofs.Route

namespace GrammarQueries

set_option autoImplicit false

def Path.descend (p : Path) (names : List Name) : Path :=
  names.foldl (fun q name => q.child name.bytes) p

@[simp] theorem Path.descend_nil (p : Path) : p.descend [] = p := rfl

@[simp] theorem Path.descend_cons (p : Path) (name : Name) (names : List Name) :
    p.descend (name :: names) = (p.child name.bytes).descend names := rfl

/-- Hidden names are those with the dot as their first byte. -/
theorem Name.isHidden_iff {n : Name} : n.isHidden = true ↔ n.bytes.head? = some 0x2E := beq_iff_eq

namespace FileSystem

variable {fs : FileSystem} {wanted : List UInt8}

/-! ## Trails -/

/-- The names lead from the directory a path names to a regular file called
`wanted`: each is listed where it is looked for and does not begin with a dot. -/
inductive Trail (fs : FileSystem) (wanted : List UInt8) : Path → List Name → Prop where
  | file {p : Path} {name : Name} {listing : List Name} {l : Location} {content : List UInt8}
      (lists : fs.list p = .ok listing) (listed : name ∈ listing)
      (shown : name.bytes.head? ≠ some 0x2E) (called : name.bytes = wanted)
      (named : fs.resolve (p.child name.bytes) = .ok (l, .file content)) :
      Trail fs wanted p [name]
  | enter {p : Path} {name : Name} {listing rest : List Name}
      (lists : fs.list p = .ok listing) (listed : name ∈ listing)
      (shown : name.bytes.head? ≠ some 0x2E) (below : Trail fs wanted (p.child name.bytes) rest) :
      Trail fs wanted p (name :: rest)

/-- A trail ends at a file. -/
theorem Trail.exists_resolve {p : Path} {names : List Name} (trail : Trail fs wanted p names) :
    ∃ l content, fs.resolve (p.descend names) = .ok (l, .file content) := by
  induction trail with
  | @file p name listing l content lists listed shown called named => exact ⟨l, content, named⟩
  | enter lists listed shown below ih => exact ih

/-- A trail begins in a directory. -/
theorem Trail.exists_directory {p : Path} {names : List Name} (trail : Trail fs wanted p names) :
    ∃ l, fs.resolve p = .ok (l, .directory) := by
  cases trail with
  | file lists =>
      obtain ⟨l, named, -⟩ := list_eq_ok_iff.1 lists
      exact ⟨l, named⟩
  | enter lists =>
      obtain ⟨l, named, -⟩ := list_eq_ok_iff.1 lists
      exact ⟨l, named⟩

theorem not_trail_nil (p : Path) : ¬Trail fs wanted p [] := nofun

theorem trail_cons_iff {p : Path} {name : Name} {rest : List Name} (more : rest ≠ []) :
    Trail fs wanted p (name :: rest) ↔
      (∃ listing, fs.list p = .ok listing ∧ name ∈ listing) ∧ name.bytes.head? ≠ some 0x2E ∧
        Trail fs wanted (p.child name.bytes) rest := by
  constructor
  · intro trail
    cases trail with
    | file => exact absurd rfl more
    | enter lists listed shown below => exact ⟨⟨_, lists, listed⟩, shown, below⟩
  · rintro ⟨⟨listing, lists, listed⟩, shown, below⟩
    exact .enter lists listed shown below

/-- A trail, prefix by prefix: the last name is the wanted one, none begins with a dot,
the path of the names before each of them names a directory that lists it, and the
whole path names a file. -/
theorem trail_iff {p : Path} {names : List Name} :
    Trail fs wanted p names ↔
      (∃ last, names.getLast? = some last ∧ last.bytes = wanted) ∧
      (∀ name ∈ names, name.bytes.head? ≠ some 0x2E) ∧
      (∀ before name after, names = before ++ name :: after →
        ∃ listing, fs.list (p.descend before) = .ok listing ∧ name ∈ listing) ∧
      ∃ l content, fs.resolve (p.descend names) = .ok (l, .file content) := by
  induction names generalizing p with
  | nil => simp [not_trail_nil]
  | cons name rest ih =>
      by_cases more : rest = []
      · subst more
        constructor
        · intro trail
          cases trail with
          | file lists listed shown called named =>
              refine ⟨⟨name, rfl, called⟩, by simpa using shown, ?_, _, _, named⟩
              intro before n after eq
              obtain ⟨rfl, same⟩ | ⟨inner, rfl, none⟩ := List.cons_eq_append_iff.1 eq
              · cases same
                exact ⟨_, lists, listed⟩
              · simp at none
          | enter lists listed shown below => exact absurd below (not_trail_nil _)
        · rintro ⟨⟨last, eq, called⟩, shown, lists, l, content, named⟩
          cases eq
          obtain ⟨listing, lists, listed⟩ := lists [] name [] rfl
          exact .file lists listed (shown name (List.mem_cons_self ..)) called named
      · rw [trail_cons_iff more, ih, List.getLast?_cons_of_ne_nil more, List.forall_mem_cons]
        constructor
        · rintro ⟨here, shown, last, below, lists, named⟩
          refine ⟨last, ⟨shown, below⟩, ?_, named⟩
          -- a prefix of all the names is empty, or begins with the first of them
          intro before n after eq
          obtain ⟨rfl, same⟩ | ⟨inner, rfl, later⟩ := List.cons_eq_append_iff.1 eq
          · cases same
            exact here
          · exact lists inner n after later
        · rintro ⟨last, ⟨shown, below⟩, lists, named⟩
          exact ⟨lists [] name rest rfl, shown, last, below,
            fun before n after eq => lists (name :: before) n after (by rw [eq]; rfl), named⟩

/-! ## Ways -/

/-- The names lead to a file called `wanted` through the directories `stops`, the
first of them being where the way begins, and `links` links may be followed. -/
inductive Way (fs : FileSystem) (wanted : List UInt8) :
    Nat → List Location → List Name → Prop where
  | file {links left : Nat} {l m : Location} {name : Name} {content : List UInt8}
      (listed : name ∈ fs.names l) (shown : name.bytes.head? ≠ some 0x2E)
      (called : name.bytes = wanted)
      (reached : fs.follow links l [.down name] = .reached m left)
      (node : fs.node? m = some (.object (.file content))) :
      Way fs wanted links [l] [name]
  | enter {links left : Nat} {l m : Location} {stops : List Location} {name : Name}
      {rest : List Name}
      (listed : name ∈ fs.names l) (shown : name.bytes.head? ≠ some 0x2E)
      (reached : fs.follow links l [.down name] = .reached m left)
      (below : Way fs wanted left (m :: stops) rest) :
      Way fs wanted links (l :: m :: stops) (name :: rest)

/-- Steps are taken in directories only. -/
theorem directory_of_follow {links left : Nat} {l m : Location} {step : RouteStep}
    {rest : List RouteStep} (reached : fs.follow links l (step :: rest) = .reached m left) :
    fs.node? l = some (.object .directory) := by
  rw [follow_cons] at reached
  split at reached
  · cases reached
  · next directory => exact directory
  · cases reached

theorem Way.directory {links : Nat} {l : Location} {stops : List Location} {names : List Name}
    (way : Way fs wanted links (l :: stops) names) : fs.node? l = some (.object .directory) := by
  cases way with
  | file listed shown called reached node => exact directory_of_follow reached
  | enter listed shown reached below => exact directory_of_follow reached

theorem mem_names_of_list {p : Path} {listing : List Name} {l : Location} {links : Nat}
    {name : Name} (lists : fs.list p = .ok listing) (listed : name ∈ listing)
    (reached : fs.arrive p = .reached l links) : name ∈ fs.names l := by
  obtain ⟨m, named, rfl⟩ := list_eq_ok_iff.1 lists
  obtain ⟨left, again, -⟩ := resolve_eq_ok_iff.1 named
  rw [reached] at again
  cases again
  exact listed

/-- A trail is a way, from wherever its path leads. -/
theorem Trail.exists_way {p : Path} {names : List Name} (trail : Trail fs wanted p names)
    {l : Location} {links : Nat} (reached : fs.arrive p = .reached l links) :
    ∃ stops, Way fs wanted links (l :: stops) names := by
  induction trail generalizing l links with
  | file lists listed shown called named =>
      obtain ⟨left, down, node⟩ := resolve_eq_ok_iff.1 named
      rw [arrive_child reached] at down
      exact ⟨[], .file (mem_names_of_list lists listed reached) shown called down node⟩
  | @enter p name listing rest lists listed shown below ih =>
      obtain ⟨m, directory⟩ := below.exists_directory
      obtain ⟨left, down, -⟩ := resolve_eq_ok_iff.1 directory
      obtain ⟨stops, way⟩ := ih down
      rw [arrive_child reached] at down
      exact ⟨m :: stops, .enter (mem_names_of_list lists listed reached) shown down way⟩

/-! ## Cutting a way short -/

/-- A route leaves at most the links it began with. -/
theorem links_le_of_follow {links left : Nat} {l m : Location} {steps : List RouteStep}
    (reached : fs.follow links l steps = .reached m left) : left ≤ links := by
  fun_induction follow fs links l steps with
  | case1 links l => cases reached; exact Nat.le_refl _
  | case2 => cases reached
  | case3 links l rest directory ih => exact ih reached
  | case4 links l rest directory ih => exact ih reached
  | case5 => cases reached
  | case6 => cases reached
  | case7 links l rest directory name o found ih => exact ih reached
  | case8 => cases reached
  | case9 l rest directory name target found left ih => exact Nat.le_succ_of_le (ih reached)
  | case10 => cases reached

theorem Way.mono {links more : Nat} {stops : List Location} {names : List Name}
    (way : Way fs wanted links stops names) (le : links ≤ more) :
    Way fs wanted more stops names := by
  induction way generalizing more with
  | @file links left l m name content listed shown called reached node =>
      have again := follow_more_links reached (more - links)
      rw [Nat.add_sub_cancel' le] at again
      exact .file listed shown called again node
  | @enter links left l m stops name rest listed shown reached below ih =>
      have again := follow_more_links reached (more - links)
      rw [Nat.add_sub_cancel' le] at again
      exact .enter listed shown again (ih (Nat.le_add_right _ _))

/-- **A way can be begun at any of its stops**, with all the links it had at first. -/
theorem Way.of_stop {links : Nat} {stops : List Location} {names : List Name} {l : Location}
    (way : Way fs wanted links stops names) (stop : l ∈ stops) :
    ∃ later shorter, Way fs wanted links (l :: later) shorter ∧ (l :: later) <:+ stops := by
  induction way with
  | @file links left l' m name content listed shown called reached node =>
      rw [List.mem_singleton] at stop
      subst stop
      exact ⟨[], [name], .file listed shown called reached node, List.suffix_refl _⟩
  | @enter links left l' m stops name rest listed shown reached below ih =>
      rcases List.mem_cons.1 stop with rfl | stop
      · exact ⟨_, _, .enter listed shown reached below, List.suffix_refl _⟩
      · obtain ⟨later, shorter, way, suffix⟩ := ih stop
        exact ⟨later, shorter, way.mono (links_le_of_follow reached),
          suffix.trans (List.suffix_cons _ _)⟩

/-- **Where there is a way, there is one that stands in no directory twice.** -/
theorem Way.simple {links : Nat} {l : Location} {stops : List Location} {names : List Name}
    (way : Way fs wanted links (l :: stops) names) :
    ∃ fewer shorter, Way fs wanted links (l :: fewer) shorter ∧ (l :: fewer).Nodup := by
  generalize eq : l :: stops = all at way
  induction way generalizing l stops with
  | @file links left l' m name content listed shown called reached node =>
      cases eq
      exact ⟨[], [name], .file listed shown called reached node, by simp⟩
  | @enter links left l' m stops' name rest listed shown reached below ih =>
      cases eq
      obtain ⟨fewer, shorter, way, nodup⟩ := ih rfl
      by_cases back : l' ∈ m :: fewer
      · -- the way comes back to where it begins: go on from there at once
        obtain ⟨later, direct, again, suffix⟩ := way.of_stop back
        exact ⟨later, direct, again.mono (links_le_of_follow reached),
          nodup.sublist suffix.sublist⟩
      · exact ⟨m :: fewer, name :: shorter, .enter listed shown reached way,
          List.nodup_cons.2 ⟨back, nodup⟩⟩

end FileSystem

end GrammarQueries
