/-
# GrammarQueries.Proofs.Search -- a search finds a file exactly when a trail leads to it

A walk stands where its spelled path leads (`resolve_of_examine`), so whatever a
search gives is the end of a trail (`trail_of_searchAmong`).

A walk does not enter a link to a directory it stands in, so not every trail is
gone.  But one that stands in no directory twice is: none of its links leads
back onto the branch (`searchAmong_isSome_of_way`).  As every trail can be cut
short to such a one, nothing that a trail reaches is hidden by the links that
are refused or by the entries that are passed over (`search_isSome_iff`).
-/
import GrammarQueries.Event
import GrammarQueries.Proofs.Trail

namespace GrammarQueries

set_option autoImplicit false

namespace FileSystem

variable {fs : FileSystem} {wanted : List UInt8}

/-! ## One listed name -/

theorem found_of_hidden {name : Name} {o : Object} {l : Location}
    (hidden : name.bytes.head? = some 0x2E) : found name o l = .hidden :=
  if_pos (Name.isHidden_iff.2 hidden)

theorem found_of_shown {name : Name} {o : Object} {l : Location}
    (shown : name.bytes.head? ≠ some 0x2E) :
    found name o l =
      match o with
      | .directory => .directory l
      | .file _ => .file
      | .socket => .other :=
  if_neg (mt Name.isHidden_iff.1 shown)

theorem found_eq_file {name : Name} {o : Object} {l : Location} (h : found name o l = .file) :
    name.bytes.head? ≠ some 0x2E ∧ ∃ content, o = .file content := by
  by_cases hidden : name.bytes.head? = some 0x2E
  · rw [found_of_hidden hidden] at h
    cases h
  · rw [found_of_shown hidden] at h
    cases o with
    | directory => cases h
    | file content => exact ⟨hidden, content, rfl⟩
    | socket => cases h

theorem found_eq_directory {name : Name} {o : Object} {l m : Location}
    (h : found name o l = .directory m) :
    name.bytes.head? ≠ some 0x2E ∧ o = .directory ∧ l = m := by
  by_cases hidden : name.bytes.head? = some 0x2E
  · rw [found_of_hidden hidden] at h
    cases h
  · rw [found_of_shown hidden] at h
    cases o with
    | directory =>
        cases h
        exact ⟨hidden, rfl, rfl⟩
    | file content => cases h
    | socket => cases h

/-- What a walk makes of a name is what the path of the name leads to, unless
nothing is made of it. -/
theorem resolve_of_examine {b : Branch} (name : Name)
    (stands : fs.resolve b.here.path = .ok (b.here.location, .directory)) :
    (∃ p, fs.examine b name = .problem p) ∨ fs.examine b name = .other ∨
      ∃ o l, fs.resolve (b.pathOf name) = .ok (l, o) ∧ fs.examine b name = found name o l := by
  unfold examine
  split
  · exact .inr (.inl rfl)
  · next o node => exact .inr (.inr ⟨o, _, resolve_child_of_object stands node, rfl⟩)
  · split
    · exact .inl ⟨_, rfl⟩
    · next l named =>
        split
        · exact .inl ⟨_, rfl⟩
        · exact .inr (.inr ⟨.directory, l, named, rfl⟩)
    · next l o _ named => exact .inr (.inr ⟨o, l, named, rfl⟩)

theorem resolve_of_examine_file {b : Branch} {name : Name}
    (stands : fs.resolve b.here.path = .ok (b.here.location, .directory))
    (file : fs.examine b name = .file) :
    name.bytes.head? ≠ some 0x2E ∧
      ∃ l content, fs.resolve (b.pathOf name) = .ok (l, .file content) := by
  rcases resolve_of_examine name stands with ⟨p, eq⟩ | eq | ⟨o, l, named, eq⟩
  · rw [eq] at file; cases file
  · rw [eq] at file; cases file
  · rw [eq] at file
    obtain ⟨shown, content, rfl⟩ := found_eq_file file
    exact ⟨shown, l, content, named⟩

theorem resolve_of_examine_directory {b : Branch} {name : Name} {m : Location}
    (stands : fs.resolve b.here.path = .ok (b.here.location, .directory))
    (enters : fs.examine b name = .directory m) :
    name.bytes.head? ≠ some 0x2E ∧ fs.resolve (b.pathOf name) = .ok (m, .directory) := by
  rcases resolve_of_examine name stands with ⟨p, eq⟩ | eq | ⟨o, l, named, eq⟩
  · rw [eq] at enters; cases enters
  · rw [eq] at enters; cases enters
  · rw [eq] at enters
    obtain ⟨shown, rfl, rfl⟩ := found_eq_directory enters
    exact ⟨shown, named⟩

/-- One step down, taken by a walk: the entry counts as what the step leads to,
unless it is a link to a directory of the branch. -/
theorem examine_of_follow {b : Branch} {name : Name} {links left : Nat} {m : Location} {o : Object}
    (stands : fs.arrive b.here.path = .reached b.here.location links)
    (reached : fs.follow links b.here.location [.down name] = .reached m left)
    (node : fs.node? m = some (.object o))
    (off : o = .directory → m ∉ b.stands.map Stand.location) :
    fs.examine b name = found name o m := by
  have named : fs.resolve (b.pathOf name) = .ok (m, o) :=
    resolve_eq_ok_iff.2 ⟨left, (arrive_child stands name).trans reached, node⟩
  rw [follow_down links name (directory_of_follow reached)] at reached
  unfold examine
  cases entry : fs.node? (name :: b.here.location) with
  | none => rw [entry] at reached; cases reached
  | some n =>
      cases n with
      | object o' =>
          rw [entry] at reached
          cases reached
          rw [entry] at node
          cases node
          rfl
      | link target =>
          simp only [named]
          cases o with
          | directory =>
              have none_stands : b.standing? m = none := by
                rw [Branch.standing?, List.find?_eq_none]
                intro s member
                simpa using fun same => off rfl (List.mem_map.2 ⟨s, member, same⟩)
              simp only [none_stands]
          | file content => rfl
          | socket => rfl

/-! ## What a search gives -/

/-- **A search gives the end of a trail.** -/
theorem trail_of_searchAmong {b : Branch} {names : List Name} {p : Path}
    (stands : fs.resolve b.here.path = .ok (b.here.location, .directory))
    (listed : ∀ name ∈ names, name ∈ fs.names b.here.location)
    (gives : (fs.searchAmong wanted b names).file? = some p) :
    ∃ trail, Trail fs wanted b.here.path trail ∧ p = b.here.path.descend trail := by
  have lists : fs.list b.here.path = .ok (fs.names b.here.location) :=
    list_eq_ok_iff.2 ⟨_, stands, rfl⟩
  fun_induction searchAmong fs wanted b names with
  | case1 b => cases gives
  | case2 b name rest q problem ih =>
      exact ih stands (fun n member => listed n (List.mem_cons_of_mem _ member)) gives lists
  | case3 b name rest hidden ih =>
      exact ih stands (fun n member => listed n (List.mem_cons_of_mem _ member)) gives lists
  | case4 b name rest other ih =>
      exact ih stands (fun n member => listed n (List.mem_cons_of_mem _ member)) gives lists
  | case5 b name rest file called =>
      cases gives
      obtain ⟨shown, l, content, named⟩ := resolve_of_examine_file stands file
      exact ⟨[name], .file lists (listed name (List.mem_cons_self ..)) shown called named, rfl⟩
  | case6 b name rest file other ih =>
      exact ih stands (fun n member => listed n (List.mem_cons_of_mem _ member)) gives lists
  | case7 b name rest m enters below q found ih =>
      cases gives
      obtain ⟨shown, named⟩ := resolve_of_examine_directory stands enters
      obtain ⟨trail, inside, eq⟩ :=
        ih named (fun _ member => member) found (list_eq_ok_iff.2 ⟨_, named, rfl⟩)
      exact ⟨name :: trail, .enter lists (listed name (List.mem_cons_self ..)) shown inside, eq⟩
  | case8 b name rest m enters below none later ih₁ ih₂ =>
      exact ih₂ stands (fun n member => listed n (List.mem_cons_of_mem _ member)) gives lists

/-! ## Names one by one -/

/-- What one listed name gives a search. -/
def hit? (fs : FileSystem) (wanted : List UInt8) (b : Branch) (name : Name) : Option Path :=
  match fs.examine b name with
  | .file => if name.bytes = wanted then some (b.pathOf name) else none
  | .directory l => (fs.searchAmong wanted (b.enter ⟨b.pathOf name, l⟩) (fs.names l)).file?
  | _ => none

/-- A search gives what the first name gives that gives anything. -/
theorem searchAmong_file? (b : Branch) (names : List Name) :
    (fs.searchAmong wanted b names).file? = names.findSome? (fs.hit? wanted b) := by
  induction names with
  | nil => rw [searchAmong]; rfl
  | cons name rest ih =>
      rw [List.findSome?_cons, hit?, searchAmong]
      split
      · next p problem => simp only [problem, Search.after, ih]
      · next hidden => simp only [hidden, ih]
      · next other => simp only [other, ih]
      · next file =>
          simp only [file]
          split <;> simp [ih]
      · next l enters =>
          simp only [enters]
          split
          · next p found => simp only [found]
          · next none => simp only [none, ih]

/-- **A way that stands in no directory twice is gone by the walk.** -/
theorem searchAmong_isSome_of_way {links : Nat} {l : Location} {stops : List Location}
    {names : List Name} (way : Way fs wanted links (l :: stops) names)
    (nodup : (l :: stops).Nodup) {b : Branch} (here : b.here.location = l)
    (stands : fs.arrive b.here.path = .reached b.here.location links)
    (off : ∀ m ∈ stops, m ∉ b.stands.map Stand.location) :
    (fs.searchAmong wanted b (fs.names b.here.location)).file?.isSome := by
  generalize eq : l :: stops = all at way
  -- the walk may find the file elsewhere first; that it gives something is all that is shown
  induction way generalizing l stops b with
  | @file links left l' m name content listed shown called reached node =>
      cases eq
      subst here
      have file : fs.examine b name = .file := by
        rw [examine_of_follow stands reached node (by simp), found_of_shown shown]
      rw [searchAmong_file?, List.findSome?_isSome_iff]
      refine ⟨name, listed, ?_⟩
      rw [hit?, file]
      simp [called]
  | @enter links left l' m stops' name rest listed shown reached below ih =>
      cases eq
      subst here
      have enters : fs.examine b name = .directory m := by
        rw [examine_of_follow stands reached below.directory
          (fun _ => off m (List.mem_cons_self ..)), found_of_shown shown]
      rw [searchAmong_file?, List.findSome?_isSome_iff]
      refine ⟨name, listed, ?_⟩
      rw [hit?, enters]
      obtain ⟨-, nodup_below⟩ := List.nodup_cons.1 nodup
      refine ih nodup_below rfl ((arrive_child stands name).trans reached) ?_ rfl
      -- the stops below are off the longer branch: they are off the old one and differ from `m`
      intro x later
      have differs : x ≠ m := fun same => (List.nodup_cons.1 nodup_below).1 (same ▸ later)
      have old := off x (List.mem_cons_of_mem _ later)
      simpa [Branch.enter, Branch.stands, differs] using old

/-! ## Whole searches -/

/-- A search gives the end of a trail from where it starts. -/
theorem trail_of_search {start p : Path} (gives : (fs.search wanted start).file? = some p) :
    ∃ trail, Trail fs wanted start trail ∧ p = start.descend trail := by
  unfold search at gives
  split at gives
  · cases gives
  · next l named =>
      exact trail_of_searchAmong (b := ⟨⟨start, l⟩, []⟩) named (fun _ member => member) gives
  · cases gives

theorem search_isSome_of_trail {start : Path} {trail : List Name}
    (leads : Trail fs wanted start trail) : (fs.search wanted start).file?.isSome := by
  obtain ⟨l, named⟩ := leads.exists_directory
  obtain ⟨links, reached, -⟩ := resolve_eq_ok_iff.1 named
  obtain ⟨stops, way⟩ := leads.exists_way reached
  obtain ⟨fewer, shorter, simple, nodup⟩ := way.simple
  rw [search, named]
  refine searchAmong_isSome_of_way simple nodup rfl reached fun m stop => ?_
  have differs : m ≠ l := fun same => (List.nodup_cons.1 nodup).1 (same ▸ stop)
  simpa [Branch.stands] using differs

/-- **A search finds a file exactly when a trail leads to one.** -/
theorem search_isSome_iff {start : Path} :
    (fs.search wanted start).file?.isSome ↔ ∃ trail, Trail fs wanted start trail := by
  constructor
  · intro found
    obtain ⟨p, gives⟩ := Option.isSome_iff_exists.1 found
    obtain ⟨trail, leads, -⟩ := trail_of_search gives
    exact ⟨trail, leads⟩
  · rintro ⟨trail, leads⟩
    exact search_isSome_of_trail leads

/-- **`findFile` gives a path exactly when names lead to a file of that name**: none of
them begins with a dot, each is listed by the directory that the names before it lead
to, links followed, and all of them together lead to a regular file.  They may come
back to a directory any number of times. -/
theorem findFile_isSome_iff (fs : FileSystem) (name : String) (directory : Path) :
    (fs.findFile name directory).value.isSome ↔
      ∃ names : List Name,
        (∃ last, names.getLast? = some last ∧ last.bytes = Utf8.encode name.toList) ∧
        (∀ n ∈ names, n.bytes.head? ≠ some 0x2E) ∧
        (∀ before n after, names = before ++ n :: after →
          ∃ listing, fs.list (directory.descend before) = .ok listing ∧ n ∈ listing) ∧
        ∃ l content, fs.resolve (directory.descend names) = .ok (l, .file content) := by
  rw [findFile, search_isSome_iff]
  exact exists_congr fun names => trail_iff

end FileSystem

end GrammarQueries
