/-
# GrammarQueries.Proofs.Outcomes -- a search stops in the complete walk

`Meets` says by rules what a complete walk meets among the names of a directory,
in terms of where their spelled paths lead: a link that leads nowhere or back to
the branch is a problem, even under a hidden name; any other hidden name is
nothing, with all below it; and any other name is an entry, with what the walk
meets below it if it is a directory.  For every start there is one such list,
and the complete walk computes it (`meetsFrom_iff`).

A search is this list up to the first file of the wanted name: it gives the path
of that file, and keeps the problems before it (`search_eq_firstHit`).  What a
list gives is found part by part (`firstHit_append`), as the search does that
goes on behind a directory only when nothing was found in it.
-/
import GrammarQueries.Proofs.Search

namespace GrammarQueries

set_option autoImplicit false

/-- Names in a row are joined by separators behind a path. -/
theorem Path.bytes_descend {p : Path} (spelled : p.bytes ≠ []) (n : Name) (names : List Name) :
    (p.descend (n :: names)).bytes =
      p.bytes ++ (if p.bytes.getLast? = some separator then [] else [separator]) ++
        [separator].intercalate ((n :: names).map Name.bytes) := by
  induction names generalizing p n with
  | nil => simp [bytes_child spelled]
  | cons m names ih =>
      have named : n.bytes ≠ [] := n.spelling.1
      have spelled' : (p.child n.bytes).bytes ≠ [] := by
        rw [bytes_child spelled]
        simp [spelled]
      -- a name does not end in a separator, so one comes behind it
      have ends : (p.child n.bytes).bytes.getLast? ≠ some separator := by
        rw [bytes_child spelled, List.getLast?_append, List.getLast?_eq_some_getLast named]
        intro last
        exact n.separator_not_mem (List.mem_of_getLast? (List.getLast?_eq_some_getLast named ▸ last))
      rw [descend_cons, ih spelled' m, if_neg ends, bytes_child spelled]
      simp [List.intercalate]

def Object.isFile : Object → Bool
  | .file _ => true
  | _ => false

namespace FileSystem

variable {fs : FileSystem} {wanted : List UInt8} {b : Branch} {name : Name} {rest : List Name}

/-! ## What a listed name counts as -/

/-- Whether the name listed in the current directory of a branch is that of a link. -/
def IsLink (fs : FileSystem) (b : Branch) (name : Name) : Prop :=
  ∃ target, fs.node? (name :: b.here.location) = some (.link target)

/-- A link that leads to a directory in which the walk stands. -/
def LeadsBack (fs : FileSystem) (b : Branch) (name : Name) (l : Location) : Prop :=
  fs.IsLink b name ∧ l ∈ b.stands.map Stand.location

/-- What a name listed in the current directory of a branch counts as, by where its spelled
path leads and by its first byte. -/
inductive CountsAs (fs : FileSystem) (b : Branch) (name : Name) : Finding → Prop where
  /-- A link that cannot be followed is a problem, whatever its name. -/
  | broken {e : FileError} (link : fs.IsLink b name)
      (fails : fs.resolve (b.pathOf name) = .error e) :
      CountsAs fs b name (.problem (.unreadable (b.pathOf name) e))
  /-- So is a link back to a directory of the branch. -/
  | loop {l : Location} {s : Stand} (link : fs.IsLink b name)
      (leads : fs.resolve (b.pathOf name) = .ok (l, .directory)) (stood : b.standing? l = some s) :
      CountsAs fs b name (.problem (.loop (b.pathOf name) s.path))
  | hidden {l : Location} {o : Object} (leads : fs.resolve (b.pathOf name) = .ok (l, o))
      (onward : o = .directory → ¬fs.LeadsBack b name l) (hidden : name.bytes.head? = some 0x2E) :
      CountsAs fs b name .hidden
  | file {l : Location} {content : List UInt8}
      (leads : fs.resolve (b.pathOf name) = .ok (l, .file content))
      (shown : name.bytes.head? ≠ some 0x2E) : CountsAs fs b name .file
  | socket {l : Location} (leads : fs.resolve (b.pathOf name) = .ok (l, .socket))
      (shown : name.bytes.head? ≠ some 0x2E) : CountsAs fs b name .other
  | directory {l : Location} (leads : fs.resolve (b.pathOf name) = .ok (l, .directory))
      (onward : ¬fs.LeadsBack b name l) (shown : name.bytes.head? ≠ some 0x2E) :
      CountsAs fs b name (.directory l)

theorem exists_standing?_iff {l : Location} :
    (∃ s, b.standing? l = some s) ↔ l ∈ b.stands.map Stand.location := by
  rw [← Option.isSome_iff_exists, Branch.standing?, List.find?_isSome]
  simp

/-- A listed name is that of a link, or its path leads to what stands there. -/
theorem isLink_or_resolve (stands : fs.resolve b.here.path = .ok (b.here.location, .directory))
    (listed : name ∈ fs.names b.here.location) :
    fs.IsLink b name ∨ ∃ o, fs.node? (name :: b.here.location) = some (.object o) ∧
      fs.resolve (b.pathOf name) = .ok (name :: b.here.location, o) := by
  obtain ⟨e, member, location⟩ := mem_names_iff.1 listed
  obtain ⟨node, stood⟩ := exists_node?_of_mem member
  rw [location] at stood
  cases node with
  | object o => exact .inr ⟨o, stood, resolve_child_of_object stands stood⟩
  | link target => exact .inl ⟨target, stood⟩

theorem examine_of_broken {e : FileError} (link : fs.IsLink b name)
    (fails : fs.resolve (b.pathOf name) = .error e) :
    fs.examine b name = .problem (.unreadable (b.pathOf name) e) := by
  obtain ⟨target, node⟩ := link
  rw [examine, node]
  simp only [fails]

theorem examine_of_loop {l : Location} {s : Stand} (link : fs.IsLink b name)
    (leads : fs.resolve (b.pathOf name) = .ok (l, .directory)) (stood : b.standing? l = some s) :
    fs.examine b name = .problem (.loop (b.pathOf name) s.path) := by
  obtain ⟨target, node⟩ := link
  rw [examine, node]
  simp only [leads, stood]

/-- What does not lead back counts as what its path leads to. -/
theorem examine_of_onward {l : Location} {o : Object}
    (stands : fs.resolve b.here.path = .ok (b.here.location, .directory))
    (listed : name ∈ fs.names b.here.location) (leads : fs.resolve (b.pathOf name) = .ok (l, o))
    (onward : o = .directory → ¬fs.LeadsBack b name l) : fs.examine b name = found name o l := by
  rcases isLink_or_resolve stands listed with ⟨target, node⟩ | ⟨o', node, here⟩
  · rw [examine, node]
    cases o with
    | directory =>
        have off : b.standing? l = none := by
          cases stood : b.standing? l with
          | none => rfl
          | some s => exact absurd ⟨⟨target, node⟩, exists_standing?_iff.1 ⟨s, stood⟩⟩ (onward rfl)
        simp only [leads, off]
    | file content => simp only [leads]
    | socket => simp only [leads]
  · cases leads.symm.trans here
    rw [examine, node]

/-- The walk stands on a branch, and names listed in the current directory lie ahead. -/
structure Ahead (fs : FileSystem) (b : Branch) (names : List Name) : Prop where
  stands : fs.resolve b.here.path = .ok (b.here.location, .directory)
  listed : ∀ name ∈ names, name ∈ fs.names b.here.location

/-- **The walk makes of a name what it counts as.** -/
theorem Ahead.examine_eq_iff {f : Finding} (ahead : Ahead fs b (name :: rest)) :
    fs.examine b name = f ↔ CountsAs fs b name f := by
  have stands := ahead.stands
  have listed := ahead.listed name (List.mem_cons_self ..)
  constructor
  · rintro rfl
    cases leads : fs.resolve (b.pathOf name) with
    | error e =>
        rcases isLink_or_resolve stands listed with link | ⟨o, -, here⟩
        · rw [examine_of_broken link leads]
          exact .broken link leads
        · cases leads.symm.trans here
    | ok reached =>
        obtain ⟨l, o⟩ := reached
        -- a loop comes before hiddenness: a link back is a problem whatever its name is
        by_cases back : o = .directory ∧ fs.LeadsBack b name l
        · obtain ⟨rfl, link, member⟩ := back
          obtain ⟨s, stood⟩ := exists_standing?_iff.2 member
          rw [examine_of_loop link leads stood]
          exact .loop link leads stood
        · have onward : o = .directory → ¬fs.LeadsBack b name l := fun eq led => back ⟨eq, led⟩
          rw [examine_of_onward stands listed leads onward]
          by_cases hidden : name.bytes.head? = some 0x2E
          · rw [found_of_hidden hidden]
            exact .hidden leads onward hidden
          · rw [found_of_shown hidden]
            cases o with
            | directory => exact .directory leads (onward rfl) hidden
            | file content => exact .file leads hidden
            | socket => exact .socket leads hidden
  · intro counts
    cases counts with
    | broken link fails => exact examine_of_broken link fails
    | loop link leads stood => exact examine_of_loop link leads stood
    | hidden leads onward hidden =>
        rw [examine_of_onward stands listed leads onward, found_of_hidden hidden]
    | file leads shown => rw [examine_of_onward stands listed leads nofun, found_of_shown shown]
    | socket leads shown => rw [examine_of_onward stands listed leads nofun, found_of_shown shown]
    | directory leads onward shown =>
        rw [examine_of_onward stands listed leads fun _ => onward, found_of_shown shown]

/-! ## What a walk meets -/

/-- A complete walk that stands on a branch meets these outcomes among names of the current
directory, and below them: what is hidden contributes nothing, nor does what is below it, and
the entry of a directory is followed by the outcomes below it. -/
inductive Meets (fs : FileSystem) : Branch → List Name → List Outcome → Prop where
  | nothing (b : Branch) : Meets fs b [] []
  | problem {b : Branch} {name : Name} {rest : List Name} {later : List Outcome} {p : Problem}
      (counts : CountsAs fs b name (.problem p)) (behind : Meets fs b rest later) :
      Meets fs b (name :: rest) (.problem p :: later)
  | hidden {b : Branch} {name : Name} {rest : List Name} {later : List Outcome}
      (counts : CountsAs fs b name .hidden) (behind : Meets fs b rest later) :
      Meets fs b (name :: rest) later
  | file {b : Branch} {name : Name} {rest : List Name} {later : List Outcome}
      (counts : CountsAs fs b name .file) (behind : Meets fs b rest later) :
      Meets fs b (name :: rest) (.entry (b.pathOf name) name true :: later)
  | other {b : Branch} {name : Name} {rest : List Name} {later : List Outcome}
      (counts : CountsAs fs b name .other) (behind : Meets fs b rest later) :
      Meets fs b (name :: rest) (.entry (b.pathOf name) name false :: later)
  | directory {b : Branch} {name : Name} {rest : List Name} {inner later : List Outcome}
      {l : Location} (counts : CountsAs fs b name (.directory l))
      (below : Meets fs (b.enter ⟨b.pathOf name, l⟩) (fs.names l) inner)
      (behind : Meets fs b rest later) :
      Meets fs b (name :: rest) (.entry (b.pathOf name) name false :: (inner ++ later))

/-- A complete walk from the directory a path names meets these outcomes.  The start may be
hidden or a link; one that cannot be followed is a problem, and one that is no directory has
nothing below it. -/
inductive MeetsFrom (fs : FileSystem) (start : Path) : List Outcome → Prop where
  | unlistable {e : FileError} (fails : fs.resolve start = .error e) :
      MeetsFrom fs start [.problem (.unreadable start e)]
  | bare {l : Location} {o : Object} (leads : fs.resolve start = .ok (l, o))
      (other : o ≠ .directory) : MeetsFrom fs start []
  | directory {l : Location} {outcomes : List Outcome}
      (leads : fs.resolve start = .ok (l, .directory))
      (below : Meets fs ⟨⟨start, l⟩, []⟩ (fs.names l) outcomes) : MeetsFrom fs start outcomes

theorem outcomesAmong_cons (b : Branch) (name : Name) (rest : List Name) :
    fs.outcomesAmong b (name :: rest) =
      match fs.examine b name with
      | .problem p => .problem p :: fs.outcomesAmong b rest
      | .hidden => fs.outcomesAmong b rest
      | .file => .entry (b.pathOf name) name true :: fs.outcomesAmong b rest
      | .other => .entry (b.pathOf name) name false :: fs.outcomesAmong b rest
      | .directory l =>
        .entry (b.pathOf name) name false ::
          (fs.outcomesAmong (b.enter ⟨b.pathOf name, l⟩) (fs.names l) ++
            fs.outcomesAmong b rest) := by
  rw [outcomesAmong]
  split <;> simp_all

theorem Ahead.behind (ahead : Ahead fs b (name :: rest)) : Ahead fs b rest :=
  ⟨ahead.stands, fun _ member => ahead.listed _ (List.mem_cons_of_mem _ member)⟩

theorem Ahead.below {l : Location} (ahead : Ahead fs b (name :: rest))
    (enters : fs.examine b name = .directory l) :
    Ahead fs (b.enter ⟨b.pathOf name, l⟩) (fs.names l) :=
  ⟨(resolve_of_examine_directory ahead.stands enters).2, fun _ member => member⟩

theorem Ahead.of_start {start : Path} {l : Location}
    (leads : fs.resolve start = .ok (l, .directory)) : Ahead fs ⟨⟨start, l⟩, []⟩ (fs.names l) :=
  ⟨leads, fun _ member => member⟩

/-- What the rules say is met is what the complete walk gives. -/
theorem Meets.eq_outcomesAmong {names : List Name} {outcomes : List Outcome}
    (meets : Meets fs b names outcomes) (ahead : Ahead fs b names) :
    outcomes = fs.outcomesAmong b names := by
  induction meets with
  | nothing b => rw [outcomesAmong]
  | problem counts _ ih =>
      rw [outcomesAmong_cons, ahead.examine_eq_iff.2 counts, ih ahead.behind]
  | hidden counts _ ih =>
      rw [outcomesAmong_cons, ahead.examine_eq_iff.2 counts, ih ahead.behind]
  | file counts _ ih =>
      rw [outcomesAmong_cons, ahead.examine_eq_iff.2 counts, ih ahead.behind]
  | other counts _ ih =>
      rw [outcomesAmong_cons, ahead.examine_eq_iff.2 counts, ih ahead.behind]
  | directory counts _ _ ih_below ih =>
      have enters := ahead.examine_eq_iff.2 counts
      rw [outcomesAmong_cons, enters, ih ahead.behind, ih_below (ahead.below enters)]

/-- The complete walk gives what the rules say is met. -/
theorem meets_outcomesAmong {names : List Name} (ahead : Ahead fs b names) :
    Meets fs b names (fs.outcomesAmong b names) := by
  induction b, names using outcomesAmong.induct fs with
  | case1 b =>
      rw [outcomesAmong]
      exact .nothing b
  | case2 b name rest p problem ih =>
      rw [outcomesAmong_cons, problem]
      exact .problem (ahead.examine_eq_iff.1 problem) (ih ahead.behind)
  | case3 b name rest hidden ih =>
      rw [outcomesAmong_cons, hidden]
      exact .hidden (ahead.examine_eq_iff.1 hidden) (ih ahead.behind)
  | case4 b name rest file ih =>
      rw [outcomesAmong_cons, file]
      exact .file (ahead.examine_eq_iff.1 file) (ih ahead.behind)
  | case5 b name rest other ih =>
      rw [outcomesAmong_cons, other]
      exact .other (ahead.examine_eq_iff.1 other) (ih ahead.behind)
  | case6 b name rest l enters ih_below ih =>
      rw [outcomesAmong_cons, enters]
      exact .directory (ahead.examine_eq_iff.1 enters) (ih_below (ahead.below enters))
        (ih ahead.behind)

/-- **Every start has one list of outcomes, and the complete walk computes it.** -/
theorem meetsFrom_iff {start : Path} {outcomes : List Outcome} :
    MeetsFrom fs start outcomes ↔ outcomes = fs.outcomes start := by
  unfold FileSystem.outcomes
  constructor
  · intro meets
    cases meets with
    | unlistable fails => rw [fails]
    | bare leads other =>
        rw [leads]
        split <;> simp_all
    | directory leads below =>
        rw [leads]
        exact below.eq_outcomesAmong (.of_start leads)
  · rintro rfl
    cases leads : fs.resolve start with
    | error e => exact .unlistable leads
    | ok found =>
        obtain ⟨l, o⟩ := found
        cases o with
        | directory => exact .directory leads (meets_outcomesAmong (.of_start leads))
        | file content => exact .bare leads nofun
        | socket => exact .bare leads nofun

/-! ## The first hit -/

/-- Whether an outcome is a file called `wanted`. -/
def Outcome.isHit (wanted : List UInt8) : Outcome → Bool
  | .entry _ name isFile => isFile && decide (name.bytes = wanted)
  | .problem _ => false

def Outcome.path? : Outcome → Option Path
  | .entry path _ _ => some path
  | .problem _ => none

def Outcome.problem? : Outcome → Option Problem
  | .entry _ _ _ => none
  | .problem p => some p

/-- The first file called `wanted` in a list of outcomes, and the problems before it, or all
problems if there is none. -/
def firstHit (wanted : List UInt8) (outcomes : List Outcome) : Search where
  file? := (outcomes.find? (Outcome.isHit wanted)).bind Outcome.path?
  problems := (outcomes.takeWhile fun o => !o.isHit wanted).filterMap Outcome.problem?

theorem firstHit_problem (p : Problem) (rest : List Outcome) :
    firstHit wanted (.problem p :: rest) = (firstHit wanted rest).after p := rfl

theorem firstHit_of_hit {path : Path} (called : name.bytes = wanted) (rest : List Outcome) :
    firstHit wanted (.entry path name true :: rest) = ⟨some path, []⟩ := by
  simp [firstHit, Outcome.isHit, called, Outcome.path?]

theorem firstHit_of_miss {path : Path} {isFile : Bool}
    (miss : Outcome.isHit wanted (.entry path name isFile) = false) (rest : List Outcome) :
    firstHit wanted (.entry path name isFile :: rest) = firstHit wanted rest := by
  simp [firstHit, miss, List.filterMap_cons, Outcome.problem?]

/-- A second list counts only when there is no hit in the first. -/
theorem firstHit_append (outcomes rest : List Outcome) :
    firstHit wanted (outcomes ++ rest) =
      match (firstHit wanted outcomes).file? with
      | some p => ⟨some p, (firstHit wanted outcomes).problems⟩
      | none =>
        ⟨(firstHit wanted rest).file?,
          (firstHit wanted outcomes).problems ++ (firstHit wanted rest).problems⟩ := by
  induction outcomes with
  | nil => rfl
  | cons o outcomes ih =>
      rw [List.cons_append]
      cases o with
      | problem p =>
          rw [firstHit_problem, firstHit_problem, ih]
          simp only [Search.after]
          split <;> rfl
      | entry path name isFile =>
          cases hit : Outcome.isHit wanted (.entry path name isFile) with
          | false => rw [firstHit_of_miss hit, firstHit_of_miss hit, ih]
          | true =>
              simp only [Outcome.isHit, Bool.and_eq_true, decide_eq_true_eq] at hit
              obtain ⟨rfl, called⟩ := hit
              rw [firstHit_of_hit called, firstHit_of_hit called]

/-- A search among names gives the first hit among the outcomes. -/
theorem searchAmong_eq_firstHit (b : Branch) (names : List Name) :
    fs.searchAmong wanted b names = firstHit wanted (fs.outcomesAmong b names) := by
  have missed : ∀ (path : Path) (name : Name),
      Outcome.isHit wanted (.entry path name false) = false := fun _ _ => rfl
  fun_induction FileSystem.searchAmong fs wanted b names with
  | case1 b =>
      rw [outcomesAmong]
      rfl
  | case2 b name rest p problem ih =>
      rw [outcomesAmong_cons, problem, ih]
      rfl
  | case3 b name rest hidden ih => rw [outcomesAmong_cons, hidden, ih]
  | case4 b name rest other ih =>
      rw [outcomesAmong_cons, other, ih]
      exact (firstHit_of_miss (missed _ _) _).symm
  | case5 b name rest file called =>
      rw [outcomesAmong_cons, file]
      exact (firstHit_of_hit called _).symm
  | case6 b name rest file other ih =>
      have miss : Outcome.isHit wanted (.entry (b.pathOf name) name true) = false := by
        simp [Outcome.isHit, other]
      rw [outcomesAmong_cons, file, ih]
      exact (firstHit_of_miss miss _).symm
  | case7 b name rest l enters below p hit ih =>
      rw [outcomesAmong_cons, enters]
      dsimp only
      rw [firstHit_of_miss (missed _ _), firstHit_append, ← ih, hit]
  | case8 b name rest l enters below none later ih_below ih =>
      rw [outcomesAmong_cons, enters]
      dsimp only
      rw [firstHit_of_miss (missed _ _), firstHit_append, ← ih_below, none, ← ih]

/-- **A search gives the first hit of the complete walk.** -/
theorem search_eq_firstHit (start : Path) :
    fs.search wanted start = firstHit wanted (fs.outcomes start) := by
  unfold FileSystem.search FileSystem.outcomes
  cases fs.resolve start with
  | error e => rfl
  | ok found =>
      obtain ⟨l, o⟩ := found
      cases o with
      | directory => exact searchAmong_eq_firstHit _ _
      | file content => rfl
      | socket => rfl

theorem events_findFile (name : String) (directory : Path) :
    (fs.findFile name directory).events =
      (fs.search (Utf8.encode name.toList) directory).problems.map (.entrySkipped directory) := rfl

/-- What a search finds is spelled as the start, a separator unless the start ends in one,
and the names of a trail joined by separators. -/
theorem bytes_of_search {start p : Path} (gives : (fs.search wanted start).file? = some p) :
    ∃ names, Trail fs wanted start names ∧
      p.bytes = start.bytes ++ (if start.bytes.getLast? = some separator then [] else [separator]) ++
        [separator].intercalate (names.map Name.bytes) := by
  obtain ⟨names, trail, rfl⟩ := trail_of_search gives
  obtain ⟨l, directory⟩ := trail.exists_directory
  obtain ⟨left, reached, -⟩ := resolve_eq_ok_iff.1 directory
  refine ⟨names, trail, ?_⟩
  cases names with
  | nil => exact absurd trail (not_trail_nil start)
  | cons n names => exact Path.bytes_descend (spelling_of_arrive reached nofun).2 n names

/-- **A search is the complete walk, up to its first hit.**  For every start there is one list
of outcomes that the complete walk meets, by the rules of `Meets`.  The file found is the first
of them that is a file of the wanted name, or none if none is, and its path is spelled
as the start and the names below it.  Each problem before the hit, or each one if there is
no hit, is reported in order as one entry that is skipped, and nothing else is reported. -/
theorem findFile_is_first_hit (fs : FileSystem) (name : String) (directory : Path) :
    ∃ outcomes : List Outcome,
      (∀ met, MeetsFrom fs directory met ↔ met = outcomes) ∧
      (fs.findFile name directory).value =
        (outcomes.find? (Outcome.isHit (Utf8.encode name.toList))).bind Outcome.path? ∧
      (fs.findFile name directory).events =
        ((outcomes.takeWhile fun o => !o.isHit (Utf8.encode name.toList)).filterMap
          Outcome.problem?).map (.entrySkipped directory) ∧
      (∀ e ∈ (fs.findFile name directory).events, e.level = .trace ∧
        e.message = "Skipping unreadable entry" ∧ ("dir", .text directory.display) ∈ e.fields) ∧
      ∀ p, (fs.findFile name directory).value = some p →
        ∃ names, Trail fs (Utf8.encode name.toList) directory names ∧
          p.bytes = directory.bytes ++
            (if directory.bytes.getLast? = some separator then [] else [separator]) ++
            [separator].intercalate (names.map Name.bytes) := by
  have hit : fs.search (Utf8.encode name.toList) directory =
      firstHit (Utf8.encode name.toList) (fs.outcomes directory) := search_eq_firstHit directory
  refine ⟨fs.outcomes directory, fun met => meetsFrom_iff, congrArg Search.file? hit, ?_, ?_,
    fun p gives => bytes_of_search gives⟩
  · rw [events_findFile, hit]
    rfl
  · intro e reported
    obtain ⟨problem, -, rfl⟩ := List.mem_map.1 reported
    exact ⟨rfl, rfl, List.mem_cons_self ..⟩

end FileSystem

end GrammarQueries
