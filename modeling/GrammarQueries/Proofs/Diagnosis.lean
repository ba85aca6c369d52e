/-
# GrammarQueries.Proofs.Diagnosis -- the events of a load tell why it came out as it did

To a caller the reasons for which there is no query are all one answer.  The events tell
them apart.  Locating a bundle reports one event, by its outcome (`Base.Locates`),
and so does a load that finds no file or whose text is rejected (`Handle.Concludes`).
Each of these relations has one constructor for each outcome there is, so an event
stands for an outcome and an outcome for its event.

A load on a bundle strings them together: what is reported about the base, about the
bundle, by the search and about the query, in this order (`Report`), and the report
agrees with what the lookups answer (`Report.Explains`).
-/
import GrammarQueries.Proofs.Environment
import GrammarQueries.Proofs.Executable
import GrammarQueries.Proofs.Malformed

namespace GrammarQueries

set_option autoImplicit false

/-! ## One event for each outcome -/

namespace Base

/-- What locating a bundle gives, and what it reports. -/
inductive Locates (fs : FileSystem) (root : Path) (bundle : String) :
    Option Path → Event → Prop where
  | found (p : Path) {listing : List Name} (lists : fs.list root = .ok listing) :
      Locates fs root bundle (some p) (.bundleFound bundle p)
  | unreadable {e : FileError} (fails : fs.list root = .error e) :
      Locates fs root bundle none (.baseUnreadable root bundle e)
  | missing {listing : List Name} (lists : fs.list root = .ok listing) :
      Locates fs root bundle none (.bundleMissing bundle root)

theorem locates_bundleIn? (fs : FileSystem) (root : Path) (bundle : String) :
    ∃ e, (bundleIn? fs root bundle).events = [e] ∧
      Locates fs root bundle (bundleIn? fs root bundle).value e := by
  unfold bundleIn?
  cases lists : fs.list root with
  | error e => exact ⟨_, rfl, .unreadable lists⟩
  | ok names =>
      dsimp only
      cases names.find? (isBundle fs root bundle) with
      | some name => exact ⟨_, rfl, .found _ lists⟩
      | none => exact ⟨_, rfl, .missing lists⟩

/-- Behind what is said of the base stands one event, which says what came of locating. -/
theorem exists_locates {w : World} {base : Base} {root : Path}
    (resolves : (base.directory w).value = some root) (bundle : String) :
    ∃ e, (base.bundle? w bundle).events = (base.directory w).events ++ [e] ∧
      Locates w.files root bundle (base.bundle? w bundle).value e := by
  obtain ⟨e, event, locates⟩ := locates_bundleIn? w.files root bundle
  refine ⟨e, ?_, ?_⟩
  · rw [bundle?, Logged.events_bind, resolves]
    exact congrArg ((base.directory w).events ++ ·) event
  · rw [value_bundle? resolves]
    exact locates

end Base

namespace Handle

/-- What loading the query of a kind comes to, and what is reported of that. -/
inductive Concludes (kind : QueryFile) :
    Except LoadFailure (Option Query) → List Event → Prop where
  | absent : Concludes kind (.ok none) [.queryMissing kind]
  | loaded (q : Query) : Concludes kind (.ok (some q)) []
  | undecodable (p : Path) (m : Utf8.Malformed) : Concludes kind (.error (.undecodable p m)) []
  | rejected (p : Path) (e : Query.Error) :
      Concludes kind (.error (.rejected p e)) [.queryRejected p e.row e.column e.message]

variable {h : Handle} {w : World} {sources : List SharedSource} {kind : QueryFile}

theorem concludes_loadFile {fs : FileSystem} {g : Grammar} {p : Path} {content : List UInt8}
    (reads : fs.read p = .ok content) :
    Concludes kind ((loadFile fs g p).value.map some) (loadFile fs g p).events := by
  rw [loadFile, reads]
  dsimp only
  cases Utf8.decode content with
  | error m => exact .undecodable p m
  | ok cs =>
      dsimp only
      cases g.compile (String.ofList cs) with
      | ok q => exact .loaded q
      | error e => exact .rejected p e

/-- Behind what is reported of looking for the file stands what is reported of the query. -/
theorem exists_concludes (h : Handle) (w : World) (sources : List SharedSource)
    (kind : QueryFile) :
    ∃ outcome, (h.loadQuery w kind).events sources =
        (h.queryFile? w kind).events sources ++ outcome ∧
      Concludes kind ((h.loadQuery w kind).answer sources) outcome := by
  cases found : (h.queryFile? w kind).answer sources with
  | none =>
      refine ⟨[.queryMissing kind], ?_, ?_⟩
      · rw [Lookup.answer] at found
        rw [Lookup.events, run_loadQuery, Lookup.events]
        dsimp only
        rw [found]
      · rw [answer_loadQuery_eq_ok_none_iff.2 found]
        exact .absent
  | some p =>
      obtain ⟨root, trail, content, -, -, -, reads⟩ := exists_trail_of_queryFile? found
      refine ⟨_, events_loadQuery_of_found found, ?_⟩
      rw [answer_loadQuery_of_found found]
      exact concludes_loadFile reads

/-- A handle on a bundle locates it, and if it is there searches it for the file. -/
theorem exists_searched {bundle : String} {base : Base}
    (draws : h.DrawsOn sources (.bundle bundle base)) (w : World) (kind : QueryFile) :
    ∃ searched, (h.queryFile? w kind).events sources =
        (base.bundle? w bundle).events ++ searched ∧
      ((base.bundle? w bundle).value = none → searched = []) ∧
      ∀ p, (base.bundle? w bundle).value = some p →
        searched = (w.files.findFile kind.fileName p).events := by
  obtain ⟨id, asked, given, held⟩ := draws
  rw [Lookup.events, queryFile?, run_resource?_of_held given held, Logged.events_map, Source.answer,
    FileSystem.findIn]
  cases base.bundle? w bundle with
  | mk root? events =>
      cases root? with
      | none =>
          refine ⟨[], rfl, fun _ => rfl, fun p same => ?_⟩
          cases same
      | some root =>
          refine ⟨_, rfl, fun nowhere => ?_, fun p same => ?_⟩
          · cases nowhere
          · cases same
            rfl

end Handle

/-! ## The report of a load -/

def Event.heading (e : Event) : Level × String := (e.level, e.message)

/-- What a load on a bundle reports, part by part. -/
structure Report where
  /-- About the base. -/
  harness : List Event
  /-- About the bundle. -/
  located : Event
  /-- By the search of the bundle. -/
  searched : List Event
  /-- About the query. -/
  outcome : List Event

def Report.events (r : Report) : List Event := r.harness ++ r.located :: (r.searched ++ r.outcome)

/-- A report says why a load of a kind from a bundle under a base, whose directory is `root`,
came out as it did. -/
structure Report.Explains (r : Report) (w : World) (base : Base) (root : Path) (bundle : String)
    (kind : QueryFile) (result : Except LoadFailure (Option Query)) : Prop where
  in_harness : r.harness.map Event.heading = [(.trace, "Running under test harness")] ↔
    base = .detected ∧ Base.InHarness w
  no_harness : r.harness = [] ↔ ¬(base = .detected ∧ Base.InHarness w)
  found : r.located.heading = (.debug, "Resolved resource bundle") ↔
    ∃ p, (base.bundle? w bundle).value = some p
  found_path : ∀ p, r.located = .bundleFound bundle p ↔ (base.bundle? w bundle).value = some p
  unreadable : r.located.heading = (.debug, "Cannot read bundle root") ↔
    ∃ e, w.files.list root = .error e
  missing : r.located.heading = (.debug, "No resource bundle found") ↔
    (base.bundle? w bundle).value = none ∧ ∃ listing, w.files.list root = .ok listing
  unsearched : (base.bundle? w bundle).value = none → r.searched = []
  search : ∀ p, (base.bundle? w bundle).value = some p →
    r.searched = (w.files.findFile kind.fileName p).events
  skipped : ∀ e ∈ r.searched, e.heading = (.trace, "Skipping unreadable entry")
  absent : r.outcome.map Event.heading = [(.debug, "No query file shipped")] ↔ result = .ok none
  rejected : r.outcome.map Event.heading = [(.warn, "Query compilation failed")] ↔
    ∃ p e, result = .error (.rejected p e)
  rejection : ∀ p e, result = .error (.rejected p e) →
    r.outcome = [.queryRejected p e.row e.column e.message]
  silent : r.outcome = [] ↔
    (∃ q, result = .ok (some q)) ∨ ∃ p m, result = .error (.undecodable p m)

/-- The event of locating says which of its three outcomes there is, and where the bundle is. -/
theorem Base.Locates.explains {fs : FileSystem} {root : Path} {bundle : String} {p? : Option Path}
    {e : Event} (locates : Locates fs root bundle p? e) :
    (e.heading = (.debug, "Resolved resource bundle") ↔ ∃ p, p? = some p) ∧
      (∀ p, e = .bundleFound bundle p ↔ p? = some p) ∧
      (e.heading = (.debug, "Cannot read bundle root") ↔ ∃ err, fs.list root = .error err) ∧
      (e.heading = (.debug, "No resource bundle found") ↔
        p? = none ∧ ∃ listing, fs.list root = .ok listing) := by
  cases locates with
  | found p lists => simp [Event.heading, Event.level, Event.message, lists]
  | unreadable fails => simp [Event.heading, Event.level, Event.message, fails]
  | missing lists => simp [Event.heading, Event.level, Event.message, lists]

/-- The events of a conclusion say which of the four outcomes of a load there is, a query and
bytes that are no text alone being passed over. -/
theorem Handle.Concludes.explains {kind : QueryFile}
    {result : Except LoadFailure (Option Query)} {outcome : List Event}
    (concludes : Concludes kind result outcome) :
    (outcome.map Event.heading = [(.debug, "No query file shipped")] ↔ result = .ok none) ∧
      (outcome.map Event.heading = [(.warn, "Query compilation failed")] ↔
        ∃ p e, result = .error (.rejected p e)) ∧
      (∀ p e, result = .error (.rejected p e) →
        outcome = [.queryRejected p e.row e.column e.message]) ∧
      (outcome = [] ↔
        (∃ q, result = .ok (some q)) ∨ ∃ p m, result = .error (.undecodable p m)) := by
  cases concludes with
  | absent => simp [Event.heading, Event.level, Event.message]
  | loaded q => simp
  | undecodable p m => simp
  | rejected p e =>
      refine ⟨?_, ?_, ?_, ?_⟩
      · simp [Event.heading, Event.level, Event.message]
      · exact iff_of_true rfl ⟨p, e, rfl⟩
      · rintro p' e' same
        cases same
        rfl
      · simp

namespace Handle

variable {h : Handle} {w : World} {sources : List SharedSource} {bundle : String} {base : Base}

/-- **A load on a bundle reports why it came out as it did.** -/
theorem exists_explains (draws : h.DrawsOn sources (.bundle bundle base))
    (known : w.files.HasExecutable) (kind : QueryFile) :
    ∃ root r, (base.directory w).value = some root ∧
      (h.loadQuery w kind).events sources = r.events ∧
      Report.Explains r w base root bundle kind ((h.loadQuery w kind).answer sources) := by
  obtain ⟨root, resolves, of_base⟩ := Base.exists_directory known base
  obtain ⟨located, of_bundle, locates⟩ := Base.exists_locates resolves bundle
  obtain ⟨searched, of_file, unsearched, search⟩ := exists_searched draws w kind
  obtain ⟨outcome, of_query, concludes⟩ := exists_concludes h w sources kind
  obtain ⟨found, found_path, unreadable, missing⟩ := locates.explains
  obtain ⟨absent, rejected, rejection, silent⟩ := concludes.explains
  have harness : ((base.directory w).events.map Event.heading =
        [(.trace, "Running under test harness")] ↔ base = .detected ∧ Base.InHarness w) ∧
      ((base.directory w).events = [] ↔ ¬(base = .detected ∧ Base.InHarness w)) := by
    rcases of_base with ⟨inside, event⟩ | ⟨outside, none_reported⟩
    · rw [event]
      exact ⟨iff_of_true rfl inside, iff_of_false (List.cons_ne_nil _ _) fun outside =>
        outside inside⟩
    · rw [none_reported]
      exact ⟨iff_of_false (by simp) outside, iff_of_true rfl outside⟩
  refine ⟨root, ⟨(base.directory w).events, located, searched, outcome⟩, resolves, ?_, ?_⟩
  · rw [of_query, of_file, of_bundle, Report.events]
    simp only [List.append_assoc, List.cons_append, List.nil_append]
  · refine
      { in_harness := harness.1, no_harness := harness.2, found, found_path, unreadable, missing
        unsearched, search, skipped := ?_, absent, rejected, rejection, silent }
    -- without a bundle nothing is searched, and with one each event is that of a problem
    intro e member
    cases at_path : (base.bundle? w bundle).value with
    | none =>
        rw [unsearched at_path] at member
        cases member
    | some p =>
        rw [search p at_path] at member
        obtain ⟨problem, -, rfl⟩ := List.mem_map.1 member
        rfl

/-- Both kinds are loaded from the bundle as it is, one after the other. -/
theorem events_loadQueries_of_drawsOn (draws : h.DrawsOn sources (.bundle bundle base))
    (w : World) :
    (h.loadQueries w).events sources =
      match (h.loadQuery w .highlights).answer sources with
      | .error _ => (h.loadQuery w .highlights).events sources
      | .ok _ =>
        (h.loadQuery w .highlights).events sources ++
          (h.loadQuery w .injections).events sources := by
  obtain ⟨id, asked, given, held⟩ := draws
  have both := congrArg Logged.events (h.run_loadQueries_of_held (w := w) given held)
  rw [Logged.events_map] at both
  simp only [Lookup.events, Lookup.answer]
  rw [both, run_loadQuery_of_held given held, run_loadQuery_of_held given held, Grammar.loadSetIn]
  simp only [Source.answer, Logged.events_map, Logged.value_map]
  cases h.grammar.loadIn w.files .highlights (base.bundle? w bundle) with
  | mk first events =>
      cases first with
      | error f => exact List.append_nil events
      | ok highlights =>
          rw [Logged.events_bind]
          dsimp only
          rw [Logged.events_map]

end Handle

namespace Session

/-- The executable `/w/deps/x` is a test binary, and the bundle `/w/v` ships a query that is
one closing bracket. -/
def testBinary : Session :=
  .start
    { files :=
        { entries :=
            [⟨[⟨[0x77], by decide⟩], .object .directory⟩,
              ⟨[⟨Base.harnessName, by decide⟩, ⟨[0x77], by decide⟩], .object .directory⟩,
              ⟨[⟨[0x78], by decide⟩, ⟨Base.harnessName, by decide⟩, ⟨[0x77], by decide⟩],
                .object (.file [])⟩,
              ⟨[⟨[0x76], by decide⟩, ⟨[0x77], by decide⟩], .object .directory⟩,
              ⟨[⟨Utf8.encode "highlights.scm".toList, by decide⟩, ⟨[0x76], by decide⟩,
                ⟨[0x77], by decide⟩], .object (.file [0x29])⟩]
          workingDirectory := []
          executable := .ok ⟨[⟨[0x78], by decide⟩, ⟨Base.harnessName, by decide⟩,
            ⟨[0x77], by decide⟩], []⟩ }
      variableValue? := none }

/-- A handle is made for the bundle called `v` under a detected base. -/
def makeDetectedHandle : List Step :=
  [.makeHandle "h" (.fresh ⟨14, [], [], [], none⟩) (.bundle "v" (.fixed .detected))]

def detectedHandle : Handle := ⟨⟨0, ⟨14, [], [], [], none⟩⟩, some 0⟩

theorem resolve_testBinary_base :
    testBinary.world.files.resolve (.ofString "/w") = .ok ([⟨[0x77], by decide⟩], .directory) :=
  FileSystem.resolve_child_of_object (n := ⟨[0x77], by decide⟩)
    testBinary.world.files.resolve_root rfl

theorem resolve_testBinary_bundle :
    testBinary.world.files.resolve (.ofString "/w/v") =
      .ok ([⟨[0x76], by decide⟩, ⟨[0x77], by decide⟩], .directory) :=
  FileSystem.resolve_child_of_object (n := ⟨[0x76], by decide⟩) resolve_testBinary_base rfl

theorem resolve_testBinary_query :
    testBinary.world.files.resolve (.ofString "/w/v/highlights.scm") =
      .ok ([⟨Utf8.encode "highlights.scm".toList, by decide⟩, ⟨[0x76], by decide⟩,
        ⟨[0x77], by decide⟩], .file [0x29]) :=
  FileSystem.resolve_child_of_object (n := ⟨Utf8.encode "highlights.scm".toList, by decide⟩)
    resolve_testBinary_bundle rfl

theorem bundle?_testBinary :
    (Base.bundle? testBinary.world .detected "v").value = some (.ofString "/w/v") := by
  have lists : testBinary.world.files.list (.ofString "/w") =
      .ok [⟨Base.harnessName, by decide⟩, ⟨[0x76], by decide⟩] :=
    FileSystem.list_eq_ok_iff.2 ⟨_, resolve_testBinary_base, rfl⟩
  have qualifies :
      Base.Qualifies testBinary.world.files (.ofString "/w") "v" ⟨[0x76], by decide⟩ :=
    ⟨⟨"v", by decide, List.infix_refl _⟩, _, resolve_testBinary_bundle⟩
  refine Base.value_bundle?_of_sole rfl lists (by decide) qualifies fun e member other => ?_
  rcases List.mem_pair.1 member with rfl | same
  · -- the name of the directory of test binaries has no `v` in it
    obtain ⟨⟨text, encoded, part⟩, -⟩ := other
    rw [← Utf8.encode_injective encoded] at part
    exact absurd part (by decide)
  · exact same

theorem loadQuery_testBinary :
    (detectedHandle.loadQuery testBinary.world .highlights).answer
      (testBinary.run makeDetectedHandle).2.sources =
        .error (.rejected (.ofString "/w/v/highlights.scm") ⟨.malformed, 0, 0, 0, ")\n^"⟩) := by
  have found : (testBinary.world.files.search
      (Utf8.encode QueryFile.highlights.fileName.toList) (.ofString "/w/v")).file? =
        some (.ofString "/w/v/highlights.scm") := by
    rw [FileSystem.search, resolve_testBinary_bundle]
    dsimp only
    rw [FileSystem.searchAmong_file?]
    rfl
  have given : (detectedHandle.queryFile? testBinary.world .highlights).answer
      (testBinary.run makeDetectedHandle).2.sources = some (.ofString "/w/v/highlights.scm") :=
    (Base.answer_resource?_of_bundle? ⟨0, 0, rfl, rfl⟩ bundle?_testBinary _).trans found
  have reads : testBinary.world.files.read (.ofString "/w/v/highlights.scm") =
      .ok (Utf8.encode ")".toList) := by
    rw [FileSystem.read, resolve_testBinary_query]
    rfl
  have refused : detectedHandle.grammar.compile ")" = .error ⟨.malformed, 0, 0, 0, ")\n^"⟩ := by
    with_unfolding_all rfl
  rw [Handle.answer_loadQuery_of_found given, loadFile_of_encoded reads, refused]
  rfl

end Session

end GrammarQueries
