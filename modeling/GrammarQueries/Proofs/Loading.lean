/-
# GrammarQueries.Proofs.Loading -- absence is no failure, and what is found is read

Loading a file has three outcomes by the bytes of the file (`Loads`), and one
more when there is no file to read (`loads_loadFile`, `loadFile_of_unread`).

A query is loaded from what a search found, and a search gives only what the
system resolves to a file, by the very path it gives.  So loading by convention
never fails for want of a readable file: either there is nothing to load
(`Handle.Lacks`), which is an answer and no failure, or the bytes decide.
-/
import GrammarQueries.Proofs.Lookup
import GrammarQueries.Proofs.Search
import GrammarQueries.Proofs.Utf8

namespace GrammarQueries

set_option autoImplicit false

open FileSystem (Trail)

/-! ## One file -/

/-- What loading makes of the bytes in the file at `path`: the query of the text
that they encode, the compiler's error on that text, or the fault for which they
encode none. -/
inductive Loads (g : Grammar) (path : Path) (content : List UInt8) :
    Except LoadFailure Query → Prop where
  | query {text : String} {q : Query} (encoded : content = Utf8.encode text.toList)
      (compiles : g.compile text = .ok q) : Loads g path content (.ok q)
  | rejected {text : String} {e : Query.Error} (encoded : content = Utf8.encode text.toList)
      (fails : g.compile text = .error e) : Loads g path content (.error (.rejected path e))
  | undecodable {m : Utf8.Malformed} (no_text : ∀ text : String, content ≠ Utf8.encode text.toList)
      (fault : Utf8.decode content = .error m) :
      Loads g path content (.error (.undecodable path m))

variable {fs : FileSystem} {g : Grammar} {path : Path}

theorem loadFile_of_unread {e : FileError} (unread : fs.read path = .error e) :
    (loadFile fs g path).value = .error (.unreadable path e) := by
  rw [loadFile, unread]
  rfl

/-- The text that bytes encode is compiled as it is. -/
theorem loadFile_of_encoded {text : String}
    (reads : fs.read path = .ok (Utf8.encode text.toList)) :
    (loadFile fs g path).value = (g.compile text).mapError (.rejected path) := by
  rw [loadFile, reads]
  simp only [Utf8.decode_encode, String.ofList_toList]
  cases g.compile text with
  | ok q => rfl
  | error e => rfl

/-- **A file that can be read loads by its bytes.** -/
theorem loads_loadFile {content : List UInt8} (reads : fs.read path = .ok content) :
    Loads g path content (loadFile fs g path).value := by
  cases decodes : Utf8.decode content with
  | ok cs =>
      have encoded : content = Utf8.encode (String.ofList cs).toList := by
        rw [String.toList_ofList]
        exact Utf8.decode_eq_ok_iff.1 decodes
      rw [encoded] at reads
      rw [loadFile_of_encoded reads]
      cases compiled : g.compile (String.ofList cs) with
      | ok q => exact .query encoded compiled
      | error e => exact .rejected encoded compiled
  | error m =>
      rw [loadFile, reads]
      simp only [decodes]
      exact .undecodable (fun text => Utf8.exists_decode_eq_error_iff.1 ⟨m, decodes⟩ text.toList)
        decodes

/-- What the bytes of a file load as does not say that the file cannot be read. -/
theorem Loads.map_ne_unreadable {content : List UInt8} {loaded : Except LoadFailure Query}
    (loads : Loads g path content loaded) (p : Path) (e : FileError) :
    loaded.map some ≠ .error (.unreadable p e) := by
  cases loads with
  | query => exact nofun
  | rejected => exact nofun
  | undecodable => exact nofun

theorem LoadFailure.isRejected_eq (f : LoadFailure) : f.isRejected = f.queryError?.isSome := by
  cases f <;> rfl

/-- A failure names the file as it was asked for, and says for which of the three causes
there is no query. -/
theorem failure_of_loadFile {f : LoadFailure} (failed : (loadFile fs g path).value = .error f) :
    f.path = path ∧ (f.isUnreadable = true ↔ ∃ e, fs.read path = .error e) ∧
      ∀ e, f.queryError? = some e ↔
        ∃ text : String,
          fs.read path = .ok (Utf8.encode text.toList) ∧ g.compile text = .error e := by
  cases reads : fs.read path with
  | error cause =>
      rw [loadFile_of_unread reads] at failed
      cases failed
      exact ⟨rfl, iff_of_true rfl ⟨cause, rfl⟩, fun e => iff_of_false nofun nofun⟩
  | ok content =>
      have loads := loads_loadFile (g := g) reads
      rw [failed] at loads
      cases loads with
      | @rejected text cause encoded fails =>
          refine ⟨rfl, iff_of_false nofun nofun, fun e => ⟨?_, ?_⟩⟩
          · intro same
            cases same
            exact ⟨text, by rw [encoded], fails⟩
          · rintro ⟨other, bytes, fails'⟩
            rw [encoded] at bytes
            have same := String.toList_injective (Utf8.encode_injective (Except.ok.inj bytes))
            rw [← same, fails] at fails'
            cases fails'
            rfl
      | undecodable no_text =>
          refine ⟨rfl, iff_of_false nofun nofun, fun e => iff_of_false nofun ?_⟩
          rintro ⟨text, bytes, -⟩
          exact no_text text (Except.ok.inj bytes)

/-! ## Files by convention -/

namespace Handle

/-- The source of the handle answers with the directory `root` when it is asked next. -/
def Directs (h : Handle) (w : World) (sources : List SharedSource) (root : Path) : Prop :=
  ∃ id entry, h.source? = some id ∧ sources[id]? = some entry ∧
    (entry.source.answer w entry.asked).value = some root

/-- There is nothing to load: the handle has no source, or the source answers with no
directory, or no trail leads from the directory to a file of the kind's name. -/
def Lacks (h : Handle) (w : World) (sources : List SharedSource) (kind : QueryFile) : Prop :=
  h.source? = none ∨
  (∃ id, h.source? = some id ∧
    ∀ entry, sources[id]? = some entry → (entry.source.answer w entry.asked).value = none) ∨
  ∃ root, h.Directs w sources root ∧
    ∀ trail, ¬Trail w.files (Utf8.encode kind.fileName.toList) root trail

variable {h : Handle} {w : World} {sources : List SharedSource} {kind : QueryFile}

theorem directs_iff {root : Path} :
    h.Directs w sources root ↔ (h.resourceDirectory? w).answer sources = some root := by
  rw [answer_resourceDirectory?, Option.bind_eq_some_iff]
  constructor
  · rintro ⟨id, entry, given, shared, answers⟩
    exact ⟨entry, by rw [given, Option.bind_some, shared], answers⟩
  · rintro ⟨entry, shared, answers⟩
    obtain ⟨id, given, shared⟩ := Option.bind_eq_some_iff.1 shared
    exact ⟨id, entry, given, shared, answers⟩

theorem answer_resourceDirectory?_eq_none_iff :
    (h.resourceDirectory? w).answer sources = none ↔
      h.source? = none ∨ ∃ id, h.source? = some id ∧
        ∀ entry, sources[id]? = some entry → (entry.source.answer w entry.asked).value = none := by
  rw [answer_resourceDirectory?, Option.bind_eq_none_iff]
  cases h.source? with
  | none => simp
  | some id => simp

theorem answer_queryFile? :
    (h.queryFile? w kind).answer sources =
      ((h.resourceDirectory? w).answer sources).bind
        fun root => (w.files.search (Utf8.encode kind.fileName.toList) root).file? :=
  answer_resource? w h sources kind.fileName

/-- No file is found exactly when there is nothing to load. -/
theorem queryFile?_eq_none_iff :
    (h.queryFile? w kind).answer sources = none ↔ h.Lacks w sources kind := by
  have missing : ∀ root, (w.files.search (Utf8.encode kind.fileName.toList) root).file? = none ↔
      ∀ trail, ¬Trail w.files (Utf8.encode kind.fileName.toList) root trail := by
    intro root
    rw [← Option.not_isSome_iff_eq_none, FileSystem.search_isSome_iff, not_exists]
  rw [answer_queryFile?, Lacks, ← or_assoc, ← answer_resourceDirectory?_eq_none_iff]
  simp only [directs_iff]
  cases (h.resourceDirectory? w).answer sources with
  | none => simp
  | some root => simp [missing]

/-- What is found is the end of a trail from the directory, and is read. -/
theorem exists_trail_of_queryFile? {p : Path}
    (found : (h.queryFile? w kind).answer sources = some p) :
    ∃ root trail content, h.Directs w sources root ∧
      Trail w.files (Utf8.encode kind.fileName.toList) root trail ∧ p = root.descend trail ∧
      w.files.read p = .ok content := by
  rw [answer_queryFile?, Option.bind_eq_some_iff] at found
  obtain ⟨root, asked, gives⟩ := found
  obtain ⟨trail, leads, rfl⟩ := FileSystem.trail_of_search gives
  obtain ⟨l, content, named⟩ := leads.exists_resolve
  refine ⟨root, trail, content, directs_iff.2 asked, leads, rfl, ?_⟩
  rw [FileSystem.read, named]

theorem answer_loadQuery_of_found {p : Path}
    (found : (h.queryFile? w kind).answer sources = some p) :
    (h.loadQuery w kind).answer sources = (loadFile w.files h.grammar p).value.map some := by
  rw [answer_loadQuery, found]
  rfl

/-- Nothing is loaded exactly when nothing is found. -/
theorem answer_loadQuery_eq_ok_none_iff :
    (h.loadQuery w kind).answer sources = .ok none ↔
      (h.queryFile? w kind).answer sources = none := by
  cases found : (h.queryFile? w kind).answer sources with
  | none =>
      rw [answer_loadQuery, found]
      exact iff_of_true rfl rfl
  | some p =>
      rw [answer_loadQuery_of_found found]
      cases (loadFile w.files h.grammar p).value with
      | ok q => exact iff_of_false nofun nofun
      | error f => exact iff_of_false nofun nofun

theorem answer_loadQueries_eq_ok_iff {set : QuerySet} :
    (h.loadQueries w).answer sources = .ok set ↔
      (h.loadQuery w .highlights).answer sources = .ok set.highlights ∧
        (h.loadQuery w .injections).answer ((h.loadQuery w .highlights).after sources) =
          .ok set.injections := by
  rw [answer_loadQueries]
  cases (h.loadQuery w .highlights).answer sources with
  | error f => exact iff_of_false nofun fun both => nomatch both.1
  | ok highlights =>
      dsimp only
      cases (h.loadQuery w .injections).answer ((h.loadQuery w .highlights).after sources) with
      | error f => exact iff_of_false nofun fun both => nomatch both.2
      | ok injections =>
          obtain ⟨first, second⟩ := set
          simp [Except.map]

/-- **Absence is never a failure, and a file that is found is always read.**  A kind of
query gives nothing exactly when there is nothing to load; else a path is found,
it is read, and its bytes decide.  Both kinds together succeed exactly when each
does, and the set is empty exactly when neither file is found.  After a failure of
the first kind the sources and the events are those that it left: the second kind
is not looked up. -/
theorem loadQuery_and_loadQueries (h : Handle) (w : World) (sources : List SharedSource) :
    (∀ kind,
      (∀ p e, (h.loadQuery w kind).answer sources ≠ .error (.unreadable p e)) ∧
      ((h.loadQuery w kind).answer sources = .ok none ↔ h.Lacks w sources kind) ∧
      (¬h.Lacks w sources kind → ∃ root trail content loaded,
        h.Directs w sources root ∧ (h.resourceDirectory? w).answer sources = some root ∧
        Trail w.files (Utf8.encode kind.fileName.toList) root trail ∧
        (h.queryFile? w kind).answer sources = some (root.descend trail) ∧
        w.files.read (root.descend trail) = .ok content ∧
        Loads h.grammar (root.descend trail) content loaded ∧
        (h.loadQuery w kind).answer sources = loaded.map some)) ∧
    (∀ set, (h.loadQueries w).answer sources = .ok set ↔
      (h.loadQuery w .highlights).answer sources = .ok set.highlights ∧
        (h.loadQuery w .injections).answer ((h.loadQuery w .highlights).after sources) =
          .ok set.injections) ∧
    (∀ set, (h.loadQueries w).answer sources = .ok set →
      (set.isEmpty = true ↔ (h.queryFile? w .highlights).answer sources = none ∧
        (h.queryFile? w .injections).answer ((h.loadQuery w .highlights).after sources) = none)) ∧
    (∀ f, (h.loadQuery w .highlights).answer sources = .error f →
      (h.loadQueries w).answer sources = .error f ∧
      (h.loadQueries w).after sources = (h.loadQuery w .highlights).after sources ∧
      (h.loadQueries w).events sources = (h.loadQuery w .highlights).events sources) ∧
    (∀ q f, (h.loadQuery w .highlights).answer sources = .ok q →
      (h.loadQuery w .injections).answer ((h.loadQuery w .highlights).after sources) = .error f →
      (h.loadQueries w).answer sources = .error f) := by
  refine ⟨fun kind => ⟨?_, ?_, ?_⟩, fun set => answer_loadQueries_eq_ok_iff, ?_, ?_, ?_⟩
  · intro p e
    cases found : (h.queryFile? w kind).answer sources with
    | none =>
        rw [answer_loadQuery, found]
        exact nofun
    | some q =>
        obtain ⟨root, trail, content, -, -, -, reads⟩ := exists_trail_of_queryFile? found
        rw [answer_loadQuery_of_found found]
        exact (loads_loadFile reads).map_ne_unreadable p e
  · rw [answer_loadQuery_eq_ok_none_iff, queryFile?_eq_none_iff]
  · intro present
    rw [← queryFile?_eq_none_iff, ← Ne, Option.ne_none_iff_exists'] at present
    obtain ⟨p, found⟩ := present
    obtain ⟨root, trail, content, directs, leads, rfl, reads⟩ := exists_trail_of_queryFile? found
    exact ⟨root, trail, content, _, directs, directs_iff.1 directs, leads, found, reads,
      loads_loadFile reads, answer_loadQuery_of_found found⟩
  · intro set both
    obtain ⟨first, second⟩ := answer_loadQueries_eq_ok_iff.1 both
    rw [← answer_loadQuery_eq_ok_none_iff, ← answer_loadQuery_eq_ok_none_iff, first, second]
    simp [QuerySet.isEmpty]
  · intro f fails
    have run := run_loadQueries w h sources
    rw [Lookup.answer] at fails
    simp only [fails] at run
    rw [Lookup.answer, Lookup.after, Lookup.events, run]
    exact ⟨rfl, rfl, rfl⟩
  · intro q f first second
    rw [answer_loadQueries, first]
    dsimp only
    rw [second]
    rfl

end Handle

end GrammarQueries
