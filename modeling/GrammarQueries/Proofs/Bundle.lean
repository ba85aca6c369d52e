/-
# GrammarQueries.Proofs.Bundle -- the bundle that is located, and what is found in it

An entry qualifies for a bundle by its name, which has to be text that contains
the one asked for, and by what it leads to, which has to be a directory
(`Qualifies`).  Locating gives an entry that qualifies, spelled below the base
(`bundleIn?_eq_some`), and gives nothing only if none does
(`bundleIn?_eq_none_iff`).

The path that is given names the directory that was seen, so the search that
starts from it is the search of that directory, whether its own name is hidden
or it is a link.
-/
import Mathlib.Data.List.Basic
import GrammarQueries.Proofs.Lookup
import GrammarQueries.Proofs.Run
import GrammarQueries.Proofs.Search
import GrammarQueries.Proofs.Utf8

namespace GrammarQueries

set_option autoImplicit false

open FileSystem (Trail)

namespace Base

/-! ## Qualifying -/

/-- Occurring in a text is being a part of it without gaps. -/
theorem occursIn_iff {part whole : List Char} : occursIn part whole = true ↔ part <:+: whole := by
  induction whole with
  | nil => rw [occursIn, List.isEmpty_iff, List.infix_nil]
  | cons c cs ih =>
      rw [occursIn, Bool.or_eq_true, List.isPrefixOf_iff_prefix, ih, List.infix_cons_iff]

/-- The entry called `e` under `root` is a directory, links followed, and its name is
text that contains `bundle`. -/
def Qualifies (fs : FileSystem) (root : Path) (bundle : String) (e : Name) : Prop :=
  (∃ text : String, e.bytes = Utf8.encode text.toList ∧ bundle.toList <:+: text.toList) ∧
    ∃ l, fs.resolve (root.child e.bytes) = .ok (l, .directory)

variable {fs : FileSystem} {root p : Path} {bundle : String} {e : Name}

theorem isDirectory_iff : fs.isDirectory p = true ↔ ∃ l, fs.resolve p = .ok (l, .directory) := by
  unfold FileSystem.isDirectory
  cases fs.resolve p with
  | error e => simp
  | ok found =>
      obtain ⟨l, o⟩ := found
      cases o <;> simp

theorem isBundle_iff : isBundle fs root bundle e = true ↔ Qualifies fs root bundle e := by
  rw [isBundle, Bool.and_eq_true, isDirectory_iff, Qualifies, and_comm]
  refine and_congr_left fun _ => ?_
  cases decodes : Utf8.decode e.bytes with
  | ok cs =>
      have encoded := Utf8.decode_eq_ok_iff.1 decodes
      dsimp only
      rw [occursIn_iff]
      constructor
      · intro part
        refine ⟨String.ofList cs, ?_, ?_⟩
        · rw [String.toList_ofList]
          exact encoded
        · rw [String.toList_ofList]
          exact part
      · rintro ⟨text, same, part⟩
        rw [encoded] at same
        rwa [Utf8.encode_injective same]
  | error m =>
      have no_text := Utf8.exists_decode_eq_error_iff.1 ⟨m, decodes⟩
      refine iff_of_false nofun ?_
      rintro ⟨text, encoded, -⟩
      exact no_text _ encoded

/-! ## Locating -/

theorem bundleIn?_of_error {err : FileError} (lists : fs.list root = .error err) :
    (bundleIn? fs root bundle).value = none := by
  rw [bundleIn?, lists]
  rfl

theorem value_bundleIn?_of_list {listing : List Name} (lists : fs.list root = .ok listing) :
    (bundleIn? fs root bundle).value =
      (listing.find? (isBundle fs root bundle)).map fun e => root.child e.bytes := by
  rw [bundleIn?, lists]
  cases found : listing.find? (isBundle fs root bundle) with
  | none =>
      simp only [found]
      rfl
  | some e =>
      simp only [found]
      rfl

/-- **What is located qualifies**, and its path is that of the entry below the base. -/
theorem bundleIn?_eq_some (located : (bundleIn? fs root bundle).value = some p) :
    ∃ listing e, fs.list root = .ok listing ∧ e ∈ listing ∧ Qualifies fs root bundle e ∧
      p = root.child e.bytes := by
  cases lists : fs.list root with
  | error err =>
      rw [bundleIn?_of_error lists] at located
      cases located
  | ok listing =>
      rw [value_bundleIn?_of_list lists, Option.map_eq_some_iff] at located
      obtain ⟨e, found, rfl⟩ := located
      exact ⟨listing, e, rfl, List.mem_of_find?_eq_some found,
        isBundle_iff.1 (List.find?_some found), rfl⟩

/-- **Nothing is located only where nothing qualifies.** -/
theorem bundleIn?_eq_none_iff :
    (bundleIn? fs root bundle).value = none ↔
      (∃ err, fs.list root = .error err) ∨
        ∃ listing, fs.list root = .ok listing ∧ ∀ e ∈ listing, ¬Qualifies fs root bundle e := by
  cases lists : fs.list root with
  | error err => simp [bundleIn?_of_error lists]
  | ok listing =>
      rw [value_bundleIn?_of_list lists, Option.map_eq_none_iff, List.find?_eq_none]
      simp [isBundle_iff]

/-- Something is located wherever something qualifies. -/
theorem bundleIn?_isSome_of_qualifies {listing : List Name} (lists : fs.list root = .ok listing)
    (member : e ∈ listing) (qualifies : Qualifies fs root bundle e) :
    (bundleIn? fs root bundle).value.isSome := by
  rw [Option.isSome_iff_ne_none, ne_eq, bundleIn?_eq_none_iff]
  rintro (⟨err, fails⟩ | ⟨all, again, none_qualifies⟩)
  · rw [lists] at fails
    cases fails
  · rw [lists] at again
    cases again
    exact none_qualifies e member qualifies

theorem value_bundle? {w : World} {b : Base} (resolves : (b.directory w).value = some root) :
    (b.bundle? w bundle).value = (bundleIn? w.files root bundle).value := by
  rw [bundle?, Logged.value_bind, resolves]

end Base

/-! ## Handles on bundles -/

/-- A handle made for a bundle draws on that bundle, under the base that is chosen when it
is made. -/
theorem Session.drawsOn_of_makeHandle {s t : Session} {id bundle : String} {g : GrammarChoice}
    {choice : BaseChoice} (made : s.makeHandle id g (.bundle bundle choice) = .ok t) :
    ∃ h, t.handle? id = some h ∧ h.DrawsOn t.sources (.bundle bundle (s.chosenBase choice)) := by
  obtain ⟨⟨d, s'⟩, chosen, made⟩ := exists_of_bind_ok made
  cases made
  have same : s'.chosenBase choice = s.chosenBase choice := by
    cases choice with
    | fixed base => rfl
    | environment => rw [chosenBase, chosenBase, (kept_of_chosenDescriptor chosen).1]
  refine ⟨⟨d, some s'.sources.length⟩, ?_, s'.sources.length, 0, rfl, ?_⟩
  · simp [handle?, putHandle]
  · simp [putHandle, same]

namespace Base

variable {w : World} {base : Base} {root : Path} {bundle : String} {e : Name}

/-- The only entry that qualifies is the one located. -/
theorem value_bundle?_of_sole {listing : List Name}
    (resolves : (base.directory w).value = some root) (lists : w.files.list root = .ok listing)
    (member : e ∈ listing) (qualifies : Qualifies w.files root bundle e)
    (sole : ∀ e' ∈ listing, Qualifies w.files root bundle e' → e' = e) :
    (base.bundle? w bundle).value = some (root.child e.bytes) := by
  obtain ⟨p, located⟩ :=
    Option.isSome_iff_exists.1 (bundleIn?_isSome_of_qualifies lists member qualifies)
  rw [value_bundle? resolves, located]
  obtain ⟨all, e', again, member', qualifies', rfl⟩ := bundleIn?_eq_some located
  rw [lists] at again
  cases again
  rw [sole e' member' qualifies']

/-- A handle on the bundle of a located directory finds what a search from there finds. -/
theorem answer_resource?_of_bundle? {h : Handle} {sources : List SharedSource} {p : Path}
    (draws : h.DrawsOn sources (.bundle bundle base))
    (located : (base.bundle? w bundle).value = some p) (name : String) :
    (h.resource? w name).answer sources =
      (w.files.search (Utf8.encode name.toList) p).file? := by
  obtain ⟨asked, answers⟩ := h.answer_resourceDirectory?_of_drawsOn w sources draws
  rw [Handle.answer_resource?, answers, Source.answer, located]
  rfl

/-- **A bundle is located by its entry and searched by its path.**  The path given is the
base, a separator unless the base ends in one, and the name of a listed entry
that qualifies; none is given exactly when the base cannot be listed or no entry
qualifies.  If one entry alone qualifies, a handle made for the bundle finds
exactly the files that trails lead to from that entry, under the spelled path of
the entry followed by the trail. -/
theorem located_bundle_is_searched (w : World) (base : Base) (root : Path) (bundle : String)
    (resolves : (base.directory w).value = some root) :
    (∀ p, (base.bundle? w bundle).value = some p → ∃ listing e,
      w.files.list root = .ok listing ∧ e ∈ listing ∧ Qualifies w.files root bundle e ∧
        p.bytes = root.bytes ++ (if root.bytes.getLast? = some separator then [] else [separator]) ++
          e.bytes) ∧
    ((base.bundle? w bundle).value = none ↔
      (∃ err, w.files.list root = .error err) ∨
        ∃ listing, w.files.list root = .ok listing ∧
          ∀ e ∈ listing, ¬Qualifies w.files root bundle e) ∧
    (∀ (s t : Session) (id : String) (g : GrammarChoice),
      s.makeHandle id g (.bundle bundle (.fixed base)) = .ok t →
        ∃ h, t.handle? id = some h ∧ h.DrawsOn t.sources (.bundle bundle base)) ∧
    (∀ listing e, w.files.list root = .ok listing → e ∈ listing →
      Qualifies w.files root bundle e →
      (∀ e' ∈ listing, Qualifies w.files root bundle e' → e' = e) →
      ∀ (h : Handle) (sources : List SharedSource), h.DrawsOn sources (.bundle bundle base) →
      ∀ name : String,
        (((h.resource? w name).answer sources).isSome ↔
          ∃ trail, Trail w.files (Utf8.encode name.toList) (root.child e.bytes) trail) ∧
        ∀ p, (h.resource? w name).answer sources = some p →
          ∃ trail, Trail w.files (Utf8.encode name.toList) (root.child e.bytes) trail ∧
            p = (root.child e.bytes).descend trail) := by
  refine ⟨?_, ?_, fun s t id g made => Session.drawsOn_of_makeHandle made, ?_⟩
  · intro p located
    rw [value_bundle? resolves] at located
    obtain ⟨listing, e, lists, member, qualifies, rfl⟩ := bundleIn?_eq_some located
    obtain ⟨l, named, -⟩ := FileSystem.list_eq_ok_iff.1 lists
    obtain ⟨left, reached, -⟩ := FileSystem.resolve_eq_ok_iff.1 named
    exact ⟨listing, e, lists, member, qualifies,
      Path.bytes_child (FileSystem.spelling_of_arrive reached nofun).2⟩
  · rw [value_bundle? resolves, bundleIn?_eq_none_iff]
  · intro listing e lists member qualifies sole h sources draws name
    have located := value_bundle?_of_sole resolves lists member qualifies sole
    rw [answer_resource?_of_bundle? draws located]
    exact ⟨FileSystem.search_isSome_iff, fun p gives => FileSystem.trail_of_search gives⟩

/-- In the base `r` stands a hidden link `.b` to the directory `t`, where `q/f` is a file. -/
def linkedBundle : World where
  files :=
    { entries :=
        [⟨[⟨[0x72], by decide⟩], .object .directory⟩,
          ⟨[⟨[dot, 0x62], by decide⟩, ⟨[0x72], by decide⟩], .link ⟨[separator, 0x74]⟩⟩,
          ⟨[⟨[0x74], by decide⟩], .object .directory⟩,
          ⟨[⟨[0x71], by decide⟩, ⟨[0x74], by decide⟩], .object .directory⟩,
          ⟨[⟨[0x66], by decide⟩, ⟨[0x71], by decide⟩, ⟨[0x74], by decide⟩], .object (.file [])⟩]
      workingDirectory := []
      executable := .error .notFound }
  variableValue? := none

theorem linked_bundle_is_searched :
    ((Base.given ⟨[0x72]⟩).directory linkedBundle).value = some ⟨[0x72]⟩ ∧
      ∃ p trail, ((Handle.mk ⟨0, ⟨14, [], [], [], none⟩⟩ (some 0)).resource? linkedBundle "f").answer
          [⟨.bundle "b" (.given ⟨[0x72]⟩), 0⟩] = some p ∧
        Trail linkedBundle.files [0x66] ⟨[0x72, separator, dot, 0x62]⟩ trail ∧
        p = (Path.mk [0x72, separator, dot, 0x62]).descend trail := by
  obtain ⟨-, -, -, finds⟩ :=
    located_bundle_is_searched linkedBundle (.given ⟨[0x72]⟩) ⟨[0x72]⟩ "b" rfl
  have lists : linkedBundle.files.list ⟨[0x72]⟩ = .ok [⟨[dot, 0x62], by decide⟩] := by cbv
  have directory : linkedBundle.files.resolve ⟨[0x72, separator, dot, 0x62]⟩ =
      .ok ([⟨[0x74], by decide⟩], .directory) := by cbv
  have qualifies : Qualifies linkedBundle.files ⟨[0x72]⟩ "b" ⟨[dot, 0x62], by decide⟩ :=
    ⟨⟨".b", by decide, by decide⟩, _, directory⟩
  obtain ⟨found, spelled⟩ := finds _ _ lists (List.mem_singleton_self _) qualifies
    (fun e member _ => List.mem_singleton.1 member)
    (Handle.mk ⟨0, ⟨14, [], [], [], none⟩⟩ (some 0)) [⟨.bundle "b" (.given ⟨[0x72]⟩), 0⟩]
    ⟨0, 0, rfl, rfl⟩ "f"
  have outer : linkedBundle.files.list ⟨[0x72, separator, dot, 0x62]⟩ =
      .ok [⟨[0x71], by decide⟩] := by cbv
  have inner : linkedBundle.files.list ⟨[0x72, separator, dot, 0x62, separator, 0x71]⟩ =
      .ok [⟨[0x66], by decide⟩] := by cbv
  have file : linkedBundle.files.resolve
      ⟨[0x72, separator, dot, 0x62, separator, 0x71, separator, 0x66]⟩ =
      .ok ([⟨[0x66], by decide⟩, ⟨[0x71], by decide⟩, ⟨[0x74], by decide⟩], .file []) := by cbv
  have trail : Trail linkedBundle.files [0x66] ⟨[0x72, separator, dot, 0x62]⟩
      [⟨[0x71], by decide⟩, ⟨[0x66], by decide⟩] :=
    .enter outer (List.mem_singleton_self _) (by decide)
      (.file inner (List.mem_singleton_self _) (by decide) rfl file)
  obtain ⟨p, gives⟩ := Option.isSome_iff_exists.1 (found.2 ⟨_, trail⟩)
  obtain ⟨names, leads, eq⟩ := spelled p gives
  exact ⟨rfl, p, names, gives, leads, eq⟩

end Base

end GrammarQueries
