/-
# GrammarQueries.Proofs.Creation -- what is created hides nothing

A tree extends another when all that stood stands, a file perhaps with other
bytes (`Extends`).  A route that led somewhere leads there still, for at every
step it finds the node that it found before (`Extends.follow`); new entries can
only let a route go on that was broken off.  So names that led to a file lead to
it still (`Extends.trail`).

A new link can have the walk refuse a directory that it entered before, and
another file can be met first.  Neither hides the last trail there is, because
a search finds a file whenever any trail leads to one.
-/
import GrammarQueries.Proofs.Bundle

namespace GrammarQueries

set_option autoImplicit false

namespace FileSystem

variable {fs fs' : FileSystem} {wanted : List UInt8}

/-! ## Trees that extend others -/

/-- What may come to stand for a node: itself, or a file for a file. -/
inductive Stays : Node → Node → Prop where
  | same (n : Node) : Stays n n
  | file (old new : List UInt8) : Stays (.object (.file old)) (.object (.file new))

/-- All that stood stands, and what paths and executables are relative to has not moved. -/
structure Extends (fs fs' : FileSystem) : Prop where
  workingDirectory : fs'.workingDirectory = fs.workingDirectory
  executable : fs'.executable = fs.executable
  stays : ∀ {x : Location} {n : Node},
    fs.node? x = some n → ∃ n', fs'.node? x = some n' ∧ Stays n n'

namespace Extends

theorem refl (fs : FileSystem) : Extends fs fs := ⟨rfl, rfl, fun node => ⟨_, node, .same _⟩⟩

theorem trans {fs'' : FileSystem} (first : Extends fs fs') (second : Extends fs' fs'') :
    Extends fs fs'' := by
  refine ⟨second.workingDirectory.trans first.workingDirectory,
    second.executable.trans first.executable, fun node => ?_⟩
  obtain ⟨n', node', stays⟩ := first.stays node
  obtain ⟨n'', node'', stays'⟩ := second.stays node'
  refine ⟨n'', node'', ?_⟩
  cases stays with
  | same => exact stays'
  | file old new =>
      cases stays' with
      | same => exact .file old new
      | file _ newer => exact .file old newer

/-! ### Nodes -/

variable {x : Location} (more : Extends fs fs')

include more

theorem directory (node : fs.node? x = some (.object .directory)) :
    fs'.node? x = some (.object .directory) := by
  obtain ⟨n', node', stays⟩ := more.stays node
  cases stays
  exact node'

theorem link {target : Path} (node : fs.node? x = some (.link target)) :
    fs'.node? x = some (.link target) := by
  obtain ⟨n', node', stays⟩ := more.stays node
  cases stays
  exact node'

theorem file {content : List UInt8} (node : fs.node? x = some (.object (.file content))) :
    ∃ content', fs'.node? x = some (.object (.file content')) := by
  obtain ⟨n', node', stays⟩ := more.stays node
  cases stays with
  | same => exact ⟨content, node'⟩
  | file old new => exact ⟨new, node'⟩

theorem object {o : Object} (node : fs.node? x = some (.object o)) :
    ∃ o', fs'.node? x = some (.object o') := by
  obtain ⟨n', node', stays⟩ := more.stays node
  cases stays with
  | same => exact ⟨o, node'⟩
  | file old new => exact ⟨.file new, node'⟩

/-! ### Routes and trails -/

/-- **A route that led somewhere leads there still.** -/
theorem follow {links left : Nat} {l m : Location} {steps : List RouteStep}
    (reached : fs.follow links l steps = .reached m left) :
    fs'.follow links l steps = .reached m left := by
  fun_induction FileSystem.follow fs links l steps with
  | case1 =>
      cases reached
      rw [follow_nil]
  | case2 => cases reached
  | case3 links l rest directory ih =>
      simpa only [follow_cons, more.directory directory] using ih reached
  | case4 links l rest directory ih =>
      simpa only [follow_cons, more.directory directory] using ih reached
  | case5 => cases reached
  | case6 => cases reached
  | case7 links l rest directory name o found ih =>
      obtain ⟨o', found'⟩ := more.object found
      simpa only [follow_cons, more.directory directory, found'] using ih reached
  | case8 => cases reached
  | case9 l rest directory name target found left ih =>
      simpa only [follow_cons, more.directory directory, more.link found] using ih reached
  | case10 => cases reached

theorem arrive {p : Path} {l : Location} {left : Nat} (reached : fs.arrive p = .reached l left) :
    fs'.arrive p = .reached l left := by
  have spelling := spelling_of_arrive reached nofun
  rw [arrive_of_spelling spelling] at reached
  rw [arrive_of_spelling spelling, more.workingDirectory]
  exact more.follow reached

theorem resolve_directory {p : Path} {l : Location} (named : fs.resolve p = .ok (l, .directory)) :
    fs'.resolve p = .ok (l, .directory) := by
  obtain ⟨left, reached, node⟩ := resolve_eq_ok_iff.1 named
  exact resolve_eq_ok_iff.2 ⟨left, more.arrive reached, more.directory node⟩

theorem resolve_file {p : Path} {l : Location} {content : List UInt8}
    (named : fs.resolve p = .ok (l, .file content)) :
    ∃ content', fs'.resolve p = .ok (l, .file content') := by
  obtain ⟨left, reached, node⟩ := resolve_eq_ok_iff.1 named
  obtain ⟨content', node'⟩ := more.file node
  exact ⟨content', resolve_eq_ok_iff.2 ⟨left, more.arrive reached, node'⟩⟩

theorem mem_names {name : Name} {l : Location} (listed : name ∈ fs.names l) :
    name ∈ fs'.names l := by
  obtain ⟨e, member, location⟩ := mem_names_iff.1 listed
  obtain ⟨n, node⟩ := exists_node?_of_mem member
  rw [location] at node
  obtain ⟨n', node', -⟩ := more.stays node
  obtain ⟨e', member', location', -⟩ := node?_eq_some_of_ne_nil (List.cons_ne_nil _ _) node'
  exact mem_names_iff.2 ⟨e', member', location'⟩

theorem list {p : Path} {listing : List Name} (lists : fs.list p = .ok listing) :
    ∃ listing', fs'.list p = .ok listing' ∧ ∀ name ∈ listing, name ∈ listing' := by
  obtain ⟨l, named, rfl⟩ := list_eq_ok_iff.1 lists
  exact ⟨_, list_eq_ok_iff.2 ⟨l, more.resolve_directory named, rfl⟩, fun _ => more.mem_names⟩

/-- **Names that led to a file lead to it still.** -/
theorem trail {p : Path} {names : List Name} (trail : Trail fs wanted p names) :
    Trail fs' wanted p names := by
  induction trail with
  | file lists listed shown called named =>
      obtain ⟨listing', lists', subset⟩ := more.list lists
      obtain ⟨content', named'⟩ := more.resolve_file named
      exact .file lists' (subset _ listed) shown called named'
  | enter lists listed shown below ih =>
      obtain ⟨listing', lists', subset⟩ := more.list lists
      exact .enter lists' (subset _ listed) shown ih

/-! ### Searches and bundles -/

/-- What a search found at all, it finds still, though perhaps elsewhere. -/
theorem findFile_isSome (name : String) (directory : Path)
    (found : (fs.findFile name directory).value.isSome) :
    (fs'.findFile name directory).value.isSome := by
  obtain ⟨names, leads⟩ := search_isSome_iff.1 found
  exact search_isSome_iff.2 ⟨names, more.trail leads⟩

theorem qualifies {root : Path} {bundle : String} {e : Name}
    (qualifies : Base.Qualifies fs root bundle e) : Base.Qualifies fs' root bundle e := by
  obtain ⟨text, l, named⟩ := qualifies
  exact ⟨text, l, more.resolve_directory named⟩

theorem bundleIn?_isSome {root : Path} {bundle : String}
    (located : (Base.bundleIn? fs root bundle).value.isSome) :
    (Base.bundleIn? fs' root bundle).value.isSome := by
  obtain ⟨p, located⟩ := Option.isSome_iff_exists.1 located
  obtain ⟨listing, e, lists, member, qualifies, -⟩ := Base.bundleIn?_eq_some located
  obtain ⟨listing', lists', subset⟩ := more.list lists
  exact Base.bundleIn?_isSome_of_qualifies lists' (subset e member) (more.qualifies qualifies)

end Extends

end FileSystem

/-- A bundle that was located at all is located still, under any base. -/
theorem Base.bundle?_isSome {w w' : World} (more : FileSystem.Extends w.files w'.files)
    (base : Base) (bundle : String) (located : (base.bundle? w bundle).value.isSome) :
    (base.bundle? w' bundle).value.isSome := by
  have executable : w'.executable = w.executable := by
    rw [World.executable, World.executable, more.executable]
  have directory : base.directory w' = base.directory w := by
    cases base with
    | given path => rfl
    | beside | detected =>
        rw [Base.directory, Base.directory, executableDirectory, executableDirectory, executable]
  rw [bundle?, Logged.value_bind] at located ⊢
  rw [directory]
  cases root : (base.directory w).value with
  | none =>
      rw [root] at located
      cases located
  | some root' =>
      rw [root] at located
      exact more.bundleIn?_isSome located

/-! ## Creating -/

namespace FileSystem

variable {fs fs' : FileSystem} {l x : Location} {n : Node}

/-- A tree with one more entry, for any node, at a free place in a directory and anywhere in
the listing order. -/
inductive Creates : FileSystem → FileSystem → Prop where
  | entry {fs : FileSystem} {before after : List Entry} {name : Name} {l : Location} (n : Node)
      (listing : fs.entries = before ++ after) (free : fs.node? (name :: l) = none)
      (directory : fs.node? l = some (.object .directory)) :
      Creates fs { fs with entries := before ++ ⟨name :: l, n⟩ :: after }

/-- An entry at a free place changes no other node, wherever it is listed. -/
theorem node?_of_entry {before after : List Entry} (listing : fs.entries = before ++ after)
    (other : x ≠ l) :
    ({ fs with entries := before ++ ⟨l, n⟩ :: after } : FileSystem).node? x = fs.node? x := by
  by_cases root : x = []
  · rw [node?, if_pos root, node?, if_pos root]
  · have differs : ¬l = x := fun same => other same.symm
    rw [node?_of_ne_nil root, node?_of_ne_nil root, listing, List.find?_append, List.find?_append,
      List.find?_cons_of_neg (by simpa using differs)]

namespace Extends

theorem of_creates (creates : Creates fs fs') : Extends fs fs' := by
  cases creates with
  | @entry before after name l n listing free directory =>
      refine ⟨rfl, rfl, fun {x} m node => ?_⟩
      have other : x ≠ name :: l := by
        rintro rfl
        rw [free] at node
        cases node
      exact ⟨m, (node?_of_entry listing other).trans node, .same m⟩

theorem of_created (created : Relation.ReflTransGen Creates fs fs') : Extends fs fs' := by
  induction created with
  | refl => exact .refl fs
  | tail _ creates ih => exact ih.trans (.of_creates creates)

theorem of_insert (free : fs.node? l = none) : Extends fs (fs.insert l n) :=
  ⟨rfl, rfl, fun node => ⟨_, node?_insert_of_some free node, .same _⟩⟩

theorem of_replace {old : List UInt8} (file : fs.node? l = some (.object (.file old)))
    (new : List UInt8) : Extends fs (fs.replace l (.object (.file new))) := by
  have stands : fs.node? l ≠ none := by rw [file]; exact Option.some_ne_none _
  refine ⟨rfl, rfl, fun {x} m node => ?_⟩
  rw [node?_replace (ne_nil_of_file file) stands]
  split
  · next here =>
      subst here
      cases file.symm.trans node
      exact ⟨_, rfl, .file old new⟩
  · exact ⟨m, node, .same m⟩

theorem of_grows (grows : Grows fs fs') : Extends fs fs' := by
  induction grows with
  | refl => exact .refl _
  | insert free directory bare rest ih => exact (of_insert free).trans ih

theorem of_write {p : Path} {content : List UInt8} (written : fs.write p content = .ok fs') :
    Extends fs fs' := by
  obtain ⟨made, grows, ⟨l, absent, rfl⟩ | ⟨l, left, old, reached, file, rfl⟩⟩ :=
    write_cases written
  · rw [arrive_of_spelling (spelling_of_arrive absent nofun)] at absent
    obtain ⟨name, d, rfl, free, directory⟩ := free_of_follow absent
    exact (of_grows grows).trans (of_insert free)
  · exact (of_grows grows).trans (of_replace file content)

end Extends

end FileSystem

/-! ## Runs that only make entries -/

def Step.makes : Step → Bool
  | .makeDirectory _ => true
  | .writeFile _ _ => true
  | .makeLink _ _ => true
  | .makeSocket _ => true
  | _ => false

namespace FileSystem.Extends

variable {fs : FileSystem}

theorem after {step : Step} (makes : step.makes = true) : Extends fs (fs.after step) := by
  cases done : step.edit fs with
  | error e =>
      rw [after_of_refused step done]
      exact .refl fs
  | ok fs' =>
      rw [after_of_done step done]
      cases step with
      | makeDirectory => exact .of_grows (makeDirectories_grows done)
      | writeFile => exact .of_write done
      | makeLink => exact .of_grows (makeLink_grows done)
      | makeSocket => exact .of_grows (makeSocket_grows done)
      | _ => cases makes

theorem afterAll {steps : List Step} (make : ∀ step ∈ steps, step.makes = true) :
    Extends fs (fs.afterAll steps) := by
  induction steps generalizing fs with
  | nil => exact .refl fs
  | cons step rest ih =>
      rw [List.forall_mem_cons] at make
      exact (Extends.after make.1).trans (ih make.2)

end FileSystem.Extends

/-- **What is created hides no resource.**  After any number of entries are created at free
places, each anywhere in the listing order, be they directories, files, sockets or links that
lead anywhere, a search finds a file under every directory under which it found one, and a
bundle is located under every base under which one was.  The same holds after every run of
steps that make entries, whether the system refuses some of them or writes a file anew. -/
theorem creation_hides_nothing :
    (∀ fs fs' : FileSystem, Relation.ReflTransGen FileSystem.Creates fs fs' →
      (∀ name directory, (fs.findFile name directory).value.isSome →
        (fs'.findFile name directory).value.isSome) ∧
      ∀ value? (base : Base) bundle, (base.bundle? ⟨fs, value?⟩ bundle).value.isSome →
        (base.bundle? ⟨fs', value?⟩ bundle).value.isSome) ∧
    ∀ (s : Session) (steps : List Step), (∀ step ∈ steps, step.makes = true) →
      (∀ name directory, (s.world.files.findFile name directory).value.isSome →
        ((s.run steps).2.world.files.findFile name directory).value.isSome) ∧
      ∀ (base : Base) bundle, (base.bundle? s.world bundle).value.isSome →
        (base.bundle? (s.run steps).2.world bundle).value.isSome := by
  constructor
  · intro fs fs' created
    have more := FileSystem.Extends.of_created created
    exact ⟨more.findFile_isSome, fun value? base bundle => base.bundle?_isSome more bundle⟩
  · intro s steps make
    have more : FileSystem.Extends s.world.files (s.run steps).2.world.files := by
      rw [s.files_run]
      exact .afterAll make
    exact ⟨more.findFile_isSome, fun base bundle => base.bundle?_isSome more bundle⟩

/-- In `d` are a broken link `k` to `m`, and a directory `t` with the file `f`. -/
def brokenLink : FileSystem :=
  (FileSystem.mk [] [] (.error .notFound)).afterAll
    [.makeLink ⟨[0x6D]⟩ ⟨[0x64, separator, 0x6B]⟩,
      .writeFile ⟨[0x64, separator, 0x74, separator, 0x66]⟩ []]

/-- A link `m` to `d` itself is created, listed before `k`, which then leads to `d` too. -/
theorem brokenLink_mended :
    ∃ mended, FileSystem.Creates brokenLink mended ∧
      mended.resolve ⟨[0x64, separator, 0x6B]⟩ = .ok ([⟨[0x64], by decide⟩], .directory) ∧
      (brokenLink.findFile "f" ⟨[0x64]⟩).value.isSome ∧
      (mended.findFile "f" ⟨[0x64]⟩).value.isSome ∧
      ((Base.given ⟨[0x64]⟩).bundle? ⟨brokenLink, none⟩ "t").value.isSome ∧
      ((Base.given ⟨[0x64]⟩).bundle? ⟨mended, none⟩ "t").value.isSome := by
  have creates : FileSystem.Creates brokenLink
      { brokenLink with
        entries := brokenLink.entries.take 1 ++
          ⟨[⟨[0x6D], by decide⟩, ⟨[0x64], by decide⟩], .link ⟨[dot]⟩⟩ ::
            brokenLink.entries.drop 1 } :=
    .entry _ (List.take_append_drop 1 _).symm (by cbv) (by cbv)
  obtain ⟨finds, locates⟩ := creation_hides_nothing.1 _ _ (.single creates)
  have outer : brokenLink.list ⟨[0x64]⟩ = .ok [⟨[0x6B], by decide⟩, ⟨[0x74], by decide⟩] := by cbv
  have inner : brokenLink.list ⟨[0x64, separator, 0x74]⟩ = .ok [⟨[0x66], by decide⟩] := by cbv
  have file : brokenLink.resolve ⟨[0x64, separator, 0x74, separator, 0x66]⟩ =
      .ok ([⟨[0x66], by decide⟩, ⟨[0x74], by decide⟩, ⟨[0x64], by decide⟩], .file []) := by cbv
  have trail : FileSystem.Trail brokenLink (Utf8.encode "f".toList) ⟨[0x64]⟩
      [⟨[0x74], by decide⟩, ⟨[0x66], by decide⟩] :=
    .enter outer (List.mem_cons_of_mem _ (List.mem_singleton_self _)) (by decide)
      (.file inner (List.mem_singleton_self _) (by decide) rfl file)
  have found : (brokenLink.findFile "f" ⟨[0x64]⟩).value.isSome :=
    FileSystem.search_isSome_of_trail trail
  obtain ⟨_, directory, -⟩ := FileSystem.list_eq_ok_iff.1 inner
  have located : ((Base.given ⟨[0x64]⟩).bundle? ⟨brokenLink, none⟩ "t").value.isSome := by
    rw [Base.value_bundle? rfl]
    exact Base.bundleIn?_isSome_of_qualifies outer
      (List.mem_cons_of_mem _ (List.mem_singleton_self _))
      ⟨⟨"t", by decide, List.infix_refl _⟩, _, directory⟩
  exact ⟨_, creates, by cbv, found, finds "f" _ found, located, locates none _ "t" located⟩

end GrammarQueries
