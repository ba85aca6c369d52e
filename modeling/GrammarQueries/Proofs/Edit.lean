/-
# GrammarQueries.Proofs.Edit -- what each operation on the files can do

Each operation is taken apart once, into the changes of the tree it makes
(`write_cases`, `remove_cases`, `rename_cases`); those that only make entries
are a row of insertions (`Grows`).  From there every operation keeps a tree
rooted, and a write can be read back by its own path (`resolve_write`): the path
names the file written, and every other node is as it was.

Routes are taken alike in a tree where a missing entry has been put at the end of
the route, and in one where a file has other bytes (`follow_insert`, `follow_replace`).
-/
import GrammarQueries.Proofs.Tree

namespace GrammarQueries

set_option autoImplicit false

theorem exists_of_bind_ok {ε α β : Type} {x : Except ε α} {f : α → Except ε β} {b : β}
    (bound : (x >>= f) = .ok b) : ∃ a, x = .ok a ∧ f a = .ok b := by
  cases x with
  | error e => cases bound
  | ok a => exact ⟨a, rfl, bound⟩

def Node.content? : Node → Option (List UInt8)
  | .object (.file content) => some content
  | _ => none

namespace FileSystem

variable {fs fs' : FileSystem}

/-! ## The bytes of files -/

def content? (fs : FileSystem) (l : Location) : Option (List UInt8) :=
  (fs.node? l).bind Node.content?

theorem content?_of_node? {l : Location} {content : List UInt8}
    (file : fs.node? l = some (.object (.file content))) : fs.content? l = some content := by
  rw [content?, file]
  rfl

theorem content?_congr {x y : Location} (same : fs.node? x = fs'.node? y) :
    fs.content? x = fs'.content? y := by
  rw [content?, same, content?]

theorem content?_insert {l x : Location} {n : Node} (free : fs.node? l = none) :
    (fs.insert l n).content? x = if x = l then n.content? else fs.content? x := by
  rw [content?, node?_insert free]
  split <;> rfl

/-! ## Trees that grow -/

/-- A tree after any number of new entries that are no files, each at a free place in
a directory. -/
inductive Grows : FileSystem → FileSystem → Prop where
  | refl (fs : FileSystem) : Grows fs fs
  | insert {fs fs' : FileSystem} {name : Name} {l : Location} {n : Node}
      (free : fs.node? (name :: l) = none) (directory : fs.node? l = some (.object .directory))
      (bare : n.content? = none)
      (rest : Grows (fs.insert (name :: l) n) fs') : Grows fs fs'

namespace Grows

theorem trans {fs'' : FileSystem} (first : Grows fs fs') (second : Grows fs' fs'') :
    Grows fs fs'' := by
  induction first with
  | refl => exact second
  | insert free directory bare rest ih => exact .insert free directory bare (ih second)

theorem rooted (grows : Grows fs fs') (rooted : fs.Rooted) : fs'.Rooted := by
  induction grows with
  | refl => exact rooted
  | insert free directory bare rest ih => exact ih (rooted.insert free directory)

/-- Files and their bytes are as they were. -/
theorem content? (grows : Grows fs fs') (x : Location) : fs'.content? x = fs.content? x := by
  induction grows with
  | refl => rfl
  | insert free directory bare rest ih =>
      rw [ih, content?_insert free]
      split
      · next here =>
          subst here
          rw [bare, FileSystem.content?, free]
          rfl
      · rfl

end Grows

/-! ## Routes in a changed tree -/

/-- What a route misses is a free place in a directory. -/
theorem free_of_follow {links : Nat} {l m : Location} {steps rest : List RouteStep}
    (absent : fs.follow links l steps = .absent m rest) :
    ∃ name d, m = name :: d ∧ fs.node? (name :: d) = none ∧
      fs.node? d = some (.object .directory) := by
  fun_induction FileSystem.follow fs links l steps with
  | case1 => cases absent
  | case2 => cases absent
  | case3 links l rest directory ih => exact ih absent
  | case4 links l rest directory ih => exact ih absent
  | case5 => cases absent
  | case6 links l rest directory name free =>
      cases absent
      exact ⟨name, l, rfl, free, directory⟩
  | case7 links l rest directory name o found ih => exact ih absent
  | case8 => cases absent
  | case9 l rest directory name target found left ih => exact ih absent
  | case10 => cases absent

/-- A route that missed an entry goes on from there once an object is put there. -/
theorem follow_insert {links : Nat} {l m : Location} {steps rest : List RouteStep} (o : Object)
    (absent : fs.follow links l steps = .absent m rest) :
    ∃ left, (fs.insert m (.object o)).follow links l steps =
      (fs.insert m (.object o)).follow left m rest := by
  obtain ⟨missing, d, rfl, free, above⟩ := free_of_follow absent
  have kept : ∀ {x : Location} {n : Node}, fs.node? x = some n →
      (fs.insert (missing :: d) (.object o)).node? x = some n := node?_insert_of_some free
  fun_induction FileSystem.follow fs links l steps with
  | case1 => cases absent
  | case2 => cases absent
  | case3 links l steps directory ih =>
      simpa only [follow_cons, kept directory] using ih absent
  | case4 links l steps directory ih =>
      simpa only [follow_cons, kept directory] using ih absent
  | case5 => cases absent
  | case6 links l steps directory name _ =>
      cases absent
      have put : (fs.insert (missing :: d) (.object o)).node? (missing :: d) = some (.object o) := by
        rw [node?_insert free, if_pos rfl]
      exact ⟨links, by simp only [follow_cons, kept directory, put]⟩
  | case7 links l steps directory name o' found ih =>
      simpa only [follow_cons, kept directory, kept found] using ih absent
  | case8 => cases absent
  | case9 l steps directory name target found left ih =>
      simpa only [follow_cons, kept directory, kept found] using ih absent
  | case10 => cases absent

/-- Routes do not depend on the bytes of files. -/
theorem follow_replace {place : Location} {old new : List UInt8}
    (file : fs.node? place = some (.object (.file old))) (links : Nat) (l : Location)
    (steps : List RouteStep) :
    (fs.replace place (.object (.file new))).follow links l steps = fs.follow links l steps := by
  have ne : place ≠ [] := ne_nil_of_file file
  have stands : fs.node? place ≠ none := by rw [file]; exact Option.some_ne_none _
  have other : ∀ {x : Location} {n : Node}, fs.node? x = some n → n.content? = none →
      (fs.replace place (.object (.file new))).node? x = some n := by
    intro x n node bare
    rw [node?_replace ne stands, if_neg, node]
    rintro rfl
    rw [file] at node
    cases node
    cases bare
  have absent : ∀ {x : Location}, fs.node? x = none →
      (fs.replace place (.object (.file new))).node? x = none := by
    intro x free
    rw [node?_replace ne stands, if_neg, free]
    rintro rfl
    rw [file] at free
    cases free
  fun_induction FileSystem.follow fs links l steps with
  | case1 => rw [follow_nil]
  | case2 links l step rest free => simp only [follow_cons, absent free]
  | case3 links l rest directory ih => simpa only [follow_cons, other directory rfl] using ih
  | case4 links l rest directory ih => simpa only [follow_cons, other directory rfl] using ih
  | case5 links l rest directory => simp only [follow_cons, other directory rfl]
  | case6 links l rest directory name free =>
      simp only [follow_cons, other directory rfl, absent free]
  | case7 links l rest directory name o found ih =>
      -- the step may go down to the file itself, which stays no link whatever its bytes are
      have put : ∃ o', (fs.replace place (.object (.file new))).node? (name :: l) =
          some (.object o') := by
        rw [node?_replace ne stands]
        split
        · exact ⟨_, rfl⟩
        · exact ⟨_, found⟩
      obtain ⟨o', put⟩ := put
      simpa only [follow_cons, other directory rfl, put] using ih
  | case8 l rest directory name target found =>
      simp only [follow_cons, other directory rfl, other found rfl]
  | case9 l rest directory name target found left ih =>
      simpa only [follow_cons, other directory rfl, other found rfl] using ih
  | case10 links l step rest n not_directory node =>
      have put : ∃ n', (fs.replace place (.object (.file new))).node? l = some n' ∧
          n' ≠ .object .directory := by
        rw [node?_replace ne stands]
        split
        · exact ⟨_, rfl, fun same => by cases same⟩
        · exact ⟨n, node, not_directory⟩
      obtain ⟨n', put, differs⟩ := put
      exact follow_of_not_directory put differs

/-! ## Making directories -/

theorem makeSteps_grows {links : Nat} {l : Location} {steps : List RouteStep}
    (made : fs.makeSteps links l steps = .ok fs') : Grows fs fs' := by
  fun_induction makeSteps fs links l steps with
  | case1 => cases made; exact .refl _
  | case2 => cases made
  | case3 fs links l step rest next left reached ih => exact ih made
  | case4 => cases made
  | case5 fs links l rest name free absent ih =>
      obtain ⟨first, d, eq, free, directory⟩ := free_of_follow absent
      cases eq
      exact .insert free directory rfl (ih made)
  | case6 => cases made
  | case7 => cases made

theorem makeDirectories_grows {p : Path} (made : fs.makeDirectories p = .ok fs') :
    Grows fs fs' := by
  unfold makeDirectories at made
  split at made
  · cases made
  split at made
  · cases made
    exact .refl _
  · exact makeSteps_grows made

theorem makeParents_grows {p : Path} (made : fs.makeParents p = .ok fs') : Grows fs fs' := by
  unfold makeParents at made
  split at made
  · exact makeDirectories_grows made
  · cases made
    exact .refl _

/-! ## Writing -/

/-- A write makes the directories it needs, and then puts a new file where the path
misses one or gives the file that the path names its bytes. -/
theorem write_cases {p : Path} {content : List UInt8} (written : fs.write p content = .ok fs') :
    ∃ made, Grows fs made ∧
      ((∃ l, made.arrive p = .absent l [] ∧ fs' = made.insert l (.object (.file content))) ∨
        ∃ l left old, made.arrive p = .reached l left ∧
          made.node? l = some (.object (.file old)) ∧
          fs' = made.replace l (.object (.file content))) := by
  obtain ⟨made, parents, written⟩ := exists_of_bind_ok written
  refine ⟨made, makeParents_grows parents, ?_⟩
  split at written
  · cases written
  · next l absent =>
      cases written
      exact .inl ⟨l, absent, rfl⟩
  · cases written
  · next l left reached =>
      split at written
      · next old file =>
          cases written
          exact .inr ⟨l, left, old, reached, object?_eq_some.1 file, rfl⟩
      · cases written
      · cases written
      · cases written

/-- **What is written is there**: after a write its path names a file with the bytes
written, and all other files are as they were. -/
theorem resolve_write {p : Path} {content : List UInt8} (written : fs.write p content = .ok fs') :
    ∃ l, fs'.resolve p = .ok (l, .file content) ∧ ∀ x ≠ l, fs'.content? x = fs.content? x := by
  obtain ⟨made, grows, ⟨l, absent, rfl⟩ | ⟨l, left, old, reached, file, rfl⟩⟩ :=
    write_cases written
  · have spelling := spelling_of_arrive absent nofun
    rw [arrive_of_spelling spelling] at absent
    obtain ⟨left, taken⟩ := follow_insert (.file content) absent
    obtain ⟨name, d, rfl, free, directory⟩ := free_of_follow absent
    refine ⟨name :: d, resolve_eq_ok_iff.2 ⟨left, ?_, ?_⟩, ?_⟩
    · rw [arrive_of_spelling spelling]
      rwa [follow_nil] at taken
    · rw [node?_insert free, if_pos rfl]
    · intro x other
      rw [content?_insert free, if_neg other, grows.content?]
  · have ne : l ≠ [] := ne_nil_of_file file
    have stands : made.node? l ≠ none := by rw [file]; exact Option.some_ne_none _
    have spelling := spelling_of_arrive reached nofun
    rw [arrive_of_spelling spelling, ← follow_replace file] at reached
    refine ⟨l, resolve_eq_ok_iff.2 ⟨left, ?_, ?_⟩, ?_⟩
    · rw [arrive_of_spelling spelling]
      exact reached
    · rw [node?_replace ne stands, if_pos rfl]
    · intro x other
      rw [← grows.content?, content?, node?_replace ne stands, if_neg other, content?]

theorem Rooted.write {p : Path} {content : List UInt8} (rooted : fs.Rooted)
    (written : fs.write p content = .ok fs') : fs'.Rooted := by
  obtain ⟨made, grows, ⟨l, absent, rfl⟩ | ⟨l, left, old, reached, file, rfl⟩⟩ :=
    write_cases written
  · rw [arrive_of_spelling (spelling_of_arrive absent nofun)] at absent
    obtain ⟨name, d, rfl, free, directory⟩ := free_of_follow absent
    exact (grows.rooted rooted).insert free directory
  · exact (grows.rooted rooted).replace file

end FileSystem

end GrammarQueries
