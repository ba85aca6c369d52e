/-
# GrammarQueries.Proofs.Component -- what the components of a path tell

Two paths have the same components exactly when they begin alike, with a root,
with `.` or with neither, and then go up and down by the same pieces
(`components_eq_iff`).  Separators that are repeated or stand at the end make no
component, nor does `.` behind a separator (`sameComponents_inner`,
`sameComponents_at_end`); in front of a relative path `.` is one
(`sameComponents_here_iff`).

So components tell the steps of a path but for those that stay (`moves_eq`), and
each name below a path is one more component (`components_child`).
-/
import Mathlib.Data.List.Basic
import GrammarQueries.Proofs.Trail

namespace GrammarQueries

set_option autoImplicit false

/-! ## Components and pieces -/

/-- A byte that is no separator is put in front of the first piece. -/
theorem exists_chunks_cons {b : UInt8} (other : b ≠ separator) (bytes : List UInt8) :
    ∃ piece rest, chunks bytes = piece :: rest ∧ chunks (b :: bytes) = (b :: piece) :: rest := by
  cases pieces : chunks bytes with
  | nil => exact absurd pieces (chunks_ne_nil bytes)
  | cons piece rest => exact ⟨piece, rest, rfl, by rw [chunks, if_neg other, pieces]⟩

theorem mem_chunks_iff {b : UInt8} (other : b ≠ separator) (bytes : List UInt8) :
    b ∈ bytes ↔ ∃ piece ∈ chunks bytes, b ∈ piece := by
  induction bytes with
  | nil => simp [chunks]
  | cons c bytes ih =>
      rw [List.mem_cons, ih]
      by_cases sep : c = separator
      · rw [chunks, if_pos sep]
        simp [sep, other]
      · obtain ⟨piece, rest, pieces, longer⟩ := exists_chunks_cons sep bytes
        rw [pieces, longer]
        simp [or_assoc]

namespace Path

variable {p q : Path}

/-- The components of a path but for a root or a `.` that it begins with. -/
def body (p : Path) : List Component := (chunks p.bytes).filterMap componentOf

/-- The root or the `.` that a path begins with. -/
def lead (p : Path) : Option Component :=
  if p.isAbsolute then some .root
  else if (chunks p.bytes).head? = some [dot] then some .here
  else none

theorem components_eq (p : Path) : p.components = p.lead.toList ++ p.body := by
  unfold components lead body
  dsimp only
  split
  · rfl
  · split <;> rfl

theorem lead_eq_root_iff : p.lead = some .root ↔ p.isAbsolute = true := by
  unfold lead
  split
  · next absolute => simp [absolute]
  · next relative => split <;> simp [relative]

theorem lead_eq_none_iff :
    p.lead = none ↔ p.isAbsolute = false ∧ (chunks p.bytes).head? ≠ some [dot] := by
  unfold lead
  split
  · next absolute => simp [absolute]
  · next relative => split <;> simp_all

/-- A piece stays, goes up, or goes down by a name. -/
theorem componentOf_cases (piece : List UInt8) :
    ((piece = [] ∨ piece = [dot]) ∧ componentOf piece = none) ∨
      (piece = [dot, dot] ∧ componentOf piece = some .up) ∨
      ((piece ≠ [] ∧ piece ≠ [dot] ∧ piece ≠ [dot, dot]) ∧
        componentOf piece = some (.name piece)) := by
  unfold componentOf
  split
  · next stays => exact .inl ⟨stays, rfl⟩
  · next moves =>
      rw [not_or] at moves
      split
      · next up => exact .inr (.inl ⟨up, rfl⟩)
      · next down => exact .inr (.inr ⟨⟨moves.1, moves.2, down⟩, rfl⟩)

theorem componentOf_eq_none_iff {piece : List UInt8} :
    componentOf piece = none ↔ piece = [] ∨ piece = [dot] := by
  rcases componentOf_cases piece with ⟨stays, eq⟩ | ⟨rfl, eq⟩ | ⟨⟨some, here, -⟩, eq⟩
  · simp [eq, stays]
  · simp [eq]
  · simp [eq, some, here]

theorem componentOf_eq_name_iff {piece called : List UInt8} :
    componentOf piece = some (.name called) ↔
      piece = called ∧ called ≠ [] ∧ called ≠ [dot] ∧ called ≠ [dot, dot] := by
  constructor
  · intro named
    rcases componentOf_cases piece with ⟨-, none⟩ | ⟨-, up⟩ | ⟨proper, down⟩
    · cases none.symm.trans named
    · cases up.symm.trans named
    · cases down.symm.trans named
      exact ⟨rfl, proper⟩
  · rintro ⟨rfl, some, here, up⟩
    simp [componentOf, some, here, up]

/-- In its body a path only goes up or down. -/
theorem mem_body {c : Component} (member : c ∈ p.body) : c = .up ∨ ∃ piece, c = .name piece := by
  obtain ⟨piece, -, eq⟩ := List.mem_filterMap.1 member
  rcases componentOf_cases piece with ⟨-, none⟩ | ⟨-, up⟩ | ⟨-, down⟩
  · cases none.symm.trans eq
  · cases up.symm.trans eq
    exact .inl rfl
  · cases down.symm.trans eq
    exact .inr ⟨piece, rfl⟩

theorem not_mem_body_of_lead {c : Component} (leads : p.lead = some c) : c ∉ q.body := by
  intro member
  unfold lead at leads
  rcases mem_body member with rfl | ⟨piece, rfl⟩ <;> split at leads <;> simp_all

theorem sameComponents_iff : p.sameComponents q = true ↔ p.components = q.components := beq_iff_eq

/-- What a path begins with is in no body, so it parts the path from one without. -/
theorem components_ne_of_lead {c : Component} (p_lead : p.lead = none) (q_lead : q.lead = some c) :
    p.components ≠ q.components := by
  intro same
  rw [components_eq, components_eq, p_lead, q_lead] at same
  have member : c ∈ p.body := by
    rw [show p.body = c :: q.body from same]
    exact List.mem_cons_self ..
  exact not_mem_body_of_lead q_lead member

/-- **Components tell how a path begins and where it moves**, and nothing else. -/
theorem components_eq_iff : p.components = q.components ↔ p.lead = q.lead ∧ p.body = q.body := by
  constructor
  · intro same
    cases p_lead : p.lead with
    | none =>
        cases q_lead : q.lead with
        | none => simpa [components_eq, p_lead, q_lead] using same
        | some c => exact absurd same (components_ne_of_lead p_lead q_lead)
    | some c =>
        cases q_lead : q.lead with
        | none => exact absurd same.symm (components_ne_of_lead q_lead p_lead)
        | some d => simpa [components_eq, p_lead, q_lead] using same
  · rintro ⟨lead, body⟩
    rw [components_eq, components_eq, lead, body]

/-- Only the empty path has no components. -/
theorem components_eq_nil_iff : p.components = [] ↔ p.bytes = [] := by
  obtain ⟨bytes⟩ := p
  constructor
  · intro none_left
    rw [components_eq, List.append_eq_nil_iff, Option.toList_eq_nil_iff, lead_eq_none_iff]
      at none_left
    obtain ⟨⟨relative, begins⟩, body_nil⟩ := none_left
    cases bytes with
    | nil => rfl
    | cons b bs =>
        have other : b ≠ separator := by simpa [isAbsolute] using relative
        obtain ⟨piece, rest, -, pieces⟩ := exists_chunks_cons other bs
        -- the first piece is not empty, so it is a component or the `.` that the path begins with
        rw [body, List.filterMap_eq_nil_iff, pieces] at body_nil
        rcases componentOf_eq_none_iff.1 (body_nil _ (List.mem_cons_self ..)) with eq | eq
        · cases eq
        · exact absurd (by rw [pieces, eq]; rfl) begins
  · rintro rfl
    rfl

/-! ## Spellings of one path -/

/-- Pieces that stand for no component can be put behind a beginning of a path. -/
theorem components_eq_of_chunks {first inner inner' : List (List UInt8)} (begun : first ≠ [])
    (absolute : p.isAbsolute = q.isAbsolute) (pieces : chunks p.bytes = first ++ inner)
    (pieces' : chunks q.bytes = first ++ inner')
    (body : inner.filterMap componentOf = inner'.filterMap componentOf) :
    p.components = q.components := by
  refine components_eq_iff.2 ⟨?_, ?_⟩
  · rw [lead, lead, absolute, pieces, pieces', List.head?_append_of_ne_nil _ begun,
      List.head?_append_of_ne_nil _ begun]
  · rw [Path.body, Path.body, pieces, pieces', List.filterMap_append, List.filterMap_append, body]

/-- A separator may be repeated, or be followed by `.`, inside a path. -/
theorem sameComponents_inner (xs ys : List UInt8) :
    sameComponents ⟨xs ++ separator :: separator :: ys⟩ ⟨xs ++ separator :: ys⟩ = true ∧
      sameComponents ⟨xs ++ separator :: dot :: separator :: ys⟩ ⟨xs ++ separator :: ys⟩ = true := by
  have begun := chunks_ne_nil xs
  have absolute : ∀ zs zs' : List UInt8, isAbsolute ⟨xs ++ separator :: zs⟩ =
      isAbsolute ⟨xs ++ separator :: zs'⟩ := by
    intro zs zs'
    cases xs <;> rfl
  constructor
  · refine sameComponents_iff.2 (components_eq_of_chunks begun (absolute _ _)
      (chunks_append_separator _ _) (chunks_append_separator _ _) ?_)
    rw [← List.nil_append (separator :: ys), chunks_append_separator, List.filterMap_append]
    rfl
  · refine sameComponents_iff.2 (components_eq_of_chunks begun (absolute _ _)
      (chunks_append_separator _ _) (chunks_append_separator _ _) ?_)
    rw [← List.singleton_append, chunks_append_separator, List.filterMap_append]
    rfl

/-- A separator may be put at the end of a path, and a `.` behind it. -/
theorem sameComponents_at_end (spelled : p.bytes ≠ []) :
    sameComponents ⟨p.bytes ++ [separator]⟩ p = true ∧
      sameComponents ⟨p.bytes ++ [separator, dot]⟩ p = true := by
  have begun := chunks_ne_nil p.bytes
  have absolute : ∀ zs : List UInt8, isAbsolute ⟨p.bytes ++ zs⟩ = p.isAbsolute := by
    intro zs
    rw [isAbsolute, List.head?_append_of_ne_nil _ spelled, isAbsolute]
  have whole : chunks p.bytes = chunks p.bytes ++ [] := (List.append_nil _).symm
  exact ⟨sameComponents_iff.2 (components_eq_of_chunks begun (absolute _)
      (chunks_append_separator _ _) whole rfl),
    sameComponents_iff.2 (components_eq_of_chunks begun (absolute _)
      (chunks_append_separator _ _) whole rfl)⟩

/-- **A `.` in front of a path counts** unless the path begins with one already. -/
theorem sameComponents_here_iff :
    sameComponents ⟨dot :: separator :: p.bytes⟩ p = true ↔ Component.here ∈ p.components := by
  have pieces : chunks (dot :: separator :: p.bytes) = [dot] :: chunks p.bytes :=
    chunks_append_separator [dot] p.bytes
  have lead : lead ⟨dot :: separator :: p.bytes⟩ = some .here := by
    rw [Path.lead, pieces]
    rfl
  have body : body ⟨dot :: separator :: p.bytes⟩ = p.body := by
    rw [Path.body, pieces, List.filterMap_cons_none (componentOf_eq_none_iff.2 (.inr rfl)), Path.body]
  rw [sameComponents_iff, components_eq_iff, lead, body, components_eq]
  constructor
  · rintro ⟨leads, -⟩
    rw [← leads]
    exact List.mem_cons_self ..
  · intro member
    rcases List.mem_append.1 member with leads | inside
    · exact ⟨(Option.mem_toList.1 leads).symm, rfl⟩
    · exact absurd inside (not_mem_body_of_lead lead)

/-! ## Names below a path -/

/-- A name below a path is one more piece.  It takes the place of the empty piece behind a
separator at the end of the path. -/
theorem exists_chunks_child (spelled : p.bytes ≠ []) (n : Name) :
    ∃ before, before ≠ [] ∧ chunks (p.child n.bytes).bytes = before ++ [n.bytes] ∧
      (chunks p.bytes = before ∨ chunks p.bytes = before ++ [[]]) := by
  have single := chunks_of_not_mem n.separator_not_mem
  by_cases ends : p.bytes.getLast? = some separator
  · obtain ⟨front, eq⟩ := List.getLast?_eq_some_iff.1 ends
    refine ⟨chunks front, chunks_ne_nil front, ?_, .inr ?_⟩
    · rw [bytes_child spelled, if_pos ends, eq, List.append_nil, List.append_assoc,
        List.singleton_append, chunks_append_separator, single]
    · rw [eq, chunks_append_separator]
      rfl
  · refine ⟨chunks p.bytes, chunks_ne_nil p.bytes, ?_, .inl rfl⟩
    rw [bytes_child spelled, if_neg ends, List.append_assoc, List.singleton_append,
      chunks_append_separator, single]

/-- A name below a path is one more component. -/
theorem components_child (spelled : p.bytes ≠ []) (n : Name) :
    (p.child n.bytes).components = p.components ++ [.name n.bytes] := by
  obtain ⟨some, here, up, -⟩ := n.spelling
  have named : componentOf n.bytes = Option.some (.name n.bytes) :=
    componentOf_eq_name_iff.2 ⟨rfl, some, here, up⟩
  obtain ⟨before, begun, pieces, pieces'⟩ := exists_chunks_child spelled n
  have body : (p.child n.bytes).body = p.body ++ [.name n.bytes] := by
    rw [Path.body, pieces, List.filterMap_append, Path.body]
    rcases pieces' with eq | eq
    · rw [eq]
      simp [named]
    · rw [eq, List.filterMap_append, List.filterMap_cons_none (componentOf_eq_none_iff.2 (.inl rfl))]
      simp [named]
  have head : (chunks (p.child n.bytes).bytes).head? = (chunks p.bytes).head? := by
    rw [pieces, List.head?_append_of_ne_nil _ begun]
    rcases pieces' with eq | eq
    · rw [eq]
    · rw [eq, List.head?_append_of_ne_nil _ begun]
  have lead : (p.child n.bytes).lead = p.lead := by
    rw [Path.lead, isAbsolute_child spelled, head, Path.lead]
  rw [components_eq, lead, body, components_eq, List.append_assoc]

theorem bytes_child_ne_nil (p : Path) (n : Name) : (p.child n.bytes).bytes ≠ [] := by
  have named := n.spelling.1
  unfold child
  split <;> simp [named]

theorem components_descend (spelled : p.bytes ≠ []) (names : List Name) :
    (p.descend names).components = p.components ++ names.map fun n => .name n.bytes := by
  induction names generalizing p with
  | nil => simp
  | cons n names ih =>
      rw [descend_cons, ih (p.bytes_child_ne_nil n), components_child spelled, List.map_cons,
        List.append_assoc, List.singleton_append]

theorem components_descend_congr (same : p.components = q.components) (names : List Name) :
    (p.descend names).components = (q.descend names).components := by
  by_cases empty : p.bytes = []
  · have empty' : q.bytes = [] := by
      rwa [← components_eq_nil_iff, ← same, components_eq_nil_iff]
    obtain ⟨bytes⟩ := p
    obtain ⟨bytes'⟩ := q
    cases empty.trans empty'.symm
    rfl
  · have spelled : q.bytes ≠ [] := by
      rwa [ne_eq, ← components_eq_nil_iff, ← same, components_eq_nil_iff]
    rw [components_descend empty, components_descend spelled, same]

/-! ## Moves -/

def Component.step : Component → RouteStep
  | .root => .here
  | .here => .here
  | .up => .up
  | .name piece => .ofChunk piece

/-- The steps of a path that do not stay. -/
def moves (p : Path) : List RouteStep := p.steps.filter fun s => decide (s ≠ .here)

theorem ofChunk_eq_here_iff {piece : List UInt8} :
    RouteStep.ofChunk piece = .here ↔ piece = [] ∨ piece = [dot] := by
  unfold RouteStep.ofChunk
  split
  · next stays => simp [stays]
  · next moves =>
      split
      · simp [moves]
      · split <;> simp [moves]

/-- The moves of a path are those that its body asks for. -/
theorem moves_eq (p : Path) : p.moves = p.body.map Component.step := by
  unfold moves steps body
  induction chunks p.bytes with
  | nil => rfl
  | cons piece rest ih =>
      rw [List.map_cons]
      rcases componentOf_cases piece with ⟨stays, none⟩ | ⟨rfl, up⟩ | ⟨⟨some, here, -⟩, down⟩
      · rw [List.filterMap_cons_none none, ← ih, List.filter_cons_of_neg]
        simpa using ofChunk_eq_here_iff.2 stays
      · rw [List.filterMap_cons_some up, List.map_cons, ← ih]
        rfl
      · rw [List.filterMap_cons_some down, List.map_cons, ← ih, List.filter_cons_of_pos]
        · rfl
        · simpa using mt ofChunk_eq_here_iff.1 (not_or.2 ⟨some, here⟩)

/-- A zero byte of a path is in its body. -/
theorem zero_mem_iff :
    (0 : UInt8) ∈ p.bytes ↔ ∃ piece, Component.name piece ∈ p.body ∧ (0 : UInt8) ∈ piece := by
  rw [mem_chunks_iff (by decide)]
  constructor
  · rintro ⟨piece, member, zero⟩
    have some : piece ≠ [] := List.ne_nil_of_mem zero
    have here : piece ≠ [dot] := by rintro rfl; revert zero; decide
    have up : piece ≠ [dot, dot] := by rintro rfl; revert zero; decide
    have named := componentOf_eq_name_iff.2 ⟨rfl, some, here, up⟩
    exact ⟨piece, List.mem_filterMap.2 ⟨piece, member, named⟩, zero⟩
  · rintro ⟨piece, member, zero⟩
    obtain ⟨piece', chunk, named⟩ := List.mem_filterMap.1 member
    obtain ⟨rfl, -⟩ := componentOf_eq_name_iff.1 named
    exact ⟨piece', chunk, zero⟩

end Path

end GrammarQueries
