/-
# GrammarQueries.Proofs.Field -- the numbers and the names of fields undo each other

The fields of a grammar are numbered from 1, for the engine says 0 where it has no
field of a name.  A number has a name exactly when it is that of a place in the table
(`fieldName?_succ`), and the number found for a name is the first that has it
(`fieldId?_eq_some_iff`).

The two lookups are therefore inverse to each other where no two fields have the same
name.  Where some have, what is found for the name of a number is the smallest number
with that name.
-/
import GrammarQueries.Grammar.Basic

namespace GrammarQueries

set_option autoImplicit false

namespace Grammar

variable {g : Grammar} {name : String} {id : FieldId}

/-! ## The two lookups as places in the table -/

@[simp] theorem fieldName?_zero (g : Grammar) : g.fieldName? 0 = none := rfl

/-- The field with a number stands one place in front of it. -/
@[simp] theorem fieldName?_succ (g : Grammar) (place : Nat) :
    g.fieldName? (place + 1) = g.fields[place]? := by
  unfold fieldName? fieldCount
  split
  · next outside =>
      have short : g.fields.length ≤ place :=
        Nat.le_of_lt_succ (outside.resolve_left (Nat.succ_ne_zero place))
      exact (List.getElem?_eq_none short).symm
  · rfl

theorem fieldName?_of_lt {place : Nat} (inside : place < g.fields.length) :
    g.fieldName? (place + 1) = some g.fields[place] := by
  rw [fieldName?_succ, List.getElem?_eq_getElem inside]

theorem fieldId?_eq_map (g : Grammar) (name : String) :
    g.fieldId? name = (g.fields.findIdx? (· == name)).map (· + 1) := by
  unfold fieldId? fieldNumber
  cases g.fields.findIdx? (· == name) with
  | none => rfl
  | some place => rfl

/-- Exactly the numbers from 1 to the number of fields have a name. -/
theorem isSome_fieldName?_iff : (g.fieldName? id).isSome ↔ 1 ≤ id ∧ id ≤ g.fieldCount := by
  cases id with
  | zero => simp
  | succ place =>
      rw [fieldName?_succ, isSome_getElem?, fieldCount]
      exact ⟨fun inside => ⟨Nat.succ_pos place, inside⟩, fun between => between.2⟩

theorem between_of_fieldName? (called : g.fieldName? id = some name) :
    1 ≤ id ∧ id ≤ g.fieldCount :=
  isSome_fieldName?_iff.1 (Option.isSome_iff_exists.2 ⟨name, called⟩)

/-- **The number found for a name is the first that has it.** -/
theorem fieldId?_eq_some_iff :
    g.fieldId? name = some id ↔
      g.fieldName? id = some name ∧ ∀ earlier < id, g.fieldName? earlier ≠ some name := by
  rw [fieldId?_eq_map, Option.map_eq_some_iff]
  constructor
  · rintro ⟨place, found, rfl⟩
    obtain ⟨inside, called, before⟩ := List.findIdx?_eq_some_iff_getElem.1 found
    refine ⟨?_, fun earlier less => ?_⟩
    · rw [fieldName?_of_lt inside, beq_iff_eq.1 called]
    · cases earlier with
      | zero => simp
      | succ other =>
          have ahead : other < place := Nat.lt_of_succ_lt_succ less
          rw [fieldName?_of_lt (Nat.lt_trans ahead inside)]
          simpa using before other ahead
  · rintro ⟨called, first⟩
    cases id with
    | zero => simp at called
    | succ place =>
        rw [fieldName?_succ] at called
        obtain ⟨inside, at_place⟩ := List.getElem?_eq_some_iff.1 called
        refine ⟨place, List.findIdx?_eq_some_iff_getElem.2 ⟨inside, beq_iff_eq.2 at_place, ?_⟩, rfl⟩
        intro other ahead
        have differs := first (other + 1) (Nat.succ_lt_succ ahead)
        rw [fieldName?_of_lt (Nat.lt_trans ahead inside)] at differs
        simpa using differs

/-- A number is found exactly for the names in the table. -/
theorem isSome_fieldId?_iff : (g.fieldId? name).isSome ↔ name ∈ g.fields := by
  rw [fieldId?_eq_map, Option.isSome_map, List.findIdx?_isSome]
  simp

/-! ## Names that several fields have -/

theorem mem_fields_of_fieldName? (called : g.fieldName? id = some name) : name ∈ g.fields := by
  cases id with
  | zero => simp at called
  | succ place =>
      rw [fieldName?_succ] at called
      exact List.mem_of_getElem? called

/-- For the name of a number the smallest number with this name is found. -/
theorem exists_least_fieldId? (called : g.fieldName? id = some name) :
    ∃ least, g.fieldId? name = some least ∧ g.fieldName? least = some name ∧
      ∀ other, g.fieldName? other = some name → least ≤ other := by
  obtain ⟨least, found⟩ :=
    Option.isSome_iff_exists.1 (isSome_fieldId?_iff.2 (mem_fields_of_fieldName? called))
  obtain ⟨named, first⟩ := fieldId?_eq_some_iff.1 found
  refine ⟨least, found, named, fun other same => Nat.le_of_not_lt fun less => ?_⟩
  exact first other less same

/-- Where no two fields have the same name, no two numbers have. -/
theorem eq_of_fieldName? (apart : g.fields.Nodup) {other : FieldId}
    (called : g.fieldName? id = some name) (called' : g.fieldName? other = some name) :
    id = other := by
  cases id with
  | zero => simp at called
  | succ place =>
      cases other with
      | zero => simp at called'
      | succ place' =>
          rw [fieldName?_succ] at called called'
          obtain ⟨inside, -⟩ := List.getElem?_eq_some_iff.1 called
          have same := (List.getElem?_inj inside apart).1 (called.trans called'.symm)
          rw [same]

theorem fieldId?_of_fieldName? (apart : g.fields.Nodup) (called : g.fieldName? id = some name) :
    g.fieldId? name = some id := by
  obtain ⟨least, found, named, -⟩ := exists_least_fieldId? called
  rw [found, eq_of_fieldName? apart named called]

/-- **The numbers and the names of fields are inverse to each other.**  Fields are numbered in
their order from 1, and every number that is found is one of 16 bits; the numbers with a
name are those from 1 to the number of fields, and the names with a number those in the
table.  If no name is in the table twice, a number has a name exactly if the name has the
number; and if some are, the name of a number still has the smallest number with this
name. -/
theorem field_lookups_inverse (g : Grammar) (bounded : g.fieldCount ≤ 65535) :
    (∀ place, g.fieldName? (place + 1) = g.fields[place]?) ∧
    (∀ name id, g.fieldId? name = some id → id ≤ 65535) ∧
    (∀ id, (g.fieldName? id).isSome ↔ 1 ≤ id ∧ id ≤ g.fieldCount) ∧
    (∀ name, (g.fieldId? name).isSome ↔ name ∈ g.fields) ∧
    (g.fields.Nodup →
      ∀ id name, g.fieldName? id = some name ↔ g.fieldId? name = some id) ∧
    ∀ id name, g.fieldName? id = some name →
      ∃ least, g.fieldId? name = some least ∧ g.fieldName? least = some name ∧
        ∀ other, g.fieldName? other = some name → least ≤ other := by
  refine ⟨g.fieldName?_succ, fun name id found => ?_, fun id => isSome_fieldName?_iff,
    fun name => isSome_fieldId?_iff, fun apart id name => ⟨?_, ?_⟩,
    fun id name called => exists_least_fieldId? called⟩
  · obtain ⟨called, -⟩ := fieldId?_eq_some_iff.1 found
    exact Nat.le_trans (between_of_fieldName? called).2 bounded
  · exact fieldId?_of_fieldName? apart
  · exact fun found => (fieldId?_eq_some_iff.1 found).1

def ofFields (fields : List String) : Grammar where
  abiVersion := 15
  symbols := []
  fields := fields
  subtypes := []
  automaton? := none

theorem keyValue_and_repeated_lookups :
    (ofFields ["key", "value"]).fieldCount ≤ 65535 ∧ (ofFields ["key", "value"]).fields.Nodup ∧
      (ofFields ["key", "value"]).fieldId? "value" = some 2 ∧
      (ofFields ["key", "value"]).fieldId? "valu" = none ∧
      (ofFields ["left", "op", "left"]).fieldCount ≤ 65535 ∧
      (ofFields ["left", "op", "left"]).fieldName? 3 = some "left" ∧
      (ofFields ["left", "op", "left"]).fieldId? "left" = some 1 := by
  have bounded : (ofFields ["key", "value"]).fieldCount ≤ 65535 := by decide
  have bounded' : (ofFields ["left", "op", "left"]).fieldCount ≤ 65535 := by decide
  have apart : (ofFields ["key", "value"]).fields.Nodup := by decide
  obtain ⟨-, -, -, known, inverse, -⟩ := field_lookups_inverse _ bounded
  obtain ⟨-, -, -, -, -, smallest⟩ := field_lookups_inverse _ bounded'
  have unknown : ¬((ofFields ["key", "value"]).fieldId? "valu").isSome := by
    rw [known]
    decide
  obtain ⟨least, found, named, first⟩ := smallest 3 "left" rfl
  have at_one : least = 1 := Nat.le_antisymm (first 1 rfl) (between_of_fieldName? named).1
  refine ⟨bounded, apart, (inverse apart 2 "value").1 rfl, ?_, bounded', rfl, at_one ▸ found⟩
  simpa using unknown

end Grammar

end GrammarQueries
