/-
# GrammarQueries.Proofs.Symbol -- what the number found for a name stands for

The engine answers every name with a number.  That number is the one under which
the first symbol that answers to the name is known outside, which can be the
number of another symbol; or 65535, for the symbol of syntax errors; or 0, which
says that there is none but is also the number of the symbol that ends the input
(`kindId_cases`).

Two tests tell these apart: the number has to be in the table, and 0 is taken
only for the name of the end (`symbolId?_eq_some_iff`).  In a well formed table a
symbol and the one it is known as have the same name and flags, so what is found
is called what was asked for.

A visible symbol is therefore found under its own name, or a symbol in front of it
is that answers to the name too (`symbolId?_of_visible`).  That one is visible as
well, unless it is a hidden supertype, for supertypes answer to their names.
-/
import GrammarQueries.Grammar.Basic

namespace GrammarQueries

set_option autoImplicit false

namespace Grammar

variable {g : Grammar} {name : String} {named : Bool} {id : SymbolId}

/-! ## Numbers and names -/

theorem answersTo_iff {s : Symbol} :
    answersTo s name named = true ↔
      (s.visible = true ∨ s.supertype = true) ∧ s.named = named ∧ s.name = name := by
  simp only [answersTo, Bool.and_eq_true, Bool.or_eq_true, beq_iff_eq, and_assoc]

/-- **What the engine's number for a name can be**: that of the symbol of syntax errors,
the outside number of a symbol that answers to the name, or 0 where none answers. -/
theorem kindId_cases (g : Grammar) (name : String) (named : Bool) :
    g.kindId name named = errorSymbol ∨
      (∃ s ∈ g.symbols, answersTo s name named = true ∧ g.kindId name named = s.publicId) ∨
      ((∀ s ∈ g.symbols, answersTo s name named = false) ∧ g.kindId name named = 0) := by
  unfold kindId
  split
  · exact .inl rfl
  · split
    · next s found =>
        have answers := List.find?_some found
        exact .inr (.inl ⟨s, List.mem_of_find?_eq_some found, answers, rfl⟩)
    · next missing =>
        refine .inr (.inr ⟨fun s member => ?_, rfl⟩)
        simpa using List.find?_eq_none.1 missing s member

/-- A number is given when it is in the table, and 0 only for the name of the end. -/
theorem symbolId?_eq_some_iff :
    g.symbolId? name named = some id ↔
      g.kindId name named = id ∧ id < g.symbolCount ∧ (id = 0 → name = endName) := by
  unfold symbolId?
  dsimp only
  constructor
  · intro given
    split at given
    · cases given
    · next known =>
        split at given
        · cases given
        · next inside =>
            cases given
            refine ⟨rfl, Nat.lt_of_not_le inside, fun zero => ?_⟩
            exact Decidable.byContradiction fun other => known ⟨zero, other⟩
  · rintro ⟨rfl, inside, known⟩
    rw [if_neg fun both => both.2 (known both.1), if_neg (Nat.not_le_of_lt inside)]

theorem symbolName?_of_getElem? {s : Symbol} (entry : g.symbols[id]? = some s) :
    g.symbolName? id = some s.name := by
  obtain ⟨inside, -⟩ := List.getElem?_eq_some_iff.1 entry
  rw [symbolName?, symbolCount, if_neg (Nat.not_le_of_lt inside), entry, Option.map_some]

theorem isSome_symbolName? (inside : id < g.symbolCount) : (g.symbolName? id).isSome := by
  rw [symbolName?_of_getElem? (List.getElem?_eq_getElem inside), Option.isSome_some]

/-! ## Well formed tables -/

/-- A table as grammars have it: the symbol with number 0 ends the input and is not visible,
and each symbol is known outside as a symbol of the table with its name and flags. -/
structure WellFormed (g : Grammar) : Prop where
  ending : ∃ s, g.symbols[0]? = some s ∧ s.name = endName ∧ s.visible = false
  known : ∀ s ∈ g.symbols, ∃ t, g.symbols[s.publicId]? = some t ∧ t.name = s.name ∧
    t.visible = s.visible ∧ t.named = s.named ∧ t.supertype = s.supertype

/-- A symbol answers to a name as the symbol it is known as. -/
theorem WellFormed.exists_answersTo (formed : g.WellFormed) {s : Symbol} (member : s ∈ g.symbols)
    (answers : answersTo s name named = true) :
    ∃ t, g.symbols[s.publicId]? = some t ∧ answersTo t name named = true := by
  obtain ⟨t, entry, same_name, same_visible, same_named, same_super⟩ := formed.known s member
  refine ⟨t, entry, ?_⟩
  rw [answersTo, same_name, same_visible, same_named, same_super]
  exact answers

/-- In a well formed table what is found answers to the name, or is the end. -/
theorem WellFormed.found (formed : g.WellFormed) (bounded : g.symbolCount ≤ errorSymbol)
    (given : g.symbolId? name named = some id) :
    ∃ s, g.symbols[id]? = some s ∧ s.name = name ∧
      (name ≠ endName → answersTo s name named = true) := by
  obtain ⟨rfl, inside, zero⟩ := symbolId?_eq_some_iff.1 given
  rcases kindId_cases g name named with error | ⟨s, member, answers, eq⟩ | ⟨-, eq⟩
  · rw [error] at inside
    exact absurd inside (Nat.not_lt_of_le bounded)
  · obtain ⟨t, entry, answers'⟩ := formed.exists_answersTo member answers
    rw [eq]
    exact ⟨t, entry, (answersTo_iff.1 answers').2.2, fun _ => answers'⟩
  · obtain ⟨s, entry, called, -⟩ := formed.ending
    rw [eq]
    exact ⟨s, entry, called.trans (zero eq).symm, fun other => absurd (zero eq) other⟩

/-- A name that no symbol answers to has no number, unless it is the name of the end. -/
theorem symbolId?_of_unanswered (bounded : g.symbolCount ≤ errorSymbol) (other : name ≠ endName)
    (unanswered : ∀ s ∈ g.symbols, answersTo s name named = false) :
    g.symbolId? name named = none := by
  cases given : g.symbolId? name named with
  | none => rfl
  | some id =>
      obtain ⟨rfl, inside, zero⟩ := symbolId?_eq_some_iff.1 given
      rcases kindId_cases g name named with error | ⟨s, member, answers, -⟩ | ⟨-, eq⟩
      · rw [error] at inside
        exact absurd inside (Nat.not_lt_of_le bounded)
      · rw [unanswered s member] at answers
        cases answers
      · exact absurd (zero eq) other

/-- **A number that is found is in the table**, so it has a name and is never that of the
symbol of syntax errors, whatever the flags and the outside numbers are.  In a well formed
table its name is the one that was asked for, and its symbol is visible or a supertype and
named as asked for, unless the name is that of the end; and no number is found for any other
name that no visible symbol and no supertype has. -/
theorem symbolId?_sound (g : Grammar) (bounded : g.symbolCount ≤ 65535) (name : String)
    (named : Bool) :
    (∀ id, g.symbolId? name named = some id →
      id < g.symbolCount ∧ (g.symbolName? id).isSome ∧ id ≠ errorSymbol) ∧
    (g.WellFormed →
      (∀ id, g.symbolId? name named = some id →
        g.symbolName? id = some name ∧
          (name ≠ endName → ∃ s, g.symbols[id]? = some s ∧
            (s.visible = true ∨ s.supertype = true) ∧ s.named = named)) ∧
      (name ≠ endName →
        (¬∃ s ∈ g.symbols,
          (s.visible = true ∨ s.supertype = true) ∧ s.named = named ∧ s.name = name) →
        g.symbolId? name named = none)) := by
  refine ⟨fun id given => ?_, fun formed => ⟨fun id given => ?_, fun other absent => ?_⟩⟩
  · obtain ⟨-, inside, -⟩ := symbolId?_eq_some_iff.1 given
    exact ⟨inside, isSome_symbolName? inside, Nat.ne_of_lt (Nat.lt_of_lt_of_le inside bounded)⟩
  · obtain ⟨s, entry, called, answers⟩ := formed.found bounded given
    refine ⟨?_, fun other => ?_⟩
    · rw [symbolName?_of_getElem? entry, called]
    · obtain ⟨shown, same_named, -⟩ := answersTo_iff.1 (answers other)
      exact ⟨s, entry, shown, same_named⟩
  · refine symbolId?_of_unanswered bounded other fun s member => ?_
    rw [← Bool.not_eq_true, answersTo_iff]
    exact fun answers => absent ⟨s, member, answers⟩

/-- A table with a keyword called like the end, a hidden symbol, a supertype, a node called
like a beginning of the error symbol's name, and two nodes that are known as one. -/
def sharedNumbers : Grammar where
  abiVersion := 15
  symbols :=
    [⟨"end", false, true, false, 0⟩, ⟨"end", true, false, false, 1⟩, ⟨"_rule", false, true, false, 2⟩,
      ⟨"_type", false, true, true, 3⟩, ⟨"E", true, true, false, 4⟩, ⟨"item", true, true, false, 6⟩,
      ⟨"item", true, true, false, 6⟩]
  fields := []
  subtypes := []
  automaton? := none

theorem sharedNumbers_lookups :
    sharedNumbers.symbolCount ≤ 65535 ∧ sharedNumbers.WellFormed ∧
      sharedNumbers.symbolId? "item" true = some 6 ∧ sharedNumbers.symbolName? 6 = some "item" ∧
      (∃ s, sharedNumbers.symbols[6]? = some s ∧ (s.visible = true ∨ s.supertype = true) ∧
        s.named = true) ∧
      sharedNumbers.symbolId? "_rule" true = none ∧ sharedNumbers.symbolId? "E" true = none := by
  have bounded : sharedNumbers.symbolCount ≤ 65535 := by decide
  have formed : sharedNumbers.WellFormed := by
    refine ⟨⟨_, rfl, rfl, rfl⟩, ?_⟩
    intro s member
    simp only [sharedNumbers, List.mem_cons, List.not_mem_nil, or_false] at member
    rcases member with rfl | rfl | rfl | rfl | rfl | rfl | rfl <;>
      exact ⟨_, rfl, rfl, rfl, rfl, rfl⟩
  have found : sharedNumbers.symbolId? "item" true = some 6 := by decide +kernel
  obtain ⟨called, shown⟩ :=
    ((symbolId?_sound sharedNumbers bounded "item" true).2 formed).1 6 found
  have absent : sharedNumbers.symbolId? "_rule" true = none :=
    ((symbolId?_sound sharedNumbers bounded "_rule" true).2 formed).2 (by decide) (by decide)
  exact ⟨bounded, formed, found, called, shown (by decide), absent, by decide +kernel⟩

/-! ## Symbols under their own names -/

variable {i : Nat} {s : Symbol}

/-- Where a symbol answers to a name, the first one that does stands there or in front of it. -/
theorem exists_first_answering (entry : g.symbols[i]? = some s)
    (answers : answersTo s name named = true) :
    ∃ k t, k ≤ i ∧ g.symbols[k]? = some t ∧ answersTo t name named = true ∧
      g.symbols.find? (answersTo · name named) = some t := by
  obtain ⟨inside, at_i⟩ := List.getElem?_eq_some_iff.1 entry
  have member : s ∈ g.symbols := List.mem_of_getElem? entry
  cases found : g.symbols.find? (answersTo · name named) with
  | none =>
      have silent := List.find?_eq_none.1 found s member
      exact absurd answers silent
  | some t =>
      obtain ⟨answers', k, bound, at_k, before⟩ := List.find?_eq_some_iff_getElem.1 found
      have le : k ≤ i := by
        refine Nat.le_of_not_lt fun later => ?_
        have silent := before i later
        rw [at_i, answers] at silent
        cases silent
      exact ⟨k, t, le, List.getElem?_eq_some_iff.2 ⟨bound, at_k⟩, answers', rfl⟩

/-- The engine's number for a name that is not a beginning of the error symbol's. -/
theorem kindId_of_find? {t : Symbol}
    (ordinary : ¬(named = true ∧ name.toList <+: errorName.toList))
    (found : g.symbols.find? (answersTo · name named) = some t) :
    g.kindId name named = t.publicId := by
  have tested : ¬((named && name.toList.isPrefixOf errorName.toList) = true) := by
    rw [Bool.and_eq_true, List.isPrefixOf_iff_prefix]
    exact ordinary
  rw [kindId, if_neg tested, found]

/-- **A visible symbol is not lost.**  In a well formed table a number is found for the name
and the flag of a visible symbol; it has the same name, and its symbol the same flag.  That
symbol is visible too, or else it is a supertype, and then a hidden supertype of this name
and flag stands in front of the visible symbol.  Nothing is said of the named symbols that
are called like a beginning of the error symbol's name. -/
theorem symbolId?_of_visible (formed : g.WellFormed) (entry : g.symbols[i]? = some s)
    (visible : s.visible = true) (ordinary : ¬(s.named = true ∧ s.name.toList <+: errorName.toList)) :
    ∃ j t, g.symbolId? s.name s.named = some j ∧ g.symbolName? j = some s.name ∧
      g.symbols[j]? = some t ∧ t.named = s.named ∧
      (t.visible = true ∨ t.supertype = true ∧ ∃ k u, k < i ∧ g.symbols[k]? = some u ∧
        u.name = s.name ∧ u.named = s.named ∧ u.supertype = true ∧ u.visible = false) := by
  have answers : answersTo s s.name s.named = true :=
    answersTo_iff.2 ⟨.inl visible, rfl, rfl⟩
  obtain ⟨k, u, le, at_k, answers_u, found⟩ := exists_first_answering entry answers
  obtain ⟨shown, u_named, u_name⟩ := answersTo_iff.1 answers_u
  have number := kindId_of_find? ordinary found
  obtain ⟨t, at_t, t_name, t_visible, t_named, t_supertype⟩ :=
    formed.known u (List.mem_of_getElem? at_k)
  have inside : u.publicId < g.symbolCount := (List.getElem?_eq_some_iff.1 at_t).1
  have called : g.symbolName? u.publicId = some s.name := by
    rw [symbolName?_of_getElem? at_t, t_name, u_name]
  have ending : u.publicId = 0 → s.name = endName := by
    intro zero
    obtain ⟨first, at_first, first_name, -⟩ := formed.ending
    rw [zero, at_first] at at_t
    cases at_t
    rw [← u_name, ← t_name, first_name]
  refine ⟨u.publicId, t, symbolId?_eq_some_iff.2 ⟨number, inside, ending⟩, called, at_t,
    t_named.trans u_named, ?_⟩
  cases seen : u.visible with
  | true => exact .inl (t_visible.trans seen)
  | false =>
      have supertype : u.supertype = true := by simpa [seen] using shown
      have differs : k ≠ i := by
        rintro rfl
        rw [entry] at at_k
        cases at_k
        rw [visible] at seen
        cases seen
      exact .inr ⟨t_supertype.trans supertype, k, u, by omega, at_k, u_name, u_named, supertype,
        seen⟩

/-- A table in which a hidden supertype stands in front of a node of the same name, and two
tokens are known as one. -/
def sharedName : Grammar where
  abiVersion := 15
  symbols :=
    [⟨"end", false, true, false, 0⟩, ⟨"x", false, true, true, 1⟩, ⟨"x", true, true, false, 2⟩,
      ⟨"y", true, false, false, 4⟩, ⟨"y", true, false, false, 4⟩]
  fields := []
  subtypes := []
  automaton? := none

theorem sharedName_wellFormed : sharedName.WellFormed := by
  refine ⟨⟨_, rfl, rfl, rfl⟩, ?_⟩
  intro s member
  simp only [sharedName, List.mem_cons, List.not_mem_nil, or_false] at member
  rcases member with rfl | rfl | rfl | rfl | rfl <;> exact ⟨_, rfl, rfl, rfl, rfl, rfl⟩

theorem sharedName_finds_visible :
    sharedName.WellFormed ∧ sharedName.symbols[3]? = some ⟨"y", true, false, false, 4⟩ ∧
      ∃ j t, sharedName.symbolId? "y" false = some j ∧ sharedName.symbolName? j = some "y" ∧
        sharedName.symbols[j]? = some t ∧ t.named = false ∧ t.visible = true := by
  obtain ⟨j, t, found, called, at_t, same_named, visible | ⟨-, k, u, before, at_u, u_name, -⟩⟩ :=
    symbolId?_of_visible (g := sharedName) (i := 3) (s := ⟨"y", true, false, false, 4⟩)
      sharedName_wellFormed rfl rfl (by decide)
  · exact ⟨sharedName_wellFormed, rfl, j, t, found, called, at_t, same_named, visible⟩
  · -- in front of the first token no symbol has its name
    have names : ∀ k, k < 3 → ∀ u, sharedName.symbols[k]? = some u → u.name ≠ "y" := by decide
    exact absurd u_name (names k before u at_u)

/-- The supertype in front of the visible node called `x` is found under the name of both. -/
theorem sharedName_finds_hidden :
    sharedName.symbolCount ≤ 65535 ∧ sharedName.WellFormed ∧
      sharedName.symbols[2]? = some ⟨"x", true, true, false, 2⟩ ∧
      ¬∃ j t, sharedName.symbolId? "x" true = some j ∧ sharedName.symbolName? j = some "x" ∧
        sharedName.symbols[j]? = some t ∧ t.visible = true ∧ t.named = true := by
  refine ⟨by decide, sharedName_wellFormed, rfl, ?_⟩
  rintro ⟨j, t, found, -, at_t, visible, -⟩
  have first : sharedName.symbolId? "x" true = some 1 := by decide +kernel
  rw [first] at found
  cases found
  cases at_t
  cases visible

end Grammar

end GrammarQueries
