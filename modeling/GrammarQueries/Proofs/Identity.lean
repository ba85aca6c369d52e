/-
# GrammarQueries.Proofs.Identity -- handles are equal when their descriptors come from one place

Handles are compared and hashed by the address of their descriptor, so a set of handles
has one member for each address among them (`Session.distinct_eq_card`).

What this means over a run can be said without addresses.  A descriptor was there at the
beginning, or a step of the run made it (`Provenance`); a clone has the descriptor of its
original.  A ledger keeps this from the steps alone and knows nothing of tables, sources
and files (`Ledger.after`).

A session and its ledger go together at every step (`Ledger.Describes.step`), for each new
descriptor takes an address that no other has.  So the equal handles are those whose
descriptors come from one place, and equal handles have the same tables.
-/
import Mathlib.Data.Finset.Card
import Mathlib.Logic.Function.Basic
import GrammarQueries.Proofs.Consultation

namespace GrammarQueries

set_option autoImplicit false

/-! ## Equal handles -/

namespace Handle

instance : EquivBEq Handle where
  rfl := beq_iff.2 rfl
  symm same := beq_iff.2 (beq_iff.1 same).symm
  trans same same' := beq_iff.2 ((beq_iff.1 same).trans (beq_iff.1 same'))

instance : LawfulHashable Handle where
  hash_eq a b same := by
    show hash a.address = hash b.address
    rw [beq_iff.1 same]

/-- Two handles agree where only the grammar counts: in what is said of its tables, in every
compilation, and in loading from every path among the same files. -/
structure Agree (h k : Handle) : Prop where
  abiVersion : h.grammar.abiVersion = k.grammar.abiVersion
  isCompatible : h.grammar.isCompatible = k.grammar.isCompatible
  symbolCount : h.grammar.symbolCount = k.grammar.symbolCount
  fieldCount : h.grammar.fieldCount = k.grammar.fieldCount
  symbolName? : ∀ id, h.grammar.symbolName? id = k.grammar.symbolName? id
  symbolId? : ∀ name named, h.grammar.symbolId? name named = k.grammar.symbolId? name named
  fieldName? : ∀ id, h.grammar.fieldName? id = k.grammar.fieldName? id
  fieldId? : ∀ name, h.grammar.fieldId? name = k.grammar.fieldId? name
  compile : ∀ source, h.grammar.compile source = k.grammar.compile source
  loadPath : ∀ (w w' : World) (p : Path), w.files = w'.files → h.loadPath w p = k.loadPath w' p

theorem agree_of_descriptor {h k : Handle} (same : h.descriptor = k.descriptor) : h.Agree k := by
  have tables : h.grammar = k.grammar := congrArg Descriptor.grammar same
  constructor
  case loadPath =>
    intro w w' p files
    rw [Handle.loadPath, Handle.loadPath, tables, files]
  all_goals simp only [tables, implies_true]

end Handle

/-- A list contains a handle as far as equality tells if the address of the handle is among
those of the list. -/
theorem Handle.contains_iff {hs : List Handle} {h : Handle} :
    hs.contains h = true ↔ h.address ∈ hs.map Handle.address := by
  rw [List.contains_iff_exists_mem_beq, List.mem_map]
  refine exists_congr fun k => and_congr_right fun _ => ?_
  rw [Handle.beq_iff, eq_comm]

/-- **A set of handles has one member for each address.** -/
theorem Session.distinct_eq_card (hs : List Handle) :
    distinct hs = (hs.map Handle.address).toFinset.card := by
  have apart : ((Std.HashSet.ofList hs).toList.map Handle.address).Nodup := by
    refine List.pairwise_map.2 (Std.HashSet.distinct_toList.imp fun {h k} differs same => ?_)
    rw [Handle.beq_iff.2 same] at differs
    cases differs
  have contained : ∀ h : Handle,
      h.address ∈ (Std.HashSet.ofList hs).toList.map Handle.address ↔
        h.address ∈ hs.map Handle.address := by
    intro h
    rw [← Handle.contains_iff, ← Handle.contains_iff, Std.HashSet.contains_toList,
      Std.HashSet.contains_ofList]
  have addresses : ((Std.HashSet.ofList hs).toList.map Handle.address).toFinset =
      (hs.map Handle.address).toFinset := by
    ext address
    rw [List.mem_toFinset, List.mem_toFinset]
    constructor
    · intro member
      obtain ⟨h, -, rfl⟩ := List.mem_map.1 member
      exact (contained h).1 member
    · intro member
      obtain ⟨h, -, rfl⟩ := List.mem_map.1 member
      exact (contained h).2 member
  rw [← addresses, List.toFinset_card_of_nodup apart, List.length_map, Std.HashSet.length_toList]
  rfl

/-- Where the address of a handle tells its descriptor, there is one member for each descriptor. -/
theorem Session.distinct_eq_card_descriptor {hs : List Handle}
    (told : ∀ h ∈ hs, ∀ k ∈ hs, h.address = k.address → h.descriptor = k.descriptor) :
    distinct hs = (hs.map Handle.descriptor).toFinset.card := by
  have addresses : (hs.map Handle.address).toFinset =
      (hs.map Handle.descriptor).toFinset.image Descriptor.address := by
    ext address
    simp [Handle.address]
  rw [distinct_eq_card, addresses]
  refine Finset.card_image_of_injOn fun d member e member' same => ?_
  obtain ⟨h, inside, rfl⟩ := List.mem_map.1 (List.mem_toFinset.1 member)
  obtain ⟨k, inside', rfl⟩ := List.mem_map.1 (List.mem_toFinset.1 member')
  exact told h inside k inside' same

/-! ## Where descriptors come from -/

inductive Provenance where
  /-- It is that of the grammar at this place of those that were there at the beginning. -/
  | given (place : Nat)
  /-- The step at this place of the run made it. -/
  | made (place : Nat)
  deriving DecidableEq

/-- Where the descriptors of the handles come from, by the names of the handles, the latest
of a name first. -/
abbrev Ledger := List (String × Provenance)

namespace Ledger

variable {n : Nat} (names : List (String × Fin n)) (place : Nat) (ledger : Ledger)

/-- Where the descriptor comes from that a step at a place names, if it is there. -/
def provenance? : GrammarChoice → Option Provenance
  | .named name => (names.lookup name).map fun k => .given k
  | .fresh _ => some (.made place)

def offers : SourceChoice → Bool
  | .sourceOf id => (ledger.lookup id).isSome
  | _ => true

/-- The handle that a step at a place makes, if it makes one. -/
def entry? : Step → Option (String × Provenance)
  | .makeHandle id grammar source =>
    if ledger.offers source then (provenance? names place grammar).map (id, ·) else none
  | .cloneHandle original id => (ledger.lookup original).map (id, ·)
  | _ => none

def next (step : Step) : Ledger := (ledger.entry? names place step).toList ++ ledger

/-- The ledger after steps, the first of which is at a place. -/
def after (names : List (String × Fin n)) : Nat → Ledger → List Step → Ledger
  | _, ledger, [] => ledger
  | place, ledger, step :: rest =>
    after names (place + 1) (ledger.next names place step) rest

end Ledger

/-! ## Descriptors apart -/

namespace Provenance

variable {wrapped : Provenance → Option Descriptor} {bound : Nat}

/-- `wrapped` says which descriptor comes from where: what comes from two places has two
addresses, and all are below a bound. -/
structure Apart (wrapped : Provenance → Option Descriptor) (bound : Nat) : Prop where
  eq_of_address : ∀ p q d e, wrapped p = some d → wrapped q = some e →
    d.address = e.address → p = q
  address_lt : ∀ p d, wrapped p = some d → d.address < bound

theorem update_eq_some_iff {p q : Provenance} {d e : Descriptor} :
    Function.update wrapped p (some d) q = some e ↔
      q = p ∧ e = d ∨ q ≠ p ∧ wrapped q = some e := by
  by_cases same : q = p
  · subst same
    rw [Function.update_self]
    simp [eq_comm]
  · rw [Function.update_of_ne same]
    simp [same]

/-- The address at the bound is free for a descriptor that comes from elsewhere. -/
theorem Apart.update (apart : Apart wrapped bound) (p : Provenance) (g : Grammar) :
    Apart (Function.update wrapped p (some ⟨bound, g⟩)) (bound + 1) := by
  have free (q : Provenance) (e : Descriptor) (wraps : wrapped q = some e) : e.address ≠ bound :=
    Nat.ne_of_lt (apart.address_lt q e wraps)
  constructor
  · intro q q' d e at_q at_q' same
    obtain ⟨rfl, rfl⟩ | ⟨-, at_q⟩ := update_eq_some_iff.1 at_q
    · obtain ⟨rfl, -⟩ | ⟨-, at_q'⟩ := update_eq_some_iff.1 at_q'
      · rfl
      · exact absurd same.symm (free q' e at_q')
    · obtain ⟨-, rfl⟩ | ⟨-, at_q'⟩ := update_eq_some_iff.1 at_q'
      · exact absurd same (free q d at_q)
      · exact apart.eq_of_address q q' d e at_q at_q' same
  · intro q d at_q
    obtain ⟨-, rfl⟩ | ⟨-, at_q⟩ := update_eq_some_iff.1 at_q
    · exact Nat.lt_succ_self bound
    · exact Nat.lt_succ_of_lt (apart.address_lt q d at_q)

end Provenance

/-! ## A session and its ledger -/

namespace Session

variable {s : Session}

/-- What a session has of descriptors: all of them, those with a name, and those of handles. -/
def register (s : Session) :
    List Descriptor × List (String × Descriptor) × List (String × Handle) :=
  (s.descriptors, s.named, s.handles)

theorem register_change (result : Except FileError FileSystem) :
    (s.change result).value.2.register = s.register := by
  cases result with
  | ok files => rfl
  | error e => rfl

theorem register_lookup (id : String) (answer : Handle → Lookup Answer) :
    (s.lookup id answer).value.2.register = s.register := by
  unfold Session.lookup
  cases s.handle? id with
  | none => rfl
  | some h => rfl

/-- A descriptor is chosen before a source. -/
theorem makeHandle_of_chosen {grammar : GrammarChoice} {d : Descriptor} {t : Session}
    (chosen : s.chosenDescriptor grammar = .ok (d, t)) (id : String) (source : SourceChoice) :
    s.makeHandle id grammar source =
      (t.chosenSource source).map fun (source?, u) => u.putHandle id ⟨d, source?⟩ := by
  rw [makeHandle, chosen]
  show (t.chosenSource source >>= _) = _
  cases t.chosenSource source with
  | ok pair => rfl
  | error name => rfl

theorem after_makeHandle (id : String) (grammar : GrammarChoice) (source : SourceChoice) :
    (s.step (.makeHandle id grammar source)).value.2 =
      match s.makeHandle id grammar source with
      | .ok t => t
      | .error _ => s := by
  unfold Session.step
  dsimp only
  cases s.makeHandle id grammar source with
  | ok t => rfl
  | error name => rfl

end Session

namespace Ledger

variable {n : Nat} {names : List (String × Fin n)} {place : Nat} {ledger : Ledger}
  {s t : Session} {wrapped : Provenance → Option Descriptor}

/-- A session is as its ledger has it before the step at a place, where `wrapped` says which
descriptor comes from where. -/
structure Describes (names : List (String × Fin n)) (place : Nat) (ledger : Ledger) (s : Session)
    (wrapped : Provenance → Option Descriptor) : Prop where
  apart : Provenance.Apart wrapped s.descriptors.length
  /-- No step has made a descriptor before it was taken. -/
  unmade : ∀ later, place ≤ later → wrapped (.made later) = none
  named : ∀ name, Option.Rel (fun d (k : Fin n) => wrapped (.given k) = some d)
    (s.named.lookup name) (names.lookup name)
  handles : ∀ id, Option.Rel (fun h p => wrapped p = some h.descriptor)
    (s.handle? id) (ledger.lookup id)

theorem rel_of_imp {α β : Type} {r r' : α → β → Prop} (imp : ∀ a b, r a b → r' a b)
    {a? : Option α} {b? : Option β} (related : Option.Rel r a? b?) : Option.Rel r' a? b? := by
  cases related with
  | none => exact .none
  | some holds => exact .some (imp _ _ holds)

namespace Describes

theorem exists_provenance (described : ledger.Describes names place s wrapped) {id : String}
    {h : Handle} (called : s.handle? id = some h) :
    ∃ p, ledger.lookup id = some p ∧ wrapped p = some h.descriptor := by
  have related := described.handles id
  rw [called] at related
  generalize ledger.lookup id = found at related
  cases related with
  | some wraps => exact ⟨_, rfl, wraps⟩

theorem isSome_handle? (described : ledger.Describes names place s wrapped) (id : String) :
    (s.handle? id).isSome = (ledger.lookup id).isSome := by
  have related := described.handles id
  generalize ledger.lookup id = found, s.handle? id = called at related
  cases related with
  | none => rfl
  | some => rfl

/-- Among the handles of a session the address tells the descriptor, and where it comes from
tells the address. -/
theorem address_iff (described : ledger.Describes names place s wrapped) {a b : String}
    {h k : Handle} (called : s.handle? a = some h) (called' : s.handle? b = some k) :
    (h.address = k.address ↔ h.descriptor = k.descriptor) ∧
      (h.descriptor = k.descriptor ↔ ledger.lookup a = ledger.lookup b) := by
  obtain ⟨p, at_a, wraps⟩ := described.exists_provenance called
  obtain ⟨q, at_b, wraps'⟩ := described.exists_provenance called'
  have of_address (same : h.address = k.address) : p = q :=
    described.apart.eq_of_address p q _ _ wraps wraps' same
  have of_provenance (same : p = q) : h.descriptor = k.descriptor := by
    rw [same, wraps'] at wraps
    exact (Option.some.inj wraps).symm
  have of_descriptor : h.descriptor = k.descriptor → h.address = k.address :=
    congrArg Descriptor.address
  rw [at_a, at_b, Option.some.injEq]
  exact ⟨⟨fun same => of_provenance (of_address same), of_descriptor⟩,
    fun same => of_address (of_descriptor same), of_provenance⟩

/-! ## What a step keeps -/

/-- A step that does nothing to descriptors and handles makes no difference to the ledger. -/
theorem of_register (described : ledger.Describes names place s wrapped)
    (same : t.register = s.register) : ledger.Describes names place t wrapped := by
  obtain ⟨world, descriptors, named, sources, handles⟩ := t
  cases same
  exact ⟨described.apart, described.unmade, described.named, described.handles⟩

theorem passes (described : ledger.Describes names place s wrapped) :
    ledger.Describes names (place + 1) s wrapped :=
  { described with unmade := fun later le => described.unmade later (Nat.le_of_succ_le le) }

/-- A handle is made on a descriptor that is there. -/
theorem putHandle (described : ledger.Describes names place s wrapped) {p : Provenance}
    {h : Handle} (wraps : wrapped p = some h.descriptor) (id : String) :
    Describes names place ((id, p) :: ledger) (s.putHandle id h) wrapped where
  apart := described.apart
  unmade := described.unmade
  named := described.named
  handles name := by
    have made : (s.putHandle id h).handles = (id, h) :: s.handles := rfl
    rw [Session.handle?_of_made made, List.lookup_cons]
    by_cases same : name = id
    · rw [if_pos same, beq_iff_eq.2 same]
      exact .some wraps
    · rw [if_neg same, beq_eq_false_iff_ne.2 same]
      exact described.handles name

/-- The step at this place makes a descriptor. -/
theorem newDescriptor (described : ledger.Describes names place s wrapped) (g : Grammar) :
    ledger.Describes names (place + 1) (s.newDescriptor g).2
      (Function.update wrapped (.made place) (some (s.newDescriptor g).1)) := by
  -- nothing came from this step before, so all that is there is left as it is
  have kept (p : Provenance) (d : Descriptor) (wraps : wrapped p = some d) :
      Function.update wrapped (.made place) (some (s.newDescriptor g).1) p = some d := by
    refine Provenance.update_eq_some_iff.2 (.inr ⟨?_, wraps⟩)
    rintro rfl
    cases (described.unmade place (Nat.le_refl place)).symm.trans wraps
  constructor
  case apart =>
    have length : (s.newDescriptor g).2.descriptors.length = s.descriptors.length + 1 :=
      List.length_append
    rw [length]
    exact described.apart.update (.made place) g
  case unmade =>
    intro later le
    rw [Function.update_of_ne, described.unmade later (Nat.le_of_succ_le le)]
    rintro same
    cases same
    exact Nat.not_succ_le_self place le
  case named => exact fun name => rel_of_imp (fun d k => kept _ d) (described.named name)
  case handles => exact fun id => rel_of_imp (fun h p => kept p _) (described.handles id)

/-- A descriptor is chosen where the ledger says that one is there, and it comes from where
the ledger says. -/
theorem chosenDescriptor (described : ledger.Describes names place s wrapped)
    (choice : GrammarChoice) :
    (∃ name, s.chosenDescriptor choice = .error name ∧ provenance? names place choice = none) ∨
      ∃ d t p wrapped', s.chosenDescriptor choice = .ok (d, t) ∧
        provenance? names place choice = some p ∧ wrapped' p = some d ∧
        ledger.Describes names (place + 1) t wrapped' := by
  cases choice with
  | fresh g =>
      exact .inr ⟨_, _, _, _, rfl, rfl, Function.update_self .., described.newDescriptor g⟩
  | named name =>
      have related := described.named name
      unfold Session.chosenDescriptor provenance?
      dsimp only
      generalize s.named.lookup name = d?, names.lookup name = k? at related
      cases related with
      | none => exact .inl ⟨name, rfl, rfl⟩
      | some wraps => exact .inr ⟨_, s, _, wrapped, rfl, rfl, wraps, described.passes⟩

/-- A source is chosen where the ledger says that one is there. -/
theorem chosenSource (described : ledger.Describes names place s wrapped)
    (choice : SourceChoice) :
    (∃ id, s.chosenSource choice = .error id ∧ ledger.offers choice = false) ∨
      ∃ id? t, s.chosenSource choice = .ok (id?, t) ∧ ledger.offers choice = true ∧
        ledger.Describes names place t wrapped := by
  cases choice with
  | none => exact .inr ⟨_, s, rfl, rfl, described⟩
  | directory | bundle | sequence =>
      exact .inr ⟨_, _, rfl, rfl, described.of_register rfl⟩
  | sourceOf id =>
      have there := described.isSome_handle? id
      unfold Session.chosenSource offers
      dsimp only
      cases called : s.handle? id with
      | none =>
          rw [called] at there
          exact .inl ⟨id, rfl, there.symm⟩
      | some h =>
          rw [called] at there
          exact .inr ⟨h.source?, s, rfl, there.symm, described⟩

/-- A handle is made where the ledger has an entry for it. -/
theorem makeHandle (described : ledger.Describes names place s wrapped) (id : String)
    (grammar : GrammarChoice) (source : SourceChoice) :
    ∃ wrapped', (ledger.next names place (.makeHandle id grammar source)).Describes names
      (place + 1) (s.step (.makeHandle id grammar source)).value.2 wrapped' := by
  rw [Session.after_makeHandle, next, entry?]
  obtain ⟨name, chosen, unknown⟩ | ⟨d, s', p, wrapped', chosen, known, wraps, described'⟩ :=
    described.chosenDescriptor grammar
  · have refused : s.makeHandle id grammar source = .error name := by
      rw [Session.makeHandle, chosen]
      rfl
    rw [refused, unknown]
    refine ⟨wrapped, ?_⟩
    split <;> exact described.passes
  · rw [Session.makeHandle_of_chosen chosen, known]
    obtain ⟨missing, chosen', absent⟩ | ⟨id?, s'', chosen', there, described''⟩ :=
      described'.chosenSource source
    · -- without a source the step is refused as a whole, its new descriptor included
      rw [chosen', absent]
      exact ⟨wrapped, described.passes⟩
    · rw [chosen', there]
      exact ⟨wrapped', described''.putHandle (h := ⟨d, id?⟩) wraps id⟩

theorem cloneHandle (described : ledger.Describes names place s wrapped) (original id : String) :
    (ledger.next names place (.cloneHandle original id)).Describes names (place + 1)
      (s.step (.cloneHandle original id)).value.2 wrapped := by
  have related := described.handles original
  unfold next entry? Session.step
  dsimp only
  generalize s.handle? original = h?, ledger.lookup original = p? at related
  cases related with
  | none => exact described.passes
  | some wraps => exact described.passes.putHandle wraps id

/-- **A session goes with its ledger at every step.** -/
theorem step (described : ledger.Describes names place s wrapped) (step : Step) :
    ∃ wrapped', (ledger.next names place step).Describes names (place + 1)
      (s.step step).value.2 wrapped' := by
  cases step with
  | makeHandle id grammar source => exact described.makeHandle id grammar source
  | cloneHandle original id => exact ⟨wrapped, described.cloneHandle original id⟩
  | makeDirectory | writeFile | makeLink | makeSocket | remove | rename =>
      exact ⟨wrapped, described.passes.of_register (Session.register_change _)⟩
  | sameHandle | showHandle | hasSource | loadPath =>
      exact ⟨wrapped, described.passes.of_register
        (congrArg Session.register (Session.value_tellOf s _ _))⟩
  | resourceDirectory | resource | queryFile | loadQuery | loadQueries =>
      exact ⟨wrapped, described.passes.of_register (Session.register_lookup _ _)⟩
  | distinctHandles ids =>
      unfold Session.step
      dsimp only
      split <;> exact ⟨wrapped, described.passes⟩
  | _ => exact ⟨wrapped, described.passes.of_register rfl⟩

/-- **A session goes with its ledger throughout a run.** -/
theorem run (described : ledger.Describes names place s wrapped) (steps : List Step) :
    ∃ wrapped', (after names place ledger steps).Describes names (place + steps.length)
      (s.run steps).2 wrapped' := by
  induction steps generalizing s ledger place wrapped with
  | nil => exact ⟨wrapped, described⟩
  | cons step rest ih =>
      obtain ⟨wrapped', described'⟩ := described.step step
      have later := ih described'
      rwa [Nat.add_right_comm] at later

end Describes

end Ledger

/-! ## Runs from the beginning -/

namespace Session

theorem lookup_map_snd {α β : Type} (f : α → β) (name : String) (entries : List (String × α)) :
    (entries.map fun (own, a) => (own, f a)).lookup name = (entries.lookup name).map f := by
  induction entries with
  | nil => rfl
  | cons entry rest ih =>
      obtain ⟨own, a⟩ := entry
      rw [List.map_cons, List.lookup_cons, List.lookup_cons, ih]
      cases name == own with
      | true => rfl
      | false => rfl

/-- A session at its beginning: each of some grammars has a descriptor, and there are names
for descriptors. -/
def opened (w : World) (grammars : List Grammar) (names : List (String × Fin grammars.length)) :
    Session :=
  { start w with
    descriptors := grammars.mapIdx Descriptor.mk
    named := names.map fun (name, k) => (name, ⟨k, grammars[k]⟩) }

section Opened

variable (w : World) (grammars : List Grammar) (names : List (String × Fin grammars.length))

theorem named_opened (name : String) :
    (opened w grammars names).named.lookup name =
      (names.lookup name).map fun k => ⟨k, grammars[k]⟩ :=
  lookup_map_snd (fun k : Fin grammars.length => Descriptor.mk k grammars[k]) name names

/-- A session without descriptors is at its beginning. -/
theorem opened_nil : opened w [] [] = start w := rfl

/-- A session at its beginning can have one more descriptor. -/
theorem exists_opened_declare (name : String) (g : Grammar) :
    ∃ names', (opened w grammars names).declare name g = opened w (grammars ++ [g]) names' := by
  have longer : grammars.length < (grammars ++ [g]).length := by simp
  refine ⟨(name, ⟨grammars.length, longer⟩) ::
    names.map (Prod.map id (Fin.castLE (Nat.le_of_lt longer))), ?_⟩
  simp [opened, declare, newDescriptor, Session.name, Function.comp_def]

/-- A session at its beginning can have one more name for a descriptor. -/
theorem exists_opened_name (name : String) {other : String} {d : Descriptor}
    (called : (opened w grammars names).named.lookup other = some d) :
    ∃ names', (opened w grammars names).name name d = opened w grammars names' := by
  rw [named_opened] at called
  obtain ⟨k, -, rfl⟩ := Option.map_eq_some_iff.1 called
  exact ⟨(name, k) :: names, rfl⟩

/-- Which descriptor comes from where before any step is taken. -/
def givenDescriptor? : Provenance → Option Descriptor
  | .given place => (grammars.mapIdx Descriptor.mk)[place]?
  | .made _ => none

variable {grammars} in
theorem givenDescriptor?_eq_some_iff {p : Provenance} {d : Descriptor} :
    givenDescriptor? grammars p = some d ↔
      p = .given d.address ∧ grammars[d.address]? = some d.grammar := by
  obtain ⟨address, grammar⟩ := d
  cases p with
  | made => simp [givenDescriptor?]
  | given place =>
      simp only [givenDescriptor?, List.getElem?_mapIdx, Option.map_eq_some_iff,
        Descriptor.mk.injEq, Provenance.given.injEq]
      constructor
      · rintro ⟨g, entry, rfl, rfl⟩
        exact ⟨rfl, entry⟩
      · rintro ⟨rfl, entry⟩
        exact ⟨grammar, entry, rfl, rfl⟩

theorem describes_opened :
    Ledger.Describes names 0 [] (opened w grammars names) (givenDescriptor? grammars) where
  apart := by
    constructor
    · intro p q d e at_p at_q same
      rw [(givenDescriptor?_eq_some_iff.1 at_p).1, (givenDescriptor?_eq_some_iff.1 at_q).1, same]
    · intro p d at_p
      obtain ⟨inside, -⟩ := List.getElem?_eq_some_iff.1 (givenDescriptor?_eq_some_iff.1 at_p).2
      rwa [opened, List.length_mapIdx]
  unmade _ _ := rfl
  named name := by
    rw [named_opened]
    cases names.lookup name with
    | none => exact .none
    | some k =>
        exact .some (givenDescriptor?_eq_some_iff.2 ⟨rfl, List.getElem?_eq_getElem k.isLt⟩)
  handles _ := .none

end Opened

/-- **Handles are equal exactly when they have one descriptor.**  In every run from the
beginning there are the handles that the ledger names, and two of them are equal if and only
if they have the same descriptor, which is so if and only if their descriptors come from one
place; neither their sources nor what the tables hold count.  Equal handles have equal hashes
and agree wherever only the grammar counts, so a set made of any handles there are has as
many members as there are descriptors among them. -/
theorem handles_told_apart_by_descriptor (w : World) (grammars : List Grammar)
    (names : List (String × Fin grammars.length)) (steps : List Step) :
    let last := ((opened w grammars names).run steps).2
    let ledger := Ledger.after names 0 [] steps
    (∀ a, (last.handle? a).isSome = (ledger.lookup a).isSome) ∧
    (∀ a b h k, last.handle? a = some h → last.handle? b = some k →
      ((h == k) = true ↔ h.descriptor = k.descriptor) ∧
      (h.descriptor = k.descriptor ↔ ledger.lookup a = ledger.lookup b) ∧
      ((h == k) = true → hash h = hash k ∧ h.Agree k)) ∧
    ∀ hs : List Handle, (∀ h ∈ hs, ∃ id, last.handle? id = some h) →
      distinct hs = (hs.map Handle.descriptor).toFinset.card := by
  intro last ledger
  obtain ⟨_, described⟩ := (describes_opened w grammars names).run steps
  refine ⟨described.isSome_handle?, fun a b h k called called' => ?_, fun hs live => ?_⟩
  · obtain ⟨of_address, of_provenance⟩ := described.address_iff called called'
    refine ⟨Handle.beq_iff.trans of_address, of_provenance, fun same => ⟨hash_eq same, ?_⟩⟩
    exact Handle.agree_of_descriptor (of_address.1 (Handle.beq_iff.1 same))
  · refine distinct_eq_card_descriptor fun h member k member' same => ?_
    obtain ⟨a, called⟩ := live h member
    obtain ⟨b, called'⟩ := live k member'
    exact (described.address_iff called called').1.1 same

def keyOnly : Grammar := ⟨14, [], ["key"], [], none⟩

/-- Names for two descriptors, of which the first has two. -/
def twinNames : List (String × Fin 2) := [("one", 0), ("same", 0), ("two", 1)]

/-- A session at its beginning, in which two descriptors have the same tables. -/
def twins : Session := opened ⟨⟨[], [], .error .notFound⟩, none⟩ [keyOnly, keyOnly] twinNames

/-- Handles are made on the descriptors of the beginning and on new ones of the same tables;
one of them is cloned and one replaced. -/
def twinSteps : List Step :=
  [.makeHandle "a" (.named "one") .none, .makeHandle "b" (.named "same") (.directory ⟨[0x72]⟩),
    .makeHandle "c" (.named "two") (.sourceOf "b"), .makeHandle "d" (.fresh keyOnly) .none,
    .setVariable (some ⟨[0x72]⟩), .cloneHandle "d" "e", .loadQueries "b",
    .makeHandle "a" (.fresh keyOnly) (.sourceOf "b")]

theorem twins_told_apart :
    ∃ a b c d e, (twins.run twinSteps).2.handle? "a" = some a ∧
      (twins.run twinSteps).2.handle? "b" = some b ∧
      (twins.run twinSteps).2.handle? "c" = some c ∧
      (twins.run twinSteps).2.handle? "d" = some d ∧
      (twins.run twinSteps).2.handle? "e" = some e ∧
      (d == e) = true ∧ hash d = hash e ∧ d.Agree e ∧ ¬(b == c) = true ∧ b.grammar = c.grammar ∧
      distinct [e, a, d, b, c, d] = 4 := by
  obtain ⟨-, told, sets⟩ :=
    handles_told_apart_by_descriptor _ [keyOnly, keyOnly] twinNames twinSteps
  have at_a : (twins.run twinSteps).2.handle? "a" = some ⟨⟨3, keyOnly⟩, some 0⟩ := rfl
  have at_b : (twins.run twinSteps).2.handle? "b" = some ⟨⟨0, keyOnly⟩, some 0⟩ := rfl
  have at_c : (twins.run twinSteps).2.handle? "c" = some ⟨⟨1, keyOnly⟩, some 0⟩ := rfl
  have at_d : (twins.run twinSteps).2.handle? "d" = some ⟨⟨2, keyOnly⟩, none⟩ := rfl
  have at_e : (twins.run twinSteps).2.handle? "e" = some ⟨⟨2, keyOnly⟩, none⟩ := rfl
  obtain ⟨same, cloned, alike⟩ := told "d" "e" _ _ at_d at_e
  obtain ⟨other, entries, -⟩ := told "b" "c" _ _ at_b at_c
  have equal := (same.trans cloned).2 rfl
  have differ : (Ledger.after twinNames 0 [] twinSteps).lookup "b" ≠
      (Ledger.after twinNames 0 [] twinSteps).lookup "c" := by decide
  refine ⟨_, _, _, _, _, at_a, at_b, at_c, at_d, at_e, equal, (alike equal).1, (alike equal).2,
    fun same => differ ((other.trans entries).1 same), rfl, (sets _ ?_).trans (by decide)⟩
  intro h member
  simp only [List.mem_cons, List.not_mem_nil, or_false] at member
  rcases member with rfl | rfl | rfl | rfl | rfl | rfl
  exacts [⟨_, at_e⟩, ⟨_, at_a⟩, ⟨_, at_d⟩, ⟨_, at_b⟩, ⟨_, at_c⟩, ⟨_, at_d⟩]

end Session

end GrammarQueries
