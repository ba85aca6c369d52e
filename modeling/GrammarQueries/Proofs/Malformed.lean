/-
# GrammarQueries.Proofs.Malformed -- where bytes stop being text, and by how much

What a decoding fault says is measured against the encoding of the standard library
(`IsText`, `BeginsCharacter`), which the one that texts are written in equals
(`encodeChar_eq`).

Decoding stops at bytes of one of two sorts (`Stops`): they end inside a character,
or they begin one, or nothing, and go on with a byte that no such character has.  In front
of them is a text.  No character's bytes begin another's, so neither sort of bytes
begins with a character, and the text in front is the longest one
(`describes_of_decode`).
-/
import Mathlib.Data.List.Basic
import GrammarQueries.Proofs.Loading

namespace GrammarQueries

set_option autoImplicit false

namespace Utf8

/-! ## Text, and characters begun -/

/-- Bytes that are the encoding of a sequence of characters. -/
def IsText (bytes : List UInt8) : Prop :=
  ∃ cs : List Char, bytes = cs.flatMap String.utf8EncodeChar

/-- Bytes that a character begins with and does not end with.  There can be none. -/
def BeginsCharacter (part : List UInt8) : Prop :=
  ∃ c : Char, part <+: String.utf8EncodeChar c ∧ part ≠ String.utf8EncodeChar c

/-- The first `n` of these bytes have a property, and no more of them do. -/
structure Longest (P : List UInt8 → Prop) (bytes : List UInt8) (n : Nat) : Prop where
  inside : n ≤ bytes.length
  holds : P (bytes.take n)
  longest : ∀ k, k ≤ bytes.length → P (bytes.take k) → k ≤ n

/-- A fault is where the longest text at the beginning of the bytes ends.  It has no length
if all bytes from there on begin a character; else it covers as many of them as begin one,
and at least one. -/
structure Malformed.Describes (m : Malformed) (bytes : List UInt8) : Prop where
  text : Longest IsText bytes m.validUpTo
  cut : m.errorLen = none ↔ BeginsCharacter (bytes.drop m.validUpTo)
  length : ∀ n, m.errorLen = some n →
    ∃ k, Longest BeginsCharacter (bytes.drop m.validUpTo) k ∧ n = max 1 k ∧ n ≤ 3

/-! ## The encoding -/

/-- A character is written as the standard library writes it. -/
theorem encodeChar_eq (c : Char) : encodeChar c = String.utf8EncodeChar c := by
  have bound := toNat_cases c
  have value : c.val.toNat = c.toNat := rfl
  unfold encodeChar String.utf8EncodeChar tailByte
  simp only [value]
  have two : c.toNat < 0x800 → c.toNat / 64 % 32 + 192 = 0xC0 + c.toNat / 0x40 := by omega
  have three : c.toNat < 0x10000 → c.toNat / 4096 % 16 + 224 = 0xE0 + c.toNat / 0x1000 := by
    omega
  have four : c.toNat / 262144 % 8 + 240 = 0xF0 + c.toNat / 0x40000 := by omega
  have tail (n : Nat) : n % 64 + 128 = 0x80 + n % 0x40 := by omega
  by_cases one_byte : c.toNat < 0x80
  · rw [if_pos one_byte, if_pos (by omega)]
  by_cases two_bytes : c.toNat < 0x800
  · rw [if_neg one_byte, if_pos two_bytes, if_neg (by omega), if_pos (by omega), two two_bytes,
      tail]
  by_cases three_bytes : c.toNat < 0x10000
  · rw [if_neg one_byte, if_neg two_bytes, if_pos three_bytes, if_neg (by omega), if_neg (by omega),
      if_pos (by omega), three three_bytes, tail, tail]
  · rw [if_neg one_byte, if_neg two_bytes, if_neg three_bytes, if_neg (by omega), if_neg (by omega),
      if_neg (by omega), four, tail, tail, tail]

theorem encode_eq (cs : List Char) : encode cs = cs.flatMap String.utf8EncodeChar := by
  have same : encodeChar = String.utf8EncodeChar := funext encodeChar_eq
  rw [encode, same]

theorem isText_iff {bytes : List UInt8} : IsText bytes ↔ ∃ cs, bytes = encode cs := by
  simp only [IsText, encode_eq]

theorem beginsCharacter_iff {part : List UInt8} :
    BeginsCharacter part ↔ ∃ c b bytes, encodeChar c = part ++ b :: bytes := by
  constructor
  · rintro ⟨c, ⟨bytes, whole⟩, proper⟩
    rw [← encodeChar_eq] at whole proper
    cases bytes with
    | nil =>
        rw [List.append_nil] at whole
        exact absurd whole proper
    | cons b bytes => exact ⟨c, b, bytes, whole.symm⟩
  · rintro ⟨c, b, bytes, whole⟩
    refine ⟨c, ⟨b :: bytes, ?_⟩, ?_⟩
    · rw [← encodeChar_eq, whole]
    · rw [← encodeChar_eq, whole]
      exact fun same => absurd (congrArg List.length same) (by simp)

theorem charLength_le (c : Char) : charLength c ≤ 4 := by
  unfold charLength
  dsimp only
  repeat' split
  all_goals omega

theorem BeginsCharacter.length_le {part : List UInt8} (begins : BeginsCharacter part) :
    part.length ≤ 3 := by
  obtain ⟨c, b, bytes, whole⟩ := beginsCharacter_iff.1 begins
  have length := length_encodeChar c
  have most := charLength_le c
  rw [whole, List.length_append, List.length_cons] at length
  omega

/-- What begins a character does so too when bytes are taken off its end. -/
theorem BeginsCharacter.of_append {part more : List UInt8}
    (begins : BeginsCharacter (part ++ more)) : BeginsCharacter part := by
  obtain ⟨c, b, bytes, whole⟩ := beginsCharacter_iff.1 begins
  rw [beginsCharacter_iff]
  cases more with
  | nil => exact ⟨c, b, bytes, by rw [whole, List.append_nil]⟩
  | cons x more => exact ⟨c, x, more ++ b :: bytes, by rw [whole, List.append_assoc]; rfl⟩

/-! ## Texts off the front of texts -/

theorem exists_of_encode_eq {cs : List Char} {c : Char} {bytes : List UInt8}
    (same : encode cs = encodeChar c ++ bytes) : ∃ ds, cs = c :: ds ∧ bytes = encode ds := by
  have decodes := decodeFrom_encodeChar c 0 bytes
  rw [← same, decodeFrom_encode] at decodes
  obtain ⟨ds, decoded, eq⟩ := exists_of_map_eq_ok decodes.symm
  exact ⟨ds, eq.symm, ((encode_of_decodeFrom decoded).1 rfl).symm⟩

/-- Where a text begins with a text, it goes on with one. -/
theorem exists_of_encode_eq_append {cs ds : List Char} {bytes : List UInt8}
    (same : encode ds = encode cs ++ bytes) : ∃ later, bytes = encode later := by
  induction cs generalizing ds with
  | nil => exact ⟨ds, same.symm⟩
  | cons c cs ih =>
      rw [encode_cons, List.append_assoc] at same
      obtain ⟨later, -, rest⟩ := exists_of_encode_eq same
      exact ih rest.symm

/-- No character's bytes begin another's. -/
theorem not_beginsCharacter_encodeChar (c : Char) (bytes : List UInt8) :
    ¬BeginsCharacter (encodeChar c ++ bytes) := by
  intro begins
  obtain ⟨d, b, more, whole⟩ := beginsCharacter_iff.1 begins.of_append
  have single : encode [d] = encodeChar c ++ b :: more := by
    rw [encode_cons, encode_nil, List.append_nil, whole]
  obtain ⟨ds, eq, rest⟩ := exists_of_encode_eq single
  rw [List.cons.injEq] at eq
  rw [← eq.2] at rest
  cases rest

/-! ## Where decoding stops -/

/-- Every range that is still to come has a byte in it. -/
def Begun.Fits (p : Begun) : Prop := ∀ r ∈ p.next :: p.later, r.contains r.low = true

theorem exists_completes (value : Nat) (ranges : List ByteRange)
    (fits : ∀ r ∈ ranges, r.contains r.low = true) : ∃ bytes c, Completes value ranges bytes c := by
  induction ranges generalizing value with
  | nil => exact ⟨[], _, rfl⟩
  | cons r ranges ih =>
      obtain ⟨bytes, c, completes⟩ := ih (value * 0x40 + (r.low.toNat - 0x80))
        fun r' member => fits r' (List.mem_cons_of_mem r member)
      exact ⟨r.low :: bytes, c, fits r List.mem_cons_self, completes⟩

theorem fits_of_lead {b : UInt8} {p : Begun} (h : lead b = .more p) : p.Fits := by
  unfold lead at h
  simp only at h
  repeat' split at h
  all_goals first
    | (rw [Move.more.injEq] at h; subst h; unfold Begun.Fits; dsimp only; decide)
    | cases h

theorem Begun.Fits.of_feed {p q : Begun} {b : UInt8} (fits : p.Fits) (h : p.feed b = .more q) :
    q.Fits := by
  unfold feed at h
  split at h
  · simp only at h
    split at h
    · cases h
    · next next later ranges =>
        rw [Move.more.injEq] at h
        subst h
        intro r member
        exact fits r (List.mem_cons_of_mem _ (by rwa [ranges]))
  · cases h

theorem Begun.Reads.beginsCharacter {p : Begun} {read : List UInt8} (reads : p.Reads read)
    (fits : p.Fits) : BeginsCharacter read := by
  obtain ⟨bytes, c, completes⟩ := exists_completes p.value (p.next :: p.later) fits
  have whole := (reads.completes c bytes).2 completes
  cases bytes with
  | nil => exact completes.elim
  | cons b bytes => exact beginsCharacter_iff.2 ⟨c, b, bytes, whole⟩

theorem eq_error_of_map_eq_error {ε α β : Type} {f : α → β} {x : Except ε α} {e : ε}
    (h : f <$> x = .error e) : x = .error e := by
  cases x with
  | error e' =>
      cases h
      rfl
  | ok a => cases h

/-- The bytes at which decoding stops, and the length of the fault. -/
inductive Stops : List UInt8 → Option Nat → Prop where
  /-- The bytes end inside a character. -/
  | cut {part : List UInt8} (some_read : part ≠ []) (begins : BeginsCharacter part) :
      Stops part none
  /-- The bytes go on with a byte that no character has that begins like this. -/
  | refused {part : List UInt8} (b : UInt8) (later : List UInt8) (begins : BeginsCharacter part)
      (refused : ∀ c bytes, encodeChar c ≠ part ++ b :: bytes) :
      Stops (part ++ b :: later) (some (max 1 part.length))

/-- The bytes `read` are those of the character that is begun, and none if none is. -/
def HasRead : Option Begun → List UInt8 → Prop
  | none, read => read = []
  | some p, read => read ≠ [] ∧ p.Reads read ∧ p.Fits

/-- **Decoding stops behind a text.**  What is decoded so far is counted in front of it. -/
theorem stops_of_decodeFrom {begun : Option Begun} {upTo : Nat} {bytes read : List UInt8}
    {m : Malformed} (fails : decodeFrom begun upTo bytes = .error m)
    (has_read : HasRead begun read) :
    ∃ cs rest, read ++ bytes = encode cs ++ rest ∧ m.validUpTo = upTo + (encode cs).length ∧
      Stops rest m.errorLen := by
  fun_induction decodeFrom begun upTo bytes generalizing read with
  | case1 => cases fails
  | case2 p upTo =>
      cases fails
      obtain ⟨some_read, reads, fits⟩ := has_read
      exact ⟨[], read, List.append_nil read, rfl, .cut some_read (reads.beginsCharacter fits)⟩
  | case3 upTo b bytes c done ih =>
      cases has_read
      obtain ⟨cs, rest, eq, valid, stops⟩ := ih (eq_error_of_map_eq_error fails) rfl
      have whole : encodeChar c = [b] := (encodeChar_of_lead_done done c []).2 ⟨rfl, rfl⟩
      refine ⟨c :: cs, rest, ?_, ?_, stops⟩
      · rw [encode_cons, whole, List.append_assoc, ← eq]
        rfl
      · rw [valid, encode_cons, whole, List.length_append, List.length_singleton]
        omega
  | case4 upTo b bytes p more ih =>
      cases has_read
      have has_read : HasRead (some p) [b] :=
        ⟨List.cons_ne_nil b [], reads_of_lead more, fits_of_lead more⟩
      exact ih fails has_read
  | case5 upTo b bytes refuse =>
      cases has_read
      cases fails
      have nothing : BeginsCharacter [] := ⟨'a', List.nil_prefix, by decide⟩
      refine ⟨[], b :: bytes, rfl, rfl, ?_⟩
      exact .refused b bytes nothing (encodeChar_ne_of_lead_refuse refuse)
  | case6 p upTo b bytes c done ih =>
      obtain ⟨-, reads, -⟩ := has_read
      obtain ⟨cs, rest, eq, valid, stops⟩ := ih (eq_error_of_map_eq_error fails) rfl
      have whole : encodeChar c = read ++ [b] := (reads.of_feed_done done c []).2 ⟨rfl, rfl⟩
      refine ⟨c :: cs, rest, ?_, ?_, stops⟩
      · rw [encode_cons, whole, List.append_assoc, ← eq, List.append_assoc]
        rfl
      · rw [valid, encode_cons, whole, List.length_append, List.length_append, reads.taken,
          List.length_singleton]
        omega
  | case7 p upTo b bytes q more ih =>
      -- the byte moves from what is to come to what is read of the same character
      obtain ⟨-, reads, fits⟩ := has_read
      obtain ⟨cs, rest, eq, valid, stops⟩ :=
        ih fails ⟨by simp, reads.of_feed more, fits.of_feed more⟩
      refine ⟨cs, rest, ?_, valid, stops⟩
      rw [← eq, List.append_assoc]
      rfl
  | case8 p upTo b bytes refuse =>
      cases fails
      obtain ⟨some_read, reads, fits⟩ := has_read
      -- the fault covers what was read of the character, which is at least its lead byte
      refine ⟨[], read ++ b :: bytes, rfl, rfl, ?_⟩
      have length : max 1 read.length = p.taken := by
        have positive := List.length_pos_iff.2 some_read
        have taken := reads.taken
        omega
      rw [← length]
      exact .refused b bytes (reads.beginsCharacter fits) (reads.ne_of_feed_refuse refuse)

namespace Stops

variable {rest : List UInt8} {errorLen : Option Nat}

/-- No character is read where decoding stops. -/
theorem ne_encodeChar_append (stops : Stops rest errorLen) (c : Char) (bytes : List UInt8) :
    rest ≠ encodeChar c ++ bytes := by
  intro same
  cases stops with
  | cut some_read begins =>
      rw [same] at begins
      exact not_beginsCharacter_encodeChar c bytes begins
  | @refused part b later begins refused =>
      rcases List.append_eq_append_iff.1 same with ⟨more, eq, rest_eq⟩ | ⟨more, eq, rest_eq⟩
      · cases more with
        | nil =>
            rw [List.append_nil] at eq
            have none_more := not_beginsCharacter_encodeChar c []
            rw [List.append_nil, eq] at none_more
            exact none_more begins
        | cons x more =>
            rw [List.cons_append, List.cons.injEq] at rest_eq
            rw [← rest_eq.1] at eq
            exact refused c more eq
      · rw [eq] at begins
        exact not_beginsCharacter_encodeChar c more begins

/-- A text that goes on where decoding stops goes on with nothing. -/
theorem eq_nil_of_isText (stops : Stops rest errorLen) {n : Nat} (text : IsText (rest.take n)) :
    rest.take n = [] := by
  obtain ⟨cs, eq⟩ := isText_iff.1 text
  cases cs with
  | nil => exact eq
  | cons c cs =>
      have whole := List.take_append_drop n rest
      rw [eq, encode_cons, List.append_assoc] at whole
      exact absurd whole.symm (stops.ne_encodeChar_append c _)

end Stops

section Refused

variable {part : List UInt8} {b : UInt8}

theorem not_beginsCharacter_of_refused (refused : ∀ c bytes, encodeChar c ≠ part ++ b :: bytes)
    (later : List UInt8) : ¬BeginsCharacter (part ++ b :: later) := by
  intro begins
  obtain ⟨c, x, bytes, whole⟩ := beginsCharacter_iff.1 begins
  rw [List.append_assoc, List.cons_append] at whole
  exact refused c _ whole

/-- What a refused byte stands behind is the longest part that begins a character. -/
theorem longest_of_refused (begins : BeginsCharacter part)
    (refused : ∀ c bytes, encodeChar c ≠ part ++ b :: bytes) (later : List UInt8) :
    Longest BeginsCharacter (part ++ b :: later) part.length := by
  refine ⟨by simp, by rwa [List.take_left], fun k _ begins_more => ?_⟩
  refine Nat.le_of_not_lt fun beyond => ?_
  obtain ⟨more, length⟩ := Nat.exists_eq_add_of_lt beyond
  have longer : (part ++ b :: later).take k = part ++ b :: later.take more := by
    rw [length, Nat.add_assoc, List.take_length_add_append, List.take_succ_cons]
  rw [longer] at begins_more
  exact not_beginsCharacter_of_refused refused _ begins_more

end Refused

/-- **What a decoding fault says is so.** -/
theorem describes_of_decode {bytes : List UInt8} {m : Malformed} (fails : decode bytes = .error m) :
    m.Describes bytes := by
  have nothing_read : HasRead none [] := rfl
  obtain ⟨cs, rest, whole, valid, stops⟩ := stops_of_decodeFrom fails nothing_read
  rw [List.nil_append] at whole
  rw [Nat.zero_add] at valid
  have front : bytes.take m.validUpTo = encode cs := by rw [whole, valid, List.take_left]
  have back : bytes.drop m.validUpTo = rest := by rw [whole, valid, List.drop_left]
  have inside : m.validUpTo ≤ bytes.length := by
    rw [whole, valid, List.length_append]
    omega
  refine ⟨⟨inside, isText_iff.2 ⟨cs, front⟩, fun k most text => ?_⟩, ?_, ?_⟩
  · refine Nat.le_of_not_lt fun beyond => ?_
    obtain ⟨more, length⟩ := Nat.exists_eq_add_of_lt beyond
    obtain ⟨ds, eq⟩ := isText_iff.1 text
    rw [length, valid, whole, Nat.add_assoc, List.take_length_add_append] at eq
    have nothing := stops.eq_nil_of_isText (isText_iff.2 (exists_of_encode_eq_append eq.symm))
    have short := congrArg List.length nothing
    rw [whole, List.length_append] at most
    rw [List.length_take, List.length_nil] at short
    omega
  · rw [back]
    generalize m.errorLen = errorLen at stops
    cases stops with
    | cut some_read begins => exact iff_of_true rfl begins
    | refused b later begins refused =>
        exact iff_of_false nofun (not_beginsCharacter_of_refused refused later)
  · intro n covers
    rw [back]
    generalize m.errorLen = errorLen at stops covers
    cases stops with
    | cut => cases covers
    | @refused part b later begins refused =>
        cases covers
        refine ⟨part.length, longest_of_refused begins refused later, rfl, ?_⟩
        have most := begins.length_le
        omega

/-- A surrogate is refused at its second byte. -/
example : decode [0xED, 0xA0, 0x80] = .error ⟨0, some 1⟩ := by rfl

end Utf8

namespace Handle

theorem events_loadQuery_of_found {h : Handle} {w : World} {sources : List SharedSource}
    {kind : QueryFile} {p : Path} (found : (h.queryFile? w kind).answer sources = some p) :
    (h.loadQuery w kind).events sources =
      (h.queryFile? w kind).events sources ++ (h.loadPath w p).events := by
  rw [Lookup.answer] at found
  rw [Lookup.events, run_loadQuery, Lookup.events]
  dsimp only
  rw [found]

/-- **A file that can be read is refused as no text exactly when it is none**, and the fault
is then what `Utf8.Malformed.Describes` says.  Nothing is reported, and nothing of the file
is compiled: what comes of it is the same for all grammars. -/
theorem undecodable_iff_not_text (h : Handle) (w : World) (p : Path) (content : List UInt8)
    (reads : w.files.read p = .ok content) :
    ((∃ m, (h.loadPath w p).value = .error (.undecodable p m)) ↔ ¬Utf8.IsText content) ∧
      ∀ q m, (h.loadPath w p).value = .error (.undecodable q m) →
        q = p ∧ m.Describes content ∧ (h.loadPath w p).events = [] ∧
          (∀ h' : Handle, h'.loadPath w p = h.loadPath w p) ∧
          ∀ (kind : QueryFile) (sources : List SharedSource),
            (h.queryFile? w kind).answer sources = some p →
              (h.loadQuery w kind).answer sources = .error (.undecodable p m) ∧
                (h.loadQuery w kind).events sources = (h.queryFile? w kind).events sources := by
  have loads := loads_loadFile (g := h.grammar) reads
  have refused {m : Utf8.Malformed} (fault : Utf8.decode content = .error m) (h' : Handle) :
      h'.loadPath w p = pure (.error (.undecodable p m)) := by
    rw [loadPath, loadFile, reads]
    simp only [fault]
  refine ⟨⟨?_, fun no_text => ?_⟩, fun q m fails => ?_⟩
  · rintro ⟨m, fails⟩ text
    obtain ⟨cs, rfl⟩ := Utf8.isText_iff.1 text
    rw [loadPath] at fails
    rw [fails] at loads
    cases loads with
    | undecodable none_encoded =>
        exact none_encoded (String.ofList cs) (by rw [String.toList_ofList])
  · have none_encoded : ∀ cs, content ≠ Utf8.encode cs :=
      fun cs eq => no_text (Utf8.isText_iff.2 ⟨cs, eq⟩)
    obtain ⟨m, fault⟩ := Utf8.exists_decode_eq_error_iff.2 none_encoded
    exact ⟨m, by rw [refused fault]; rfl⟩
  · rw [loadPath] at fails
    rw [fails] at loads
    cases loads with
    | undecodable _ fault =>
        refine ⟨rfl, Utf8.describes_of_decode fault, by rw [refused fault]; rfl,
          fun h' => by rw [refused fault, refused fault], fun kind sources found => ⟨?_, ?_⟩⟩
        · rw [answer_loadQuery_of_found found, fails]
          rfl
        · rw [events_loadQuery_of_found found, refused fault]
          exact List.append_nil _

/-- The file `n` holds a letter, three bytes of a character of four, and a line feed. -/
def interrupted : World :=
  ⟨⟨[⟨[⟨[0x6E], by decide⟩], .object (.file [0x61, 0xF0, 0x9F, 0x98, 0x0A])⟩], [],
    .error .notFound⟩, none⟩

theorem interrupted_is_refused :
    interrupted.files.read ⟨[0x6E]⟩ = .ok [0x61, 0xF0, 0x9F, 0x98, 0x0A] ∧
      ((Handle.mk ⟨0, ⟨14, [], [], [], none⟩⟩ none).loadPath interrupted ⟨[0x6E]⟩).value =
        .error (.undecodable ⟨[0x6E]⟩ ⟨1, some 3⟩) ∧
      ¬Utf8.IsText [0x61, 0xF0, 0x9F, 0x98, 0x0A] ∧
      (Utf8.Malformed.mk 1 (some 3)).Describes [0x61, 0xF0, 0x9F, 0x98, 0x0A] := by
  have reads : interrupted.files.read ⟨[0x6E]⟩ = .ok [0x61, 0xF0, 0x9F, 0x98, 0x0A] := by cbv
  have fails : ((Handle.mk ⟨0, ⟨14, [], [], [], none⟩⟩ none).loadPath interrupted
      ⟨[0x6E]⟩).value = .error (.undecodable ⟨[0x6E]⟩ ⟨1, some 3⟩) := by
    rw [loadPath, loadFile, reads]
    rfl
  obtain ⟨iff, describes⟩ := undecodable_iff_not_text _ _ _ _ reads
  exact ⟨reads, fails, iff.1 ⟨_, fails⟩, (describes _ _ fails).2.1⟩

end Handle

end GrammarQueries
