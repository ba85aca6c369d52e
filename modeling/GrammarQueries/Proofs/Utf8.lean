/-
# GrammarQueries.Proofs.Utf8 -- decoding is the inverse of encoding

The reading of one character is tied to `encodeChar` once, at its first byte
(`completes_of_lead`): a lead byte begins exactly the characters whose bytes
begin with it, and leaves exactly the bytes that can follow.  What is begun stays
tied to what is read from there on (`Begun.Reads`), byte by byte, without looking
at the numbers again.

So bytes decode to a text exactly when they are its encoding
(`decode_eq_ok_iff`), and no two texts have one encoding (`encode_injective`).
-/
import GrammarQueries.Utf8

namespace GrammarQueries.Utf8

set_option autoImplicit false

/-! ## Bytes as numbers -/

theorem contains_iff {r : ByteRange} {b : UInt8} :
    r.contains b = true ↔ r.low.toNat ≤ b.toNat ∧ b.toNat ≤ r.high.toNat := by
  simp [ByteRange.contains, UInt8.le_iff_toNat_le]

theorem tailRange_contains_iff {b : UInt8} :
    tailRange.contains b = true ↔ 0x80 ≤ b.toNat ∧ b.toNat ≤ 0xBF :=
  contains_iff

theorem toNat_tailByte (n : Nat) : (tailByte n).toNat = 0x80 + n % 0x40 := by
  rw [tailByte, UInt8.toNat_ofNat']
  omega

theorem toNat_lt (b : UInt8) : b.toNat < 0x100 := b.toNat_lt

/-- The numbers of characters. -/
theorem toNat_cases (c : Char) :
    c.toNat < 0xD800 ∨ (0xDFFF < c.toNat ∧ c.toNat < 0x110000) := c.valid

theorem toNat_charOfNat {n : Nat} (valid : n < 0xD800 ∨ (0xDFFF < n ∧ n < 0x110000)) :
    (Char.ofNat n).toNat = n := by
  have isValid : n.isValidChar := valid
  rw [Char.ofNat, dif_pos isValid]
  rfl

/-! ## Characters by their bytes -/

/-- Bytes in the ranges that have to come, and the character they complete. -/
def Completes (value : Nat) : List ByteRange → List UInt8 → Char → Prop
  | [], [], c => c = Char.ofNat value
  | r :: ranges, b :: bytes, c =>
    r.contains b = true ∧ Completes (value * 0x40 + (b.toNat - 0x80)) ranges bytes c
  | _, _, _ => False

/-- The bytes of a character, the first of them as a number. -/
theorem encodeChar_eq_cons_iff {c : Char} {b : UInt8} {bytes : List UInt8} :
    encodeChar c = b :: bytes ↔
      (c.toNat < 0x80 ∧ b.toNat = c.toNat ∧ bytes = []) ∨
      (0x80 ≤ c.toNat ∧ c.toNat < 0x800 ∧ b.toNat = 0xC0 + c.toNat / 0x40 ∧
        bytes = [tailByte c.toNat]) ∨
      (0x800 ≤ c.toNat ∧ c.toNat < 0x10000 ∧ b.toNat = 0xE0 + c.toNat / 0x1000 ∧
        bytes = [tailByte (c.toNat / 0x40), tailByte c.toNat]) ∨
      (0x10000 ≤ c.toNat ∧ b.toNat = 0xF0 + c.toNat / 0x40000 ∧
        bytes = [tailByte (c.toNat / 0x1000), tailByte (c.toNat / 0x40), tailByte c.toNat]) := by
  have bound := toNat_cases c
  have first : ∀ n, n < 0x100 → (UInt8.ofNat n = b ↔ b.toNat = n) := by
    intro n small
    rw [← UInt8.toNat_inj, UInt8.toNat_ofNat', Nat.mod_eq_of_lt small]
    exact eq_comm
  unfold encodeChar
  simp only
  repeat' split
  all_goals
    rw [List.cons.injEq, first _ (by omega)]
    grind

/-- Characters of two bytes, by what comes behind their lead byte. -/
theorem completes_two {b : UInt8} {k : Nat} (lead : b.toNat = 0xC0 + k) (low : 2 ≤ k)
    (high : k < 0x20) (c : Char) (bytes : List UInt8) :
    encodeChar c = b :: bytes ↔ Completes k [tailRange] bytes c := by
  have bound := toNat_cases c
  rw [encodeChar_eq_cons_iff]
  constructor
  · rintro (h | ⟨above, below, first, rfl⟩ | h | h)
    · omega
    · have tail := toNat_tailByte c.toNat
      refine ⟨tailRange_contains_iff.2 (by omega), ?_⟩
      rw [Completes, show k * 0x40 + ((tailByte c.toNat).toNat - 0x80) = c.toNat by omega]
      exact (Char.ofNat_toNat c).symm
    · omega
    · omega
  · intro completes
    match bytes, completes with
    | [t], ⟨inRange, eq⟩ =>
        rw [tailRange_contains_iff] at inRange
        rw [Completes] at eq
        have value := toNat_charOfNat (n := k * 0x40 + (t.toNat - 0x80)) (by omega)
        rw [← eq] at value
        refine .inr (.inl ⟨by omega, by omega, by omega, ?_⟩)
        rw [List.cons.injEq, ← UInt8.toNat_inj, toNat_tailByte]
        exact ⟨by omega, rfl⟩

/-- Characters of three bytes: the range behind the lead byte keeps out what two
bytes could say, and the surrogates. -/
theorem completes_three {b : UInt8} {k : Nat} {r : ByteRange} (lead : b.toNat = 0xE0 + k)
    (high : k < 0x10)
    (range : ∀ t : UInt8, r.contains t = true ↔ 0x80 ≤ t.toNat ∧ t.toNat ≤ 0xBF ∧
      (k = 0 → 0xA0 ≤ t.toNat) ∧ (k = 0xD → t.toNat ≤ 0x9F)) (c : Char) (bytes : List UInt8) :
    encodeChar c = b :: bytes ↔ Completes k [r, tailRange] bytes c := by
  have bound := toNat_cases c
  rw [encodeChar_eq_cons_iff]
  constructor
  · rintro (h | h | ⟨above, below, first, rfl⟩ | h)
    · omega
    · omega
    · have second := toNat_tailByte (c.toNat / 0x40)
      have third := toNat_tailByte c.toNat
      refine ⟨(range _).2 (by omega), tailRange_contains_iff.2 (by omega), ?_⟩
      rw [Completes, show (k * 0x40 + ((tailByte (c.toNat / 0x40)).toNat - 0x80)) * 0x40 +
        ((tailByte c.toNat).toNat - 0x80) = c.toNat by omega]
      exact (Char.ofNat_toNat c).symm
    · omega
  · intro completes
    match bytes, completes with
    | [t, u], ⟨inRange, inTail, eq⟩ =>
        rw [range] at inRange
        rw [tailRange_contains_iff] at inTail
        rw [Completes] at eq
        have value := toNat_charOfNat
          (n := (k * 0x40 + (t.toNat - 0x80)) * 0x40 + (u.toNat - 0x80)) (by omega)
        rw [← eq] at value
        refine .inr (.inr (.inl ⟨by omega, by omega, by omega, ?_⟩))
        rw [List.cons.injEq, List.cons.injEq, ← UInt8.toNat_inj, ← UInt8.toNat_inj, toNat_tailByte,
          toNat_tailByte]
        exact ⟨by omega, by omega, rfl⟩

/-- Characters of four bytes: the range behind the lead byte keeps out what three
bytes could say, and what is no character. -/
theorem completes_four {b : UInt8} {k : Nat} {r : ByteRange} (lead : b.toNat = 0xF0 + k)
    (high : k ≤ 4)
    (range : ∀ t : UInt8, r.contains t = true ↔ 0x80 ≤ t.toNat ∧ t.toNat ≤ 0xBF ∧
      (k = 0 → 0x90 ≤ t.toNat) ∧ (k = 4 → t.toNat ≤ 0x8F)) (c : Char) (bytes : List UInt8) :
    encodeChar c = b :: bytes ↔ Completes k [r, tailRange, tailRange] bytes c := by
  have bound := toNat_cases c
  rw [encodeChar_eq_cons_iff]
  constructor
  · rintro (h | h | h | ⟨above, first, rfl⟩)
    · omega
    · omega
    · omega
    · have second := toNat_tailByte (c.toNat / 0x1000)
      have third := toNat_tailByte (c.toNat / 0x40)
      have fourth := toNat_tailByte c.toNat
      refine ⟨(range _).2 (by omega), tailRange_contains_iff.2 (by omega),
        tailRange_contains_iff.2 (by omega), ?_⟩
      rw [Completes, show ((k * 0x40 + ((tailByte (c.toNat / 0x1000)).toNat - 0x80)) * 0x40 +
        ((tailByte (c.toNat / 0x40)).toNat - 0x80)) * 0x40 +
        ((tailByte c.toNat).toNat - 0x80) = c.toNat by omega]
      exact (Char.ofNat_toNat c).symm
  · intro completes
    match bytes, completes with
    | [t, u, w], ⟨inRange, inTail, inLast, eq⟩ =>
        rw [range] at inRange
        rw [tailRange_contains_iff] at inTail inLast
        rw [Completes] at eq
        have value := toNat_charOfNat
          (n := ((k * 0x40 + (t.toNat - 0x80)) * 0x40 + (u.toNat - 0x80)) * 0x40 +
            (w.toNat - 0x80)) (by omega)
        rw [← eq] at value
        refine .inr (.inr (.inr ⟨by omega, by omega, ?_⟩))
        rw [List.cons.injEq, List.cons.injEq, List.cons.injEq, ← UInt8.toNat_inj,
          ← UInt8.toNat_inj, ← UInt8.toNat_inj, toNat_tailByte, toNat_tailByte, toNat_tailByte]
        exact ⟨by omega, by omega, by omega, rfl⟩

/-! ## The first byte -/

/-- A byte that is a character is the whole of exactly that character. -/
theorem encodeChar_of_lead_done {b : UInt8} {d : Char} (h : lead b = .done d) (c : Char)
    (bytes : List UInt8) : encodeChar c = b :: bytes ↔ c = d ∧ bytes = [] := by
  have bound := toNat_cases c
  unfold lead at h
  simp only at h
  split at h
  · next small =>
      cases h
      have value := toNat_charOfNat (n := b.toNat) (by omega)
      rw [encodeChar_eq_cons_iff]
      constructor
      · rintro (⟨-, first, rfl⟩ | h | h | h)
        · exact ⟨by rw [first, Char.ofNat_toNat], rfl⟩
        all_goals omega
      · rintro ⟨rfl, rfl⟩
        exact .inl ⟨by omega, value.symm, rfl⟩
  · repeat' split at h
    all_goals cases h

/-- **A lead byte begins the characters whose bytes begin with it**, and what has to
come is what completes them. -/
theorem completes_of_lead {b : UInt8} {p : Begun} (h : lead b = .more p) (c : Char)
    (bytes : List UInt8) :
    encodeChar c = b :: bytes ↔ Completes p.value (p.next :: p.later) bytes c := by
  -- the branches of `lead` differ only in how many bytes follow and the range of the first
  have bound := toNat_lt b
  unfold lead at h
  simp only at h
  split at h
  · cases h
  split at h
  · cases h
  split at h
  · rw [Move.more.injEq] at h
    subst h
    exact completes_two (k := b.toNat - 0xC0) (by omega) (by omega) (by omega) c bytes
  split at h
  · rw [Move.more.injEq] at h
    subst h
    exact completes_three (k := 0) (by omega) (by omega)
      (fun t => by rw [contains_iff]; simp; omega) c bytes
  split at h
  · rw [Move.more.injEq] at h
    subst h
    exact completes_three (k := 0xD) (by omega) (by omega)
      (fun t => by rw [contains_iff]; simp; omega) c bytes
  split at h
  · rw [Move.more.injEq] at h
    subst h
    exact completes_three (k := b.toNat - 0xE0) (by omega) (by omega)
      (fun t => by rw [tailRange_contains_iff]; omega) c bytes
  split at h
  · rw [Move.more.injEq] at h
    subst h
    exact completes_four (k := 0) (by omega) (by omega)
      (fun t => by rw [contains_iff]; simp; omega) c bytes
  split at h
  · rw [Move.more.injEq] at h
    subst h
    exact completes_four (k := b.toNat - 0xF0) (by omega) (by omega)
      (fun t => by rw [tailRange_contains_iff]; omega) c bytes
  split at h
  · rw [Move.more.injEq] at h
    subst h
    exact completes_four (k := 4) (by omega) (by omega)
      (fun t => by rw [contains_iff]; simp; omega) c bytes
  · cases h

/-- A byte that is refused begins no character. -/
theorem encodeChar_ne_of_lead_refuse {b : UInt8} (h : lead b = .refuse) (c : Char)
    (bytes : List UInt8) : encodeChar c ≠ b :: bytes := by
  have bound := toNat_cases c
  have value := toNat_lt b
  rw [Ne, encodeChar_eq_cons_iff]
  unfold lead at h
  simp only at h
  repeat' split at h
  all_goals first
    | omega
    | cases h

theorem taken_of_lead {b : UInt8} {p : Begun} (h : lead b = .more p) : p.taken = 1 := by
  unfold lead at h
  simp only at h
  repeat' split at h
  all_goals first
    | (rw [Move.more.injEq] at h; subst h; rfl)
    | cases h

/-! ## The bytes behind it -/

/-- The bytes `read` have begun a character, and `p` is what has to come. -/
structure Begun.Reads (p : Begun) (read : List UInt8) : Prop where
  taken : read.length = p.taken
  completes : ∀ c bytes,
    encodeChar c = read ++ bytes ↔ Completes p.value (p.next :: p.later) bytes c

theorem reads_of_lead {b : UInt8} {p : Begun} (h : lead b = .more p) : p.Reads [b] :=
  ⟨(taken_of_lead h).symm, completes_of_lead h⟩

namespace Begun.Reads

variable {p q : Begun} {read : List UInt8} {b : UInt8}

theorem ne_encodeChar (reads : p.Reads read) (c : Char) : encodeChar c ≠ read := by
  intro whole
  have completes := (reads.completes c []).1 (by rw [whole, List.append_nil])
  exact completes

/-- A byte that fits is read, and more has to come. -/
theorem of_feed (reads : p.Reads read) (h : p.feed b = .more q) : q.Reads (read ++ [b]) := by
  unfold feed at h
  split at h
  · next inRange =>
      simp only at h
      split at h
      · cases h
      · next next later ranges =>
          rw [Move.more.injEq] at h
          subst h
          refine ⟨by simp [reads.taken], fun c bytes => ?_⟩
          rw [List.append_assoc, List.singleton_append, reads.completes, ranges, Completes]
          exact and_iff_right inRange
  · cases h

/-- A byte that completes a character is the last of exactly that character. -/
theorem of_feed_done {d : Char} (reads : p.Reads read) (h : p.feed b = .done d) (c : Char)
    (bytes : List UInt8) : encodeChar c = read ++ b :: bytes ↔ c = d ∧ bytes = [] := by
  unfold feed at h
  split at h
  · next inRange =>
      simp only at h
      split at h
      · next ranges =>
          rw [Move.done.injEq] at h
          subst h
          rw [reads.completes, ranges, Completes, and_iff_right inRange]
          cases bytes with
          | nil => simp [Completes]
          | cons x xs => simp [Completes]
      · cases h
  · cases h

/-- A byte that does not fit is in no character that began so. -/
theorem ne_of_feed_refuse (reads : p.Reads read) (h : p.feed b = .refuse) (c : Char)
    (bytes : List UInt8) : encodeChar c ≠ read ++ b :: bytes := by
  unfold feed at h
  split at h
  · simp only at h
    split at h <;> cases h
  · next outside =>
      rw [Ne, reads.completes, Completes]
      exact fun fits => outside fits.1

end Begun.Reads

/-! ## Whole texts -/

theorem decodeFrom_rest {c : Char} {p : Begun} {read : List UInt8} (reads : p.Reads read)
    {rest : List UInt8} (whole : encodeChar c = read ++ rest) (upTo : Nat) (bytes : List UInt8) :
    decodeFrom (some p) upTo (rest ++ bytes) =
      (c :: ·) <$> decodeFrom none (upTo + (encodeChar c).length) bytes := by
  induction rest generalizing p read with
  | nil => exact absurd (whole.trans (List.append_nil read)) (reads.ne_encodeChar c)
  | cons b rest ih =>
      rw [List.cons_append, decodeFrom]
      cases h : p.feed b with
      | done d =>
          obtain ⟨rfl, rfl⟩ := (reads.of_feed_done h c rest).1 whole
          rw [whole, List.length_append, reads.taken]
          rfl
      | more q =>
          exact ih (reads.of_feed h) (by rw [whole, List.append_assoc]; rfl)
      | refuse => exact absurd whole (reads.ne_of_feed_refuse h c rest)

/-- Decoding reads a character off its bytes. -/
theorem decodeFrom_encodeChar (c : Char) (upTo : Nat) (bytes : List UInt8) :
    decodeFrom none upTo (encodeChar c ++ bytes) =
      (c :: ·) <$> decodeFrom none (upTo + (encodeChar c).length) bytes := by
  cases whole : encodeChar c with
  | nil =>
      have length := length_encodeChar c
      rw [whole, charLength] at length
      repeat' split at length
      all_goals cases length
  | cons b rest =>
      rw [List.cons_append, decodeFrom]
      cases h : lead b with
      | done d =>
          obtain ⟨rfl, rfl⟩ := (encodeChar_of_lead_done h c rest).1 whole
          rfl
      | more p =>
          have reads := decodeFrom_rest (reads_of_lead h) whole upTo bytes
          rwa [whole] at reads
      | refuse => exact absurd whole (encodeChar_ne_of_lead_refuse h c rest)

theorem decodeFrom_encode (upTo : Nat) (cs : List Char) :
    decodeFrom none upTo (encode cs) = .ok cs := by
  induction cs generalizing upTo with
  | nil => rfl
  | cons c cs ih => rw [encode_cons, decodeFrom_encodeChar, ih]; rfl

/-- **Decoding undoes encoding.** -/
theorem decode_encode (cs : List Char) : decode (encode cs) = .ok cs :=
  decodeFrom_encode 0 cs

theorem exists_of_map_eq_ok {ε α β : Type} {f : α → β} {x : Except ε α} {b : β}
    (h : f <$> x = .ok b) : ∃ a, x = .ok a ∧ f a = b := by
  cases x with
  | error e => cases h
  | ok a =>
      cases h
      exact ⟨a, rfl, rfl⟩

/-- What is decoded is the bytes read, whether or not a character was begun. -/
theorem encode_of_decodeFrom {begun : Option Begun} {upTo : Nat} {bytes : List UInt8}
    {cs : List Char} (decodes : decodeFrom begun upTo bytes = .ok cs) :
    (begun = none → encode cs = bytes) ∧
      ∀ p read, begun = some p → p.Reads read → encode cs = read ++ bytes := by
  fun_induction decodeFrom begun upTo bytes generalizing cs with
  | case1 =>
      cases decodes
      exact ⟨fun _ => rfl, fun p read eq => nomatch eq⟩
  | case2 => cases decodes
  | case3 upTo b bytes c done ih =>
      obtain ⟨rest, decoded, rfl⟩ := exists_of_map_eq_ok decodes
      refine ⟨fun _ => ?_, fun p read eq => nomatch eq⟩
      rw [encode_cons, (ih decoded).1 rfl, (encodeChar_of_lead_done done c []).2 ⟨rfl, rfl⟩]
      rfl
  | case4 upTo b bytes p more ih =>
      exact ⟨fun _ => (ih decodes).2 p [b] rfl (reads_of_lead more), fun p read eq => nomatch eq⟩
  | case5 => cases decodes
  | case6 p upTo b bytes c done ih =>
      obtain ⟨rest, decoded, rfl⟩ := exists_of_map_eq_ok decodes
      refine ⟨fun eq => (nomatch eq), fun p' read eq reads => ?_⟩
      cases eq
      rw [encode_cons, (ih decoded).1 rfl, (reads.of_feed_done done c []).2 ⟨rfl, rfl⟩,
        List.append_assoc]
      rfl
  | case7 p upTo b bytes q more ih =>
      refine ⟨fun eq => (nomatch eq), fun p' read eq reads => ?_⟩
      cases eq
      rw [(ih decodes).2 q _ rfl (reads.of_feed more), List.append_assoc]
      rfl
  | case8 => cases decodes

/-- **Bytes decode to a text exactly when they are its encoding.** -/
theorem decode_eq_ok_iff {bytes : List UInt8} {cs : List Char} :
    decode bytes = .ok cs ↔ bytes = encode cs := by
  constructor
  · intro decodes
    exact ((encode_of_decodeFrom decodes).1 rfl).symm
  · rintro rfl
    exact decode_encode cs

/-- No two texts have the same bytes. -/
theorem encode_injective {as bs : List Char} (same : encode as = encode bs) : as = bs := by
  have decodes := decode_encode as
  rw [same, decode_encode] at decodes
  cases decodes
  rfl

/-- Bytes fail to decode exactly when they are the encoding of no text. -/
theorem exists_decode_eq_error_iff {bytes : List UInt8} :
    (∃ m, decode bytes = .error m) ↔ ∀ cs, bytes ≠ encode cs := by
  cases decodes : decode bytes with
  | ok cs =>
      have eq := decode_eq_ok_iff.1 decodes
      exact iff_of_false (fun ⟨m, fails⟩ => nomatch fails) fun differs => differs cs eq
  | error m =>
      refine iff_of_true ⟨m, rfl⟩ fun cs eq => ?_
      rw [eq, decode_encode] at decodes
      cases decodes

end GrammarQueries.Utf8
