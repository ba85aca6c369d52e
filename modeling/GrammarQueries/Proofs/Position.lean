/-
# GrammarQueries.Proofs.Position -- where an error is said to be, and where it is

An error of reading is placed by a cursor, so it always lies in the text and between
two characters.  Its row and column come from a scan through the lines, in which
every line ending counts as one byte.  What they should be is a matter of the bytes in
front of the place alone: the line feeds among them, and how many of them stand behind
the last one (`Query.Error.IsAt`).

The two agree exactly when no carriage return in front of the place has a line feed
behind it (`Query.Fault.isAt_iff`).  The scan falls back by one byte with each such
pair, and never catches up again (`Query.positionAmong_iff`).
-/
import GrammarQueries.Proofs.Compatibility

namespace GrammarQueries

set_option autoImplicit false

namespace Utf8

/-! ## ASCII characters among bytes -/

def asciiByte (a : Char) : UInt8 := UInt8.ofNat a.toNat

variable {a c : Char} {cs : List Char}

theorem encodeChar_of_ascii (ascii : a.toNat < 0x80) : encodeChar a = [asciiByte a] := by
  simp [encodeChar, asciiByte, ascii]

/-- No byte of another character is that of an ASCII character. -/
theorem asciiByte_mem_encodeChar (ascii : a.toNat < 0x80) :
    asciiByte a ∈ encodeChar c ↔ c = a := by
  constructor
  · intro member
    have value : (asciiByte a).toNat = a.toNat := by
      rw [asciiByte, UInt8.toNat_ofNat']
      omega
    have bound := toNat_cases c
    have tail (n : Nat) : asciiByte a ≠ tailByte n := by
      intro same
      have marked := toNat_tailByte n
      rw [← same] at marked
      omega
    have lead {n : Nat} (high : 0x80 ≤ n) (low : n < 0x100) : asciiByte a ≠ UInt8.ofNat n := by
      intro same
      rw [same, UInt8.toNat_ofNat'] at value
      omega
    unfold encodeChar at member
    simp only at member
    repeat' split at member
    · have same : asciiByte a = UInt8.ofNat c.toNat := List.mem_singleton.1 member
      rw [same, UInt8.toNat_ofNat'] at value
      apply Char.toNat_inj.1
      omega
    all_goals
      simp only [List.mem_cons, List.not_mem_nil, tail, or_false] at member
      exact absurd member (lead (by omega) (by omega))
  · rintro rfl
    simp [encodeChar_of_ascii ascii]

theorem asciiByte_mem_encode (ascii : a.toNat < 0x80) : asciiByte a ∈ encode cs ↔ a ∈ cs := by
  simp [encode, asciiByte_mem_encodeChar ascii]

theorem count_encode (ascii : a.toNat < 0x80) (cs : List Char) :
    (encode cs).count (asciiByte a) = cs.count a := by
  induction cs with
  | nil => rfl
  | cons c cs ih =>
      rw [encode_cons, List.count_append, ih]
      by_cases same : c = a
      · subst same
        rw [encodeChar_of_ascii ascii, List.count_cons_self, List.count_cons_self, List.count_nil]
        omega
      · have absent : asciiByte a ∉ encodeChar c := by
          rw [asciiByte_mem_encodeChar ascii]
          exact same
        rw [List.count_eq_zero.2 absent, List.count_cons_of_ne same]
        omega

theorem charLength_pos (c : Char) : 0 < charLength c := by
  unfold charLength
  dsimp only
  repeat' split
  all_goals omega

theorem encode_append_ascii (ascii : a.toNat < 0x80) (front back : List Char) :
    encode (front ++ a :: back) = encode front ++ asciiByte a :: encode back := by
  rw [encode_append, encode_cons, encodeChar_of_ascii ascii, List.singleton_append]

/-- An ASCII character's byte stands among the bytes of a text where the character stands
in the text. -/
theorem getElem?_encode (ascii : a.toNat < 0x80) {i : Nat} :
    (encode cs)[i]? = some (asciiByte a) ↔
      ∃ front back, cs = front ++ a :: back ∧ (encode front).length = i := by
  constructor
  · intro found
    induction cs generalizing i with
    | nil => simp at found
    | cons c cs ih =>
        rw [encode_cons, List.getElem?_append] at found
        split at found
        · next inside =>
            have same := (asciiByte_mem_encodeChar ascii).1 (List.mem_of_getElem? found)
            subst same
            rw [encodeChar_of_ascii ascii] at inside
            have zero : 0 = i := by simp at inside; omega
            exact ⟨[], cs, rfl, zero⟩
        · next outside =>
            obtain ⟨front, back, rfl, length⟩ := ih found
            refine ⟨c :: front, back, rfl, ?_⟩
            rw [encode_cons, List.length_append, length]
            omega
  · rintro ⟨front, back, rfl, rfl⟩
    rw [encode_append_ascii ascii]
    simp

theorem head?_encode (ascii : a.toNat < 0x80) :
    (encode cs).head? = some (asciiByte a) ↔ cs.head? = some a := by
  rw [List.head?_eq_getElem?, getElem?_encode ascii, List.head?_eq_some_iff]
  constructor
  · rintro ⟨front, back, rfl, empty⟩
    cases front with
    | nil => exact ⟨back, rfl⟩
    | cons x front =>
        have positive := charLength_pos x
        rw [encode_cons, List.length_append, length_encodeChar] at empty
        omega
  · rintro ⟨back, rfl⟩
    exact ⟨[], back, rfl, rfl⟩

theorem byteLength_cons (c : Char) (cs : List Char) :
    byteLength (c :: cs) = charLength c + byteLength cs := by
  simp only [byteLength_eq, encode_cons, List.length_append, length_encodeChar]

theorem byteLength_reverse (cs : List Char) : byteLength cs.reverse = byteLength cs := by
  induction cs with
  | nil => rfl
  | cons c cs ih =>
      rw [List.reverse_cons, byteLength_append, ih, byteLength_cons, byteLength_cons]
      show byteLength cs + (charLength c + 0) = charLength c + byteLength cs
      omega

end Utf8

namespace Query

open Utf8 (byteLength byteLength_cons byteLength_reverse asciiByte)

/-! ## The scan through the lines -/

/-- A carriage return is in front of a place and has a newline behind it, which can be
the character at the place. -/
def Returns (front back : List Char) : Prop :=
  ∃ before after, front = before ++ '\r' :: after ∧ (after ++ back).head? = some '\n'

theorem not_returns_nil (back : List Char) : ¬Returns [] back := by
  rintro ⟨before, after, eq, -⟩
  simp at eq

theorem returns_cons {c : Char} {front back : List Char} :
    Returns (c :: front) back ↔
      (c = '\r' ∧ (front ++ back).head? = some '\n') ∨ Returns front back := by
  constructor
  · rintro ⟨before, after, eq, newline⟩
    cases before with
    | nil =>
        cases eq
        exact .inl ⟨rfl, newline⟩
    | cons x before =>
        cases eq
        exact .inr ⟨before, after, rfl, newline⟩
  · rintro (⟨rfl, newline⟩ | ⟨before, after, rfl, newline⟩)
    · exact ⟨[], front, rfl, newline⟩
    · exact ⟨c :: before, after, rfl, newline⟩

/-- A line loses one byte when it ends in a carriage return. -/
theorem byteLength_endedLine (begun : List Char) :
    byteLength (endedLine begun) + (if begun.head? = some '\r' then 1 else 0) =
      byteLength begun := by
  unfold endedLine
  split
  · next line =>
      rw [byteLength_reverse, byteLength_cons, List.head?_cons, if_pos rfl]
      show byteLength line + 1 = 1 + byteLength line
      omega
  · next other =>
      have differs : begun.head? ≠ some '\r' := by
        intro same
        obtain ⟨line, eq⟩ := List.head?_eq_some_iff.1 same
        exact other line eq
      rw [byteLength_reverse, if_neg differs]
      rfl

/-- The line that is begun is at least as long as what is begun of it, unless a carriage
return at the end of that is dropped. -/
theorem linesFrom_cases (begun text : List Char) :
    (begun = [] ∧ linesFrom begun text = []) ∨
      ∃ line later, linesFrom begun text = line :: later ∧
        (if begun.head? = some '\r' ∧ text.head? = some '\n' then
          byteLength line + 1 = byteLength begun
        else byteLength begun ≤ byteLength line) := by
  induction text generalizing begun with
  | nil =>
      cases begun with
      | nil => exact .inl ⟨rfl, rfl⟩
      | cons c begun =>
          refine .inr ⟨(c :: begun).reverse, [], rfl, ?_⟩
          rw [if_neg (by simp)]
          exact Nat.le_of_eq (byteLength_reverse (c :: begun)).symm
  | cons c text ih =>
      right
      by_cases newline : c = '\n'
      · subst newline
        refine ⟨endedLine begun, linesFrom [] text, by rw [linesFrom, if_pos rfl], ?_⟩
        have length := byteLength_endedLine begun
        by_cases return_before : begun.head? = some '\r'
        · rw [if_pos ⟨return_before, rfl⟩]
          rwa [if_pos return_before] at length
        · rw [if_neg fun both => return_before both.1]
          rw [if_neg return_before] at length
          omega
      · have step : linesFrom begun (c :: text) = linesFrom (c :: begun) text := by
          rw [linesFrom, if_neg newline]
        rw [step]
        rcases ih (c :: begun) with ⟨impossible, -⟩ | ⟨line, later, eq, length⟩
        · cases impossible
        · refine ⟨line, later, eq, ?_⟩
          rw [if_neg fun both => newline (Option.some.inj both.2)]
          rw [byteLength_cons] at length
          split at length
          · next both =>
              have one : c = '\r' := Option.some.inj both.1
              subst one
              have single : Utf8.charLength '\r' = 1 := rfl
              omega
          · omega

theorem le_row_positionAmong (offset row start : Nat) (lines : List (List Char)) :
    row ≤ (positionAmong offset row start lines).row := by
  induction lines generalizing row start with
  | nil => exact Nat.le_refl row
  | cons line later ih =>
      unfold positionAmong
      dsimp only
      split
      · exact Nat.le_refl row
      · exact Nat.le_of_succ_le (ih (row + 1) _)

/-- The line so far, when `passed` is what is in front of a place; both last character first. -/
def begunLine (passed : List Char) : List Char := passed.takeWhile (· != '\n')

theorem begunLine_cons {c : Char} (inside : c ≠ '\n') (passed : List Char) :
    begunLine (c :: passed) = c :: begunLine passed := by
  simp [begunLine, inside]

theorem begunLine_append_newline (later earlier : List Char) :
    begunLine (later ++ '\n' :: earlier) = begunLine later := by
  induction later with
  | nil => rfl
  | cons c later ih =>
      by_cases newline : c = '\n'
      · simp [begunLine, newline]
      · rw [List.cons_append, begunLine_cons newline, begunLine_cons newline, ih]

theorem begunLine_of_unbroken {passed : List Char} (unbroken : '\n' ∉ passed) :
    begunLine passed = passed := by
  induction passed with
  | nil => rfl
  | cons c passed ih =>
      rw [List.mem_cons, not_or] at unbroken
      rw [begunLine_cons (Ne.symm unbroken.1), ih unbroken.2]

def Position.Is (p : Position) (row column : Nat) : Prop := p.row = row ∧ p.column = column

/-- Nothing is in front of the place on the lines still to come, so it is on the first of them,
or else the scan is past it. -/
theorem positionAmong_begun (back begun : List Char) (row start debt : Nat) :
    (positionAmong (start + debt + byteLength begun) row start (linesFrom begun back)).Is row
        (byteLength begun) ↔
      debt = 0 ∧ ¬(begun.head? = some '\r' ∧ back.head? = some '\n') := by
  rcases linesFrom_cases begun back with ⟨rfl, eq⟩ | ⟨line, later, eq, lengths⟩
  · rw [eq, positionAmong, Position.Is]
    have nothing : byteLength [] = 0 := rfl
    simp [nothing]
  · rw [eq, positionAmong]
    split
    · next inside =>
        have straight : debt = 0 → ¬(begun.head? = some '\r' ∧ back.head? = some '\n') := by
          intro level both
          rw [if_pos both] at lengths
          omega
        constructor
        · rintro ⟨-, column⟩
          have level : debt = 0 := by
            dsimp only at column
            omega
          exact ⟨level, straight level⟩
        · rintro ⟨rfl, -⟩
          refine ⟨rfl, ?_⟩
          dsimp only
          omega
    · next outside =>
        have beyond := le_row_positionAmong (start + debt + byteLength begun) (row + 1)
          (start + byteLength line + 1) later
        refine iff_of_false (fun right => ?_) ?_
        · have same_row := right.1
          omega
        · rintro ⟨rfl, straight⟩
          rw [if_neg straight] at lengths
          omega

/-- **The scan is right exactly when it is not behind.**  `begun` is the line so far, backwards;
`debt` is by how many bytes the scan takes the line to start too early. -/
theorem positionAmong_iff {offset : Nat} (front back begun : List Char) (row start debt : Nat)
    (unbroken : '\n' ∉ begun)
    (place : offset = start + debt + byteLength begun + byteLength front) :
    (positionAmong offset row start (linesFrom begun (front ++ back))).Is
        (row + front.count '\n') (byteLength (begunLine (front.reverse ++ begun))) ↔
      debt = 0 ∧ ¬(begun.head? = some '\r' ∧ (front ++ back).head? = some '\n') ∧
        ¬Returns front back := by
  induction front generalizing begun row start debt with
  | nil =>
      subst place
      have none_yet : ¬Returns [] back := not_returns_nil back
      simp only [List.nil_append, List.reverse_nil, begunLine_of_unbroken unbroken, none_yet,
        not_false_eq_true, and_true]
      exact positionAmong_begun back begun row start debt
  | cons c front ih =>
      have extended : byteLength (c :: front) = Utf8.charLength c + byteLength front :=
        byteLength_cons c front
      by_cases newline : c = '\n'
      · subst newline
        have single : Utf8.charLength '\n' = 1 := rfl
        have length := byteLength_endedLine begun
        -- the line that ends here is done, and the byte that it lost is owed from now on
        have next := ih [] (row + 1) (start + byteLength (endedLine begun) + 1)
          (debt + if begun.head? = some '\r' then 1 else 0) (by simp) (by
            have nothing : byteLength [] = 0 := rfl
            omega)
        have later : ¬offset < start + byteLength (endedLine begun) + 1 := by omega
        have step : positionAmong offset row start (linesFrom begun ('\n' :: front ++ back)) =
            positionAmong offset (row + 1) (start + byteLength (endedLine begun) + 1)
              (linesFrom [] (front ++ back)) := by
          rw [List.cons_append, linesFrom, if_pos rfl, positionAmong]
          exact if_neg later
        have rows : row + ('\n' :: front).count '\n' = row + 1 + front.count '\n' := by
          rw [List.count_cons_self]
          omega
        rw [List.append_nil] at next
        rw [step, rows, List.reverse_cons, List.append_assoc, List.singleton_append,
          begunLine_append_newline, next, returns_cons]
        by_cases returned : begun.head? = some '\r' <;> simp [returned]
      · have next := ih (c :: begun) row start debt (by simp [unbroken, Ne.symm newline]) (by
          have longer : byteLength (c :: begun) = Utf8.charLength c + byteLength begun :=
            byteLength_cons c begun
          omega)
        have step :
            linesFrom begun (c :: front ++ back) = linesFrom (c :: begun) (front ++ back) := by
          rw [List.cons_append, linesFrom, if_neg newline]
        rw [step, List.count_cons_of_ne newline, List.reverse_cons, List.append_assoc,
          List.singleton_append, next, returns_cons]
        simp [newline]

/-! ## Places among bytes -/

def lineFeed : UInt8 := 0x0A

/-- The byte that some write in front of a line feed. -/
def carriageReturn : UInt8 := 0x0D

theorem asciiByte_newline : asciiByte '\n' = lineFeed := rfl

theorem asciiByte_return : asciiByte '\r' = carriageReturn := rfl

/-- The last line of these bytes begins at `start`: just behind their last line feed, or at 0
if they have none. -/
structure StartsLastLine (bytes : List UInt8) (start : Nat) : Prop where
  inside : start ≤ bytes.length
  behind : start = 0 ∨ bytes[start - 1]? = some lineFeed
  unbroken : lineFeed ∉ bytes.drop start

theorem StartsLastLine.le {bytes : List UInt8} {s t : Nat} (hs : StartsLastLine bytes s)
    (ht : StartsLastLine bytes t) : t ≤ s := by
  refine Nat.le_of_not_lt fun later => ?_
  rcases ht.behind with zero | feed
  · omega
  · apply hs.unbroken
    have shifted : (bytes.drop s)[t - 1 - s]? = some lineFeed := by
      rw [List.getElem?_drop, ← feed]
      congr 1
      omega
    exact List.mem_of_getElem? shifted

theorem StartsLastLine.unique {bytes : List UInt8} {s t : Nat} (hs : StartsLastLine bytes s)
    (ht : StartsLastLine bytes t) : s = t :=
  Nat.le_antisymm (ht.le hs) (hs.le ht)

/-- The row and the column of an error are those of its offset in a file: as many line feeds
are in front of it, and as many bytes are between the beginning of its line and it. -/
structure Error.IsAt (e : Error) (content : List UInt8) : Prop where
  row : e.row = (content.take e.offset).count lineFeed
  column : ∃ start, StartsLastLine (content.take e.offset) start ∧ e.column = e.offset - start

/-- In front of an offset stands a carriage return with a line feed behind it. -/
def ReturnsBefore (content : List UInt8) (offset : Nat) : Prop :=
  ∃ i, i < offset ∧ content[i]? = some carriageReturn ∧ content[i + 1]? = some lineFeed

/-- What is passed is the line so far, and in front of that nothing or a newline. -/
theorem exists_earlier (passed : List Char) :
    ∃ earlier, passed = begunLine passed ++ earlier ∧ '\n' ∉ begunLine passed ∧
      (earlier = [] ∨ ∃ above, earlier = '\n' :: above) := by
  induction passed with
  | nil => exact ⟨[], rfl, List.not_mem_nil, .inl rfl⟩
  | cons c passed ih =>
      by_cases newline : c = '\n'
      · subst newline
        exact ⟨'\n' :: passed, by simp [begunLine], by simp [begunLine], .inr ⟨passed, rfl⟩⟩
      · obtain ⟨earlier, eq, unbroken, ends⟩ := ih
        rw [begunLine_cons newline]
        refine ⟨earlier, congrArg (c :: ·) eq, ?_, ends⟩
        rw [List.mem_cons, not_or]
        exact ⟨Ne.symm newline, unbroken⟩

namespace Cursor

open Utf8 (encode)

variable {source : List Char}

theorem encode_whole (c : Cursor source) :
    encode source = encode c.passed.reverse ++ encode c.rest := by
  rw [← Utf8.encode_append, c.whole]

theorem length_encode_passed (c : Cursor source) : (encode c.passed.reverse).length = c.offset :=
  (Utf8.byteLength_eq _).symm

theorem take_offset (c : Cursor source) :
    (encode source).take c.offset = encode c.passed.reverse := by
  rw [c.encode_whole, ← c.length_encode_passed, List.take_left]

theorem startsLastLine (c : Cursor source) :
    StartsLastLine (encode c.passed.reverse) (c.offset - byteLength (begunLine c.passed)) := by
  obtain ⟨earlier, eq, unbroken, ends⟩ := exists_earlier c.passed
  have split : encode c.passed.reverse =
      encode earlier.reverse ++ encode (begunLine c.passed).reverse := by
    rw [← Utf8.encode_append, ← List.reverse_append, ← eq]
  have line_length : (encode (begunLine c.passed).reverse).length =
      byteLength (begunLine c.passed) := by
    rw [← Utf8.byteLength_eq, byteLength_reverse]
  have start_eq : c.offset - byteLength (begunLine c.passed) = (encode earlier.reverse).length := by
    rw [← c.length_encode_passed, split, List.length_append, line_length]
    omega
  rw [start_eq, split]
  refine ⟨by simp, ?_, ?_⟩
  · rcases ends with rfl | ⟨above, rfl⟩
    · exact .inl rfl
    · right
      have feed : encode ('\n' :: above).reverse = encode above.reverse ++ [lineFeed] := by
        rw [List.reverse_cons, Utf8.encode_append]
        rfl
      rw [feed]
      simp
  · rw [List.drop_left, ← asciiByte_newline, Utf8.asciiByte_mem_encode (by decide),
      List.mem_reverse]
    exact unbroken

/-- A pair in front of a place is seen among the characters as it is among the bytes. -/
theorem returnsBefore_iff (c : Cursor source) :
    ReturnsBefore (encode source) c.offset ↔ Returns c.passed.reverse c.rest := by
  have next (before after : List Char) :
      (encode (before ++ '\r' :: after))[(encode before).length + 1]? = (encode after).head? := by
    rw [Utf8.encode_append_ascii (by decide), List.head?_eq_getElem?,
      List.getElem?_append_right (by omega), Nat.add_sub_cancel_left, List.getElem?_cons_succ]
  rw [← c.length_encode_passed, c.encode_whole]
  constructor
  · rintro ⟨i, inside, returned, feed⟩
    rw [List.getElem?_append_left inside, ← asciiByte_return,
      Utf8.getElem?_encode (by decide)] at returned
    obtain ⟨before, after, eq, rfl⟩ := returned
    refine ⟨before, after, eq, ?_⟩
    rw [eq, ← Utf8.encode_append, List.append_assoc, List.cons_append, next,
      ← asciiByte_newline] at feed
    exact (Utf8.head?_encode (by decide)).1 feed
  · rintro ⟨before, after, eq, newline⟩
    have feed := (Utf8.head?_encode (by decide)).2 newline
    refine ⟨(encode before).length, ?_, ?_, ?_⟩
    · rw [eq, Utf8.encode_append_ascii (by decide)]
      simp
    · rw [eq, Utf8.encode_append_ascii (by decide)]
      simp [asciiByte_return]
    · rw [eq, ← Utf8.encode_append, List.append_assoc, List.cons_append, next, feed]
      rfl

end Cursor

/-- **A fault is said to be where it is** exactly when no carriage return in front of it
has a line feed behind it. -/
theorem Fault.isAt_iff {source : List Char} (f : Fault source) :
    f.error.IsAt (Utf8.encode source) ↔
      ¬ReturnsBefore (Utf8.encode source) f.error.offset := by
  have from_start : f.place.offset = 0 + 0 + byteLength [] + byteLength f.place.passed.reverse := by
    simp [Cursor.offset, Utf8.byteLength]
  have scanned := positionAmong_iff f.place.passed.reverse f.place.rest [] 0 0 0 List.not_mem_nil
    from_start
  rw [f.place.whole, List.reverse_reverse, List.append_nil, List.count_reverse, Nat.zero_add]
    at scanned
  have placed : f.error.offset = f.place.offset := rfl
  have rows : ((Utf8.encode source).take f.place.offset).count lineFeed =
      f.place.passed.count '\n' := by
    rw [f.place.take_offset, ← asciiByte_newline, Utf8.count_encode (by decide), List.count_reverse]
  have start := f.place.startsLastLine
  have fits : byteLength (begunLine f.place.passed) ≤ f.place.offset := by
    obtain ⟨earlier, eq, -⟩ := exists_earlier f.place.passed
    have length := Utf8.byteLength_append (begunLine f.place.passed) earlier
    rw [← eq] at length
    rw [Cursor.offset, byteLength_reverse]
    omega
  rw [placed, f.place.returnsBefore_iff]
  constructor
  · intro at_place
    obtain ⟨begin, starts, column⟩ := at_place.column
    rw [placed, f.place.take_offset] at starts
    have same := starts.unique start
    have right : (position source f.place.offset).Is (f.place.passed.count '\n')
        (byteLength (begunLine f.place.passed)) := by
      refine ⟨at_place.row.trans rows, ?_⟩
      show f.error.column = _
      rw [column, same, placed]
      omega
    exact (scanned.1 right).2.2
  · intro straight
    obtain ⟨row, column⟩ := scanned.2 ⟨rfl, by simp, straight⟩
    have same : f.error.column = byteLength (begunLine f.place.passed) := column
    have starts : StartsLastLine ((Utf8.encode source).take f.error.offset)
        (f.place.offset - byteLength (begunLine f.place.passed)) := by
      rw [placed, f.place.take_offset]
      exact start
    refine ⟨row.trans rows.symm, _, starts, ?_⟩
    rw [same, placed]
    omega

/-- An error of a text that names a place in it is the error of a fault there. -/
theorem exists_fault {g : Grammar} {text : String} {e : Error} (fails : g.compile text = .error e)
    (of_text : e.kind ≠ .incompatible) (placed : e.kind ≠ .badPredicate) :
    ∃ f : Fault text.toList, e = f.error := by
  have fits : g.isCompatible = true := by
    rw [← Bool.not_eq_false]
    intro unfit
    rw [Grammar.compile_of_not_isCompatible unfit] at fails
    cases fails
    exact of_text rfl
  rw [Grammar.compile_of_isCompatible fits] at fails
  cases compileCharacters_error fails with
  | @unread f fault => exact ⟨f, rfl⟩
  | impossible => exact ⟨_, rfl⟩
  | predicate => exact absurd rfl placed

end Query

namespace Handle

open Utf8 (encode)

/-- **Where a failure says that it is.**  A rejection that names a place in a file names
one between two characters, and the row and the column of the rejection are what its
message says, counted from 1.  They are those of the place exactly when no carriage
return in front of the place has a line feed behind it. -/
theorem failure_place_iff (h : Handle) (w : World) (sources : List SharedSource)
    (f : LoadFailure) (e : Query.Error)
    (fails : (∃ p, (h.loadPath w p).value = .error f) ∨
      (∃ kind, (h.loadQuery w kind).answer sources = .error f) ∨
      (h.loadQueries w).answer sources = .error f)
    (cause : f.queryError? = some e) (of_text : e.kind ≠ .incompatible)
    (placed : e.kind ≠ .badPredicate) :
    ∃ before after content, w.files.read f.path = .ok content ∧
      content = encode before ++ encode after ∧ e.offset = (encode before).length ∧
      f.message = "failed to compile query " ++ f.path.display ++
        s!" at {e.row + 1}:{e.column + 1}: " ++ f.cause ∧
      (e.IsAt content ↔ ¬Query.ReturnsBefore content e.offset) := by
  obtain ⟨p, loads⟩ : ∃ p, (h.loadPath w p).value = .error f := by
    rcases fails with loads | ⟨kind, loads⟩ | loads
    · exact loads
    · exact exists_loadPath_of_loadQuery loads
    · exact exists_loadPath_of_loadQueries loads
  have message : f.message = "failed to compile query " ++ f.path.display ++
      s!" at {e.row + 1}:{e.column + 1}: " ++ f.cause := by
    cases f with
    | rejected =>
        cases cause
        rfl
    | unreadable => cases cause
    | undecodable => cases cause
  obtain ⟨asked, -, rejected⟩ := failure_of_loadFile loads
  obtain ⟨text, reads, refused⟩ := (rejected e).1 cause
  obtain ⟨fault, rfl⟩ := Query.exists_fault refused of_text placed
  refine ⟨fault.place.passed.reverse, fault.place.rest, _, ?_, fault.place.encode_whole,
    fault.place.length_encode_passed.symm, message, fault.isAt_iff⟩
  rw [asked, reads]

/-- A handle on a grammar without symbols. -/
def bare : Handle := ⟨⟨0, ⟨14, [], [], [], none⟩⟩, none⟩

def textPath : Path := ⟨[0x70]⟩

/-- Surroundings with one file, which holds a text. -/
def withText (text : String) : World :=
  ⟨⟨[⟨[⟨[0x70], by decide⟩], .object (.file (encode text.toList))⟩], [], .error .notFound⟩, none⟩

theorem read_withText (text : String) :
    (withText text).files.read textPath = .ok (encode text.toList) := by
  have reached : (withText text).files.arrive textPath =
      .reached [⟨[0x70], by decide⟩] FileSystem.mostLinks :=
    FileSystem.follow_down _ ⟨[0x70], by decide⟩ rfl
  rw [FileSystem.read, FileSystem.resolve_eq_ok_iff.2 ⟨_, reached, rfl⟩]

theorem loadPath_withText {text : String} {e : Query.Error}
    (refused : bare.grammar.compile text = .error e) :
    (bare.loadPath (withText text) textPath).value = .error (.rejected textPath e) := by
  rw [loadPath, loadFile_of_encoded (read_withText text), refused]
  rfl

/-- A bracket that nothing opens, below a line with a character of two bytes. -/
theorem bracket_below_wide_character :
    ∃ e : Query.Error,
      (bare.loadPath (withText "; é\n)") textPath).value = .error (.rejected textPath e) ∧
        e.kind = .malformed ∧ e.row = 1 ∧ e.column = 0 ∧ e.offset = 5 ∧
        e.IsAt (encode "; é\n)".toList) := by
  have refused : bare.grammar.compile "; é\n)" = .error ⟨.malformed, 1, 0, 5, ")\n^"⟩ := by
    with_unfolding_all rfl
  have fails := loadPath_withText refused
  have straight : ¬Query.ReturnsBefore (encode "; é\n)".toList) 5 := by
    rintro ⟨i, -, returned, -⟩
    have absent : Query.carriageReturn ∉ encode "; é\n)".toList := by decide
    exact absent (List.mem_of_getElem? returned)
  obtain ⟨-, -, content, same, -, -, -, place⟩ :=
    failure_place_iff bare (withText "; é\n)") [] _ _ (.inl ⟨textPath, fails⟩) rfl (by decide)
      (by decide)
  have same_content := Except.ok.inj (same.symm.trans (read_withText _))
  subst same_content
  exact ⟨_, fails, rfl, rfl, rfl, rfl, place.2 straight⟩

/-- Below an empty line that ends in a carriage return and a line feed, the same bracket is
said to be one byte behind the beginning of its line, and it is the beginning. -/
theorem bracket_below_returned_line :
    ∃ e : Query.Error,
      (bare.loadPath (withText "\r\n)") textPath).value = .error (.rejected textPath e) ∧
        (withText "\r\n)").files.read textPath = .ok (encode "\r\n)".toList) ∧
        e.kind = .malformed ∧ e.offset = 2 ∧ e.column = 1 ∧
        Query.StartsLastLine ((encode "\r\n)".toList).take 2) 2 ∧
        ¬e.IsAt (encode "\r\n)".toList) := by
  have refused : bare.grammar.compile "\r\n)" = .error ⟨.malformed, 1, 1, 2, ")\n ^"⟩ := by
    with_unfolding_all rfl
  have begins : Query.StartsLastLine ((encode "\r\n)".toList).take 2) 2 :=
    ⟨by decide, .inr (by decide), by decide⟩
  refine ⟨_, loadPath_withText refused, read_withText _, rfl, rfl, rfl, begins, fun right => ?_⟩
  obtain ⟨start, starts, column⟩ := right.column
  have same := starts.unique begins
  subst same
  cases column

end Handle

end GrammarQueries
