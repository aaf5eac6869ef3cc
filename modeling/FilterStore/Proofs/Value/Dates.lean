import FilterStore.Proofs.Calendar.Stamp
import FilterStore.Value.Storage

/-!
# Dates through their cells

The engine has no dates, so a date becomes a number or a text, and reading tries to make a date of
what it finds.  Whether that is the date that was written depends on the notation.

* A count of seconds is the date less its fraction, and less the leap second if it lies in one.
  The count zero is not read as a date, since it is the mark for "not set".
* The engine's text is the date less its fraction, for every year (`decode_encodeFor_date`).
* The interchange text keeps the milliseconds.  It is written for every date, with a sign where the
  year does not have four digits, and then nothing reads it: of the layouts that are tried, the one
  with a zone has no sign, and those with a sign have no zone.  So the text is read back exactly for
  the years from 0 to 9999 (`interchange_readsBack_iff`), whatever the affinity of the column.

In a column of numbers a text is first tried as a number.  A hyphen stands behind the year, so no
text of a date is one.

What stands for no date is to come back as it was stored.  A number does, and so does a text that
spells none.  But a text that spells a number is given up for the number, and if there is no date
at that number it is the number that comes back, not the text (`Cell.survives_iff`).
-/

namespace FilterStore

open Calendar (Instant Spells)
open Number (readSign readNumeral spanDigits int64OfText? floatOfText?)

/-! ## Seconds and the engine's texts -/

/-- Seconds are read back as their date, if they are not zero. -/
theorem Cell.decode_seconds {d : Instant} (whole : d.nanos = 0) (nonzero : d.seconds ≠ 0) :
    Cell.decode .integer (.integer (Int64.ofInt d.seconds)) = .date d := by
  have first := d.first_le
  have last := d.le_last
  simp only [Calendar.firstSecond, Calendar.lastSecond] at first last
  have same : (Int64.ofInt d.seconds).toInt = d.seconds :=
    Int64.toInt_ofInt_of_le (by omega) (by omega)
  generalize Int64.ofInt d.seconds = n at same
  have set : n ≠ 0 := by
    rintro rfl
    exact nonzero same.symm
  have there : Instant.ofUnix? n.toInt 0 = some d := by
    rw [same, ← whole]
    exact d.ofUnix?_self
  simp only [Cell.decode, Cell.decodeNumber, if_neg set, there, Cell.dateOr]

/-- The engine's text of a date is read back as the date to the second. -/
theorem Cell.decode_engineText (d : Instant) :
    Cell.decode .text (.text d.engineText) = .date d.whole := by
  simp only [Cell.decode, d.parse?_engineText, Cell.dateOr]

/-- **A date is read back to the second, from a count of seconds unless it is zero, and from the
engine's text inside a leap second, too.** -/
theorem Cell.decode_encodeFor_date (d : Instant) :
    (∃ cell, (Value.date d).encodeFor .integer = .ok cell ∧
      ∃ e : Instant, e.seconds = d.seconds ∧ e.nanos = 0 ∧
        cell.decode .integer = if d.seconds = 0 then .integer 0 else .date e) ∧
    ∃ cell, (Value.date d).encodeFor .text = .ok cell ∧
      ∃ e : Instant, e.seconds = d.seconds ∧
        e.nanos = (if d.nanos < Calendar.second then 0 else Calendar.second) ∧
          cell.decode .text = .date e := by
  constructor
  · have leapless : Calendar.second ≤ 0 → d.seconds % 60 = 59 := fun h => absurd h (by decide)
    let e : Instant := ⟨d.seconds, 0, d.first_le, d.le_last, by decide, leapless⟩
    refine ⟨_, rfl, e, rfl, rfl, ?_⟩
    by_cases unset : d.seconds = 0
    · rw [if_pos unset]
      show Cell.decode .integer (.integer (Int64.ofInt d.seconds)) = _
      rw [unset]
      rfl
    · rw [if_neg unset]
      exact Cell.decode_seconds (d := e) rfl unset
  · refine ⟨_, rfl, d.whole, rfl, ?_, Cell.decode_engineText d⟩
    show d.nanos / Calendar.second * Calendar.second = _
    split
    · rename_i inside
      rw [Nat.div_eq_of_lt inside, Nat.zero_mul]
    · rename_i leap
      have one : d.nanos / Calendar.second = 1 :=
        Nat.div_eq_of_lt_le (by omega) (by have := d.nanos_lt; omega)
      rw [one, Nat.one_mul]

/-! ## Texts that are no numbers -/

section Hyphen

variable {n : Nat} {ds rest cs : List Char} {negative : Bool}

/-- Digits have no sign in front. -/
theorem readSign_append (h : Spells n ds) (rest : List Char) :
    readSign (ds ++ rest) = (false, ds ++ rest) := by
  obtain ⟨c, cs, rfl⟩ := List.exists_cons_of_ne_nil h.ne_nil
  have digit := h.digits c List.mem_cons_self
  rw [List.cons_append]
  unfold readSign
  split
  · rename_i minus
    cases minus
    exact absurd digit (by decide)
  · rename_i plus
    cases plus
    exact absurd digit (by decide)
  · rfl

theorem spanDigits_hyphen (h : Spells n ds) (rest : List Char) :
    spanDigits (ds ++ '-' :: rest) = (ds, '-' :: rest) := by
  rw [spanDigits, List.takeWhile_append_of_pos h.digits, List.dropWhile_append_of_pos h.digits,
    List.takeWhile_cons, List.dropWhile_cons]
  simp

/-- A number ends in front of a hyphen. -/
theorem readNumeral_hyphen (h : Spells n ds) (rest : List Char) :
    readNumeral (ds ++ '-' :: rest) = some (⟨ds, [], 0⟩, '-' :: rest) := by
  have filled : ds.isEmpty = false := List.isEmpty_eq_false_iff.mpr h.ne_nil
  simp only [readNumeral, spanDigits_hyphen h rest, filled, Bool.false_and, Bool.false_eq_true,
    if_false]
  rfl

theorem int64OfText?_hyphen (h : readSign cs = (negative, ds ++ '-' :: rest)) :
    int64OfText? cs = none := by
  have mixed : (ds ++ '-' :: rest).all Char.isDigit = false := by
    simp
  simp only [int64OfText?, h, mixed, Bool.not_false, Bool.or_true, if_true]

theorem floatOfText?_hyphen (spells : Spells n ds)
    (h : readSign cs = (negative, ds ++ '-' :: rest)) : floatOfText? cs = none := by
  have noWord : ∀ word : String, '-' ∉ word.toList →
      (String.ofList ((ds ++ '-' :: rest).map Char.toLower) == word) = false := by
    intro word absent
    rw [beq_eq_false_iff_ne]
    rintro rfl
    refine absent ?_
    rw [String.toList_ofList, List.map_append]
    exact List.mem_append_right _ List.mem_cons_self
  simp only [floatOfText?, Number.roundedOfText?, h, noWord _ (by decide : '-' ∉ "inf".toList),
    noWord _ (by decide : '-' ∉ "infinity".toList), noWord _ (by decide : '-' ∉ "nan".toList),
    readNumeral_hyphen spells rest]
  rfl

end Hyphen

/-- The interchange text is a sign or none, the digits of the year, a hyphen, and more. -/
theorem exists_readSign_interchange (d : Instant) : ∃ negative n ds rest,
    Spells n ds ∧ readSign d.interchange.toList = (negative, ds ++ '-' :: rest) := by
  rw [d.toList_interchange, d.stamp_eq, Calendar.layOut_eq]
  rcases Calendar.yearText_cases d.date.year with ⟨-, -, text⟩ | ⟨-, text⟩ | ⟨-, text⟩
  · have spells := Calendar.spells_padded 4 d.date.year.toNat
    rw [text, List.append_assoc]
    exact ⟨false, _, _, _, spells, readSign_append spells _⟩
  · rw [text]
    exact ⟨true, _, _, _, Calendar.spells_padded 4 _, congrArg _ (List.append_assoc ..)⟩
  · rw [text]
    exact ⟨false, _, _, _, Calendar.spells_padded 4 _, congrArg _ (List.append_assoc ..)⟩

/-- The interchange text of a date is not taken for a number. -/
theorem Cell.ofNumericText?_interchange (d : Instant) :
    Cell.ofNumericText? d.interchange = none := by
  obtain ⟨negative, n, ds, rest, spells, sign⟩ := exists_readSign_interchange d
  simp only [Cell.ofNumericText?, d.trimChars_interchange, int64OfText?_hyphen sign,
    floatOfText?_hyphen spells sign]

/-! ## Interchange texts -/

/-- Whatever the affinity of its column, the interchange text of a date is read as an instant is. -/
theorem Cell.decode_interchange (d : Instant) (affinity : Affinity) :
    (Cell.text d.interchange).decode affinity =
      Cell.dateOr (Instant.parse? d.interchange) (.text d.interchange) := by
  cases affinity <;> simp only [Cell.decode, Cell.ofNumericText?_interchange]

/-- A date is read back to the millisecond from the text that is bound for it, which is the text
that is stored for it in a column of blobs, by the reader of instants and from the cell of a
temporal column. -/
def Value.ReadsBack (d : Instant) : Prop :=
  ∃ text, (Value.date d).encode = .ok (.text text) ∧
    (Value.date d).encodeFor .blob = .ok (.text text) ∧
      ∃ e : Instant, e.seconds = d.seconds ∧ e.nanos = d.nanos / 1000000 * 1000000 ∧
        Instant.parse? text = some e ∧ ∀ affinity, (Cell.text text).decode affinity = .date e

/-- **A date is read back from its interchange text exactly if its year has four digits.** -/
theorem interchange_readsBack_iff (d : Instant) :
    Value.ReadsBack d ↔ 0 ≤ d.date.year ∧ d.date.year ≤ 9999 := by
  constructor
  · rintro ⟨_, encoded, -, e, -, -, parsed, -⟩
    cases encoded
    by_contra signed
    rw [d.parse?_interchange, if_neg signed] at parsed
    cases parsed
  · intro four
    have parsed : Instant.parse? d.interchange = some d.wholeMillis := by
      rw [d.parse?_interchange, if_pos four]
    refine ⟨d.interchange, rfl, rfl, d.wholeMillis, rfl, rfl, parsed, fun affinity => ?_⟩
    rw [Cell.decode_interchange, parsed]
    rfl

/-- The first second of the year 10000. -/
def farNewYear : Instant := (Instant.ofClock? ⟨10000, 1, 1⟩ ⟨0, 0, 0, 0⟩ 0).get (by decide)

/-- The text of a date in the year 10000 has a sign, and stays a text. -/
theorem not_readsBack_farNewYear :
    (Value.date farNewYear).encode = .ok (.text "+10000-01-01T00:00:00.000Z") ∧
      (Value.date farNewYear).encodeFor .blob = .ok (.text "+10000-01-01T00:00:00.000Z") ∧
        Instant.parse? "+10000-01-01T00:00:00.000Z" = none ∧
          (Cell.text "+10000-01-01T00:00:00.000Z").decode .blob =
            .text "+10000-01-01T00:00:00.000Z" ∧
              ¬ Value.ReadsBack farNewYear := by
  have unread : Instant.parse? "+10000-01-01T00:00:00.000Z" = none := rfl
  refine ⟨rfl, rfl, unread, rfl, ?_⟩
  rintro ⟨_, encoded, -, e, -, -, parsed, -⟩
  cases encoded
  cases unread.symm.trans parsed

/-! ## What stands for no date -/

namespace Cell

/-- The date that a number in a temporal column of an affinity stands for. -/
def numberDate? : Affinity → Cell → Option Instant
  | .integer, .integer n => if n = 0 then none else Instant.ofUnix? n.toInt 0
  | .integer, .real x => instantOfSeconds? x
  | .real, .integer n | .numeric, .integer n => instantOfJulianDay? (Float.ofInt n.toInt)
  | .real, .real x | .numeric, .real x => instantOfJulianDay? x
  | _, _ => none

/-- What is no date comes back as it was stored, be it a number or not. -/
theorem decodeNumber_eq (affinity : Affinity) (c : Cell) :
    decodeNumber affinity c = dateOr (numberDate? affinity c) c.toValue := by
  cases c with
  | integer n =>
    cases affinity
    case integer =>
      by_cases unset : n = 0
      · simp only [decodeNumber, numberDate?, unset]
        rfl
      · simp only [decodeNumber, numberDate?, if_neg unset]
        rfl
    all_goals rfl
  | real x => cases affinity <;> rfl
  | null => cases affinity <;> rfl
  | text s => cases affinity <;> rfl
  | blob bytes => cases affinity <;> rfl

/-- In a column of seconds a count stands for a date if it is not the mark for "not set" and there
is a date at that second. -/
theorem numberDate?_seconds (n : Int64) : (numberDate? .integer (.integer n)).isSome ↔
    n ≠ 0 ∧ Calendar.firstSecond ≤ n.toInt ∧ n.toInt ≤ Calendar.lastSecond := by
  have leapless : (Calendar.second ≤ 0 → n.toInt % 60 = 59) := fun h => absurd h (by decide)
  have short : 0 < 2 * Calendar.second := by decide
  simp only [numberDate?, Instant.ofUnix?, ne_eq]
  split
  · rename_i unset
    simp only [unset, not_true, false_and, Option.isSome_none, Bool.false_eq_true]
  · rename_i set
    simp only [set, not_false_iff, true_and]
    split
    · rename_i inside
      simp only [Option.isSome_some, true_iff]
      exact ⟨inside.1, inside.2.1⟩
    · rename_i outside
      simp only [Option.isSome_none, Bool.false_eq_true, false_iff]
      exact fun inside => outside ⟨inside.1, inside.2, short, leapless⟩

/-- The number that a text is read as in a column of an affinity. -/
def numberIn? : Affinity → String → Option Cell
  | .integer, s | .real, s | .numeric, s => ofNumericText? s
  | .text, _ | .blob, _ => none

section Text

variable {affinity : Affinity} {s : String}

/-- A text that spells a number is read as the number. -/
theorem decode_number {n : Cell} (h : numberIn? affinity s = some n) :
    (Cell.text s).decode affinity = dateOr (numberDate? affinity n) n.toValue := by
  rw [← decodeNumber_eq]
  cases affinity
  case integer | real | numeric =>
    simp only [numberIn?] at h
    simp only [decode, h]
  case text | blob => cases h

/-- A text that spells no number is read as a date. -/
theorem decode_noNumber (h : numberIn? affinity s = none) :
    (Cell.text s).decode affinity = dateOr (Instant.parse? s) (.text s) := by
  cases affinity
  case integer | real | numeric =>
    simp only [numberIn?] at h
    simp only [decode, h]
  case text | blob => rfl

end Text

theorem decode_of_ne_text {c : Cell} (h : ∀ s, c ≠ .text s) (affinity : Affinity) :
    c.decode affinity = dateOr (numberDate? affinity c) c.toValue := by
  rw [← decodeNumber_eq]
  cases c with
  | text s => exact absurd rfl (h s)
  | _ => rfl

/-- Reading gives a date or what else is there. -/
theorem dateOr_eq (d : Option Instant) (otherwise : Value) :
    (∃ e, dateOr d otherwise = .date e) ∨ dateOr d otherwise = otherwise := by
  cases d with
  | none => exact .inr rfl
  | some e => exact .inl ⟨e, rfl⟩

/-! ### Zeros -/

/-- What may stand in front of the digits of a number. -/
def signs : List (List Char) := [[], ['-'], ['+']]

/-- A text that spells the integer zero: blanks around it aside, a sign or none, and then zeros. -/
def SpellsZero (s : String) : Prop :=
  ∃ sign ∈ signs, ∃ zeros, Text.trimChars s.toList = sign ++ zeros ∧ zeros ≠ [] ∧
    ∀ c ∈ zeros, c = '0'

theorem readSign_eq (cs : List Char) : ∃ sign ∈ signs, cs = sign ++ (readSign cs).2 := by
  unfold readSign
  split
  · exact ⟨['-'], by decide, rfl⟩
  · exact ⟨['+'], by decide, rfl⟩
  · exact ⟨[], by decide, rfl⟩

/-- Digits whose number is zero are zeros. -/
theorem zeros_of_ofDigitChars {ds : List Char} (digits : ∀ c ∈ ds, c.isDigit = true)
    (h : Number.ofDigitChars ds = 0) : ∀ c ∈ ds, c = '0' := by
  -- the fold starts anywhere, and must have started at zero
  suffices all : ∀ n : Nat, ds.foldl (fun n c => 10 * n + (c.toNat - '0'.toNat)) n = 0 →
      n = 0 ∧ ∀ c ∈ ds, c = '0' from (all 0 h).2
  clear h
  induction ds with
  | nil => exact fun n h => ⟨h, fun c hc => absurd hc List.not_mem_nil⟩
  | cons d ds ih =>
    intro n h
    obtain ⟨step, rest⟩ : 10 * n + (d.toNat - '0'.toNat) = 0 ∧ ∀ c ∈ ds, c = '0' :=
      ih (fun c hc => digits c (List.mem_cons_of_mem d hc)) _ h
    have digit := Char.isDigit_iff_toNat.mp (digits d List.mem_cons_self)
    have zero : '0'.toNat = 48 := rfl
    have first : d = '0' := Char.toNat_inj.mp (by omega)
    exact ⟨by omega, List.forall_mem_cons.mpr ⟨first, rest⟩⟩

theorem int64OfText?_eq_zero_iff (cs : List Char) : int64OfText? cs = some 0 ↔
    ∃ sign ∈ signs, ∃ zeros, cs = sign ++ zeros ∧ zeros ≠ [] ∧ ∀ c ∈ zeros, c = '0' := by
  constructor
  · intro h
    obtain ⟨sign, mem, split⟩ := readSign_eq cs
    refine ⟨sign, mem, _, split, ?_⟩
    simp only [int64OfText?] at h
    generalize (readSign cs).2 = rest at h
    split at h
    · cases h
    · rename_i whole
      simp only [Bool.or_eq_true, Bool.not_eq_true', not_or, Bool.not_eq_true,
        List.isEmpty_eq_false_iff, Bool.not_eq_false, List.all_eq_true] at whole
      refine ⟨whole.1, zeros_of_ofDigitChars whole.2 ?_⟩
      generalize Number.ofDigitChars rest = n at h ⊢
      generalize signed : (if (readSign cs).1 = true then -(n : Int) else n) = m at h
      simp only [Number.int64?] at h
      split at h
      · rename_i fits
        have number := congrArg Int64.toInt (Option.some.inj h)
        rw [Int64.toInt_ofInt_of_le fits.1 (Int.lt_add_one_of_le fits.2)] at number
        have zero : m = 0 := number
        split at signed <;> omega
      · cases h
  · rintro ⟨sign, mem, zeros, rfl, filled, all⟩
    obtain ⟨k, rfl⟩ : ∃ k, zeros = '0' :: List.replicate k '0' := by
      cases zeros with
      | nil => exact absurd rfl filled
      | cons c zeros =>
        have rest := fun d hd => all d (List.mem_cons_of_mem c hd)
        rw [all c List.mem_cons_self]
        exact ⟨_, congrArg _ (List.eq_replicate_of_mem rest)⟩
    have value : Number.ofDigitChars ('0' :: List.replicate k '0') = 0 :=
      (Nat.ofDigitChars_replicate_zero (n := k + 1)).trans (Nat.mul_zero _)
    have digits : ('0' :: List.replicate k '0').all Char.isDigit = true := by
      simp
    have read : ∀ negative, readSign (sign ++ '0' :: List.replicate k '0') =
        (negative, '0' :: List.replicate k '0') →
          int64OfText? (sign ++ '0' :: List.replicate k '0') = some 0 := by
      intro negative h
      simp only [int64OfText?, h, digits, value]
      cases negative <;> rfl
    simp only [signs, List.mem_cons, List.not_mem_nil, or_false] at mem
    rcases mem with rfl | rfl | rfl
    · exact read false rfl
    · exact read true rfl
    · exact read false rfl

/-- What is read as the integer zero is what spells it. -/
theorem ofNumericText?_eq_zero_iff (s : String) :
    ofNumericText? s = some (.integer 0) ↔ SpellsZero s := by
  rw [SpellsZero, ← int64OfText?_eq_zero_iff]
  constructor
  · intro h
    simp only [ofNumericText?] at h
    split at h
    · rename_i n whole
      cases h
      exact whole
    · split at h
      · split at h <;> cases h
      · cases h
  · intro h
    simp only [ofNumericText?, h]

/-! ### What comes back -/

/-- What is stored in a temporal column of an affinity comes back as a date or as it is, unless it
is a text that spells zero in a column of seconds, which comes back as the mark for "not set". -/
def Survives (affinity : Affinity) (c : Cell) : Prop :=
  (∃ d, c.decode affinity = .date d) ∨ c.decode affinity = c.toValue ∨
    (affinity = .integer ∧ ∃ s, c = .text s ∧ SpellsZero s ∧ c.decode affinity = .integer 0)

/-- A text that is read as a number spells it, and the number is no text. -/
theorem numberIn?_cases {affinity : Affinity} {s : String} {n : Cell}
    (h : numberIn? affinity s = some n) :
    ofNumericText? s = some n ∧ ((∃ k, n = .integer k) ∨ ∃ x, n = .real x) := by
  have spelled : ofNumericText? s = some n := by
    cases affinity
    case integer | real | numeric => exact h
    case text | blob => cases h
  refine ⟨spelled, ?_⟩
  simp only [ofNumericText?] at spelled
  split at spelled
  · exact .inl ⟨_, (Option.some.inj spelled).symm⟩
  · split at spelled
    · split at spelled
      · exact .inr ⟨_, (Option.some.inj spelled).symm⟩
      · cases spelled
    · cases spelled

/-- **What stands for no date comes back as it was stored, unless it is a text that is read as a
number for which there is no date.**  Of these texts only those that spell the mark for "not set"
are meant to come back as a number. -/
theorem survives_iff (affinity : Affinity) (c : Cell) : c.Survives affinity ↔
    ∀ s n, c = .text s → numberIn? affinity s = some n →
      (numberDate? affinity n).isSome ∨ affinity = .integer ∧ n = .integer 0 := by
  constructor
  · rintro survives s n rfl number
    have read := decode_number number
    obtain ⟨-, kind⟩ := numberIn?_cases number
    cases dated : numberDate? affinity n with
    | some d => exact .inl rfl
    | none =>
      rw [dated] at read
      rcases survives with ⟨d, date⟩ | same | ⟨seconds, -, -, -, zero⟩
      · rw [read] at date
        rcases kind with ⟨k, rfl⟩ | ⟨x, rfl⟩ <;> cases date
      · rw [read] at same
        rcases kind with ⟨k, rfl⟩ | ⟨x, rfl⟩ <;> cases same
      · rw [read] at zero
        rcases kind with ⟨k, rfl⟩ | ⟨x, rfl⟩ <;> cases zero
        exact .inr ⟨seconds, rfl⟩
  · intro dated
    have unchanged {d : Option Instant} (read : c.decode affinity = dateOr d c.toValue) :
        c.Survives affinity := by
      rcases dateOr_eq d c.toValue with ⟨e, date⟩ | same
      · exact .inl ⟨e, read.trans date⟩
      · exact .inr (.inl (read.trans same))
    cases c with
    | text s =>
      cases number : numberIn? affinity s with
      | none => exact unchanged (decode_noNumber number)
      | some n =>
        have read := decode_number number
        rcases dated s n rfl number with there | ⟨rfl, rfl⟩
        · obtain ⟨d, at_d⟩ := Option.isSome_iff_exists.mp there
          rw [at_d] at read
          exact .inl ⟨d, read⟩
        · have zero := (ofNumericText?_eq_zero_iff s).mp number
          exact .inr (.inr ⟨rfl, s, rfl, zero, read⟩)
    | null | integer | real | blob =>
      exact unchanged (decode_of_ne_text (by rintro s ⟨⟩) affinity)

/-- A text of the first count of seconds that is behind all dates comes back as that count. -/
theorem not_survives_secondsText :
    (Cell.text "8210266876800").decode .integer = .integer 8210266876800 ∧
      ¬ (Cell.text "8210266876800").Survives .integer := by
  have read : (Cell.text "8210266876800").decode .integer = .integer 8210266876800 := rfl
  refine ⟨read, ?_⟩
  rintro (⟨d, date⟩ | same | ⟨-, -, -, -, zero⟩)
  · cases read.symm.trans date
  · cases read.symm.trans same
  · have number : (8210266876800 : Int64) = 0 := Value.integer.inj (read.symm.trans zero)
    exact absurd number (by decide)

end Cell

end FilterStore
