import FilterStore.Calendar.Stamp
import FilterStore.Proofs.Calendar.Date
import FilterStore.Proofs.Text.Trim
import Mathlib.Algebra.Group.Nat.Defs

/-!
# Instants through their texts

An instant is the one that its date and its clock show together, a leap second included.  So a text
is read back to the instant it was written from, down to the unit that its layout has, if every
field of the layout is read back to its number.

Reading a field takes as many digits as there are, up to a width.  In a written text every number
stands in front of a character that is no digit, or at the end, so what is taken is the whole
number and nothing of what follows it.

There are two layouts.  The engine's has no zone, and its text is first read as if it had one.  That
must fail: where a year has four digits it fails for want of the zone, and where a year has a sign
it fails at the sign.  The text is then read without a zone, in every year
(`Instant.parse?_engineText`).

The interchange layout has milliseconds and a zone.  Its text is read at once where the year has
four digits.  Behind a sign it is not, and none of the layouts without a zone takes it either, since
something is left over behind the time (`Instant.parse?_interchange`).
-/

namespace FilterStore.Calendar

open Number (digitChars ofDigitChars)
open Text (isBlank trimStart trimEnd trimChars)

/-! ## Date and clock -/

theorem Instant.ofUnix?_self (i : Instant) : Instant.ofUnix? i.seconds i.nanos = some i :=
  dif_pos ⟨i.first_le, i.le_last, i.nanos_lt, i.at_leap⟩

theorem Instant.isValid_date (i : Instant) : i.date.isValid = true := Date.isValid_ofDays _

/-- The second of Unix time that a date and a clock show. -/
def shownSecond (d : Date) (c : Clock) : Int :=
  d.toDays * 86400 + (c.hour * 3600 + c.minute * 60 + min c.second 59 : Nat)

/-- Date and clock show an instant if there is one at their second. -/
theorem Instant.ofClock?_of_valid {d : Date} {c : Clock} {i : Instant} (hd : d.isValid = true)
    (hour : c.hour < 24) (minute : c.minute < 60) (leap : c.second ≤ 60)
    (seconds : shownSecond d c = i.seconds)
    (nanos : (if c.second = 60 then c.nanos + second else c.nanos) = i.nanos) :
    Instant.ofClock? d c 0 = some i := by
  have valid : (d.isValid && decide (c.hour < 24) && decide (c.minute < 60) &&
      decide (c.second ≤ 60)) = true := by
    simp only [Bool.and_eq_true, decide_eq_true_eq]
    exact ⟨⟨⟨hd, hour⟩, minute⟩, leap⟩
  rw [Instant.ofClock?, if_pos valid]
  show (Instant.ofUnix? (shownSecond d c) _).bind _ = _
  rw [seconds, nanos, Instant.ofUnix?_self]
  show Instant.ofUnix? (i.seconds - 0) _ = _
  rw [Int.sub_zero, Instant.ofUnix?_self]

/-- **An instant is the one that its date and its clock show.** -/
theorem Instant.ofClock?_date_clock (i : Instant) :
    Instant.ofClock? i.date i.clock 0 = some i := by
  have parts : (i.nanos / second = 0 ∧ i.nanos % second = i.nanos) ∨
      (i.seconds % 60 = 59 ∧ i.nanos / second = 1 ∧ i.nanos % second + second = i.nanos) := by
    by_cases inside : i.nanos < second
    · exact .inl ⟨Nat.div_eq_of_lt inside, Nat.mod_eq_of_lt inside⟩
    · have one : i.nanos / second = 1 :=
        Nat.div_eq_of_lt_le (by omega) (by have := i.nanos_lt; omega)
      have split := Nat.div_add_mod i.nanos second
      rw [one] at split
      exact .inr ⟨i.at_leap (Nat.not_lt.mp inside), one, by omega⟩
  obtain ⟨day, hday⟩ : ∃ day, i.secondOfDay = day := ⟨_, rfl⟩
  have fits : (day : Int) = i.seconds % 86400 := by
    rw [← hday]
    exact Int.toNat_of_nonneg (Int.emod_nonneg _ (by decide))
  have clock : i.clock = ⟨day / 3600, day / 60 % 60, day % 60 + i.nanos / second,
      i.nanos % second⟩ := by
    rw [← hday]
    rfl
  rw [clock]
  apply Instant.ofClock?_of_valid i.isValid_date
  case hour => show day / 3600 < 24; omega
  case minute => show day / 60 % 60 < 60; omega
  case leap => show day % 60 + i.nanos / second ≤ 60; omega
  case seconds =>
    have shown : day / 3600 * 3600 + day / 60 % 60 * 60 +
        min (day % 60 + i.nanos / second) 59 = day := by
      omega
    have days : i.date.toDays = i.seconds / 86400 := Date.toDays_ofDays _
    show i.date.toDays * 86400 + ((day / 3600 * 3600 + day / 60 % 60 * 60 +
      min (day % 60 + i.nanos / second) 59 : Nat) : Int) = i.seconds
    rw [shown, days, fits]
    exact Int.ediv_mul_add_emod ..
  case nanos =>
    show (if day % 60 + i.nanos / second = 60 then i.nanos % second + second
      else i.nanos % second) = i.nanos
    split <;> omega

/-- The instant with its nanoseconds cut down to a multiple of a unit.  It stays inside a leap
second. -/
def Instant.truncate (i : Instant) (unit : Nat) : Instant where
  seconds := i.seconds
  nanos := i.nanos / unit * unit
  first_le := i.first_le
  le_last := i.le_last
  nanos_lt := lt_of_le_of_lt (Nat.div_mul_le_self ..) i.nanos_lt
  at_leap h := i.at_leap (h.trans (Nat.div_mul_le_self ..))

/-- The instant with the fraction of its second dropped. -/
def Instant.whole (i : Instant) : Instant := i.truncate second

/-- The nanoseconds of a millisecond. -/
def millisecond : Nat := 1000000

/-- The instant with what is less than a millisecond dropped. -/
def Instant.wholeMillis (i : Instant) : Instant := i.truncate millisecond

theorem Instant.whole_of_nanos {i : Instant} (h : i.nanos = 0) : i.whole = i := by
  obtain ⟨seconds, nanos, _, _, _, _⟩ := i
  cases h
  simp only [Instant.whole, Instant.truncate, Nat.zero_div, Nat.zero_mul]

theorem Instant.date_truncate (i : Instant) (unit : Nat) : (i.truncate unit).date = i.date := rfl

/-- A clock counts in every unit that a second is made of. -/
theorem Instant.clock_truncate (i : Instant) {unit : Nat} (h : unit ∣ second) :
    (i.truncate unit).clock = { i.clock with nanos := i.clock.nanos / unit * unit } := by
  obtain ⟨parts, split⟩ := h
  have positive : 0 < unit := by
    rcases Nat.eq_zero_or_pos unit with rfl | positive
    · rw [Nat.zero_mul] at split
      cases split
    · exact positive
  have seconds : i.nanos / unit * unit / second = i.nanos / second := by
    rw [split, ← Nat.div_div_eq_div_mul, Nat.mul_div_cancel _ positive, Nat.div_div_eq_div_mul]
  have nanos : i.nanos / unit * unit % second = i.nanos % second / unit * unit := by
    rw [split, Nat.mul_comm _ unit, Nat.mul_mod_mul_left, Nat.mod_mul_right_div_self, Nat.mul_comm]
  simp only [Instant.clock, Instant.truncate, Instant.secondOfDay, seconds, nanos]

theorem Instant.clock_whole (i : Instant) : i.whole.clock = { i.clock with nanos := 0 } := by
  have none : i.clock.nanos / second * second = 0 := by
    have short : i.clock.nanos < second := Nat.mod_lt _ (by decide)
    rw [Nat.div_eq_of_lt short, Nat.zero_mul]
  rw [Instant.whole, i.clock_truncate (Nat.dvd_refl second), none]

/-! ## Digits -/

/-- A text of digits that spells a number. -/
structure Spells (n : Nat) (ds : List Char) : Prop where
  digits : ∀ c ∈ ds, c.isDigit = true
  ne_nil : ds ≠ []
  value : ofDigitChars ds = n

/-- Only digits spell a number. -/
theorem Spells.notMem {n : Nat} {ds : List Char} (h : Spells n ds) {c : Char}
    (hc : c.isDigit = false) : c ∉ ds := fun mem => by
  rw [h.digits c mem] at hc
  cases hc

theorem spells_padded (width n : Nat) : Spells n (padded width n) where
  digits c hc := by
    rcases List.mem_append.mp hc with zero | digit
    · rw [List.eq_of_mem_replicate zero]
      decide
    · exact Nat.isDigit_of_mem_toDigits (by decide) (by decide) digit
  ne_nil h := Nat.toDigits_ne_nil (List.append_eq_nil_iff.mp h).2
  value := by
    show Nat.ofDigitChars 10 (List.replicate _ '0' ++ Nat.toDigits 10 n) 0 = n
    rw [Nat.ofDigitChars_append, Nat.ofDigitChars_replicate_zero, Nat.mul_zero,
      Nat.ofDigitChars_ten_toDigits]

theorem length_padded {width n : Nat} (hwidth : 0 < width) (h : n < 10 ^ width) :
    (padded width n).length = width := by
  have short : (Nat.toDigits 10 n).length ≤ width :=
    (Nat.length_toDigits_le_iff (by decide) hwidth).mpr h
  rw [padded, List.length_append, List.length_replicate]
  exact Nat.sub_add_cancel short

theorem not_isBlank_of_isDigit {c : Char} (hc : c.isDigit = true) : isBlank c = false := by
  rw [Char.isDigit_iff_toNat] at hc
  have zero : '0'.toNat = 48 := rfl
  have nine : '9'.toNat = 57 := rfl
  rw [← Bool.not_eq_true]
  simp only [isBlank, Bool.or_eq_true, Bool.and_eq_true, decide_eq_true_eq, beq_iff_eq]
  omega

/-- No digit comes next. -/
def Ends (rest : List Char) : Prop := rest.takeWhile Char.isDigit = []

theorem ends_nil : Ends [] := rfl

theorem ends_cons {c : Char} (hc : c.isDigit = false) (rest : List Char) : Ends (c :: rest) := by
  rw [Ends, List.takeWhile_cons, hc]
  rfl

section Reading

variable {n least most : Nat} {ds rest : List Char}

/-- A number is read back if it fits and no digit comes behind it. -/
theorem readDigits_append (h : Spells n ds) (hrest : Ends rest) (hleast : least ≤ ds.length)
    (hmost : ds.length ≤ most) : readDigits least most (ds ++ rest) = some (n, rest) := by
  have taken : ((ds ++ rest).takeWhile Char.isDigit).take most = ds := by
    rw [List.takeWhile_append_of_pos h.digits, show rest.takeWhile Char.isDigit = [] from hrest,
      List.append_nil, List.take_of_length_le hmost]
  simp only [readDigits, taken, if_neg (Nat.not_lt.mpr hleast), h.value, List.drop_left]

theorem trimStart_append (h : Spells n ds) (rest : List Char) :
    trimStart (ds ++ rest) = ds ++ rest := by
  obtain ⟨c, cs, rfl⟩ := List.exists_cons_of_ne_nil h.ne_nil
  have solid := not_isBlank_of_isDigit (h.digits c List.mem_cons_self)
  rw [trimStart, List.cons_append, List.dropWhile_cons, solid]
  rfl

theorem trimEnd_concat {c : Char} (solid : isBlank c = false) (before : List Char) :
    trimEnd (before ++ [c]) = before ++ [c] := by
  rw [trimEnd, List.reverse_append, List.reverse_singleton, List.singleton_append,
    List.dropWhile_cons, solid, if_neg Bool.false_ne_true, List.reverse_cons, List.reverse_reverse]

theorem trimEnd_append (h : Spells n ds) (before : List Char) :
    trimEnd (before ++ ds) = before ++ ds := by
  obtain ⟨cs, c, rfl⟩ := (List.eq_nil_or_concat ds).resolve_left h.ne_nil
  have digit : c.isDigit = true := h.digits c (by simp)
  rw [List.concat_eq_append, ← List.append_assoc]
  exact trimEnd_concat (not_isBlank_of_isDigit digit) _

/-- A text of two digits that spells a number. -/
structure TwoDigits (n : Nat) (ds : List Char) : Prop extends Spells n ds where
  length_eq : ds.length = 2

theorem twoDigits_padded (h : n < 100) : TwoDigits n (padded 2 n) :=
  ⟨spells_padded 2 n, length_padded (by decide) h⟩

/-- Two digits are read back where two are expected. -/
theorem TwoDigits.read (h : TwoDigits n ds) (hrest : Ends rest) :
    readDigits 2 2 (ds ++ rest) = some (n, rest) :=
  readDigits_append h.toSpells hrest h.length_eq.ge h.length_eq.le

/-- The same where blanks and a single digit would do too. -/
theorem TwoDigits.read_trimStart (h : TwoDigits n ds) (hrest : Ends rest) :
    readDigits 1 2 (trimStart (ds ++ rest)) = some (n, rest) := by
  have one : 1 ≤ ds.length := by
    rw [h.length_eq]
    decide
  rw [trimStart_append h.toSpells]
  exact readDigits_append h.toSpells hrest one h.length_eq.le

/-- A fraction is read back in nanoseconds. -/
theorem readFraction_append (h : Spells n ds) (hrest : Ends rest) (short : ds.length ≤ 9) :
    readFraction (ds ++ rest) = some (n * Nat.pow 10 (9 - ds.length), rest) := by
  have taken : (ds ++ rest).takeWhile Char.isDigit = ds := by
    rw [List.takeWhile_append_of_pos h.digits, show rest.takeWhile Char.isDigit = [] from hrest,
      List.append_nil]
  have dropped : (ds ++ rest).dropWhile Char.isDigit = rest := by
    have split := rest.takeWhile_append_dropWhile (p := Char.isDigit)
    rw [show rest.takeWhile Char.isDigit = [] from hrest, List.nil_append] at split
    rw [List.dropWhile_append_of_pos h.digits, split]
  have filled : ds.isEmpty = false := List.isEmpty_eq_false_iff.mpr h.ne_nil
  simp only [readFraction, Number.spanDigits, taken, dropped, filled, Bool.false_eq_true, if_false,
    List.take_of_length_le short, h.value]

end Reading

/-! ## Years -/

/-- A year has four digits, or a sign and then digits. -/
theorem yearText_cases (year : Int) :
    (0 ≤ year ∧ year ≤ 9999 ∧ yearText year = padded 4 year.toNat) ∨
      (year < 0 ∧ yearText year = '-' :: padded 4 year.natAbs) ∨
      (9999 < year ∧ yearText year = '+' :: padded 4 year.natAbs) := by
  by_cases plain : 0 ≤ year ∧ year ≤ 9999
  · exact .inl ⟨plain.1, plain.2, if_pos plain⟩
  · by_cases before : year < 0
    · exact .inr (.inl ⟨before, by rw [yearText, if_neg plain, if_pos before]⟩)
    · exact .inr (.inr ⟨by omega, by rw [yearText, if_neg plain, if_neg before]⟩)

/-- A year is read back. -/
theorem readYear_yearText (year : Int) {rest : List Char} (hrest : Ends rest) :
    readYear (trimStart (yearText year ++ rest)) = some (year, rest) := by
  have signed : ∀ n : Nat,
      readDigits 1 (padded 4 n ++ rest).length (padded 4 n ++ rest) = some (n, rest) := by
    intro n
    have spells := spells_padded 4 n
    refine readDigits_append spells hrest (List.length_pos_of_ne_nil spells.ne_nil) ?_
    rw [List.length_append]
    exact Nat.le_add_right ..
  rcases yearText_cases year with ⟨start, stop, text⟩ | ⟨before, text⟩ | ⟨behind, text⟩
  · have spells := spells_padded 4 year.toNat
    have four : (padded 4 year.toNat).length = 4 := length_padded (by decide) (by omega)
    rw [text, trimStart_append spells]
    have unsigned : readYear (padded 4 year.toNat ++ rest) =
        (readDigits 1 4 (padded 4 year.toNat ++ rest)).map fun r => ((r.1 : Int), r.2) := by
      obtain ⟨c, cs, written⟩ := List.exists_cons_of_ne_nil spells.ne_nil
      have digit := spells.digits c (written ▸ List.mem_cons_self)
      rw [written, List.cons_append]
      unfold readYear
      split
      · rename_i minus
        cases minus
        exact absurd digit (by decide)
      · rename_i plus
        cases plus
        exact absurd digit (by decide)
      · rfl
    rw [unsigned, readDigits_append spells hrest (by omega) four.le, Option.map_some,
      Int.toNat_of_nonneg start]
  · rw [text]
    show (readDigits 1 (padded 4 year.natAbs ++ rest).length (padded 4 year.natAbs ++ rest)).map
      (fun r => (-(r.1 : Int), r.2)) = some (year, rest)
    rw [signed, Option.map_some, Int.ofNat_natAbs_of_nonpos (Int.le_of_lt before), Int.neg_neg]
  · rw [text]
    show (readDigits 1 (padded 4 year.natAbs ++ rest).length (padded 4 year.natAbs ++ rest)).map
      (fun r => ((r.1 : Int), r.2)) = some (year, rest)
    rw [signed, Option.map_some, Int.natAbs_of_nonneg (by omega)]

/-! ## Date and time in six fields -/

/-- Six texts, laid out as the fields of a date and a time. -/
def layOut (separator : Char) (year month day hour minute second : List Char) : List Char :=
  year ++ '-' :: month ++ '-' :: day ++ separator :: hour ++ ':' :: minute ++ ':' :: second

section LayOut

variable {yy mm dd h m s : List Char} {year : Int} {month day hour minute second : Nat}

/-- Read from the left, a field comes first and all others behind it. -/
theorem layOut_eq (separator : Char) (yy mm dd h m s : List Char) :
    layOut separator yy mm dd h m s = yy ++ '-' :: (mm ++ '-' :: (dd ++ separator ::
      (h ++ ':' :: (m ++ ':' :: (s ++ []))))) := by
  simp only [layOut, List.append_assoc, List.cons_append, List.append_nil]

/-- The date of a layout is read back, whatever comes behind it. -/
theorem readLayout_date
    (hyear : ∀ rest, Ends rest → readYear (trimStart (yy ++ rest)) = some (year, rest))
    (hmonth : TwoDigits month mm) (hday : TwoDigits day dd) {rest : List Char} (hrest : Ends rest)
    (fs : List Field) :
    readLayout (dateLayout ++ fs) .empty (yy ++ '-' :: (mm ++ '-' :: (dd ++ rest))) =
      readLayout fs ⟨⟨year, month, day⟩, ⟨0, 0, 0, 0⟩⟩ rest := by
  simp only [dateLayout, List.cons_append, List.nil_append, readLayout, Field.read, Option.map_some,
    Option.bind_some, if_true, Reading.empty, hyear _ (ends_cons (c := '-') rfl _),
    hmonth.read_trimStart (ends_cons (c := '-') rfl _), hday.read_trimStart hrest]

/-- The time of a layout is read back down to the second. -/
theorem readLayout_time (hhour : TwoDigits hour h) (hminute : TwoDigits minute m)
    (hsecond : TwoDigits second s) {rest : List Char} (hrest : Ends rest) (r : Reading) :
    readLayout secondLayout r (h ++ ':' :: (m ++ ':' :: (s ++ rest))) =
      readLayout [.fraction] { r with clock := ⟨hour, minute, second, r.clock.nanos⟩ } rest := by
  simp only [secondLayout, minuteLayout, List.cons_append, List.nil_append, readLayout, Field.read,
    Option.map_some, Option.bind_some, if_true,
    hhour.read_trimStart (ends_cons (c := ':') rfl _),
    hminute.read_trimStart (ends_cons (c := ':') rfl _), hsecond.read_trimStart hrest]

theorem readLayout_layOut
    (hyear : ∀ rest, Ends rest → readYear (trimStart (yy ++ rest)) = some (year, rest))
    (hmonth : TwoDigits month mm) (hday : TwoDigits day dd) (hhour : TwoDigits hour h)
    (hminute : TwoDigits minute m) (hsecond : TwoDigits second s) :
    readLayout (dateLayout ++ .blanks :: secondLayout) .empty (layOut ' ' yy mm dd h m s) =
      some ⟨⟨year, month, day⟩, ⟨hour, minute, second, 0⟩⟩ := by
  have blanks rest : trimStart (' ' :: (h ++ rest)) = h ++ rest :=
    trimStart_append hhour.toSpells rest
  have time := fun r => readLayout_time hhour hminute hsecond ends_nil r
  rw [layOut_eq, readLayout_date hyear hmonth hday (ends_cons (c := ' ') rfl _)]
  simp only [readLayout, Field.read, Option.bind_some, blanks, time]

/-- What has no blank behind its date, a zone behind its time, is read in no layout. -/
theorem readNaive_layOut
    (hyear : ∀ rest, Ends rest → readYear (trimStart (yy ++ rest)) = some (year, rest))
    (hmonth : TwoDigits month mm) (hday : TwoDigits day dd) (hhour : TwoDigits hour h)
    (hminute : TwoDigits minute m) (hsecond : TwoDigits second s) {n : Nat} {ds : List Char}
    (hfraction : Spells n ds) (short : ds.length ≤ 9) :
    readNaive (layOut 'T' yy mm dd h m s ++ '.' :: (ds ++ ['Z'])) = none := by
  have zone : Ends ['Z'] := ends_cons (c := 'Z') rfl []
  have ahead : ∀ fs, readLayout (dateLayout ++ fs) .empty
      (layOut 'T' yy mm dd h m s ++ '.' :: (ds ++ ['Z'])) =
        readLayout fs ⟨⟨year, month, day⟩, ⟨0, 0, 0, 0⟩⟩
          ('T' :: (h ++ ':' :: (m ++ ':' :: (s ++ '.' :: (ds ++ ['Z']))))) := by
    intro fs
    rw [← readLayout_date hyear hmonth hday (ends_cons (c := 'T') rfl _), layOut_eq]
    simp only [List.append_assoc, List.cons_append, List.nil_append]
  have behind : ∀ r, readLayout secondLayout r
      (h ++ ':' :: (m ++ ':' :: (s ++ '.' :: (ds ++ ['Z'])))) = none := by
    intro r
    rw [readLayout_time hhour hminute hsecond (ends_cons (c := '.') rfl _)]
    simp only [readLayout, Field.read, readFraction_append hfraction zone short, Option.map_some,
      Option.bind_some]
  have unread : ∀ layout ∈ layouts, readLayout layout .empty
      (layOut 'T' yy mm dd h m s ++ '.' :: (ds ++ ['Z'])) = none := by
    simp only [layouts, List.mem_cons, List.not_mem_nil, or_false]
    rintro layout (rfl | rfl | rfl | rfl)
    -- Without a `T` in the layout, the one in the text stands where an hour or the end should be.
    · exact (ahead _).trans rfl
    · exact (ahead _).trans (behind _)
    · exact (ahead _).trans rfl
    · exact (ahead []).trans rfl
  rw [readNaive, List.findSome?_eq_none_iff]
  intro layout known
  rw [unread layout known, Option.bind_none]

/-- What is read of an instant behind its six fields if it has a zone: a fraction where a point
comes next, the zone, and nothing else. -/
def readZoned (d : Date) (hour minute second : Nat) (cs : List Char) : Option Instant :=
  (if cs.head? = some '.' then readFraction cs.tail else some (0, cs)).bind fun fraction =>
    (readZone fraction.2).bind fun zone =>
      if zone.2.isEmpty then Instant.ofClock? d ⟨hour, minute, second, fraction.1⟩ zone.1 else none

/-- The six fields are read back from a text with a zone. -/
theorem readRfc3339_layOut {n : Nat} (hyear : Spells n yy) (four : yy.length = 4)
    (hmonth : TwoDigits month mm) (hday : TwoDigits day dd) (hhour : TwoDigits hour h)
    (hminute : TwoDigits minute m) (hsecond : TwoDigits second s) {separator : Char}
    (hseparator : separator = 'T' ∨ separator = ' ') {rest : List Char} (hrest : Ends rest) :
    readRfc3339 (layOut separator yy mm dd h m s ++ rest) =
      readZoned ⟨n, month, day⟩ hour minute second rest := by
  have step : ∀ {α : Type} {x : Option α} {a : α} {f : α → Option Instant} {i : Option Instant},
      x = some a → f a = i → (x >>= f) = i := by
    rintro α _ a f i rfl h
    exact h
  have sign : ∀ {p : Char → Bool} {c : Char} {rest : List Char}, p c = true →
      expect p (c :: rest) = some rest := fun h => if_pos h
  have apart : (separator == 'T' || separator == 't' || separator == ' ') = true := by
    rcases hseparator with rfl | rfl <;> rfl
  have between : separator.isDigit = false := by
    rcases hseparator with rfl | rfl <;> rfl
  rw [layOut_eq]
  simp only [List.append_assoc, List.cons_append, List.nil_append]
  rw [readRfc3339]
  refine step (readDigits_append hyear (ends_cons (c := '-') rfl _) four.ge four.le) ?_
  refine step (sign rfl) (step (hmonth.read (ends_cons (c := '-') rfl _)) ?_)
  refine step (sign rfl) (step (hday.read (ends_cons between _)) ?_)
  refine step (sign apart) (step (hhour.read (ends_cons (c := ':') rfl _)) ?_)
  refine step (sign rfl) (step (hminute.read (ends_cons (c := ':') rfl _)) ?_)
  refine step (sign rfl) (step (hsecond.read hrest) ?_)
  cases rest with
  | nil => rfl
  | cons c rest =>
    by_cases point : c = '.'
    · rw [point]
      rfl
    · have plain : (c :: rest).head? ≠ some '.' := fun h => point (Option.some.inj h)
      rw [readZoned, if_neg plain]
      dsimp only
      split
      · rename_i pointed
        exact absurd (List.cons.inj pointed).1 point
      · rfl

theorem trimEnd_layOut (separator : Char) {n : Nat} (hsecond : Spells n s) :
    trimEnd (layOut separator yy mm dd h m s) = layOut separator yy mm dd h m s := by
  have last : s <:+ layOut separator yy mm dd h m s :=
    (List.suffix_cons ':' s).trans (List.suffix_append _ _)
  obtain ⟨before, text⟩ := last
  rw [← text]
  exact trimEnd_append hsecond before

theorem length_layOut (a b : Char) :
    (layOut a yy mm dd h m s).length = (layOut b yy mm dd h m s).length := by
  simp only [layOut, List.length_append, List.length_cons]

theorem mem_layOut {c separator : Char} (hc : c ∈ layOut separator yy mm dd h m s) :
    c = '-' ∨ c = separator ∨ c = ':' ∨ c ∈ yy ∨ c ∈ mm ∨ c ∈ dd ∨ c ∈ h ∨ c ∈ m ∨ c ∈ s := by
  simp only [layOut, List.mem_append, List.mem_cons] at hc
  tauto

end LayOut

/-! ## The engine's layout -/

section Stamp

variable (i : Instant)

/-- The fields of a clock and of a date have at most two digits each. -/
theorem Instant.fields_lt : i.date.month < 100 ∧ i.date.day < 100 ∧ i.clock.hour < 100 ∧
    i.clock.minute < 100 ∧ i.clock.second < 100 := by
  have date := i.isValid_date
  simp only [Date.isValid, Bool.and_eq_true, decide_eq_true_eq] at date
  obtain ⟨⟨⟨-, month⟩, -⟩, day⟩ := date
  have days : daysInMonth i.date.year i.date.month ≤ 31 := by
    unfold daysInMonth
    split <;> (try split) <;> omega
  have short : i.secondOfDay < 86400 := by
    have bound := Int.emod_lt_of_pos i.seconds (show (0 : Int) < 86400 by decide)
    rw [Instant.secondOfDay]
    omega
  have leap : i.nanos / second < 2 := Nat.div_lt_of_lt_mul (by have := i.nanos_lt; omega)
  refine ⟨by omega, by omega, ?_, ?_, ?_⟩
  · show i.secondOfDay / 3600 < 100
    omega
  · show i.secondOfDay / 60 % 60 < 100
    omega
  · show i.secondOfDay % 60 + i.nanos / second < 100
    omega

theorem Instant.stamp_eq (separator : Char) :
    i.stamp separator = layOut separator (yearText i.date.year) (padded 2 i.date.month)
      (padded 2 i.date.day) (padded 2 i.clock.hour) (padded 2 i.clock.minute)
        (padded 2 i.clock.second) := rfl

/-- The engine's text is shorter than the interchange text. -/
theorem Instant.engineText_ne_interchange : i.engineText ≠ i.interchange := by
  intro same
  have lengths := congrArg List.length (String.ofList_injective same)
  rw [List.append_assoc, List.length_append, i.stamp_eq ' ', length_layOut ' ' 'T',
    ← i.stamp_eq] at lengths
  exact absurd lengths (by simp)

theorem Instant.readLayout_stamp :
    readLayout (dateLayout ++ .blanks :: secondLayout) .empty (i.stamp ' ') =
      some ⟨i.date, { i.clock with nanos := 0 }⟩ := by
  obtain ⟨month, day, hour, minute, second⟩ := i.fields_lt
  exact readLayout_layOut (fun _ => readYear_yearText i.date.year) (twoDigits_padded month)
    (twoDigits_padded day) (twoDigits_padded hour) (twoDigits_padded minute)
      (twoDigits_padded second)

/-- Behind a year of four digits the six fields are read as if a zone came next; behind any other
year nothing is. -/
theorem Instant.readRfc3339_stamp {separator : Char} (hseparator : separator = 'T' ∨ separator = ' ')
    {rest : List Char} (hrest : Ends rest) :
    readRfc3339 (i.stamp separator ++ rest) =
      if 0 ≤ i.date.year ∧ i.date.year ≤ 9999 then
        readZoned i.date i.clock.hour i.clock.minute i.clock.second rest
      else none := by
  obtain ⟨month, day, hour, minute, second⟩ := i.fields_lt
  rw [i.stamp_eq]
  rcases yearText_cases i.date.year with ⟨start, stop, text⟩ | ⟨before, text⟩ | ⟨behind, text⟩
  · have four : (padded 4 i.date.year.toNat).length = 4 := length_padded (by decide) (by omega)
    rw [if_pos ⟨start, stop⟩, text, readRfc3339_layOut (spells_padded 4 _) four
      (twoDigits_padded month) (twoDigits_padded day) (twoDigits_padded hour)
        (twoDigits_padded minute) (twoDigits_padded second) hseparator hrest,
          Int.toNat_of_nonneg start]
  · rw [if_neg (by omega), text, layOut_eq]
    rfl
  · rw [if_neg (by omega), text, layOut_eq]
    rfl

/-- A written year starts with a digit or a sign. -/
theorem trimStart_yearText (year : Int) (rest : List Char) :
    trimStart (yearText year ++ rest) = yearText year ++ rest := by
  rcases yearText_cases year with ⟨-, -, text⟩ | ⟨-, text⟩ | ⟨-, text⟩
  · rw [text]
    exact trimStart_append (spells_padded 4 _) rest
  · rw [text]
    rfl
  · rw [text]
    rfl

theorem Instant.trimStart_stamp (separator : Char) (rest : List Char) :
    trimStart (i.stamp separator ++ rest) = i.stamp separator ++ rest := by
  rw [i.stamp_eq, layOut_eq, List.append_assoc, trimStart_yearText]

/-- A written instant has no slash. -/
theorem Instant.slash_notMem_stamp {separator : Char} (hseparator : '/' ≠ separator) :
    '/' ∉ i.stamp separator := by
  have digits : ∀ width n, '/' ∉ padded width n := fun width n =>
    (spells_padded width n).notMem rfl
  have year : '/' ∉ yearText i.date.year := by
    rcases yearText_cases i.date.year with ⟨-, -, text⟩ | ⟨-, text⟩ | ⟨-, text⟩ <;>
      simp [text, digits]
  intro slash
  have somewhere := mem_layOut slash
  simp [digits, year, hseparator] at somewhere

theorem map_slash_of_notMem {cs : List Char} (h : '/' ∉ cs) :
    cs.map (fun c => if c = '/' then '-' else c) = cs := by
  refine (List.map_congr_left fun c hc => ?_).trans (List.map_id _)
  exact if_neg fun (slash : c = '/') => h (slash ▸ hc)

theorem Instant.readNaive_stamp : readNaive (i.stamp ' ') = some i.whole := by
  have clock : Instant.ofClock? i.date { i.clock with nanos := 0 } 0 = some i.whole := by
    rw [← i.clock_whole]
    exact i.whole.ofClock?_date_clock
  rw [readNaive, layouts, List.findSome?_cons, i.readLayout_stamp, Option.bind_some, clock]

/-- **What an instant is written as for the engine is read back to the second.** -/
theorem Instant.parse?_engineText : Instant.parse? i.engineText = some i.whole := by
  have trimmed : trimChars (i.stamp ' ') = i.stamp ' ' := by
    have start := i.trimStart_stamp ' ' []
    rw [List.append_nil] at start
    rw [trimChars, start, i.stamp_eq, trimEnd_layOut ' ' (spells_padded 2 _)]
  have zoneless := i.readRfc3339_stamp (.inr rfl) ends_nil
  rw [List.append_nil, show readZoned i.date i.clock.hour i.clock.minute i.clock.second [] = none
    from rfl, ite_self] at zoneless
  rw [Instant.parse?, Instant.engineText, String.toList_ofList, trimmed,
    map_slash_of_notMem (i.slash_notMem_stamp (by decide)), zoneless, i.readNaive_stamp,
    Option.none_or]

/-! ## The interchange layout -/

/-- The characters of the interchange text: the six fields, the milliseconds and the zone. -/
theorem Instant.toList_interchange : i.interchange.toList =
    i.stamp 'T' ++ '.' :: (padded 3 (i.clock.nanos / millisecond) ++ ['Z']) := by
  rw [Instant.interchange, String.toList_ofList, List.append_assoc]
  rfl

theorem Instant.trimChars_interchange : trimChars i.interchange.toList = i.interchange.toList := by
  rw [trimChars, i.toList_interchange, i.trimStart_stamp, ← List.cons_append, ← List.append_assoc]
  exact trimEnd_concat rfl _

/-- The milliseconds of a clock have three digits. -/
theorem Instant.length_millis : (padded 3 (i.clock.nanos / millisecond)).length = 3 := by
  have short : i.clock.nanos < second := Nat.mod_lt _ (by decide)
  exact length_padded (by decide) (Nat.div_lt_of_lt_mul short)

theorem Instant.readZoned_millis :
    readZoned i.date i.clock.hour i.clock.minute i.clock.second
      ('.' :: (padded 3 (i.clock.nanos / millisecond) ++ ['Z'])) = some i.wholeMillis := by
  have fraction := readFraction_append (spells_padded 3 (i.clock.nanos / millisecond))
    (ends_cons (c := 'Z') rfl []) (i.length_millis.trans_le (by decide))
  have clock := i.wholeMillis.ofClock?_date_clock
  rw [Instant.wholeMillis, i.clock_truncate (by decide)] at clock
  rw [readZoned, List.head?_cons, if_pos rfl, List.tail_cons, fraction, i.length_millis]
  exact clock

theorem Instant.readNaive_interchange : readNaive i.interchange.toList = none := by
  obtain ⟨month, day, hour, minute, second⟩ := i.fields_lt
  rw [i.toList_interchange, i.stamp_eq]
  exact readNaive_layOut (fun _ => readYear_yearText i.date.year) (twoDigits_padded month)
    (twoDigits_padded day) (twoDigits_padded hour) (twoDigits_padded minute)
      (twoDigits_padded second) (spells_padded 3 _) (i.length_millis.trans_le (by decide))

/-- **What an instant is written as for interchange is read back to the millisecond if its year has
four digits, and is not read at all if the year has a sign.**  Only RFC 3339 takes the zone, and it
takes no sign. -/
theorem Instant.parse?_interchange : Instant.parse? i.interchange =
    if 0 ≤ i.date.year ∧ i.date.year ≤ 9999 then some i.wholeMillis else none := by
  have noSlash : '/' ∉ i.interchange.toList := by
    have digits := (spells_padded 3 (i.clock.nanos / millisecond)).notMem (c := '/') rfl
    rw [i.toList_interchange]
    simp [i.slash_notMem_stamp, digits]
  rw [Instant.parse?, i.trimChars_interchange, map_slash_of_notMem noSlash, i.readNaive_interchange, Option.or_none,
    i.toList_interchange, i.readRfc3339_stamp (.inl rfl) (ends_cons (c := '.') rfl _),
    i.readZoned_millis]

end Stamp

end FilterStore.Calendar
