import FilterStore.Proofs.Calendar.Stamp

/-!
# Instants in their order

One instant is before another if its second is, or, in one second, its count of nanoseconds.  A leap
second is the second before it with more nanoseconds, so it comes behind that second and before the
next one.

Written instants are to be in the same order, character by character.  Within years of four digits
all fields of a layout have a fixed width, so a text is compared field by field, from the year down,
and digits of one width are in the order of their numbers.  What is left is a fact about the
calendar: dates are in the order of their days (`Date.compare_toDays`), and what a clock shows is in
the order of the seconds of a day, the sixtieth second of a minute included
(`Instant.order_fields`).  So the texts are in the order of the instants, cut down to the unit of
the layout (`Instant.textOrder_stamp`).
-/

namespace FilterStore.Calendar

open Number (ofDigitChars)

/-! ## Orderings -/

/-- Orderings are known by what is less and what is greater. -/
theorem ordering_ext {o p : Ordering} (less : o = .lt ↔ p = .lt) (greater : o = .gt ↔ p = .gt) :
    o = p := by
  cases o <;> cases p <;> simp_all

/-- Numbers are in order by their quotients, and then by their remainders. -/
theorem compare_div_mod (m n k : Nat) :
    compare m n = (compare (m / k) (n / k)).then (compare (m % k) (n % k)) := by
  rcases Nat.lt_trichotomy (m / k) (n / k) with less | same | greater
  · rw [Nat.compare_eq_lt.mpr less, Nat.compare_eq_lt.mpr (Nat.lt_of_div_lt_div less)]
    rfl
  · have hm := Nat.div_add_mod m k
    have hn := Nat.div_add_mod n k
    rw [same] at hm
    rw [Nat.compare_eq_eq.mpr same, Ordering.eq_then]
    apply ordering_ext
    · rw [Nat.compare_eq_lt, Nat.compare_eq_lt]
      omega
    · rw [Nat.compare_eq_gt, Nat.compare_eq_gt]
      omega
  · rw [Nat.compare_eq_gt.mpr greater, Nat.compare_eq_gt.mpr (Nat.lt_of_div_lt_div greater)]
    rfl

/-- Multiples are in the order of what they are multiples of. -/
theorem compare_mul (m n : Nat) {k : Nat} (hk : 0 < k) : compare (m * k) (n * k) = compare m n := by
  rw [compare_div_mod (m * k) (n * k) k, Nat.mul_div_cancel _ hk, Nat.mul_div_cancel _ hk,
    Nat.mul_mod_left, Nat.mul_mod_left, Nat.compare_eq_eq.mpr rfl, Ordering.then_eq]

/-! ## Days and dates -/

/-- The order of dates: by year, month and day. -/
def Date.order (d e : Date) : Ordering :=
  (compare d.year e.year).then ((compare d.month e.month).then (compare d.day e.day))

/-- The days that are over when a March year starts, from 1 March of year 0. -/
def marchStart (year : Int) : Int := 365 * year + year / 4 - year / 100 + year / 400

/-- The days of a March year that are over when a month starts, March being month 0. -/
def monthStart (month : Nat) : Nat := (153 * month + 2) / 5

namespace Date

variable (d e : Date)

/-- The March year a date is in. -/
def marchYear : Int := if d.month ≤ 2 then d.year - 1 else d.year

/-- The month of a date, counted from March. -/
def marchMonth : Nat := (d.month + 9) % 12

/-- The days of its March year that are over on a date. -/
def inMarchYear : Nat := monthStart d.marchMonth + d.day - 1

theorem toDays_eq : d.toDays = marchStart d.marchYear + d.inMarchYear - marchOffset := by
  have cycles : ∀ year : Int, marchStart year = year / 400 * 146097 +
      (((year % 400).toNat * 365 + (year % 400).toNat / 4 - (year % 400).toNat / 100 : Nat)) := by
    intro year
    simp only [marchStart]
    omega
  simp only [toDays, cycles, marchYear, inMarchYear, monthStart, marchMonth, daysPerCycle]
  omega

variable {d e}

/-- A day comes before the next month of its March year, and before the next March year. -/
theorem day_le (h : d.isValid = true) : 1 ≤ d.day ∧
    (d.marchMonth < 11 → monthStart d.marchMonth + d.day ≤ monthStart (d.marchMonth + 1)) ∧
      (monthStart d.marchMonth + d.day : Int) ≤
        marchStart (d.marchYear + 1) - marchStart d.marchYear := by
  have other : ∀ month < 13, 1 ≤ month → month ≠ 2 →
      (if month = 4 ∨ month = 6 ∨ month = 9 ∨ month = 11 then 30 else 31) +
        monthStart ((month + 9) % 12) ≤ monthStart ((month + 9) % 12 + 1) ∧
          monthStart ((month + 9) % 12 + 1) ≤ 337 := by decide
  simp only [isValid, Bool.and_eq_true, decide_eq_true_eq] at h
  obtain ⟨⟨⟨start, stop⟩, one⟩, days⟩ := h
  simp only [marchMonth, marchYear, marchStart]
  unfold daysInMonth at days
  by_cases february : d.month = 2
  · -- It is the last month of a March year, and as long as the year leaves room for it.
    rw [if_pos february] at days
    have before : monthStart ((d.month + 9) % 12) = 337 := by
      rw [february]
      decide
    refine ⟨one, by omega, ?_⟩
    split at days
    · rename_i leap
      rw [isLeapYear_iff] at leap
      omega
    · omega
  · rw [if_neg february] at days
    have room := other d.month (by omega) start february
    exact ⟨one, fun _ => by omega, by omega⟩

theorem monthStart_le {m n : Nat} (h : m ≤ n) : monthStart m ≤ monthStart n :=
  Nat.div_le_div_right (by omega)

theorem marchStart_le {y z : Int} (h : y ≤ z) : marchStart y ≤ marchStart z := by
  simp only [marchStart]
  omega

/-- An earlier date is on an earlier day. -/
theorem toDays_lt (hd : d.isValid = true) (he : e.isValid = true) (h : d.order e = .lt) :
    d.toDays < e.toDays := by
  obtain ⟨oneD, month, year⟩ := day_le hd
  obtain ⟨oneE, -, -⟩ := day_le he
  simp only [isValid, Bool.and_eq_true, decide_eq_true_eq] at hd he
  have inD : d.inMarchYear + 1 = monthStart d.marchMonth + d.day := by
    rw [inMarchYear]
    omega
  have inE : e.inMarchYear + 1 = monthStart e.marchMonth + e.day := by
    rw [inMarchYear]
    omega
  rw [toDays_eq, toDays_eq]
  by_cases turn : d.marchYear < e.marchYear
  · have ahead := marchStart_le (show d.marchYear + 1 ≤ e.marchYear from turn)
    omega
  · -- In one March year the months are in order, the next year's January behind December.
    simp only [order, Ordering.then_eq_lt, Int.compare_eq_lt, Int.compare_eq_eq, Nat.compare_eq_lt,
      Nat.compare_eq_eq] at h
    have same : d.marchYear = e.marchYear := by
      simp only [marchYear] at turn ⊢
      omega
    have months : d.marchMonth < e.marchMonth ∨ d.marchMonth = e.marchMonth ∧ d.day < e.day := by
      simp only [marchYear, marchMonth] at same ⊢
      omega
    rcases months with earlier | ⟨sameMonth, earlier⟩
    · have last : e.marchMonth ≤ 11 := Nat.le_of_lt_succ (Nat.mod_lt _ (by decide))
      have next := monthStart_le (show d.marchMonth + 1 ≤ e.marchMonth from earlier)
      have inMonth := month (by omega)
      rw [same]
      omega
    · rw [same]
      rw [sameMonth] at inD
      omega

/-- **Dates are in the order of their days.** -/
theorem compare_toDays (hd : d.isValid = true) (he : e.isValid = true) :
    compare d.toDays e.toDays = d.order e := by
  have swapped : e.order d = (d.order e).swap := by
    simp only [order, Ordering.swap_then, ← Std.OrientedOrd.eq_swap]
  cases h : d.order e with
  | lt => exact Int.compare_eq_lt.mpr (toDays_lt hd he h)
  | gt =>
    rw [h] at swapped
    exact Int.compare_eq_gt.mpr (toDays_lt he hd swapped)
  | eq =>
    simp only [order, Ordering.then_eq_eq, Int.compare_eq_eq, Nat.compare_eq_eq] at h
    obtain ⟨year, month, day⟩ := h
    obtain rfl : d = e := by
      cases d
      cases e
      simp_all
    exact Int.compare_eq_eq.mpr rfl

end Date

/-! ## Instants and their fields -/

namespace Instant

variable (i j : Instant)

/-- The order of instants: by second, and within a second by nanoseconds. -/
def order : Ordering := (compare i.seconds j.seconds).then (compare i.nanos j.nanos)

/-- What is less than a unit makes ties if it is left out, and does not turn instants around. -/
theorem order_truncate (unit : Nat) : (i.truncate unit).order (j.truncate unit) = i.order j ∨
    i.truncate unit = j.truncate unit := by
  by_cases same : i.truncate unit = j.truncate unit
  · exact .inr same
  left
  have cut {m n : Nat} (h : m / unit * unit < n / unit * unit) : m < n := by
    by_contra above
    exact absurd h (Nat.not_lt.mpr (Nat.mul_le_mul_right unit (Nat.div_le_div_right (by omega))))
  cases seconds : compare i.seconds j.seconds with
  | lt | gt => simp only [order, truncate, seconds, Ordering.then]
  | eq =>
    have apart : i.nanos / unit * unit ≠ j.nanos / unit * unit := fun nanos =>
      same (by simp only [truncate, nanos, Int.compare_eq_eq.mp seconds])
    simp only [order, truncate, seconds, Ordering.eq_then]
    rcases Nat.lt_or_gt_of_ne apart with less | greater
    · rw [Nat.compare_eq_lt.mpr less, Nat.compare_eq_lt.mpr (cut less)]
    · rw [Nat.compare_eq_gt.mpr greater, Nat.compare_eq_gt.mpr (cut greater)]

/-- What a clock shows besides the second of a day: whether that second is a leap second. -/
theorem leap_le : i.nanos / second ≤ 1 ∧ (i.nanos / second = 1 → i.secondOfDay % 60 = 59) := by
  have short : i.nanos / second < 2 := Nat.div_lt_of_lt_mul (by have := i.nanos_lt; omega)
  refine ⟨Nat.le_of_lt_succ short, fun one => ?_⟩
  have full := Nat.div_mul_le_self i.nanos second
  rw [one, Nat.one_mul] at full
  have leap := i.at_leap full
  rw [secondOfDay]
  omega

/-- **Dates and clocks are in the order of their instants, a leap second being the sixtieth second
of its minute.** -/
theorem order_fields : (i.date.order j.date).then ((compare i.clock.hour j.clock.hour).then
    ((compare i.clock.minute j.clock.minute).then (compare i.clock.second j.clock.second))) =
      i.whole.order j.whole := by
  have dates : i.date.order j.date = compare (i.seconds / 86400) (j.seconds / 86400) := by
    rw [← Date.compare_toDays i.isValid_date j.isValid_date, date, date, Date.toDays_ofDays,
      Date.toDays_ofDays]
  have seconds : compare i.seconds j.seconds =
      (compare (i.seconds / 86400) (j.seconds / 86400)).then
        (compare i.secondOfDay j.secondOfDay) := by
    rw [secondOfDay, secondOfDay]
    apply ordering_ext
    · rw [Ordering.then_eq_lt, Int.compare_eq_lt, Int.compare_eq_lt, Int.compare_eq_eq,
        Nat.compare_eq_lt]
      omega
    · rw [Ordering.then_eq_gt, Int.compare_eq_gt, Int.compare_eq_gt, Int.compare_eq_eq,
        Nat.compare_eq_gt]
      omega
  have minutes (s : Nat) : s % 3600 / 60 = s / 60 % 60 ∧ s % 3600 % 60 = s % 60 := by omega
  have sixties : compare i.clock.second j.clock.second =
      (compare (i.secondOfDay % 60) (j.secondOfDay % 60)).then
        (compare (i.nanos / second) (j.nanos / second)) := by
    obtain ⟨oneI, leapI⟩ := i.leap_le
    obtain ⟨oneJ, leapJ⟩ := j.leap_le
    have belowI : i.secondOfDay % 60 < 60 := Nat.mod_lt _ (by decide)
    have belowJ : j.secondOfDay % 60 < 60 := Nat.mod_lt _ (by decide)
    simp only [clock]
    generalize i.secondOfDay % 60 = m at *
    generalize j.secondOfDay % 60 = n at *
    generalize i.nanos / second = k at *
    generalize j.nanos / second = l at *
    apply ordering_ext
    · rw [Ordering.then_eq_lt, Nat.compare_eq_lt, Nat.compare_eq_lt, Nat.compare_eq_eq,
        Nat.compare_eq_lt]
      omega
    · rw [Ordering.then_eq_gt, Nat.compare_eq_gt, Nat.compare_eq_gt, Nat.compare_eq_eq,
        Nat.compare_eq_gt]
      omega
  have nanos : compare i.whole.nanos j.whole.nanos =
      compare (i.nanos / second) (j.nanos / second) := compare_mul _ _ (by decide)
  have same (i : Instant) : i.whole.seconds = i.seconds := rfl
  rw [dates, sixties, order, nanos, same, same, seconds,
    compare_div_mod i.secondOfDay j.secondOfDay 3600,
    compare_div_mod (i.secondOfDay % 3600) (j.secondOfDay % 3600) 60,
    (minutes _).1, (minutes _).2, (minutes _).1, (minutes _).2]
  simp only [Ordering.then_assoc]
  rfl

/-- Instants to the millisecond are in order by what a clock shows, and then by milliseconds. -/
theorem order_wholeMillis : i.wholeMillis.order j.wholeMillis =
    (i.whole.order j.whole).then
      (compare (i.clock.nanos / millisecond) (j.clock.nanos / millisecond)) := by
  have parts (n : Nat) : n / millisecond / 1000 = n / second ∧
      n / millisecond % 1000 = n % second / millisecond := by
    simp only [millisecond, second]
    omega
  have millis : compare i.wholeMillis.nanos j.wholeMillis.nanos =
      (compare i.whole.nanos j.whole.nanos).then
        (compare (i.clock.nanos / millisecond) (j.clock.nanos / millisecond)) := by
    refine (compare_mul _ _ (by decide)).trans ?_
    rw [compare_div_mod _ _ 1000, (parts _).1, (parts _).2, (parts _).1,
      (parts _).2]
    exact congrArg (Ordering.then · _) (compare_mul _ _ (by decide)).symm
  rw [order, order, millis, Ordering.then_assoc]
  rfl

end Instant

/-! ## Texts -/

/-- The order of texts: character by character, a text before those it is the start of. -/
def textOrder (cs ds : List Char) : Ordering :=
  compare (cs.map Char.toNat) (ds.map Char.toNat)

section Texts

variable {cs ds : List Char}

theorem textOrder_cons (c d : Char) (cs ds : List Char) :
    textOrder (c :: cs) (d :: ds) = (compare c.toNat d.toNat).then (textOrder cs ds) :=
  List.compare_cons_cons

theorem textOrder_cons_self (c : Char) (cs ds : List Char) :
    textOrder (c :: cs) (c :: ds) = textOrder cs ds := by
  rw [textOrder_cons, Nat.compare_eq_eq.mpr rfl, Ordering.eq_then]

/-- Texts of one length come first, and what follows decides a tie. -/
theorem textOrder_append (length : cs.length = ds.length) (cs' ds' : List Char) :
    textOrder (cs ++ cs') (ds ++ ds') = (textOrder cs ds).then (textOrder cs' ds') := by
  induction cs generalizing ds with
  | nil =>
    obtain rfl := List.length_eq_zero_iff.mp length.symm
    rfl
  | cons c cs ih =>
    obtain _ | ⟨d, ds⟩ := ds
    · cases length
    rw [List.cons_append, List.cons_append, textOrder_cons, textOrder_cons,
      ih (Nat.succ.inj length), Ordering.then_assoc]

/-- Digits of one length are in the order of their numbers. -/
theorem textOrder_digits (hc : ∀ c ∈ cs, c.isDigit = true) (hd : ∀ d ∈ ds, d.isDigit = true)
    (length : cs.length = ds.length) :
    textOrder cs ds = compare (ofDigitChars cs) (ofDigitChars ds) := by
  -- by what has been read before, and then by the digits
  suffices from' : ∀ m n : Nat, compare (cs.foldl (fun n c => 10 * n + (c.toNat - '0'.toNat)) m)
      (ds.foldl (fun n c => 10 * n + (c.toNat - '0'.toNat)) n) =
        (compare m n).then (textOrder cs ds) from (from' 0 0).symm
  induction cs generalizing ds with
  | nil =>
    obtain rfl := List.length_eq_zero_iff.mp length.symm
    exact fun m n => (Ordering.then_eq ..).symm
  | cons c cs ih =>
    obtain _ | ⟨d, ds⟩ := ds
    · cases length
    intro m n
    have first := Char.isDigit_iff_toNat.mp (hc c List.mem_cons_self)
    have second := Char.isDigit_iff_toNat.mp (hd d List.mem_cons_self)
    have zero : '0'.toNat = 48 := rfl
    have nine : '9'.toNat = 57 := rfl
    have step : compare (10 * m + (c.toNat - '0'.toNat)) (10 * n + (d.toNat - '0'.toNat)) =
        (compare m n).then (compare c.toNat d.toNat) := by
      apply ordering_ext
      · simp only [Ordering.then_eq_lt, Nat.compare_eq_lt, Nat.compare_eq_eq]
        omega
      · simp only [Ordering.then_eq_gt, Nat.compare_eq_gt, Nat.compare_eq_eq]
        omega
    rw [List.foldl_cons, List.foldl_cons, ih (fun x hx => hc x (List.mem_cons_of_mem c hx))
      (fun x hx => hd x (List.mem_cons_of_mem d hx)) (Nat.succ.inj length), step, textOrder_cons,
      Ordering.then_assoc]

/-- Numbers in one width are in order as texts. -/
theorem textOrder_padded {width m n : Nat} (hwidth : 0 < width) (hm : m < 10 ^ width)
    (hn : n < 10 ^ width) : textOrder (padded width m) (padded width n) = compare m n := by
  rw [textOrder_digits (spells_padded width m).digits (spells_padded width n).digits
      ((length_padded hwidth hm).trans (length_padded hwidth hn).symm),
    (spells_padded width m).value, (spells_padded width n).value]

theorem textOrder_twoDigits {m n : Nat} (hm : m < 100) (hn : n < 100) (cs ds : List Char) :
    textOrder (padded 2 m ++ cs) (padded 2 n ++ ds) = (compare m n).then (textOrder cs ds) := by
  have width {n : Nat} (h : n < 100) : (padded 2 n).length = 2 := length_padded (by decide) h
  rw [textOrder_append ((width hm).trans (width hn).symm), textOrder_padded (by decide) hm hn]

theorem textOrder_yearText {y z : Int} (hy : 0 ≤ y ∧ y ≤ 9999) (hz : 0 ≤ z ∧ z ≤ 9999)
    (cs ds : List Char) : textOrder (yearText y ++ cs) (yearText z ++ ds) =
      (compare y z).then (textOrder cs ds) := by
  have short {y : Int} (h : 0 ≤ y ∧ y ≤ 9999) : y.toNat < 10 ^ 4 := by omega
  have width {n : Nat} (h : n < 10 ^ 4) : (padded 4 n).length = 4 := length_padded (by decide) h
  have order : compare y.toNat z.toNat = compare y z := by
    apply ordering_ext
    · rw [Nat.compare_eq_lt, Int.compare_eq_lt]
      omega
    · rw [Nat.compare_eq_gt, Int.compare_eq_gt]
      omega
  rw [yearText, yearText, if_pos hy, if_pos hz,
    textOrder_append ((width (short hy)).trans (width (short hz)).symm),
    textOrder_padded (by decide) (short hy) (short hz), order]

/-- Digits have no small letters. -/
theorem map_toLower_padded (width n : Nat) :
    (padded width n).map Char.toLower = padded width n := by
  refine (List.map_congr_left fun c hc => ?_).trans (List.map_id _)
  have digit := Char.isDigit_iff_toNat.mp ((spells_padded width n).digits c hc)
  have nine : '9'.toNat = 57 := rfl
  refine dif_neg fun capital => ?_
  have first : 65 ≤ c.toNat := capital.1
  omega

end Texts

/-! ### Bytes -/

/-- The bytes of a text. -/
def bytesOf (s : String) : List Nat := s.toByteArray.data.toList.map UInt8.toNat

/-- A text in which a database sees nothing but its characters: all are ASCII, none is the null
character, and there is no space at the end. -/
structure Plain (cs : List Char) : Prop where
  ascii : ∀ c ∈ cs, c.toNat < 128
  nonzero : ∀ c ∈ cs, c ≠ Char.ofNat 0
  ends : ∀ c ∈ cs.getLast?, c ≠ ' '

section Bytes

variable {cs : List Char}

/-- ASCII characters are bytes. -/
theorem flatMap_utf8EncodeChar (h : ∀ c ∈ cs, c.toNat < 128) :
    cs.flatMap String.utf8EncodeChar = cs.map fun c => UInt8.ofNat c.toNat := by
  rw [List.map_eq_flatMap]
  refine List.flatMap_congr fun c hc => ?_
  have small : c.val.toNat ≤ 127 := Nat.le_of_lt_succ (h c hc)
  simp only [String.utf8EncodeChar, if_pos small]
  rfl

theorem bytesOf_ofList (h : ∀ c ∈ cs, c.toNat < 128) :
    bytesOf (String.ofList cs) = cs.map Char.toNat := by
  rw [bytesOf, String.toByteArray_ofList, List.utf8Encode, flatMap_utf8EncodeChar h]
  simp only [List.data_toByteArray, List.toList_toArray, List.map_map]
  refine List.map_congr_left fun c hc => ?_
  have small := h c hc
  simp only [Function.comp_apply, UInt8.toNat_ofNat']
  exact Nat.mod_eq_of_lt (by omega)

theorem utf8ByteSize_ofList (h : ∀ c ∈ cs, c.toNat < 128) :
    (String.ofList cs).utf8ByteSize = cs.length := by
  rw [String.utf8ByteSize, String.toByteArray_ofList, List.utf8Encode, flatMap_utf8EncodeChar h]
  simp

end Bytes

namespace Instant

variable (i j : Instant)

/-- The year of an instant has four digits. -/
def HasFourDigits : Prop := 0 ≤ i.date.year ∧ i.date.year ≤ 9999

variable {i j}

/-- **Within years of four digits what is written of two instants is in their order, down to the
second, and then in the order of what is written behind.** -/
theorem textOrder_stamp (hi : i.HasFourDigits) (hj : j.HasFourDigits) (separator : Char)
    (cs ds : List Char) : textOrder (i.stamp separator ++ cs) (j.stamp separator ++ ds) =
      (i.whole.order j.whole).then (textOrder cs ds) := by
  obtain ⟨monthI, dayI, hourI, minuteI, secondI⟩ := i.fields_lt
  obtain ⟨monthJ, dayJ, hourJ, minuteJ, secondJ⟩ := j.fields_lt
  rw [← order_fields, i.stamp_eq, j.stamp_eq, layOut_eq, layOut_eq]
  simp only [List.append_assoc, List.cons_append, List.append_nil, textOrder_yearText hi hj,
    textOrder_twoDigits monthI monthJ, textOrder_twoDigits dayI dayJ,
    textOrder_twoDigits hourI hourJ, textOrder_twoDigits minuteI minuteJ,
    textOrder_twoDigits secondI secondJ, textOrder_cons_self, Date.order, Ordering.then_assoc]

theorem length_stamp (hi : i.HasFourDigits) (separator : Char) :
    (i.stamp separator).length = 19 := by
  obtain ⟨start, stop⟩ := hi
  obtain ⟨month, day, hour, minute, second⟩ := i.fields_lt
  have two {n : Nat} (h : n < 100) : (padded 2 n).length = 2 := length_padded (by decide) h
  have year : (yearText i.date.year).length = 4 := by
    rw [yearText, if_pos ⟨start, stop⟩]
    exact length_padded (by decide) (by omega)
  simp only [i.stamp_eq, layOut, List.length_append, List.length_cons, year, two month, two day,
    two hour, two minute, two second]

/-- Behind a year of four digits comes a hyphen. -/
theorem exists_stamp_eq (hi : i.HasFourDigits) (separator : Char) : ∃ n ds rest,
    Spells n ds ∧ i.stamp separator = ds ++ '-' :: rest := by
  rw [i.stamp_eq, layOut_eq, yearText, if_pos ⟨hi.1, hi.2⟩]
  exact ⟨_, _, _, spells_padded 4 i.date.year.toNat, rfl⟩

/-- Among what is written of an instant only the separator can be a letter. -/
theorem map_toLower_stamp (hi : i.HasFourDigits) (separator : Char) :
    (i.stamp separator).map Char.toLower = i.stamp separator.toLower := by
  have year : (yearText i.date.year).map Char.toLower = yearText i.date.year := by
    rw [yearText, if_pos ⟨hi.1, hi.2⟩, map_toLower_padded]
  have hyphen : '-'.toLower = '-' := rfl
  have colon : ':'.toLower = ':' := rfl
  simp only [i.stamp_eq, layOut, List.map_append, List.map_cons, map_toLower_padded, year, hyphen,
    colon]

theorem mem_stamp (hi : i.HasFourDigits) {separator c : Char} (hc : c ∈ i.stamp separator) :
    c.isDigit = true ∨ c = '-' ∨ c = ':' ∨ c = separator := by
  have digit {width n : Nat} (hc : c ∈ padded width n) : c.isDigit = true :=
    (spells_padded width n).digits c hc
  rw [i.stamp_eq] at hc
  rcases mem_layOut hc with rfl | rfl | rfl | hc | hc | hc | hc | hc | hc
  · exact .inr (.inl rfl)
  · exact .inr (.inr (.inr rfl))
  · exact .inr (.inr (.inl rfl))
  · rw [yearText, if_pos ⟨hi.1, hi.2⟩] at hc
    exact .inl (digit hc)
  all_goals exact .inl (digit hc)

/-- A stamp with the milliseconds and a zone behind it, separated by any characters. -/
def lettered (i : Instant) (separator zone : Char) : List Char :=
  i.stamp separator ++ '.' :: (padded 3 (i.clock.nanos / millisecond) ++ [zone])

theorem map_toLower_lettered (hi : i.HasFourDigits) (separator zone : Char) :
    (i.lettered separator zone).map Char.toLower =
      i.lettered separator.toLower zone.toLower := by
  have point : '.'.toLower = '.' := rfl
  simp only [lettered, List.map_append, List.map_cons, List.map_nil, map_toLower_stamp hi, point,
    map_toLower_padded]

/-- Instants that are written down to the second are in the order of their seconds. -/
theorem textOrder_whole (hi : i.HasFourDigits) (hj : j.HasFourDigits) (separator : Char) :
    textOrder (i.stamp separator) (j.stamp separator) = i.whole.order j.whole := by
  have behind := textOrder_stamp hi hj separator [] []
  rw [List.append_nil, List.append_nil] at behind
  exact behind.trans Ordering.then_eq

/-- Instants that are written down to the millisecond are in the order of their milliseconds. -/
theorem textOrder_wholeMillis (hi : i.HasFourDigits) (hj : j.HasFourDigits)
    (separator zone : Char) :
    textOrder (i.lettered separator zone) (j.lettered separator zone) =
      i.wholeMillis.order j.wholeMillis := by
  have short (i : Instant) : i.clock.nanos / millisecond < 10 ^ 3 :=
    Nat.div_lt_of_lt_mul (Nat.mod_lt _ (by decide))
  rw [lettered, lettered, textOrder_stamp hi hj, textOrder_cons_self,
    textOrder_append (i.length_millis.trans j.length_millis.symm),
    textOrder_padded (by decide) (short i) (short j), textOrder_cons_self, order_wholeMillis]
  exact congrArg _ Ordering.then_eq

/-- Digits and marks are plain. -/
theorem plain_of_marks {cs : List Char}
    (marks : ∀ c ∈ cs, c.isDigit = true ∨ c ∈ ['-', ':', '.', ' ', 'T', 'Z'])
    (ends : ∀ c ∈ cs.getLast?, c ≠ ' ') : Plain cs := by
  have small : ∀ c ∈ cs, c.toNat < 128 ∧ c ≠ Char.ofNat 0 := by
    intro c hc
    rcases marks c hc with digit | mark
    · have range := Char.isDigit_iff_toNat.mp digit
      have zero : '0'.toNat = 48 := rfl
      have nine : '9'.toNat = 57 := rfl
      refine ⟨by omega, ?_⟩
      rintro rfl
      exact absurd digit (by decide)
    · simp only [List.mem_cons, List.not_mem_nil, or_false] at mark
      rcases mark with rfl | rfl | rfl | rfl | rfl | rfl <;> decide
  exact ⟨fun c hc => (small c hc).1, fun c hc => (small c hc).2, ends⟩

/-- What is written of an instant is plain. -/
theorem plain_stamp (hi : i.HasFourDigits) : Plain (i.stamp ' ') := by
  refine plain_of_marks (fun c hc => ?_) fun c hc => ?_
  · rcases mem_stamp hi hc with digit | rfl | rfl | rfl
    · exact .inl digit
    all_goals exact .inr (by decide)
  · have spells := spells_padded 2 i.clock.second
    have last : (i.stamp ' ').getLast? = (padded 2 i.clock.second).getLast? := by
      rw [i.stamp_eq, layOut, List.getLast?_append_of_ne_nil _ (List.cons_ne_nil _ _),
        List.getLast?_cons_of_ne_nil spells.ne_nil]
    rw [last] at hc
    rintro rfl
    exact absurd (spells.digits ' ' (List.mem_of_getLast? hc)) (by decide)

theorem plain_lettered (hi : i.HasFourDigits) : Plain (i.lettered 'T' 'Z') := by
  refine plain_of_marks (fun c hc => ?_) fun c hc => ?_
  · simp only [lettered, List.mem_append, List.mem_cons, List.not_mem_nil, or_false] at hc
    rcases hc with hc | rfl | hc | rfl
    · rcases mem_stamp hi hc with digit | rfl | rfl | rfl
      · exact .inl digit
      all_goals exact .inr (by decide)
    · exact .inr (by decide)
    · exact .inl ((spells_padded 3 _).digits c hc)
    · exact .inr (by decide)
  · rw [lettered, ← List.cons_append, ← List.append_assoc, List.getLast?_concat] at hc
    obtain rfl := Option.some.inj hc
    decide

end Instant

end FilterStore.Calendar
