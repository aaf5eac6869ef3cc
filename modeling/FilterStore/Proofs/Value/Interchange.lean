import Mathlib.Logic.Function.Iterate
import FilterStore.Proofs.Number.Finite
import FilterStore.Value.Interchange

/-!
# Written and read values

A cell that is written as JSON and read is itself again, as long as it is no infinity and no NaN:
those two have no JSON and are written as `null`.  A value that was once read from JSON, however
deep its lists and objects, is likewise read from what is written for it; what it was read from
first may have been a different text, such as an integer that is too large for 64 bits with a sign
and is a double from then on.

Such integers are also the only thing that JSON loses on its way through a value.  The items of an
array are read one by one, so the loss can be anywhere in arrays of arrays; but an object is kept as
it is, with whatever integers it holds (`Json.Signed`).

A cell loses more, since arrays and objects become blobs and texts.  But it does so once.  What comes
out is no infinity and no NaN, so it is itself again after any number of passes.
-/

namespace FilterStore

namespace Number

theorem int64?_toInt (n : Int64) : int64? n.toInt = some n := by
  have hlow := n.le_toInt
  have hhigh := n.toInt_lt
  have hrange : minInt64 ≤ n.toInt ∧ n.toInt ≤ maxInt64 := by
    simp only [minInt64, maxInt64]
    omega
  rw [int64?, if_pos hrange, Int64.ofInt_toInt]

/-- An integer is read as the word that stands for it. -/
theorem int64?_eq_some_iff {n : Int} {i : Int64} : int64? n = some i ↔ i.toInt = n := by
  constructor
  · intro h
    by_cases fits : minInt64 ≤ n ∧ n ≤ maxInt64
    · rw [int64?, if_pos fits] at h
      obtain rfl := Option.some.inj h
      exact Int64.toInt_ofInt_of_le fits.1 (Int.lt_add_one_of_le fits.2)
    · rw [int64?, if_neg fits] at h
      cases h
  · rintro rfl
    exact int64?_toInt i

end Number

namespace JsonNumber

theorem int64?_ofInt64 (n : Int64) : (ofInt64 n).int64? = some n := Number.int64?_toInt n

theorem uint64?_ofUInt64 (n : UInt64) : (ofUInt64 n).uint64? = some n := by
  simp [ofUInt64, uint64?]

theorem uint64?_ofUInt8 (n : UInt8) : (ofUInt8 n).uint64? = some n.toUInt64 := by
  simp only [ofUInt8, uint64?]
  rw [if_pos (Int.natCast_nonneg _)]
  simp

/-- A number that is read as a double is no infinity and no NaN. -/
theorem isFinite_toFloat {n : JsonNumber} (h : n.int64? = none) : n.toFloat.isFinite = true := by
  cases n with
  | float x finite => exact finite
  | integer n inRange =>
    -- Only an integer that is too large is left over, since the range starts where 64 bits start.
    have hlarge : Number.maxInt64 < n := by
      simp only [int64?, Number.int64?] at h
      split at h
      · cases h
      · omega
    obtain ⟨m, rfl⟩ : ∃ m : Nat, n = m := ⟨n.toNat, by simp only [Number.maxInt64] at hlarge; omega⟩
    simp only [Number.maxInt64] at hlarge
    exact Number.isFinite_ofNat (by omega) (by omega)

/-- The number is no integer that is too large for 64 bits with a sign. -/
def IsSigned : JsonNumber → Prop
  | integer n _ => n ≤ Number.maxInt64
  | float _ _ => True

theorem ofInt64_of_int64? {n : JsonNumber} {i : Int64} (h : n.int64? = some i) :
    ofInt64 i = n := by
  cases n with
  | float x finite => cases h
  | integer n inRange =>
    obtain rfl := Number.int64?_eq_some_iff.mp h
    rfl

theorem isSigned_of_int64? {n : JsonNumber} {i : Int64} (h : n.int64? = some i) : n.IsSigned := by
  cases n with
  | float x finite => trivial
  | integer n inRange =>
    obtain rfl := Number.int64?_eq_some_iff.mp h
    exact Int.le_of_lt_add_one i.toInt_lt

/-- A number that is read as a double is one, or is too large. -/
theorem float_toFloat_eq_iff {n : JsonNumber} (h : n.int64? = none) :
    float n.toFloat (isFinite_toFloat h) = n ↔ n.IsSigned := by
  cases n with
  | float x finite => exact iff_of_true rfl trivial
  | integer n inRange =>
    refine iff_of_false nofun fun signed => ?_
    have fits : Number.int64? n = some (Int64.ofInt n) := if_pos ⟨inRange.1, signed⟩
    rw [int64?, fits] at h
    cases h

end JsonNumber

namespace Json

mutual

/-- No integer that is too large for 64 bits with a sign stands in the JSON or in its arrays,
however deep.  What stands in an object does not matter. -/
def Signed : Json → Prop
  | number n => n.IsSigned
  | array items => AllSigned items
  | null | bool _ | string _ | object _ => True

/-- All of the JSON values are signed. -/
def AllSigned : List Json → Prop
  | [] => True
  | item :: rest => item.Signed ∧ AllSigned rest

end

theorem ofFloat_of_isFinite {x : Float} (h : x.isFinite = true) :
    ofFloat x = .number (.float x h) := by
  simp [ofFloat, JsonNumber.ofFloat?, h]

end Json

theorem byte?_ofUInt8 (b : UInt8) : byte? (.number (.ofUInt8 b)) = some b := by
  simp only [byte?, JsonNumber.uint64?_ofUInt8, Option.bind_some, UInt8.toNat_toUInt64]
  rw [if_pos b.toNat_lt, UInt8.toUInt8_toUInt64]

/-- The bytes of a blob are read as they were written. -/
theorem mapM_byte?_map (bytes : List UInt8) :
    (bytes.map fun b => Json.number (.ofUInt8 b)).mapM byte? = some bytes := by
  induction bytes with
  | nil => rfl
  | cons b bytes ih => simp [byte?_ofUInt8, ih]

namespace Cell

/-- No infinity and no NaN. -/
def IsFinite (c : Cell) : Prop := ∀ x, c = .real x → x.isFinite = true

instance : (c : Cell) → Decidable c.IsFinite
  | .real x => decidable_of_iff (x.isFinite = true)
    ⟨fun finite _ same => Cell.real.inj same ▸ finite, fun finite => finite x rfl⟩
  | .null | .integer _ | .text _ | .blob _ => isTrue nofun

theorem ofJson_toJson {c : Cell} (h : c.IsFinite) : ofJson c.toJson = c := by
  cases c with
  | null => rfl
  | integer n => simp [toJson, ofJson, JsonNumber.int64?_ofInt64]
  | real x =>
    rw [toJson, Json.ofFloat_of_isFinite (h x rfl)]
    rfl
  | text s => rfl
  | blob bytes => simp only [toJson, blobJson, ofJson, mapM_byte?_map]

/-- An infinity or a NaN is lost. -/
theorem ofJson_toJson_iff {c : Cell} : ofJson c.toJson = c ↔ c.IsFinite := by
  refine ⟨fun same x hx => ?_, ofJson_toJson⟩
  subst hx
  by_contra infinite
  have lost : Json.ofFloat x = .null := by simp [Json.ofFloat, JsonNumber.ofFloat?, infinite]
  rw [toJson, lost] at same
  cases same

theorem isFinite_ofJson (json : Json) : (ofJson json).IsFinite := by
  intro x hx
  cases json with
  | number n =>
    cases hn : n.int64? with
    | some i => simp [ofJson, hn] at hx
    | none =>
      obtain rfl : n.toFloat = x := by simpa [ofJson, hn] using hx
      exact JsonNumber.isFinite_toFloat hn
  | array items =>
    simp only [ofJson] at hx
    split at hx <;> cases hx
  | _ => simp [ofJson, Value.flag] at hx

end Cell

namespace Value

mutual

/-- Whatever is read from JSON is read again from what is written for it. -/
theorem ofJson_toJson_ofJson (json : Json) : ofJson (ofJson json).toJson = ofJson json :=
  match json with
  | .null | .bool _ | .string _ | .object _ => by simp [ofJson, toJson]
  | .number n => by
    cases hn : n.int64? with
    | some i => simp [ofJson, hn, toJson, JsonNumber.int64?_ofInt64]
    | none =>
      have hread : ofJson (.number n) = .real n.toFloat := by simp only [ofJson, hn]
      rw [hread, toJson, Json.ofFloat_of_isFinite (JsonNumber.isFinite_toFloat hn)]
      simp [ofJson, JsonNumber.int64?, JsonNumber.toFloat]
  | .array items => by simp [ofJson, toJson, listOfJson_listToJson_listOfJson items]

theorem listOfJson_listToJson_listOfJson (items : List Json) :
    listOfJson (listToJson (listOfJson items)) = listOfJson items :=
  match items with
  | [] => by simp [listOfJson, listToJson]
  | item :: rest => by
    simp [listOfJson, listToJson, ofJson_toJson_ofJson item,
      listOfJson_listToJson_listOfJson rest]

end

mutual

/-- JSON is written again as it was read, unless it holds an integer that is too large. -/
theorem toJson_ofJson_iff (json : Json) : (ofJson json).toJson = json ↔ json.Signed :=
  match json with
  | .null | .bool _ | .string _ | .object _ => by simp [ofJson, toJson, Json.Signed]
  | .number n => by
    rw [Json.Signed]
    cases hn : n.int64? with
    | some i =>
      simp [ofJson, hn, toJson, JsonNumber.ofInt64_of_int64? hn, JsonNumber.isSigned_of_int64? hn]
    | none =>
      have hread : ofJson (.number n) = .real n.toFloat := by simp only [ofJson, hn]
      rw [hread, toJson, Json.ofFloat_of_isFinite (JsonNumber.isFinite_toFloat hn),
        Json.number.injEq, JsonNumber.float_toFloat_eq_iff hn]
  | .array items => by
    rw [ofJson, toJson, Json.array.injEq, Json.Signed, listToJson_listOfJson_iff items]

theorem listToJson_listOfJson_iff (items : List Json) :
    listToJson (listOfJson items) = items ↔ Json.AllSigned items :=
  match items with
  | [] => by simp [listOfJson, listToJson, Json.AllSigned]
  | item :: rest => by
    rw [listOfJson, listToJson, List.cons.injEq, toJson_ofJson_iff item,
      listToJson_listOfJson_iff rest, Json.AllSigned]

end

end Value

/-- **Written and read.**  A cell is itself again, unless it is an infinity or a NaN.  What was read
from JSON once is the same cell after any number of passes, and the same value.  And JSON comes back
from its value as it was, unless it holds an integer that is too large for 64 bits with a sign. -/
theorem written_and_read :
    (∀ c : Cell, Cell.ofJson c.toJson = c ↔ c.IsFinite) ∧
      (∀ (json : Json) (passes : Nat),
        Nat.iterate (fun c => Cell.ofJson c.toJson) passes (Cell.ofJson json) = Cell.ofJson json) ∧
      (∀ json : Json, Value.ofJson (Value.ofJson json).toJson = Value.ofJson json) ∧
      ∀ json : Json, (Value.ofJson json).toJson = json ↔ json.Signed := by
  refine ⟨fun c => Cell.ofJson_toJson_iff, fun json passes => ?_, Value.ofJson_toJson_ofJson,
    Value.toJson_ofJson_iff⟩
  exact Function.iterate_fixed (Cell.ofJson_toJson (Cell.isFinite_ofJson json)) passes

end FilterStore
