import Mathlib.Data.List.Induction
import Mathlib.Logic.Function.Basic
import FilterStore.Proofs.Schema.Named
import FilterStore.Value.Record

/-!
# Records are maps

A record is a list of fields.  To an application it is a map from names to values, which takes names
as the same up to the case of ASCII letters, and remembers in which order they were first given and
how they were spelled then.  Such an `OrderedMap` keeps these three apart.

`Record.Represents` says that a record is the list of what a map knows.  Every step on the record is
the same step on the map (`Record.Represents.step`), so a record is represented by its map behind any
steps.  There are two things to look at.  Either no field has the name that a step is about: then a
new field is put behind all others, and there is nothing to drop.  Or the list splits at the first
such field (`Record.Stands`), which is then changed or dropped in its place.  There is no second one,
since the keys of the map are distinct.

What a map says of a name is settled by the steps alone: the value it was given last, if it was not
removed since (`Record.held`).
-/

namespace FilterStore

open Text (lower sameName)

/-! ## Maps that know the order of their keys -/

/-- A map from names in small letters to values, which knows in which order the names came and how
each of them was spelled. -/
structure OrderedMap where
  keys : List String
  spelling : String → String
  value : String → Option Value

namespace OrderedMap

/-- The map without keys. -/
def empty : OrderedMap := { keys := [], spelling := id, value := fun _ => none }

/-- Gives a name a value.  A new name comes last, and is spelled as it is here. -/
def set (m : OrderedMap) (name : String) (value : Value) : OrderedMap :=
  let key := lower name
  { keys := if key ∈ m.keys then m.keys else m.keys ++ [key]
    spelling := if key ∈ m.keys then m.spelling else Function.update m.spelling key name
    value := Function.update m.value key (some value) }

/-- Gives a name another value, if it has one. -/
def assign (m : OrderedMap) (name : String) (value : Value) : OrderedMap :=
  let key := lower name
  { m with value := Function.update m.value key ((m.value key).map fun _ => value) }

/-- Takes a name out. -/
def remove (m : OrderedMap) (name : String) : OrderedMap :=
  let key := lower name
  { m with
    keys := m.keys.filter fun k => k ≠ key
    value := Function.update m.value key none }

/-- The map in which names are given values one after the other. -/
def collect (fields : List (String × Value)) : OrderedMap :=
  fields.foldl (fun m f => m.set f.1 f.2) empty

/-- What is changed for one name is changed for all its spellings, and for no other name. -/
theorem update_lower {α : Type} (g : String → α) (name other : String) (x : α) :
    Function.update g (lower name) x (lower other) =
      if sameName name other then x else g (lower other) := by
  by_cases same : sameName name other = true
  · rw [if_pos same, Text.sameName_iff.mp same, Function.update_self]
  · rw [if_neg same, Function.update_of_ne fun e => same (Text.sameName_iff.mpr e.symm)]

end OrderedMap

namespace Record

/-! ## Steps -/

/-- What can be done to a record. -/
inductive Step
  /-- Sets a field, whether the record is changed or built. -/
  | set (name : String) (value : Value)
  /-- Writes to a field that was looked up. -/
  | assign (name : String) (value : Value)
  | remove (name : String)
  /-- Collects a record anew. -/
  | collect (fields : List (String × Value))

/-- The record behind a step. -/
def step (r : Record) : Step → Record
  | .set name value => r.set name value
  | .assign name value => r.replace name value
  | .remove name => r.erase name
  | .collect fields => ofList fields

/-- The record behind some steps. -/
def after (steps : List Step) : Record := steps.foldl step empty

end Record

/-- The map behind a step. -/
def OrderedMap.step (m : OrderedMap) : Record.Step → OrderedMap
  | .set name value => m.set name value
  | .assign name value => m.assign name value
  | .remove name => m.remove name
  | .collect fields => collect fields

/-- The map behind some steps. -/
def OrderedMap.after (steps : List Record.Step) : OrderedMap := steps.foldl step empty

namespace Record

/-! ## The first field of a name -/

/-- A field of a name stands between others, and none of that name before it. -/
structure Stands (name : String) (fs before : List (String × Value)) (f : String × Value)
    (rest : List (String × Value)) : Prop where
  split : fs = before ++ f :: rest
  first : ∀ g ∈ before, sameName g.1 name = false
  same : sameName f.1 name = true

section Fields

variable {name other : String} {v : Value} {fs before rest : List (String × Value)}
  {f : String × Value}

/-- Either no field has a name, or one stands first. -/
theorem absent_or_stands (name : String) (fs : List (String × Value)) :
    (∀ f ∈ fs, sameName f.1 name = false) ∨ ∃ before f rest, Stands name fs before f rest := by
  rcases found : fs.find? (fun f => sameName f.1 name) with _ | f
  · exact .inl fun f hf => Bool.eq_false_iff.mpr (List.find?_eq_none.mp found f hf)
  · obtain ⟨same, before, rest, split, first⟩ := List.find?_eq_some_iff_append.mp found
    exact .inr ⟨before, f, rest, split, fun g hg => by simpa using first g hg, same⟩

theorem put_of_absent (absent : ∀ f ∈ fs, sameName f.1 name = false) :
    put name v fs = fs ++ [(name, v)] := by
  induction fs with
  | nil => rfl
  | cons f fs ih =>
    rw [put, absent f List.mem_cons_self, if_neg Bool.false_ne_true,
      ih fun g hg => absent g (List.mem_cons_of_mem f hg), List.cons_append]

theorem drop_of_absent (absent : ∀ f ∈ fs, sameName f.1 name = false) : drop name fs = fs := by
  induction fs with
  | nil => rfl
  | cons f fs ih =>
    rw [drop, absent f List.mem_cons_self, if_neg Bool.false_ne_true,
      ih fun g hg => absent g (List.mem_cons_of_mem f hg)]

theorem get?_of_absent {r : Record} (absent : ∀ f ∈ r.fields, sameName f.1 name = false) :
    r.get? name = none := by
  have missing : r.fields.find? (fun f => sameName f.1 name) = none :=
    List.find?_eq_none.mpr fun f hf => Bool.eq_false_iff.mp (absent f hf)
  rw [get?, missing, Option.map_none]

namespace Stands

/-- A field is changed where it stands. -/
theorem put_eq (h : Stands name fs before f rest) :
    put name v fs = before ++ (f.1, v) :: rest := by
  obtain ⟨rfl, first, same⟩ := h
  induction before with
  | nil => rw [List.nil_append, put, if_pos same, List.nil_append]
  | cons g before ih =>
    rw [List.cons_append, put, first g List.mem_cons_self, if_neg Bool.false_ne_true,
      ih fun e he => first e (List.mem_cons_of_mem g he), List.cons_append]

/-- A field is dropped where it stands. -/
theorem drop_eq (h : Stands name fs before f rest) : drop name fs = before ++ rest := by
  obtain ⟨rfl, first, same⟩ := h
  induction before with
  | nil => rw [List.nil_append, drop, if_pos same, List.nil_append]
  | cons g before ih =>
    rw [List.cons_append, drop, first g List.mem_cons_self, if_neg Bool.false_ne_true,
      ih fun e he => first e (List.mem_cons_of_mem g he), List.cons_append]

theorem get?_eq {r : Record} (h : Stands name r.fields before f rest) :
    r.get? name = some f.2 := by
  have found : r.fields.find? (fun f => sameName f.1 name) = some f :=
    List.find?_eq_some_iff_append.mpr
      ⟨h.same, before, rest, h.split, fun g hg => by rw [h.first g hg, Bool.not_false]⟩
  rw [get?, found, Option.map_some]

/-- Behind the first field of a name there is none, if names are distinct. -/
theorem last (h : Stands name fs before f rest) (distinct : Named.Distinct Prod.fst fs) :
    ∀ g ∈ rest, sameName g.1 name = false := by
  intro g hg
  obtain ⟨rfl, -, same⟩ := h
  rw [Named.Distinct, List.map_append, List.map_cons, List.nodup_append] at distinct
  have apart := (List.nodup_cons.mp distinct.2.1).1
  rw [← Bool.not_eq_true]
  intro clash
  refine apart (List.mem_map.mpr ⟨g, hg, ?_⟩)
  rw [Text.sameName_iff.mp clash, Text.sameName_iff.mp same]

end Stands

/-- A name that is looked up is found where its field stands. -/
theorem exists_stands {r : Record} (h : r.get? name = some v) :
    ∃ before spelling rest, Stands name r.fields before (spelling, v) rest := by
  rcases absent_or_stands name r.fields with absent | ⟨before, f, rest, stands⟩
  · rw [get?_of_absent absent] at h
    cases h
  · obtain rfl : f.2 = v := Option.some.inj (stands.get?_eq.symm.trans h)
    exact ⟨before, f.1, rest, stands⟩

theorem absent_of_get? {r : Record} (h : r.get? name = none) :
    ∀ f ∈ r.fields, sameName f.1 name = false := by
  rcases absent_or_stands name r.fields with absent | ⟨before, f, rest, stands⟩
  · exact absent
  · rw [stands.get?_eq] at h
    cases h

/-! ## What steps do to fields -/

/-- Writing to a field is setting it, if it is there. -/
theorem replace_eq (r : Record) (name : String) (v : Value) :
    r.replace name v = if (r.get? name).isSome then r.set name v else r := rfl

/-- Setting a field settles what its name is looked up as, and nothing else. -/
theorem get?_set (r : Record) (name other : String) (v : Value) :
    (r.set name v).get? other = if sameName name other then some v else r.get? other := by
  show ((put name v r.fields).find? fun f => sameName f.1 other).map (·.2) =
    if sameName name other then some v
    else (r.fields.find? fun f => sameName f.1 other).map (·.2)
  induction r.fields with
  | nil => by_cases same : sameName name other = true <;> simp [put, same]
  | cons f fs ih =>
    obtain ⟨n, w⟩ := f
    rw [put]
    by_cases here : sameName n name = true
    · have alike : sameName n other = sameName name other := by
        rw [Bool.eq_iff_iff, Text.sameName_iff, Text.sameName_iff, Text.sameName_iff.mp here]
      by_cases same : sameName name other = true <;> simp [here, alike, same]
    · by_cases found : sameName n other = true
      · have apart : ¬sameName name other = true := fun same =>
          here (Text.sameName_trans found ((Text.sameName_comm _ _).trans same))
        simp [here, found, apart]
      · simpa [here, found] using ih

/-- Names of a record in order, in small letters. -/
def keys (r : Record) : List String := r.fields.map fun f => lower f.1

theorem mem_keys_iff {r : Record} : lower name ∈ r.keys ↔ (r.get? name).isSome = true := by
  rcases absent_or_stands name r.fields with absent | ⟨before, f, rest, stands⟩
  · rw [get?_of_absent absent]
    refine iff_of_false (fun there => ?_) Bool.false_ne_true
    obtain ⟨f, hf, same⟩ := List.mem_map.mp there
    exact Bool.false_ne_true ((absent f hf).symm.trans (Text.sameName_iff.mpr same))
  · rw [stands.get?_eq]
    refine iff_of_true (List.mem_map.mpr ⟨f, ?_, Text.sameName_iff.mp stands.same⟩) rfl
    rw [stands.split]
    exact List.mem_append_right before List.mem_cons_self

/-- A name that is set stays where it is, or comes last. -/
theorem keys_set (r : Record) (name : String) (v : Value) :
    (r.set name v).keys =
      if lower name ∈ r.keys then r.keys else r.keys ++ [lower name] := by
  by_cases there : lower name ∈ r.keys
  · rw [if_pos there]
    obtain ⟨old, found⟩ := Option.isSome_iff_exists.mp (mem_keys_iff.mp there)
    obtain ⟨before, spelling, rest, stands⟩ := exists_stands found
    rw [keys, keys, set, stands.put_eq, stands.split]
    simp
  · rw [if_neg there]
    have missing : r.get? name = none := by
      rw [← Option.not_isSome_iff_eq_none, ← mem_keys_iff]
      exact there
    rw [keys, keys, set, put_of_absent (absent_of_get? missing)]
    simp

/-- A field has the spelling that was there, or is new. -/
theorem spelling_of_mem_set {r : Record} (hf : f ∈ (r.set name v).fields) :
    (∃ e ∈ r.fields, e.1 = f.1) ∨ f = (name, v) ∧ lower name ∉ r.keys := by
  change f ∈ put name v r.fields at hf
  rcases absent_or_stands name r.fields with absent | ⟨before, g, rest, stands⟩
  · rw [put_of_absent absent] at hf
    rcases List.mem_append.mp hf with old | new
    · exact .inl ⟨f, old, rfl⟩
    · refine .inr ⟨List.mem_singleton.mp new, ?_⟩
      rw [mem_keys_iff, get?_of_absent absent]
      exact Bool.false_ne_true
  · rw [stands.put_eq] at hf
    rw [stands.split]
    rcases List.mem_append.mp hf with old | hf
    · exact .inl ⟨f, List.mem_append_left _ old, rfl⟩
    · rcases List.mem_cons.mp hf with rfl | old
      · exact .inl ⟨g, List.mem_append_right _ List.mem_cons_self, rfl⟩
      · exact .inl ⟨f, List.mem_append_right _ (List.mem_cons_of_mem g old), rfl⟩

/-- A field that is removed is the only one of its name. -/
theorem erase_eq_filter {r : Record} (distinct : Named.Distinct Prod.fst r.fields)
    (name : String) : (r.erase name).fields = r.fields.filter fun f => !sameName f.1 name := by
  have kept : ∀ gs : List (String × Value), (∀ g ∈ gs, sameName g.1 name = false) →
      gs.filter (fun f => !sameName f.1 name) = gs := fun gs apart =>
    List.filter_eq_self.mpr fun g hg => by rw [apart g hg, Bool.not_false]
  show drop name r.fields = _
  rcases absent_or_stands name r.fields with absent | ⟨before, f, rest, stands⟩
  · rw [drop_of_absent absent, kept _ absent]
  · rw [stands.drop_eq]
    conv_rhs => rw [stands.split]
    rw [List.filter_append, List.filter_cons, stands.same, kept _ stands.first,
      kept _ (stands.last distinct)]
    rfl

end Fields

/-! ## Records as the lists of maps -/

/-- A record lists what a map knows. -/
structure Represents (r : Record) (m : OrderedMap) : Prop where
  keys : r.keys = m.keys
  distinct : m.keys.Nodup
  spelling : ∀ f ∈ r.fields, m.spelling (lower f.1) = f.1
  value : ∀ name, r.get? name = m.value (lower name)

namespace Represents

variable {r : Record} {m : OrderedMap}

theorem named (h : r.Represents m) : Named.Distinct Prod.fst r.fields := by
  have distinct : r.keys.Nodup := h.keys ▸ h.distinct
  exact distinct

theorem empty : Record.empty.Represents OrderedMap.empty :=
  ⟨rfl, List.nodup_nil, fun _ hf => absurd hf List.not_mem_nil, fun _ => rfl⟩

theorem set (h : r.Represents m) (name : String) (v : Value) :
    (r.set name v).Represents (m.set name v) where
  keys := by rw [keys_set, h.keys, OrderedMap.set]
  distinct := by
    show (if lower name ∈ m.keys then m.keys else m.keys ++ [lower name]).Nodup
    by_cases there : lower name ∈ m.keys
    · rw [if_pos there]
      exact h.distinct
    · rw [if_neg there, ← List.concat_eq_append]
      exact h.distinct.concat there
  spelling := by
    intro f hf
    show (if lower name ∈ m.keys then m.spelling else Function.update m.spelling (lower name) name)
      (lower f.1) = f.1
    by_cases there : lower name ∈ m.keys
    · rw [if_pos there]
      rcases spelling_of_mem_set hf with ⟨e, he, same⟩ | ⟨rfl, new⟩
      · rw [← same]
        exact h.spelling e he
      · exact absurd (h.keys ▸ there) new
    · rw [if_neg there]
      rcases spelling_of_mem_set hf with ⟨e, he, same⟩ | ⟨rfl, -⟩
      · have apart : lower e.1 ≠ lower name := fun clash =>
          there (h.keys ▸ clash ▸ List.mem_map_of_mem he)
        rw [← same, Function.update_of_ne apart]
        exact h.spelling e he
      · exact Function.update_self ..
  value := by
    intro other
    rw [get?_set, h.value]
    exact (OrderedMap.update_lower ..).symm

theorem setAll (h : r.Represents m) (fields : List (String × Value)) :
    (r.setAll fields).Represents (fields.foldl (fun m f => m.set f.1 f.2) m) := by
  induction fields generalizing r m with
  | nil => exact h
  | cons f fields ih => exact ih (h.set f.1 f.2)

/-- A name that is there keeps its place and its spelling when it is given another value. -/
theorem assign (h : r.Represents m) (name : String) (v : Value) :
    (r.replace name v).Represents (m.assign name v) := by
  have value := h.value name
  rw [replace_eq]
  rcases found : r.get? name with _ | old
  · rw [found] at value
    have untouched : m.assign name v = m := by
      have same := Function.update_eq_self (lower name) m.value
      rw [← value] at same
      simp only [OrderedMap.assign, ← value, Option.map_none, same]
    rw [untouched]
    exact h
  · rw [found] at value
    have there : lower name ∈ m.keys := by
      rw [← h.keys, mem_keys_iff, found]
      rfl
    have same : m.assign name v = m.set name v := by
      simp only [OrderedMap.assign, OrderedMap.set, ← value, Option.map_some, if_pos there]
    rw [same]
    exact h.set name v

theorem remove (h : r.Represents m) (name : String) :
    (r.erase name).Represents (m.remove name) where
  keys := by
    show (r.erase name).fields.map (fun f => lower f.1) = m.keys.filter fun k => k ≠ lower name
    rw [erase_eq_filter h.named, ← h.keys, Record.keys, List.filter_map]
    refine congrArg _ (List.filter_congr fun f _ => ?_)
    simp [sameName, beq_eq_decide]
  distinct := h.distinct.filter _
  spelling := by
    intro f hf
    rw [erase_eq_filter h.named] at hf
    exact h.spelling f (List.mem_filter.mp hf).1
  value := by
    intro other
    refine Eq.trans ?_ (OrderedMap.update_lower ..).symm
    by_cases same : sameName name other = true
    · rw [if_pos same]
      refine get?_of_absent fun f hf => ?_
      rw [erase_eq_filter h.named] at hf
      have apart := (List.mem_filter.mp hf).2
      rw [Bool.not_eq_true', sameName, Text.sameName_iff.mp same] at apart
      exact apart
    · rw [if_neg same, ← h.value, get?, get?, erase_eq_filter h.named, List.find?_filter]
      refine congrArg _ (congrArg (List.find? · r.fields) (funext fun f => ?_))
      by_cases found : sameName f.1 other = true
      · have kept : sameName f.1 name = false := Bool.eq_false_iff.mpr fun clash =>
          same (Text.sameName_trans ((Text.sameName_comm _ _).trans clash) found)
        simp [found, kept]
      · simp [found]

/-- **Every step on a record is the same step on its map.** -/
theorem step (h : r.Represents m) (s : Step) : (r.step s).Represents (m.step s) := by
  cases s with
  | set name v => exact h.set name v
  | assign name v => exact h.assign name v
  | remove name => exact h.remove name
  | collect fields => exact Represents.empty.setAll fields

theorem after (steps : List Step) : (Record.after steps).Represents (OrderedMap.after steps) := by
  induction steps using List.reverseRecOn with
  | nil => exact Represents.empty
  | append_singleton steps s ih =>
    rw [Record.after, OrderedMap.after, List.foldl_append, List.foldl_append]
    exact ih.step s

end Represents

/-! ## Collecting fields -/

theorem fields_setAll {r : Record} {fs : List (String × Value)}
    (distinct : Named.Distinct Prod.fst (r.fields ++ fs)) :
    (r.setAll fs).fields = r.fields ++ fs := by
  induction fs generalizing r with
  | nil => exact (List.append_nil _).symm
  | cons f fs ih =>
    have apart := distinct
    rw [Named.Distinct, List.map_append, List.nodup_append] at apart
    have absent : ∀ g ∈ r.fields, sameName g.1 f.1 = false := by
      intro g hg
      rw [← Bool.not_eq_true, Text.sameName_iff]
      exact apart.2.2 _ (List.mem_map_of_mem hg) _ (List.mem_map_of_mem List.mem_cons_self)
    have set : (r.set f.1 f.2).fields = r.fields ++ [f] := put_of_absent absent
    have rest := @ih (r.set f.1 f.2) (by rw [set, List.append_assoc]; exact distinct)
    rw [set, List.append_assoc] at rest
    exact rest

/-- Fields of distinct names are the fields of their record. -/
theorem fields_ofList {fs : List (String × Value)} (distinct : Named.Distinct Prod.fst fs) :
    (ofList fs).fields = fs :=
  fields_setAll distinct

/-! ## What a name was told last -/

/-- The value that a name was given last, if it was not removed since.  The last step comes first. -/
def held (name : String) : List Step → Option Value
  | [] => none
  | .set n v :: older => if sameName n name then some v else held name older
  | .assign n v :: older =>
    if sameName n name then (held name older).map fun _ => v else held name older
  | .remove n :: older => if sameName n name then none else held name older
  | .collect fields :: _ => (fields.reverse.find? fun f => sameName f.1 name).map (·.2)

theorem value_collect (fields : List (String × Value)) (name : String) :
    (OrderedMap.collect fields).value (lower name) =
      (fields.reverse.find? fun f => sameName f.1 name).map (·.2) := by
  induction fields using List.reverseRecOn with
  | nil => rfl
  | append_singleton fields f ih =>
    rw [OrderedMap.collect, List.foldl_append, List.reverse_append]
    refine (OrderedMap.update_lower ..).trans ?_
    by_cases same : sameName f.1 name = true
    · simp [same]
    · simpa [same, OrderedMap.collect] using ih

/-- The map says of a name what it was told last. -/
theorem value_after (steps : List Step) (name : String) :
    (OrderedMap.after steps).value (lower name) = held name steps.reverse := by
  induction steps using List.reverseRecOn with
  | nil => rfl
  | append_singleton steps s ih =>
    rw [OrderedMap.after, List.foldl_append, List.reverse_append]
    show ((OrderedMap.after steps).step s).value (lower name) = held name (s :: steps.reverse)
    cases s with
    | set n v =>
      rw [held, ← ih]
      exact OrderedMap.update_lower ..
    | assign n v =>
      rw [held, ← ih]
      refine (OrderedMap.update_lower ..).trans ?_
      by_cases same : sameName n name = true
      · rw [if_pos same, if_pos same, Text.sameName_iff.mp same]
      · rw [if_neg same, if_neg same]
    | remove n =>
      rw [held, ← ih]
      exact OrderedMap.update_lower ..
    | collect fields => exact value_collect fields name

/-! ## Records as maps -/

/-- What a record is behind some steps. -/
structure IsMap (steps : List Step) : Prop where
  /-- It lists what the map behind these steps knows. -/
  represents : (after steps).Represents (OrderedMap.after steps)
  distinct : Named.Distinct Prod.fst (after steps).fields
  get?_eq (name : String) : (after steps).get? name = held name steps.reverse
  /-- A field that is there keeps its place and its spelling, whether it is set or written to. -/
  set_there {name : String} {old : Value} (found : (after steps).get? name = some old) (v : Value) :
    ∃ before spelling rest, sameName spelling name = true ∧
      (after steps).fields = before ++ (spelling, old) :: rest ∧
      ((after steps).set name v).fields = before ++ (spelling, v) :: rest ∧
      (after steps).replace name v = (after steps).set name v
  /-- A field that is not there comes last if it is set, and is not written to. -/
  set_new {name : String} (missing : (after steps).get? name = none) (v : Value) :
    ((after steps).set name v).fields = (after steps).fields ++ [(name, v)] ∧
      (after steps).replace name v = after steps
  /-- The others stay in their order. -/
  erase_eq (name : String) : ((after steps).erase name).fields =
    (after steps).fields.filter fun f => !sameName f.1 name
  collected : ofList (after steps).fields = after steps

/-- **A record is a map.**  Behind any steps its names are distinct, each is looked up as the value
that it was told last, in whatever spelling, and every step changes what it is about where that
stands. -/
theorem isMap (steps : List Step) : IsMap steps := by
  have represents := Represents.after steps
  constructor
  case represents => exact represents
  case distinct => exact represents.named
  case get?_eq =>
    intro name
    rw [represents.value, value_after]
  case set_there =>
    intro name old found v
    obtain ⟨before, spelling, rest, stands⟩ := exists_stands found
    refine ⟨before, spelling, rest, stands.same, stands.split, stands.put_eq, ?_⟩
    rw [replace_eq, found]
    rfl
  case set_new =>
    intro name missing v
    refine ⟨put_of_absent (absent_of_get? missing), ?_⟩
    rw [replace_eq, missing]
    rfl
  case erase_eq => exact erase_eq_filter represents.named
  case collected => exact congrArg Record.mk (fields_ofList represents.named)

/-- A field that is set again stands where it was, and one that was removed comes last. -/
example :
    (after [.set "a" (.integer 1), .set "b" (.integer 2), .set "A" (.integer 3)]).columns =
        ["a", "b"] ∧
      (after [.set "a" (.integer 1), .set "b" (.integer 2), .remove "A",
        .assign "a" (.integer 3), .set "A" (.integer 4)]).columns = ["b", "A"] := by
  decide +kernel

end Record

end FilterStore
