import FilterStore.Proofs.Migration.Request

/-!
# The numbering of update functions

Update functions are registered one after the other, each with a version above those before it; a
version that is not positive asks for the next one.  So the versions ascend from above zero, in
whatever order explicit and automatic ones come, and the latest is the greatest.

There is one way around that, and only one (`Migrations.Overruns`): after the greatest version there
is, the next one is the least.
-/

namespace FilterStore.Migrations

open Attempt (idle)
open Engine (Connection)

variable {σ ν : Type} {L : Ledger σ} {m : Migrations σ ν}

/-! ## The next version -/

/-- The version after one that is not the greatest there is. -/
theorem toInt_next {v : Int64} (room : v ≠ Int64.maxValue) : (v + 1).toInt = v.toInt + 1 := by
  have other : v.toInt ≠ 2 ^ 63 - 1 := fun same => room (Int64.toInt_inj.mp same)
  have below := v.toInt_lt
  have above := v.le_toInt
  have one : (1 : Int64).toInt = 1 := rfl
  rw [Int64.toInt_add, one]
  exact Int.bmod_eq_of_le (by omega) (by omega)

/-- Explicit or not, the version that is answered is above the latest. -/
theorem latest_lt_of_nextVersion {version w : Int64} (h : m.nextVersion version = .ok w)
    (room : version ≤ 0 → m.latest ≠ Int64.maxValue) :
    m.latest < w ∧ w.toInt = if version ≤ 0 then m.latest.toInt + 1 else version.toInt := by
  unfold nextVersion at h
  split at h
  case isTrue automatic =>
    cases h
    have next := toInt_next (room automatic)
    rw [if_pos automatic]
    exact ⟨Int64.lt_iff_toInt_lt.mpr (by omega), next⟩
  case isFalse explicit =>
    split at h
    case isTrue => cases h
    case isFalse above =>
      cases h
      rw [if_neg explicit]
      exact ⟨Int64.not_le.mp above, rfl⟩

/-- Versions in order stay so when one above the latest is added. -/
theorem InOrder.append (h : m.InOrder) {w : Int64} (above : m.latest < w)
    (f : SchemaFunction σ ν) : InOrder { m with updates := m.updates ++ [(w, f)] } := by
  have versions : versions { m with updates := m.updates ++ [(w, f)] } = m.versions ++ [w] :=
    List.map_append
  constructor
  · rw [versions]
    refine List.pairwise_append.mpr ⟨h.ascending, List.pairwise_singleton .., fun v hv u hu => ?_⟩
    obtain rfl := List.mem_singleton.mp hu
    exact Int64.lt_of_le_of_lt (h.le_latest hv) above
  · rw [versions]
    intro v hv
    rcases List.mem_append.mp hv with before | now
    · exact h.positive v before
    · obtain rfl := List.mem_singleton.mp now
      exact Int64.lt_of_le_of_lt h.natural_latest above

/-! ## What a request does to the versions -/

/-- An update function is registered under its version, or refused. -/
theorem respond_addUpdate (L : Ledger σ) (m : Migrations σ ν) (version : Int64)
    (f : SchemaFunction σ ν) :
    m.respond L (.addUpdate version f) =
      match (do m.ensureOpen .update; m.nextVersion version) with
      | .ok w =>
        { migrations := { m with updates := m.updates ++ [(w, f)] }
          result := .ok (.version w), calls := [], left := none }
      | .error e => m.refusing (.addUpdate version f) e := by
  unfold respond addUpdate
  rcases m.ensureOpen .update with e | ⟨⟩
  · rfl
  · show m.registering _ ((m.nextVersion version >>= _).map _) = match m.nextVersion version with
      | .ok w => _
      | .error e => _
    rcases m.nextVersion version with e | w <;> rfl

/-- Nothing else registers update functions. -/
theorem updates_respond {q : Request σ ν} (h : ∀ version f, q ≠ .addUpdate version f) :
    (m.respond L q).migrations.updates = m.updates := by
  cases q with
  | addUpdate version f => exact absurd rfl (h version f)
  | addInit f =>
    refine view_registering updates fun y hy => ?_
    obtain ⟨n, added, rfl⟩ := map_eq_ok_iff.mp hy
    rw [eq_of_addInit added]
  | addReady f =>
    refine view_registering updates fun y hy => ?_
    obtain ⟨n, added, rfl⟩ := map_eq_ok_iff.mp hy
    rw [eq_of_addReady added]
  | handleFailures | listen _ => rfl
  | run again r s => exact congrArg (·.2.1) (functions_finish L ⟨m, r, again⟩ s)

/-! ## Histories -/

/-- The next version is asked for when there is none. -/
def Overruns (L : Ledger σ) (m : Migrations σ ν) (qs : List (Request σ ν)) : Prop :=
  ∃ p version f, p ++ [.addUpdate version f] <+: qs ∧ version ≤ 0 ∧
    (m.after L p).ensureOpen .update = .ok () ∧ (m.after L p).latest = Int64.maxValue

/-- What is true of the versions behind some requests, and of the answers to these. -/
structure Numbered (L : Ledger σ) (m : Migrations σ ν) (qs : List (Request σ ν)) : Prop where
  inOrder : (m.after L qs).InOrder
  /-- A version that is answered is above all before it: the explicit one, or one more than the
  latest, which is not too much. -/
  accepted : ∀ p version f w, p ++ [.addUpdate version f] <+: qs →
    ((m.after L p).respond L (.addUpdate version f)).result = .ok (.version w) →
    (m.after L (p ++ [.addUpdate version f])).versions = (m.after L p).versions ++ [w] ∧
      (∀ v ∈ (m.after L p).versions, v < w) ∧
      w.toInt = if version ≤ 0 then (m.after L p).latest.toInt + 1 else version.toInt
  rejected : ∀ p version f e, p ++ [.addUpdate version f] <+: qs →
    ((m.after L p).respond L (.addUpdate version f)).result = .error e →
    (m.after L (p ++ [.addUpdate version f])).updates = (m.after L p).updates
  latest : (∀ v ∈ (m.after L qs).versions, v ≤ (m.after L qs).latest) ∧
    if (m.after L qs).versions = [] then (m.after L qs).latest = 0
    else (m.after L qs).latest ∈ (m.after L qs).versions

theorem after_singleton (L : Ledger σ) (m : Migrations σ ν) (p : List (Request σ ν))
    (q : Request σ ν) : m.after L (p ++ [q]) = ((m.after L p).respond L q).migrations :=
  after_append L m p [q]

/-- Every request keeps the versions in order, if it does not ask for one that does not exist. -/
theorem InOrder.respond (h : m.InOrder) {q : Request σ ν}
    (room : ∀ version f, q = .addUpdate version f → version ≤ 0 →
      m.ensureOpen .update = .ok () → m.latest ≠ Int64.maxValue) :
    (m.respond L q).migrations.InOrder := by
  by_cases registers : ∃ version f, q = .addUpdate version f
  · obtain ⟨version, f, rfl⟩ := registers
    rw [respond_addUpdate]
    rcases opened : m.ensureOpen .update with e | ⟨⟩
    · exact h
    rcases next : m.nextVersion version with e | w
    · exact h
    · have free := fun automatic => room version f rfl automatic opened
      exact h.append (latest_lt_of_nextVersion next free).1 f
  · have same : (m.respond L q).migrations.versions = m.versions :=
      congrArg (List.map Prod.fst) (updates_respond fun version f hq => registers ⟨version, f, hq⟩)
    exact ⟨same ▸ h.ascending, same ▸ h.positive⟩

/-- The versions stay in order as long as there is a next one. -/
theorem InOrder.after (h : m.InOrder) {qs : List (Request σ ν)} (room : ¬Overruns L m qs) :
    (m.after L qs).InOrder := by
  induction qs using List.reverseRecOn with
  | nil => exact h
  | append_singleton qs q ih =>
    rw [after_singleton]
    refine (ih fun ⟨p, version, f, within, rest⟩ => ?_).respond ?_
    · exact room ⟨p, version, f, within.trans (List.prefix_append ..), rest⟩
    · rintro version f rfl automatic opened latest
      exact room ⟨qs, version, f, List.prefix_refl _, automatic, opened, latest⟩

/-- The latest version is the greatest, or zero if there is none. -/
theorem InOrder.isGreatest_latest (h : m.InOrder) :
    (∀ v ∈ m.versions, v ≤ m.latest) ∧
      if m.versions = [] then m.latest = 0 else m.latest ∈ m.versions := by
  refine ⟨fun v => h.le_latest, ?_⟩
  unfold latest
  split
  case isTrue none => rw [none]; rfl
  case isFalse some =>
    rw [List.getLast?_eq_some_getLast some]
    exact List.getLast_mem some

/-- **The numbering of update functions.**  Whatever is asked for, the versions ascend from above
zero, each that is answered is above those before it, and the latest is the greatest of them, unless
the next one is asked for after the greatest version there is. -/
theorem numbered_iff_not_overruns (L : Ledger σ) (table : String) (settings : MigrationConfig)
    (qs : List (Request σ ν)) :
    Numbered L (fresh table settings) qs ↔ ¬Overruns L (fresh table settings) qs := by
  constructor
  · rintro numbered ⟨p, version, f, within, automatic, opened, latest⟩
    have answered : ((after L (fresh table settings) p).respond L (.addUpdate version f)).result =
        .ok (.version Int64.minValue) := by
      have next : (after L (fresh table settings) p).nextVersion version =
          .ok Int64.minValue := by
        rw [nextVersion, if_pos automatic, latest]
        rfl
      rw [respond_addUpdate, opened, next]
      rfl
    obtain ⟨-, -, overflow⟩ := numbered.accepted p version f _ within answered
    rw [if_pos automatic, latest] at overflow
    exact absurd overflow (by decide)
  · intro room
    have start : (fresh table settings : Migrations σ ν).InOrder := ⟨List.Pairwise.nil, nofun⟩
    have upTo : ∀ p, p <+: qs → (after L (fresh table settings) p).InOrder := fun p within =>
      start.after fun ⟨p', version, f, within', rest⟩ =>
        room ⟨p', version, f, within'.trans within, rest⟩
    constructor
    case inOrder => exact upTo qs (List.prefix_refl qs)
    case accepted =>
      intro p version f w within answered
      have before := upTo p ((List.prefix_append ..).trans within)
      rw [after_singleton]
      rw [respond_addUpdate] at answered ⊢
      rcases opened : (after L (fresh table settings) p).ensureOpen .update with e | ⟨⟩
      · rw [opened] at answered
        cases answered
      rcases next : (after L (fresh table settings) p).nextVersion version with e | w'
      · rw [opened, next] at answered
        cases answered
      · rw [opened, next] at answered
        cases answered
        have free : version ≤ 0 → _ ≠ Int64.maxValue := fun automatic latest =>
          room ⟨p, version, f, within, automatic, opened, latest⟩
        obtain ⟨above, value⟩ := latest_lt_of_nextVersion next free
        exact ⟨List.map_append, fun v hv => Int64.lt_of_le_of_lt (before.le_latest hv) above, value⟩
    case rejected =>
      intro p version f e within refused
      rw [after_singleton]
      rw [respond_addUpdate] at refused ⊢
      split at refused
      · cases refused
      · rfl
    case latest => exact (upTo qs (List.prefix_refl qs)).isGreatest_latest

/-- The greatest version there is, and then the next one. -/
def overrunning : List (Request Connection String) :=
  [.addUpdate Int64.maxValue (idle "last"), .addUpdate 0 (idle "next")]

/-- The next one is the least there is. -/
theorem not_numbered_overrunning :
    (after standardLedger (fresh standardVersionTable .standard) overrunning).versions =
        [Int64.maxValue, Int64.minValue] ∧
      ¬Numbered standardLedger (fresh standardVersionTable .standard) overrunning := by
  have versions : (after standardLedger (fresh standardVersionTable .standard)
      overrunning).versions = [Int64.maxValue, Int64.minValue] := rfl
  refine ⟨versions, fun numbered => ?_⟩
  have ascending := numbered.inOrder.ascending
  rw [versions] at ascending
  exact absurd ascending (by decide)

end FilterStore.Migrations
