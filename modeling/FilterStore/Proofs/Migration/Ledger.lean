import FilterStore.Proofs.Migration.Deed
import FilterStore.Proofs.Migration.Greatest

/-!
# What a ledger does to a database

The statements of a ledger are the engine's business.  What a run needs of them is little: where the
ledger is sound they either do what they say or fail, and after a failure in a transaction the
transaction can still be undone.  `Ledger.Lawful` says so, for any kind of database that can be
looked at through an `Aspect`.

A transaction around a deed that stays within it is all or nothing (`same_of_whole_error`,
`exists_of_whole_ok`).  So is an update function together with the record of its version, and the
init path.
-/

namespace FilterStore

open VersionTable (greatest)

/-! ## Databases as they are looked at -/

/-- How a database is looked at. -/
structure Aspect (σ δ : Type) where
  /-- The contents of all tables. -/
  tables : σ → δ
  /-- The contents that an open transaction goes back to. -/
  start : σ → Option δ
  /-- The ledger is as it is created but for its versions, or there is none yet. -/
  sound : δ → Prop
  /-- The versions in the ledger, if there is one. -/
  versions : δ → Option (List Cell)
  /-- Nothing else has to do with the ledger, whether it is sound or not. -/
  apart : δ → Prop
  /-- The contents without the ledger. -/
  without : δ → δ

namespace Aspect

variable {σ δ ν : Type} (A : Aspect σ δ)

/-- The ledger of a database is sound and holds some versions, or there is none. -/
structure Shows (s : σ) (x : Option (List Cell)) : Prop where
  sound : A.sound (A.tables s)
  versions : A.versions (A.tables s) = x

/-- The contents once an open transaction is undone. -/
def undone (s : σ) : δ := (A.start s).getD (A.tables s)

/-- A deed does not end the transaction in which it is done.  When it fails, the transaction can be
undone, or has been undone already. -/
def Within (f : Deed σ ν) : Prop :=
  ∀ s d, A.start s = some d →
    match (f s).result with
    | .ok () => A.start (f s).database = some d
    | .error _ => A.undone (f s).database = d

/-- A deed leaves a sound ledger alone.  When it fails in a transaction, that is undone anyway. -/
def Spares (f : Deed σ ν) : Prop :=
  ∀ s x, (f s).result = .ok () → A.Shows s x → A.Shows (f s).database x

/-- What is asked of a schema function: it leaves its transaction and the ledger alone. -/
structure Tame (f : Deed σ ν) : Prop where
  within : A.Within f
  spares : A.Spares f

/-- A deed leaves a sound ledger alone, also when it fails. -/
def AlwaysSpares (f : Deed σ ν) : Prop := ∀ s x, A.Shows s x → A.Shows (f s).database x

section Deeds

variable {A} {f g : Deed σ ν} {fs : List (Deed σ ν)}

theorem Shows.congr {s t : σ} {x : Option (List Cell)} (h : A.Shows s x)
    (same : A.tables t = A.tables s) : A.Shows t x := ⟨same ▸ h.sound, same ▸ h.versions⟩

theorem Within.start_of_ok (hf : A.Within f) {s : σ} {d : δ} (hs : A.start s = some d)
    (h : (f s).result = .ok ()) : A.start (f s).database = some d := by
  have stays := hf s d hs
  rwa [h] at stays

theorem Within.undone_of_error (hf : A.Within f) {s : σ} {d : δ} {e : Failure}
    (hs : A.start s = some d) (h : (f s).result = .error e) : A.undone (f s).database = d := by
  have stays := hf s d hs
  rwa [h] at stays

theorem within_skip : A.Within (Deed.skip : Deed σ ν) := fun _ _ h => h

theorem within_andThen (hf : A.Within f) (hg : A.Within g) : A.Within (f.andThen g) := by
  intro s d hs
  rcases h : (f s).result with e | ⟨⟩
  · rw [Deed.andThen_of_error h, h]
    exact hf.undone_of_error hs h
  · rw [Deed.andThen_of_ok h]
    exact hg _ d (hf.start_of_ok hs h)

theorem within_all (h : ∀ f ∈ fs, A.Within f) : A.Within (Deed.all fs) := by
  induction fs with
  | nil => exact within_skip
  | cons f fs ih =>
    exact within_andThen (h f List.mem_cons_self) (ih fun g hg => h g (List.mem_cons_of_mem f hg))

theorem spares_all (h : ∀ f ∈ fs, A.Spares f) : A.Spares (Deed.all fs) := by
  induction fs with
  | nil => exact fun _ _ _ hx => hx
  | cons f fs ih =>
    intro s x hs hx
    obtain ⟨first, others⟩ := Deed.result_andThen_eq_ok_iff.mp hs
    have split : Deed.all (f :: fs) s = _ := Deed.andThen_of_ok first
    rw [split]
    exact ih (fun g hg => h g (List.mem_cons_of_mem f hg)) _ x others
      (h f List.mem_cons_self s x first hx)

theorem alwaysSpares_all (h : ∀ f ∈ fs, A.AlwaysSpares f) : A.AlwaysSpares (Deed.all fs) := by
  induction fs with
  | nil => exact fun _ _ hx => hx
  | cons f fs ih =>
    intro s x hx
    have first := h f List.mem_cons_self s x hx
    rcases hf : (f s).result with e | ⟨⟩
    · have split : Deed.all (f :: fs) s = _ := Deed.andThen_of_error hf
      rw [split]
      exact first
    · have split : Deed.all (f :: fs) s = _ := Deed.andThen_of_ok hf
      rw [split]
      exact ih (fun g hg => h g (List.mem_cons_of_mem f hg)) _ x first

/-- Waiting leaves the ledger alone if each of the ready functions does. -/
theorem alwaysSpares_readiness {m : Migrations σ ν} {r : Registry}
    (h : ∀ f ∈ m.readies, A.AlwaysSpares (f r)) : A.AlwaysSpares (m.readiness r) := by
  unfold Migrations.readiness
  split
  · exact alwaysSpares_all (List.forall_mem_map.mpr h)
  · exact fun _ _ hx => hx

end Deeds

end Aspect

/-! ## Laws -/

/-- Transactions that begin, are kept and are undone as they should. -/
structure Bounds.Lawful {ε σ δ : Type} (b : Bounds ε σ) (A : Aspect σ δ) : Prop where
  begin_ok : ∀ {s}, A.start s = none →
    ∃ s', b.begin.run s = (.ok (), s') ∧ A.tables s' = A.tables s ∧
      A.start s' = some (A.tables s)
  /-- There is no transaction inside another one. -/
  begin_error : ∀ {s d}, A.start s = some d →
    ∃ e s', b.begin.run s = (.error e, s') ∧ A.tables s' = A.tables s ∧ A.start s' = some d
  commit_ok : ∀ {s s' d}, A.start s = some d → b.commit.run s = (.ok (), s') →
    A.tables s' = A.tables s ∧ A.start s' = none
  commit_error : ∀ {s s' d e}, A.start s = some d → b.commit.run s = (.error e, s') →
    A.undone s' = d
  undo : ∀ s, A.tables (b.undo.run s).2 = A.undone s ∧ A.start (b.undo.run s).2 = none

namespace Bounds.Lawful

variable {σ δ ν : Type} {b : Bounds Failure σ} {A : Aspect σ δ} {f : Deed σ ν} {s : σ}

/-- What fails before the transaction is kept can be undone. -/
theorem undone_of_error (hb : b.Lawful A) (hf : A.Within f) {d : δ} {e : Failure}
    (hs : A.start s = some d) (h : (f.andThen (Deed.ofWork b.commit) s).result = .error e) :
    A.undone (f.andThen (Deed.ofWork b.commit) s).database = d := by
  rcases hr : (f s).result with e | ⟨⟩
  · rw [Deed.andThen_of_error hr]
    exact hf.undone_of_error hs hr
  · rw [Deed.andThen_of_ok hr] at h ⊢
    exact hb.commit_error (hf.start_of_ok hs hr) (Prod.ext h rfl)

/-- A transaction that fails leaves nothing behind. -/
theorem same_of_whole_error (hb : b.Lawful A) (hf : A.Within f) {e : Failure}
    (h : (Deed.whole b f s).result = .error e) :
    A.tables (Deed.whole b f s).database = A.tables s ∧
      A.start (Deed.whole b f s).database = A.start s := by
  cases hs : A.start s with
  | some d =>
    obtain ⟨e', s', begun, tables, start⟩ := hb.begin_error hs
    simp only [Deed.whole, begun]
    exact ⟨tables, start⟩
  | none =>
    obtain ⟨s', begun, tables, start⟩ := hb.begin_ok hs
    simp only [Deed.whole, begun] at h ⊢
    rcases hr : (f.andThen (Deed.ofWork b.commit) s').result with e' | ⟨⟩
    · obtain ⟨undone, ended⟩ := hb.undo (f.andThen (Deed.ofWork b.commit) s').database
      exact ⟨undone.trans (hb.undone_of_error hf start hr), ended⟩
    · simp only [hr] at h
      cases h

/-- A transaction that succeeds is what was done in it. -/
theorem exists_of_whole_ok (hb : b.Lawful A) (hf : A.Within f)
    (h : (Deed.whole b f s).result = .ok ()) :
    A.start s = none ∧ A.start (Deed.whole b f s).database = none ∧
      ∃ s', A.tables s' = A.tables s ∧ A.start s' = some (A.tables s) ∧ (f s').result = .ok () ∧
        A.tables (Deed.whole b f s).database = A.tables (f s').database := by
  obtain ⟨s', t, begun, done, kept, whole⟩ := Deed.exists_of_whole_ok h
  rw [whole]
  cases hs : A.start s with
  | some d =>
    obtain ⟨e, s'', refused, -⟩ := hb.begin_error hs
    rw [refused] at begun
    cases begun
  | none =>
    obtain ⟨s'', begun', tables, start⟩ := hb.begin_ok hs
    rw [begun'] at begun
    cases begun
    obtain ⟨same, ended⟩ := hb.commit_ok (hf.start_of_ok start done) kept
    exact ⟨rfl, ended, s', tables, start, done, same⟩

end Bounds.Lawful

/-! ## Lawful ledgers -/

/-- A ledger whose statements do what they say, or fail. -/
structure Ledger.Lawful {σ δ : Type} (L : Ledger σ) (A : Aspect σ δ) : Prop where
  bounds : L.bounds.Lawful A
  recorded : ∀ {s x}, A.Shows s x → L.recorded s = .ok (Recorded.ofCells x)
  create_within : A.Within (Deed.ofWork L.create : Deed σ Empty)
  create_ok : ∀ {s s' x}, A.Shows s x → L.create.run s = (.ok (), s') →
    A.Shows s' (some (x.getD []))
  append_within : ∀ v, A.Within (Deed.ofWork (L.append v) : Deed σ Empty)
  /-- A version that is the first, or above the greatest, is added at the end. -/
  append_ok : ∀ {s s' v cs}, A.Shows s (some cs) → (L.append v).run s = (.ok (), s') →
    (cs = [] ∨ ∃ n, greatest cs = .integer n ∧ n < v) → A.Shows s' (some (cs ++ [.integer v]))
  drop_ok : ∀ {s s'}, A.apart (A.tables s) → L.drop.run s = (.ok (), s') →
    A.tables s' = A.without (A.tables s)
  drop_error : ∀ {s s' e}, A.apart (A.tables s) → L.drop.run s = (.error e, s') →
    A.tables s' = A.tables s

namespace Ledger.Lawful

variable {σ δ ν : Type} {L : Ledger σ} {A : Aspect σ δ} {r : Registry} {s : σ}
  {u : Int64 × SchemaFunction σ ν}

theorem within_update (hL : L.Lawful A) (hu : A.Within (u.2 r (some u.1))) :
    A.Within (Deed.andThen (u.2 r (some u.1)) (Deed.ofWork (L.append u.1))) :=
  Aspect.within_andThen hu (hL.append_within u.1)

/-- An update function that fails, or is not recorded, leaves nothing behind. -/
theorem same_of_update_error (hL : L.Lawful A) (hu : A.Within (u.2 r (some u.1))) {e : Failure}
    (h : (L.update r u s).result = .error e) :
    A.tables (L.update r u s).database = A.tables s ∧
      A.start (L.update r u s).database = A.start s :=
  hL.bounds.same_of_whole_error (hL.within_update hu) h

/-- An update function that succeeds leaves its version in the ledger. -/
theorem shows_of_update_ok (hL : L.Lawful A) (hu : A.Tame (u.2 r (some u.1))) {cs : List Cell}
    (h : (L.update r u s).result = .ok ()) (hcs : A.Shows s (some cs))
    (above : cs = [] ∨ ∃ n, greatest cs = .integer n ∧ n < u.1) :
    A.Shows (L.update r u s).database (some (cs ++ [.integer u.1])) := by
  obtain ⟨-, -, s', tables, start, done, same⟩ :=
    hL.bounds.exists_of_whole_ok (hL.within_update hu.within) h
  obtain ⟨called, recorded⟩ := Deed.result_andThen_eq_ok_iff.mp done
  have untouched := hu.spares s' _ called (hcs.congr tables)
  rw [Deed.andThen_of_ok called] at same
  exact (hL.append_ok untouched (Prod.ext recorded rfl) above).congr same

section Creation

variable {m : Migrations σ ν}

theorem within_creation (hL : L.Lawful A) (hm : ∀ f ∈ m.inits, A.Within (f r none)) :
    A.Within ((Deed.ofWork L.create).andThen
      ((Deed.all (m.inits.map fun f => f r none)).andThen (Deed.ofWork (L.append m.latest)))) := by
  have inits : A.Within (Deed.all (m.inits.map fun f => f r none)) :=
    Aspect.within_all (List.forall_mem_map.mpr hm)
  exact Aspect.within_andThen hL.create_within
    (Aspect.within_andThen inits (hL.append_within m.latest))

/-- An init path that fails leaves nothing behind. -/
theorem same_of_creation_error (hL : L.Lawful A) (hm : ∀ f ∈ m.inits, A.Within (f r none))
    {e : Failure} (h : (m.creation L r s).result = .error e) :
    A.tables (m.creation L r s).database = A.tables s ∧
      A.start (m.creation L r s).database = A.start s :=
  hL.bounds.same_of_whole_error (hL.within_creation hm) h

/-- An init path that succeeds leaves a ledger with the latest version. -/
theorem shows_of_creation_ok (hL : L.Lawful A) (hm : ∀ f ∈ m.inits, A.Tame (f r none))
    (h : (m.creation L r s).result = .ok ()) (hs : A.Shows s none) :
    A.Shows (m.creation L r s).database (some [.integer m.latest]) := by
  have within := hL.within_creation fun f hf => (hm f hf).within
  obtain ⟨-, -, s', tables, -, done, same⟩ := hL.bounds.exists_of_whole_ok within h
  obtain ⟨created, rest⟩ := Deed.result_andThen_eq_ok_iff.mp done
  obtain ⟨called, recorded⟩ := Deed.result_andThen_eq_ok_iff.mp rest
  have empty := hL.create_ok (hs.congr tables) (Prod.ext created rfl)
  have tame : ∀ f ∈ m.inits.map fun f => f r none, A.Tame f := List.forall_mem_map.mpr hm
  have untouched := Aspect.spares_all (fun f hf => (tame f hf).spares) _ _ called empty
  rw [Deed.andThen_of_ok created, Deed.andThen_of_ok called] at same
  exact (hL.append_ok untouched (Prod.ext recorded rfl) (.inl rfl)).congr same

end Creation

end Ledger.Lawful

end FilterStore
