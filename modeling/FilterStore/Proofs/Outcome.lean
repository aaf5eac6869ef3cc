import FilterStore.Error
import FilterStore.Transaction

/-!
# Succeeding

A request is answered with a result or with the first error that was met.  Many facts are about
results alone: a position that is only reported with an error does not matter to them.  Such facts
are stated of `Except.toOption`, which forgets which error it was and goes through `bind` and `map`.

Work on a state keeps the state it has reached when it fails, and whoever catches the error goes on
from there.
-/

namespace FilterStore

section Outcome

variable {ε α β : Type}

theorem ok_bind (a : α) (f : α → Except ε β) : (Except.ok a >>= f) = f a := rfl

/-- A sequence of two steps succeeds when both do. -/
theorem bind_eq_ok_iff {x : Except ε α} {f : α → Except ε β} {b : β} :
    (x >>= f) = .ok b ↔ ∃ a, x = .ok a ∧ f a = .ok b := by
  cases x <;> simp [bind, Except.bind]

theorem map_eq_ok_iff {x : Except ε α} {f : α → β} {b : β} :
    x.map f = .ok b ↔ ∃ a, x = .ok a ∧ f a = b := by
  cases x <;> simp [Except.map]

/-- It fails where the first of them fails, or else where the second does. -/
theorem bind_eq_error_iff {x : Except ε α} {f : α → Except ε β} {e : ε} :
    (x >>= f) = .error e ↔ x = .error e ∨ ∃ a, x = .ok a ∧ f a = .error e := by
  cases x <;> simp [bind, Except.bind]

theorem map_eq_error_iff {x : Except ε α} {f : α → β} {e : ε} :
    x.map f = .error e ↔ x = .error e := by
  cases x <;> simp [Except.map]

/-- What is seen of the first steps decides what is seen of both, if it does so of the second. -/
theorem map_bind_congr {γ δ : Type} {x y : Except ε α} {k l : α → Except ε β} {g : α → γ}
    {h : β → δ} (hx : y.map g = x.map g) (hk : ∀ a b, g b = g a → (l b).map h = (k a).map h) :
    (y >>= l).map h = (x >>= k).map h := by
  cases x with
  | error e =>
    cases y with
    | error e' =>
      cases hx
      rfl
    | ok b => cases hx
  | ok a =>
    cases y with
    | error e' => cases hx
    | ok b => exact hk a b (Except.ok.inj hx)

theorem mapError_ok {ε' : Type} (f : ε → ε') (a : α) :
    (Except.ok a : Except ε α).mapError f = .ok a := rfl

theorem mapError_error {ε' : Type} (f : ε → ε') (e : ε) :
    (Except.error e : Except ε α).mapError f = .error (f e) := rfl

theorem mapError_eq_ok_iff {ε' : Type} {x : Except ε α} {f : ε → ε'} {a : α} :
    x.mapError f = .ok a ↔ x = .ok a := by
  cases x <;> simp [mapError_ok, mapError_error]

theorem toOption_eq_some_iff {x : Except ε α} {a : α} : x.toOption = some a ↔ x = .ok a := by
  cases x <;> simp [Except.toOption]

@[simp] theorem toOption_ok (a : α) : (Except.ok a : Except ε α).toOption = some a := rfl

@[simp] theorem toOption_error (e : ε) : (Except.error e : Except ε α).toOption = none := rfl

@[simp] theorem toOption_bind (x : Except ε α) (f : α → Except ε β) :
    (x >>= f).toOption = x.toOption.bind fun a => (f a).toOption := by
  cases x <;> rfl

@[simp] theorem toOption_map (x : Except ε α) (f : α → β) :
    (x.map f).toOption = x.toOption.map f := by
  cases x <;> rfl

/-- What every step of a sequence keeps, a sequence that succeeds keeps. -/
theorem foldlM_induct {σ : Type} {P : σ → Prop} {f : σ → α → Except ε σ}
    (step : ∀ s a s', P s → f s a = .ok s' → P s') {xs : List α} {s s' : σ} (hs : P s)
    (h : xs.foldlM f s = .ok s') : P s' := by
  induction xs generalizing s with
  | nil =>
    cases h
    exact hs
  | cons a xs ih =>
    rw [List.foldlM_cons, bind_eq_ok_iff] at h
    obtain ⟨s₁, hs₁, h⟩ := h
    exact ih (step s a s₁ hs hs₁) h

theorem mapM_of_ok {f : α → Except ε β} {g : α → β} {xs : List α}
    (h : ∀ x ∈ xs, f x = .ok (g x)) : xs.mapM f = .ok (xs.map g) := by
  induction xs with
  | nil => rfl
  | cons x xs ih =>
    rw [List.mapM_cons, h x List.mem_cons_self, ih fun y hy => h y (List.mem_cons_of_mem x hy)]
    rfl

/-- Results that are known place by place. -/
theorem mapM_of_getElem {f : α → Except ε β} {xs : List α} {ys : List β}
    (length : xs.length = ys.length)
    (h : ∀ i (hi : i < xs.length) (hi' : i < ys.length), f xs[i] = .ok ys[i]) :
    xs.mapM f = .ok ys := by
  induction xs generalizing ys with
  | nil =>
    obtain rfl := List.length_eq_zero_iff.mp length.symm
    rfl
  | cons x xs ih =>
    obtain _ | ⟨y, ys⟩ := ys
    · cases length
    have first := h 0 (Nat.succ_pos _) (Nat.succ_pos _)
    have rest := ih (Nat.succ.inj length) fun i hi hi' =>
      h (i + 1) (Nat.succ_lt_succ hi) (Nat.succ_lt_succ hi')
    rw [List.getElem_cons_zero, List.getElem_cons_zero] at first
    rw [List.mapM_cons, first, rest]
    rfl

end Outcome

section Work

variable {ε σ α β : Type}

theorem run_bind (x : ExceptT ε (StateM σ) α) (f : α → ExceptT ε (StateM σ) β) (s : σ) :
    (x >>= f).run s = match x.run s with
      | (.ok a, s) => (f a).run s
      | (.error e, s) => (.error e, s) := by
  have unfolded : (x >>= f).run s = ExceptT.bindCont f (x.run s).1 (x.run s).2 := rfl
  rw [unfolded]
  rcases x.run s with ⟨_ | _, _⟩ <;> rfl

/-- What succeeds has succeeded in both of its parts. -/
theorem exists_of_run_bind_ok {x : ExceptT ε (StateM σ) α} {f : α → ExceptT ε (StateM σ) β}
    {s s' : σ} {b : β} (h : (x >>= f).run s = (.ok b, s')) :
    ∃ a s₁, x.run s = (.ok a, s₁) ∧ (f a).run s₁ = (.ok b, s') := by
  rw [run_bind] at h
  rcases hx : x.run s with ⟨e | a, s₁⟩ <;> rw [hx] at h
  · cases h
  · exact ⟨a, s₁, rfl, h⟩

theorem run_tryCatch (x : ExceptT ε (StateM σ) α) (f : ε → ExceptT ε (StateM σ) α) (s : σ) :
    (tryCatch x f).run s = match x.run s with
      | (.ok a, s) => (.ok a, s)
      | (.error e, s) => (f e).run s := by
  have unfolded : (tryCatch x f).run s = (match (x.run s).1 with
    | .ok a => (pure (.ok a) : StateM σ (Except ε α))
    | .error e => (f e).run).run (x.run s).2 := rfl
  rw [unfolded]
  rcases x.run s with ⟨_ | _, _⟩ <;> rfl

theorem run_pure (a : α) (s : σ) : (pure a : ExceptT ε (StateM σ) α).run s = (.ok a, s) := rfl

theorem run_get (s : σ) : (get : ExceptT ε (StateM σ) σ).run s = (.ok s, s) := rfl

theorem run_modify (f : σ → σ) (s : σ) :
    (modify f : ExceptT ε (StateM σ) Unit).run s = (.ok (), f s) := rfl

section Loop

variable (f : α → ExceptT ε (StateM σ) Unit) (x : α) (xs : List α) (s : σ)

theorem run_forM_nil : (([] : List α).forM f).run s = (.ok (), s) := rfl

theorem run_forM_cons : ((x :: xs).forM f).run s = (f x >>= fun _ => xs.forM f).run s := rfl

theorem run_forM_single : ([x].forM f).run s = (f x).run s := by
  rw [run_forM_cons, run_bind]
  rcases (f x).run s with ⟨_ | _, _⟩ <;> rfl

variable {f xs s}

/-- Steps of which each does nothing do nothing together. -/
theorem run_forM_of_quiet (h : ∀ x ∈ xs, (f x).run s = (.ok (), s)) :
    (xs.forM f).run s = (.ok (), s) := by
  induction xs with
  | nil => rfl
  | cons x xs ih =>
    rw [run_forM_cons, run_bind, h x List.mem_cons_self]
    exact ih fun y hy => h y (List.mem_cons_of_mem x hy)

theorem run_forM_append (ys : List α) :
    ((xs ++ ys).forM f).run s = (xs.forM f >>= fun _ => ys.forM f).run s :=
  congrArg (fun work : ExceptT ε (StateM σ) Unit => work.run s) List.forM_append

theorem run_forM_map (g : β → α) (ys : List β) :
    ((ys.map g).forM f).run s = (ys.forM fun y => f (g y)).run s :=
  congrArg (fun work : ExceptT ε (StateM σ) Unit => work.run s) List.forM_map

/-- What holds of what has been done, step by step, holds in the end. -/
theorem exists_run_forM {P : List α → σ → Prop} (start : P [] s)
    (step : ∀ before x after, xs = before ++ x :: after → ∀ s, P before s →
      ∃ s', (f x).run s = (.ok (), s') ∧ P (before ++ [x]) s') :
    ∃ s', (xs.forM f).run s = (.ok (), s') ∧ P xs s' := by
  have rest : ∀ after before s, xs = before ++ after → P before s →
      ∃ s', (after.forM f).run s = (.ok (), s') ∧ P xs s' := by
    intro after
    induction after with
    | nil => exact fun before s split hs => ⟨s, rfl, by rwa [split, List.append_nil]⟩
    | cons x after ih =>
      intro before s split hs
      obtain ⟨s₁, done, hs₁⟩ := step before x after split s hs
      obtain ⟨s', done', hs'⟩ := ih (before ++ [x]) s₁ (by rw [split, List.append_assoc]; rfl) hs₁
      refine ⟨s', ?_, hs'⟩
      rw [run_forM_cons, run_bind, done]
      exact done'
  exact rest xs [] s rfl start

/-- What each step keeps of what has been done holds behind steps that all succeed. -/
theorem of_run_forM_ok {P : List α → σ → Prop} (start : P [] s)
    (step : ∀ before x after, xs = before ++ x :: after → ∀ s s', P before s →
      (f x).run s = (.ok (), s') → P (before ++ [x]) s')
    {s' : σ} (h : (xs.forM f).run s = (.ok (), s')) : P xs s' := by
  have rest : ∀ after before s, xs = before ++ after → P before s →
      (after.forM f).run s = (.ok (), s') → P xs s' := by
    intro after
    induction after with
    | nil =>
      intro before s split hs done
      cases done
      rwa [split, List.append_nil]
    | cons x after ih =>
      intro before s split hs done
      rw [run_forM_cons] at done
      obtain ⟨⟨⟩, s₁, first, others⟩ := exists_of_run_bind_ok done
      exact ih (before ++ [x]) s₁ (by rw [split, List.append_assoc]; rfl)
        (step before x after split s s₁ hs first) others
  exact rest xs [] s rfl start h

variable {g : α → ExceptT ε (StateM σ) β}

/-- Steps that only give results. -/
theorem run_mapM_of_quiet {r : α → β} (h : ∀ x ∈ xs, (g x).run s = (.ok (r x), s)) :
    (xs.mapM g).run s = (.ok (xs.map r), s) := by
  induction xs with
  | nil => rfl
  | cons x xs ih =>
    rw [List.mapM_cons, run_bind, h x List.mem_cons_self]
    simp only [run_bind, ih fun y hy => h y (List.mem_cons_of_mem x hy)]
    rfl

/-- Steps of which each keeps what it is given. -/
theorem run_foldlM_of_quiet {g : β → α → ExceptT ε (StateM σ) β} {b : β}
    (h : ∀ x ∈ xs, (g b x).run s = (.ok b, s)) : (xs.foldlM g b).run s = (.ok b, s) := by
  induction xs with
  | nil => rfl
  | cons x xs ih =>
    rw [List.foldlM_cons, run_bind, h x List.mem_cons_self]
    exact ih fun y hy => h y (List.mem_cons_of_mem x hy)

end Loop

end Work

/-! ## Work as a whole

What becomes of work that is made whole, in terms of how it is begun, kept and undone.
-/

namespace Bounds

variable {ε σ α : Type}

theorem run_whole (b : Bounds ε σ) (work : ExceptT ε (StateM σ) α) (s : σ) :
    (b.whole work).run s = match b.begin.run s with
      | (.error e, s) => (.error e, s)
      | (.ok (), s) =>
        match (do let a ← work; b.commit; pure a : ExceptT ε (StateM σ) α).run s with
        | (.ok a, s) => (.ok a, s)
        | (.error e, s) => (.error e, (b.undo.run s).2) := by
  unfold whole
  rw [run_bind]
  rcases b.begin.run s with ⟨_ | ⟨⟩, s⟩
  · rfl
  simp only [run_tryCatch]
  rcases (do let a ← work; b.commit; pure a : ExceptT ε (StateM σ) α).run s with
    ⟨_ | _, _⟩ <;> rfl

/-- What succeeds as a whole has been begun and done, and kept in the end. -/
theorem exists_of_whole_ok {b : Bounds ε σ} {work : ExceptT ε (StateM σ) α} {s s' : σ} {a : α}
    (h : (b.whole work).run s = (.ok a, s')) :
    ∃ s₁ s₂, b.begin.run s = (.ok (), s₁) ∧ work.run s₁ = (.ok a, s₂) ∧
      b.commit.run s₂ = (.ok (), s') := by
  rw [run_whole] at h
  rcases begun : b.begin.run s with ⟨_ | ⟨⟩, s₁⟩
  · rw [begun] at h
    cases h
  rcases done : (do let a ← work; b.commit; pure a : ExceptT ε (StateM σ) α).run s₁ with
    ⟨_ | _, s₂⟩
  · simp only [begun, done] at h
    cases h
  simp only [begun, done] at h
  cases h
  obtain ⟨a', s₃, worked, committed⟩ := exists_of_run_bind_ok done
  obtain ⟨⟨⟩, s₄, kept, given⟩ := exists_of_run_bind_ok committed
  cases given
  exact ⟨s₁, s₃, rfl, worked, kept⟩

/-- Work that succeeds and can be kept. -/
theorem run_whole_of_ok {b : Bounds ε σ} {work : ExceptT ε (StateM σ) α} {s s₁ s₂ s₃ : σ} {a : α}
    (begun : b.begin.run s = (.ok (), s₁)) (done : work.run s₁ = (.ok a, s₂))
    (kept : b.commit.run s₂ = (.ok (), s₃)) : (b.whole work).run s = (.ok a, s₃) := by
  rw [run_whole, begun]
  simp only [run_bind, done, kept, run_pure]

end Bounds

end FilterStore
