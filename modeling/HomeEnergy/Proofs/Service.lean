import HomeEnergy.Service

/-!
# `HomeEnergy.Proofs.Service`: what a call comes to

A call changes the state and may fail. The lemmas here run the first action of a call, so that a
call can be told step by step. A pair of results comes of both of its parts.
-/

set_option autoImplicit false

namespace HomeEnergy

variable {σ α β : Type} {s s₁ : σ} {a : α}

/-- What comes after an action runs in the state and on the result that the action leaves. -/
theorem run_bind_of_run {act : StateM σ α} {f : α → StateM σ β} (h : act.run s = (a, s₁)) :
    (act >>= f).run s = (f a).run s₁ := by
  rw [StateT.run_bind, h]
  rfl

/-- A step that only looks at the state. -/
theorem run_get_bind {f : σ → StateM σ β} :
    ((get : StateM σ σ) >>= f).run s = (f s).run s := rfl

/-- What comes after a call that succeeds runs on its result. -/
theorem run_bind_of_ok {act : Call σ α} {f : α → Call σ β} (h : act.run.run s = (.ok a, s₁)) :
    (act >>= f).run.run s = (f a).run.run s₁ := by
  rw [ExceptT.run_bind]
  exact run_bind_of_run h

/-- What comes after a call that fails does not run: the failure is passed on, in the state it
left. -/
theorem run_bind_of_error {act : Call σ α} {f : α → Call σ β} {e : Failure}
    (h : act.run.run s = (.error e, s₁)) : (act >>= f).run.run s = (.error e, s₁) := by
  rw [ExceptT.run_bind]
  exact run_bind_of_run h

/-- A call that succeeds does so step by step. -/
theorem exists_of_run_bind_eq_ok {act : Call σ α} {f : α → Call σ β} {b : β} {s₂ : σ}
    (h : (act >>= f).run.run s = (.ok b, s₂)) :
    ∃ a s₁, act.run.run s = (.ok a, s₁) ∧ (f a).run.run s₁ = (.ok b, s₂) := by
  cases hact : act.run.run s with
  | mk result s₁ =>
    -- Had the first call failed, `run_bind_of_error` would have made the whole one fail.
    cases result with
    | error e =>
      rw [run_bind_of_error hact] at h
      cases h
    | ok a =>
      rw [run_bind_of_ok hact] at h
      exact ⟨a, s₁, rfl, h⟩

/-- A result that is given already. -/
theorem run_bind_of_result {r : Except Failure α} {f : α → Call σ β} :
    (liftM r >>= f : Call σ β).run.run s = match r with
      | .ok a => (f a).run.run s
      | .error e => (.error e, s) := by
  cases r <;> rfl

/-- A call whose result is only worked on. -/
theorem run_bind_pure {act : Call σ α} {r : Except Failure α} (f : α → β)
    (h : act.run.run s = (r, s₁)) :
    (act >>= fun a => pure (f a)).run.run s = (r.map f, s₁) := by
  cases r with
  | error e => exact run_bind_of_error h
  | ok a => exact run_bind_of_ok h

/-- Two calls that leave the state, for both of their results. -/
theorem run_pair {first : Call σ α} {second : Call σ β} {a : Except Failure α}
    {b : Except Failure β} (ha : first.run.run s = (a, s)) (hb : second.run.run s = (b, s)) :
    (do
      let x ← first
      let y ← second
      return (x, y) : Call σ (α × β)).run.run s = (a.bind fun x => b.map fun y => (x, y), s) := by
  cases a with
  | error e => exact run_bind_of_error ha
  | ok x =>
    refine (run_bind_of_ok ha).trans ?_
    exact run_bind_pure (fun y => (x, y)) hb

/-- The handler of a call that succeeds is not run. -/
theorem run_tryCatch_of_ok {act : Call σ α} {handler : Failure → Call σ α}
    (h : act.run.run s = (.ok a, s₁)) : (tryCatch act handler).run.run s = (.ok a, s₁) := by
  rw [ExceptT.run_tryCatch]
  exact run_bind_of_run h

section Pair

variable {ε γ : Type} {a : Except ε α} {b : Except ε β} {f : α → β → γ}

/-- A pair of results is good if and only if both of its parts are. -/
theorem pair_eq_ok_iff {c : γ} :
    (do
      let x ← a
      let y ← b
      return f x y) = Except.ok c ↔ ∃ x y, a = .ok x ∧ b = .ok y ∧ c = f x y := by
  cases a with
  | error e => exact iff_of_false nofun (by rintro ⟨_, _, ⟨⟩, _⟩)
  | ok x =>
    cases b with
    | error e => exact iff_of_false nofun (by rintro ⟨_, _, _, ⟨⟩, _⟩)
    | ok y =>
      constructor
      · rintro ⟨⟩
        exact ⟨x, y, rfl, rfl, rfl⟩
      · rintro ⟨_, _, ⟨⟩, ⟨⟩, rfl⟩
        rfl

/-- A failure of a pair is the failure of one of its parts. -/
theorem pair_eq_error {e : ε}
    (h : (do
      let x ← a
      let y ← b
      return f x y) = Except.error e) : a = .error e ∨ b = .error e := by
  cases a with
  | error e' =>
    cases h
    exact Or.inl rfl
  | ok x =>
    cases b with
    | error e' =>
      cases h
      exact Or.inr rfl
    | ok y => cases h

end Pair

/-- A step that cannot fail, within a call. -/
theorem run_bind_of_lift {act : StateM σ α} {f : α → Call σ β} (h : act.run s = (a, s₁)) :
    (liftM act >>= f : Call σ β).run.run s = (f a).run.run s₁ := by
  have hlift : (liftM act : Call σ α).run.run s = (.ok a, s₁) := by
    show (Except.ok <$> act).run s = _
    rw [StateT.run_map, h]
    rfl
  exact run_bind_of_ok hlift

/-- A call for each item, of which none fails or changes the state. -/
theorem run_mapM {f : α → StateM σ β} {g : α → β} {items : List α}
    (h : ∀ a ∈ items, (f a).run s = (g a, s)) :
    (items.mapM fun a => (liftM (f a) : Call σ β)).run.run s = (.ok (items.map g), s) := by
  induction items with
  | nil => rfl
  | cons a rest ih =>
    rw [List.mapM_cons]
    rw [run_bind_of_lift (h a List.mem_cons_self)]
    exact run_bind_pure (g a :: ·) (ih fun b hb => h b (List.mem_cons_of_mem _ hb))

end HomeEnergy
