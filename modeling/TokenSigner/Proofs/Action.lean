import TokenSigner.Action

namespace TokenSigner

variable {σ τ α β γ : Type} {I : σ → Prop}

theorem bind_eq_ok {r : Except Error α} {f : α → Except Error β} {y : β} :
    r >>= f = .ok y ↔ ∃ x, r = .ok x ∧ f x = .ok y := by
  cases r <;> simp [bind, Except.bind]

theorem bind_eq_error {r : Except Error α} {f : α → Except Error β} {e : Error} :
    r >>= f = .error e ↔ r = .error e ∨ ∃ x, r = .ok x ∧ f x = .error e := by
  cases r <;> simp [bind, Except.bind]

theorem map_eq_error {r : Except Error α} {f : α → β} {e : Error} :
    r.map f = .error e ↔ r = .error e := by
  cases r <;> simp [Except.map]

@[simp] theorem mapError_ok {ε : Type} (f : ε → Error) (x : α) :
    (Except.ok x).mapError f = .ok x := rfl

@[simp] theorem mapError_error {ε : Type} (f : ε → Error) (report : ε) :
    (Except.error report : Except ε α).mapError f = .error (f report) := rfl

theorem mapError_eq_error {ε : Type} {r : Except ε α} {f : ε → Error} {e : Error} :
    r.mapError f = .error e ↔ ∃ report, r = .error report ∧ f report = e := by
  cases r <;> simp

def error? : Except Error α → Option Error
  | .ok _ => none
  | .error e => some e

theorem error?_eq_some {r : Except Error α} {e : Error} :
    error? r = some e ↔ r = .error e := by
  cases r <;> simp [error?]

theorem error?_eq_none {r : Except Error α} :
    error? r = none ↔ ∃ x, r = .ok x := by
  cases r <;> simp [error?]

namespace Action

theorem run_get_bind (f : σ → Action σ β) (s : σ) : (get >>= f).run s = (f s).run s := rfl

theorem run_eq_of_error? {a : Action σ α} {s : σ} {e : Error} (h : error? (a.run s).1 = some e) :
    a.run s = (.error e, (a.run s).2) :=
  Prod.ext (error?_eq_some.mp h) rfl

theorem run_bind_pure_snd (a : Action σ α) (y : β) (s : σ) :
    ((a >>= fun _ => pure y).run s).2 = (a.run s).2 := by
  rw [run_bind]
  match a.run s with
  | (.ok x, t) => rfl
  | (.error e, t) => rfl

theorem run_outcome_eq_ok {a : Action σ α} {r : Except Error α} {s t : σ} :
    a.outcome.run s = (.ok r, t) ↔ a.run s = (r, t) := by
  rw [run_outcome]
  match a.run s with
  | (r', t') => simp

theorem run_outcome_bind_ok {a : Action σ α} {s t : σ} {x : α} (h : a.run s = (.ok x, t))
    (f : α → Action σ β) (g : Except Error β → Action σ γ) :
    ((a >>= f).outcome >>= g).run s = ((f x).outcome >>= g).run t := by
  rw [run_bind, run_bind, run_outcome, run_outcome, run_bind_ok h]

theorem run_ofExcept_bind_eq_ok {r : Except Error α} {f : α → Action σ β} {s u : σ} {y : β} :
    (ofExcept r >>= f).run s = (.ok y, u) ↔ ∃ x, r = .ok x ∧ (f x).run s = (.ok y, u) := by
  rw [run_bind, run_ofExcept]
  cases r <;> simp

theorem run_guard_eq_ok {c : Prop} [Decidable c] {e : Error} {rest : Action σ β}
    {f : α → Action σ β} {s u : σ} {y : β} :
    (if c then (throw e : Action σ α) >>= f else rest).run s = (.ok y, u) ↔
      ¬c ∧ rest.run s = (.ok y, u) := by
  by_cases h : c
  · simp [h, run_bind]
  · simp [h]

def Keeps (I : σ → Prop) (a : Action σ α) : Prop :=
  ∀ s, I s → I (a.run s).2

namespace Keeps

theorem pure (x : α) : Keeps I (Pure.pure x) := by
  intro s hs
  exact hs

theorem throw (e : Error) : Keeps I (throw e : Action σ α) := by
  intro s hs
  exact hs

theorem ofExcept (r : Except Error α) : Keeps I (ofExcept r) := by
  intro s hs
  exact hs

theorem modify {f : σ → σ} (h : ∀ s, I s → I (f s)) :
    Keeps I (modify f : Action σ PUnit) := by
  intro s hs
  exact h s hs

theorem bind_answer {a : Action σ α} {f : α → Action σ β} (ha : Keeps I a)
    (hf : ∀ s x, I s → (a.run s).1 = .ok x → Keeps I (f x)) : Keeps I (a >>= f) := by
  intro s hs
  have hafter := ha s hs
  rw [run_bind]
  match h : a.run s with
  | (.ok x, t) =>
    rw [h] at hafter
    exact hf s x hs (by rw [h]) t hafter
  | (.error e, t) =>
    rw [h] at hafter
    exact hafter

theorem bind {a : Action σ α} {f : α → Action σ β} (ha : Keeps I a)
    (hf : ∀ x, Keeps I (f x)) : Keeps I (a >>= f) :=
  bind_answer ha fun _ x _ _ => hf x

theorem get_bind {f : σ → Action σ β} (hf : ∀ s, I s → Keeps I (f s)) :
    Keeps I (get >>= f) := by
  intro s hs
  exact hf s hs s hs

theorem map {a : Action σ α} (f : α → β) (ha : Keeps I a) : Keeps I (f <$> a) := by
  intro s hs
  rw [run_map]
  exact ha s hs

theorem outcome {a : Action σ α} (ha : Keeps I a) : Keeps I a.outcome := by
  intro s hs
  rw [run_outcome]
  exact ha s hs

theorem on {part : σ → τ} {put : τ → σ → σ} {a : Action τ α}
    (h : ∀ s, I s → I (put (a.run (part s)).2 s)) : Keeps I (a.on part put) := by
  intro s hs
  rw [run_on]
  exact h s hs

theorem ite {c : Prop} [Decidable c] {a b : Action σ α} (ha : c → Keeps I a)
    (hb : ¬c → Keeps I b) : Keeps I (if c then a else b) := by
  split
  · next h => exact ha h
  · next h => exact hb h

end Keeps

end Action

end TokenSigner
