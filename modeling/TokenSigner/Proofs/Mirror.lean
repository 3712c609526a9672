import TokenSigner.Proofs.Action

namespace TokenSigner

variable {σ τ α β : Type}

structure Pact (σ : Type) where
  fits : σ → Prop
  alike : σ → σ → Prop
  spares : σ → σ → Prop
  refl : ∀ s, spares s s
  trans : ∀ {s t u}, spares s t → spares t u → spares s u

def Pact.ofAlike (alike : σ → σ → Prop) : Pact σ where
  fits _ := True
  alike := alike
  spares _ _ := True
  refl _ := trivial
  trans _ _ := trivial

structure Pact.Kept (P : Pact σ) (s s' : σ) (run run' : Except Error α × σ) : Prop where
  result : run.1 = run'.1
  fits : P.fits run.2
  alike : P.alike run.2 run'.2
  spares : P.spares s run.2
  spares' : P.spares s' run'.2

inductive Paired (related : α → β → Prop) : Except Error α → Except Error β → Prop
  | ok {x : α} {y : β} (h : related x y) : Paired related (.ok x) (.ok y)
  | error (e : Error) : Paired related (.error e) (.error e)

theorem Paired.map {related : α → α → Prop} {related' : β → β → Prop} {r r' : Except Error α}
    {f f' : α → β} (h : Paired related r r') (hf : ∀ x y, related x y → related' (f x) (f' y)) :
    Paired related' (r.map f) (r'.map f') := by
  cases h with
  | ok hvalues => exact .ok (hf _ _ hvalues)
  | error e => exact .error e

namespace Action

def Agree (P : Pact σ) (a a' : Action σ α) : Prop :=
  ∀ s s', P.fits s → P.alike s s' → P.Kept s s' (a.run s) (a'.run s')

abbrev Mirrors (P : Pact σ) (a : Action σ α) : Prop := Agree P a a

variable {P : Pact σ}

namespace Agree

theorem bind_answer {a a' : Action σ α} {f f' : α → Action σ β} (ha : Agree P a a')
    (hf : ∀ s x, P.fits s → (a.run s).1 = .ok x → Agree P (f x) (f' x)) :
    Agree P (a >>= f) (a' >>= f') := by
  intro s s' hs halike
  have hfirst := ha s s' hs halike
  -- Kept for the whole run, since what is known of the answer is known of the first run alone.
  have hnext := hf s
  rcases hrun : a.run s with ⟨r, t⟩
  rcases hrun' : a'.run s' with ⟨r', t'⟩
  rw [hrun, hrun'] at hfirst
  rw [hrun] at hnext
  obtain ⟨hresult, hfits, hbetween, hspares, hspares'⟩ := hfirst
  cases hresult
  cases r with
  | error e =>
    rw [run_bind_error hrun, run_bind_error hrun']
    exact ⟨rfl, hfits, hbetween, hspares, hspares'⟩
  | ok x =>
    rw [run_bind_ok hrun, run_bind_ok hrun']
    have hlast := hnext x hs rfl t t' hfits hbetween
    exact ⟨hlast.result, hlast.fits, hlast.alike, P.trans hspares hlast.spares,
      P.trans hspares' hlast.spares'⟩

theorem bind {a a' : Action σ α} {f f' : α → Action σ β} (ha : Agree P a a')
    (hf : ∀ x, Agree P (f x) (f' x)) : Agree P (a >>= f) (a' >>= f') :=
  bind_answer ha fun _ x _ _ => hf x

theorem outcome {a a' : Action σ α} (ha : Agree P a a') : Agree P a.outcome a'.outcome := by
  intro s s' hs halike
  have hrun := ha s s' hs halike
  exact ⟨congrArg Except.ok hrun.result, hrun.fits, hrun.alike, hrun.spares, hrun.spares'⟩

theorem ofExcept (r : Except Error α) : Mirrors P (ofExcept r) := by
  intro s s' hs halike
  exact ⟨rfl, hs, halike, P.refl s, P.refl s'⟩

theorem pure (x : α) : Mirrors P (Pure.pure x) := ofExcept (.ok x)

theorem throw (e : Error) : Mirrors P (throw e : Action σ α) := ofExcept (.error e)

theorem map {a a' : Action σ α} (f : α → β) (ha : Agree P a a') :
    Agree P (f <$> a) (f <$> a') := by
  rw [← bind_pure_comp, ← bind_pure_comp]
  exact ha.bind fun x => .pure (f x)

theorem ofExcept_bind {related : α → α → Prop} {r r' : Except Error α} {f f' : α → Action σ β}
    (h : Paired related r r') (hf : ∀ x y, related x y → Agree P (f x) (f' y)) :
    Agree P (Action.ofExcept r >>= f) (Action.ofExcept r' >>= f') := by
  cases h with
  | ok hvalues => exact hf _ _ hvalues
  | error e => exact .throw e

theorem of_run {a : Action σ α} (ha : ∀ s s', P.fits s → P.alike s s' →
    ∃ b : Action σ α, Mirrors P b ∧ a.run s = b.run s ∧ a.run s' = b.run s') : Mirrors P a := by
  intro s s' hs halike
  obtain ⟨b, hb, hrun, hrun'⟩ := ha s s' hs halike
  rw [hrun, hrun']
  exact hb s s' hs halike

theorem get_bind {f : σ → Action σ β} (hsame : ∀ s s', P.fits s → P.alike s s' → f s = f s')
    (hf : ∀ s, P.fits s → Mirrors P (f s)) : Mirrors P (get >>= f) := by
  refine of_run fun s s' hs halike => ⟨f s, hf s hs, run_get_bind f s, ?_⟩
  rw [run_get_bind, hsame s s' hs halike]

theorem ite {c : Prop} [Decidable c] {a b : Action σ α} (ha : c → Mirrors P a)
    (hb : ¬c → Mirrors P b) : Mirrors P (if c then a else b) := by
  split
  · next h => exact ha h
  · next h => exact hb h

theorem on {Q : Pact τ} {part : σ → τ} {put : τ → σ → σ} {a : Action τ α} (ha : Mirrors Q a)
    (hfits : ∀ s, P.fits s → Q.fits (part s))
    (halike : ∀ s s', P.alike s s' → Q.alike (part s) (part s'))
    (hput : ∀ s t, P.fits s → Q.fits t → Q.spares (part s) t → P.fits (put t s))
    (hboth : ∀ s s' t t', P.alike s s' → Q.alike t t' → P.alike (put t s) (put t' s'))
    (hspares : ∀ s t, Q.spares (part s) t → P.spares s (put t s)) :
    Mirrors P (a.on part put) := by
  intro s s' hs hsame
  have hrun := ha (part s) (part s') (hfits s hs) (halike s s' hsame)
  rw [run_on, run_on]
  exact ⟨hrun.result, hput s _ hs hrun.fits hrun.spares, hboth s s' _ _ hsame hrun.alike,
    hspares s _ hrun.spares, hspares s' _ hrun.spares'⟩

end Agree

end Action

end TokenSigner
