import TokenSigner.Error

namespace TokenSigner

def Action (σ α : Type) := σ → Except Error α × σ

namespace Action

variable {σ τ α β γ : Type}

def run (a : Action σ α) (s : σ) : Except Error α × σ := a s

instance : Monad (Action σ) where
  pure x := fun s => (.ok x, s)
  bind a f := fun s =>
    match a s with
    | (.ok x, t) => f x t
    | (.error e, t) => (.error e, t)

instance : MonadExceptOf Error (Action σ) where
  throw e := fun s => (.error e, s)
  tryCatch a handle := fun s =>
    match a s with
    | (.ok x, t) => (.ok x, t)
    | (.error e, t) => handle e t

instance : MonadStateOf σ (Action σ) where
  get := fun s => (.ok s, s)
  set t := fun _ => (.ok (), t)
  modifyGet f := fun s => let (x, t) := f s; (.ok x, t)

def ofExcept (r : Except Error α) : Action σ α := fun s => (r, s)

def outcome (a : Action σ α) : Action σ (Except Error α) := fun s =>
  let (r, t) := a s
  (.ok r, t)

def on (part : σ → τ) (put : τ → σ → σ) (a : Action τ α) : Action σ α := fun s =>
  let (r, t) := a (part s)
  (r, put t s)

@[simp] theorem run_pure (x : α) (s : σ) : (pure x : Action σ α).run s = (.ok x, s) := rfl

@[simp] theorem run_throw (e : Error) (s : σ) : (throw e : Action σ α).run s = (.error e, s) := rfl

@[simp] theorem run_get (s : σ) : (get : Action σ σ).run s = (.ok s, s) := rfl

@[simp] theorem run_set (s t : σ) : (set t : Action σ PUnit).run s = (.ok (), t) := rfl

@[simp] theorem run_modify (f : σ → σ) (s : σ) :
    (modify f : Action σ PUnit).run s = (.ok (), f s) := rfl

@[simp] theorem run_modifyGet (f : σ → α × σ) (s : σ) :
    (modifyGet f : Action σ α).run s = (.ok (f s).1, (f s).2) := rfl

theorem run_ite {c : Prop} [Decidable c] (a b : Action σ α) (s : σ) :
    (if c then a else b).run s = if c then a.run s else b.run s := by
  split <;> rfl

@[simp] theorem run_ofExcept (r : Except Error α) (s : σ) : (ofExcept r).run s = (r, s) := rfl

@[simp] theorem run_outcome (a : Action σ α) (s : σ) :
    a.outcome.run s = (.ok (a.run s).1, (a.run s).2) := rfl

@[simp] theorem run_on (part : σ → τ) (put : τ → σ → σ) (a : Action τ α) (s : σ) :
    (a.on part put).run s = ((a.run (part s)).1, put (a.run (part s)).2 s) := rfl

theorem run_bind (a : Action σ α) (f : α → Action σ β) (s : σ) :
    (a >>= f).run s = match a.run s with
      | (.ok x, t) => (f x).run t
      | (.error e, t) => (.error e, t) := rfl

theorem run_bind_ok {a : Action σ α} {s t : σ} {x : α} (h : a.run s = (.ok x, t))
    (f : α → Action σ β) : (a >>= f).run s = (f x).run t := by
  rw [run_bind, h]

theorem run_bind_error {a : Action σ α} {s t : σ} {e : Error} (h : a.run s = (.error e, t))
    (f : α → Action σ β) : (a >>= f).run s = (.error e, t) := by
  rw [run_bind, h]

@[simp] theorem run_map (f : α → β) (a : Action σ α) (s : σ) :
    (f <$> a).run s = ((a.run s).1.map f, (a.run s).2) := by
  change (a >>= fun x => pure (f x)).run s = _
  rw [run_bind]
  match a.run s with
  | (.ok x, t) => rfl
  | (.error e, t) => rfl

theorem run_bind_eq_ok {a : Action σ α} {f : α → Action σ β} {s u : σ} {y : β} :
    (a >>= f).run s = (.ok y, u) ↔ ∃ x t, a.run s = (.ok x, t) ∧ (f x).run t = (.ok y, u) := by
  rw [run_bind]
  match h : a.run s with
  | (.ok x, t) => simp [and_assoc]
  | (.error e, t) => simp

theorem run_bind_eq_error {a : Action σ α} {f : α → Action σ β} {s u : σ} {e : Error} :
    (a >>= f).run s = (.error e, u) ↔
      a.run s = (.error e, u) ∨ ∃ x t, a.run s = (.ok x, t) ∧ (f x).run t = (.error e, u) := by
  rw [run_bind]
  match h : a.run s with
  | (.ok x, t) => simp [and_assoc]
  | (.error e', t) => simp

theorem map_id_eq (a : Action σ α) : id <$> a = a := by
  funext s
  change (a >>= pure).run s = a.run s
  rw [run_bind]
  match a.run s with
  | (.ok x, t) => rfl
  | (.error e, t) => rfl

theorem bind_bind_eq (a : Action σ α) (f : α → Action σ β) (g : β → Action σ γ) :
    a >>= f >>= g = a >>= fun x => f x >>= g := by
  funext s
  change (a >>= f >>= g).run s = (a >>= fun x => f x >>= g).run s
  simp only [run_bind]
  match a.run s with
  | (.ok x, t) => rfl
  | (.error e, t) => rfl

instance : LawfulMonad (Action σ) :=
  LawfulMonad.mk' (Action σ) map_id_eq (fun _ _ => rfl) bind_bind_eq

end Action

end TokenSigner
