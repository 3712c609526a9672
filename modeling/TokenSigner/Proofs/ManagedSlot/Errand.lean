import TokenSigner.Engine
import TokenSigner.Proofs.ManagedSlot.Hand

namespace TokenSigner

def Pool.Blocked {ς : Type} (pool : Pool ς) : Prop :=
  pool.idle = [] ∧ pool.capacity ≤ pool.opened

namespace ManagedSlot

variable {δ ς α β : Type}

structure Errand (device : Device δ ς) (config : ModuleConfig) (hand : Hand ς)
    (x : ManagedSlot ς × Site δ ς) (result : Except Error α) (y : ManagedSlot ς × Site δ ς)
    (calls : List (Event ς)) : Prop where
  recorded : y.2.events = x.2.events ++ calls
  steps : Steps device config ⟨x, hand⟩ ⟨y, hand⟩
  stocked : ∀ value, result = .ok value → hand = .empty →
    y.1.pool = x.1.pool ∨ y.1.pool.idle ≠ []
  unopened : ∀ event ∈ calls, event.unopened = true →
    hand = .empty ∧ (∃ e, result = .error e) ∧ x.1.pool.idle = [] ∧ y.1.pool = x.1.pool
  timeout : ∀ e, result = .error e → e.kind = .sessionTimeout →
    hand = .empty ∧ x.1.pool.Blocked ∨
    ∃ event, calls.getLast? = some event ∧ event.failure? = some e

variable {device : Device δ ς} {config : ModuleConfig} {hand : Hand ς}
  {x y z : ManagedSlot ς × Site δ ς} {result : Except Error α} {calls more : List (Event ς)}

theorem run_ask {call : Call ς} {managed : ManagedSlot ς} {site after : Site δ ς}
    {result : Except Error call.Answer}
    (h : (device.call managed.slot call).run site = (result, after)) :
    (ask device call).run (managed, site) = (result, managed, after) := by
  simp only [ask, Action.run] at h ⊢
  rw [h]

namespace Errand

theorem quiet (hevents : y.2.events = x.2.events) (hpool : y.1.pool = x.1.pool)
    (hsteps : Steps device config ⟨x, hand⟩ ⟨y, hand⟩)
    (hresult : ∀ e, result = .error e → e.kind ≠ .sessionTimeout) :
    Errand device config hand x result y [] where
  recorded := by rw [hevents, List.append_nil]
  steps := hsteps
  stocked _ _ _ := Or.inl hpool
  unopened _ hevent := absurd hevent List.not_mem_nil
  timeout e he hkind := absurd hkind (hresult e he)

theorem call {event : Event ς} (hevents : y.2.events = x.2.events ++ [event])
    (hpool : y.1.pool = x.1.pool) (hsteps : Steps device config ⟨x, hand⟩ ⟨y, hand⟩)
    (hopened : event.unopened = false)
    (hresult : ∀ e, result = .error e → event.failure? = some e) :
    Errand device config hand x result y [event] where
  recorded := hevents
  steps := hsteps
  stocked _ _ _ := Or.inl hpool
  unopened other hother hunopened := by
    rw [List.mem_singleton.mp hother, hopened] at hunopened
    cases hunopened
  timeout e he _ := Or.inr ⟨event, rfl, hresult e he⟩

theorem fail {e : Error} (h : Errand device config hand x (.error e : Except Error α) y calls) :
    Errand device config hand x (.error e : Except Error β) y calls where
  recorded := h.recorded
  steps := h.steps
  stocked _ hvalue := by cases hvalue
  unopened event hevent hunopened := by
    obtain ⟨hhand, -, hpool⟩ := h.unopened event hevent hunopened
    exact ⟨hhand, ⟨e, rfl⟩, hpool⟩
  timeout e' he hkind := by
    cases he
    exact h.timeout e rfl hkind

theorem trans {value : α} {result : Except Error β}
    (h : Errand device config hand x (.ok value : Except Error α) y calls)
    (h' : Errand device config hand y result z more) :
    Errand device config hand x result z (calls ++ more) where
  recorded := by rw [h'.recorded, h.recorded, List.append_assoc]
  steps := h.steps.trans h'.steps
  stocked value' hvalue' hhand := by
    rcases h'.stocked value' hvalue' hhand with hsame | hidle
    · rw [hsame]
      exact h.stocked value rfl hhand
    · exact Or.inr hidle
  unopened event hevent hunopened := by
    rcases List.mem_append.mp hevent with hbefore | hafter
    · obtain ⟨-, ⟨e, he⟩, -⟩ := h.unopened event hbefore hunopened
      cases he
    · obtain ⟨hhand, hfailed, hidle, hpool⟩ := h'.unopened event hafter hunopened
      rcases h.stocked value rfl hhand with hsame | hstocked
      · exact ⟨hhand, hfailed, hsame ▸ hidle, hpool.trans hsame⟩
      · exact absurd hidle hstocked
  timeout e he hkind := by
    rcases h'.timeout e he hkind with ⟨hhand, hblocked⟩ | ⟨event, hlast, hfailure⟩
    · rcases h.stocked value rfl hhand with hsame | hstocked
      · exact Or.inl ⟨hhand, hsame ▸ hblocked⟩
      · exact absurd hblocked.1 hstocked
    · exact Or.inr ⟨event, by simp [List.getLast?_append, hlast], hfailure⟩

end Errand

def Does (device : Device δ ς) (config : ModuleConfig) (hand : Hand ς) (work : Work δ ς α) : Prop :=
  ∀ x, ∃ calls, Errand device config hand x (work.run x).1 (work.run x).2 calls

namespace Does

theorem steps {work : Work δ ς α} (h : Does device config hand work)
    (x : ManagedSlot ς × Site δ ς) :
    Steps device config ⟨x, hand⟩ ⟨(work.run x).2, hand⟩ := by
  obtain ⟨calls, herrand⟩ := h x
  exact herrand.steps

theorem slot_eq {work : Work δ ς α} (h : Does device config hand work)
    {x y : ManagedSlot ς × Site δ ς} {result : Except Error α} (hrun : work.run x = (result, y)) :
    y.1.slot = x.1.slot := by
  have hsame := (h.steps x).slot_eq
  rw [hrun] at hsame
  exact hsame

theorem ofExcept {r : Except Error α} (h : ∀ e, r = .error e → e.kind ≠ .sessionTimeout) :
    Does device config hand (Action.ofExcept r) :=
  fun _ => ⟨[], .quiet rfl rfl .refl h⟩

theorem ofExcept_of_kind {r : Except Error α} {kind : ErrorKind}
    (hkind : kind ≠ .sessionTimeout) (h : ∀ {e}, r = .error e → e.kind = kind) :
    Does device config hand (Action.ofExcept r) := by
  refine ofExcept fun e he => ?_
  rw [h he]
  exact hkind

theorem pure (value : α) : Does device config hand (Pure.pure value) := by
  refine ofExcept (r := .ok value) ?_
  intro e he
  cases he

theorem throw {e : Error} (h : e.kind ≠ .sessionTimeout) :
    Does device config hand (throw e : Work δ ς α) :=
  ofExcept (r := .error e) fun _ he => Except.error.inj he ▸ h

theorem bind {work : Work δ ς α} {next : α → Work δ ς β} (h : Does device config hand work)
    (hnext : ∀ value, Does device config hand (next value)) :
    Does device config hand (work >>= next) := by
  intro x
  obtain ⟨calls, herrand⟩ := h x
  rcases hrun : work.run x with ⟨e | value, y⟩
  · rw [Action.run_bind_error hrun]
    rw [hrun] at herrand
    exact ⟨calls, herrand.fail⟩
  · rw [Action.run_bind_ok hrun]
    rw [hrun] at herrand
    obtain ⟨more, hmore⟩ := hnext value y
    exact ⟨calls ++ more, herrand.trans hmore⟩

theorem map {work : Work δ ς α} (f : α → β) (h : Does device config hand work) :
    Does device config hand (f <$> work) := by
  rw [← bind_pure_comp]
  exact h.bind fun value => .pure (f value)

theorem get_bind {next : ManagedSlot ς × Site δ ς → Work δ ς β}
    (hnext : ∀ state, Does device config hand (next state)) :
    Does device config hand (get >>= next) := by
  intro x
  exact hnext x x

theorem ite {c : Prop} [Decidable c] {a b : Work δ ς α} (ha : c → Does device config hand a)
    (hb : ¬c → Does device config hand b) : Does device config hand (if c then a else b) := by
  split
  · next h => exact ha h
  · next h => exact hb h

theorem update {f : ManagedSlot ς → ManagedSlot ς}
    (hpool : ∀ managed, (f managed).pool = managed.pool)
    (hstep : ∀ managed site, Step device config ⟨(managed, site), hand⟩
      ⟨(f managed, site), hand⟩) : Does device config hand (update f : Work δ ς Unit) := by
  intro x
  refine ⟨[], .quiet rfl (hpool x.1) (.single (hstep x.1 x.2)) ?_⟩
  intro e he
  cases he

theorem ask {call : Call ς} {session : ς} (hsession : call.session? = some session)
    (hstep : ∀ managed site, Step device config ⟨(managed, site), hand⟩
      ⟨(managed, ((device.call managed.slot call).run site).2), hand⟩) :
    Does device config hand (ask device call) := by
  intro x
  refine ⟨_, .call rfl rfl (.single (hstep x.1 x.2)) (Event.unopened_of_session hsession) ?_⟩
  intro e he
  exact Event.failure?_of_error he

end Does

theorem run_identifier_bind (f : SlotIdentifier → Work δ ς α) (x : ManagedSlot ς × Site δ ς) :
    (identifier >>= f).run x = (f x.1.slot).run x := rfl

theorem does_identifier :
    Does device config hand (identifier : Work δ ς SlotIdentifier) :=
  .get_bind fun _ => .pure _

end ManagedSlot

end TokenSigner
