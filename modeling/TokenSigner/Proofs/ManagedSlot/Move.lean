import Mathlib.Logic.Relation
import TokenSigner.Key.Handle
import TokenSigner.Proofs.Action
import TokenSigner.Proofs.Splits

namespace TokenSigner.ManagedSlot

variable {δ ς α β : Type}

structure Scene (δ ς : Type) where
  state : ManagedSlot ς × Site δ ς
  lent : List ς

inductive Move (device : Device δ ς) (config : ModuleConfig) : Scene δ ς → Scene δ ς → Prop where
  | lend {managed : ManagedSlot ς} {site : Site δ ς} {lent idle : List ς} {session : ς}
      (hidle : managed.pool.idle = session :: idle) :
      Move device config ⟨(managed, site), lent⟩
        ⟨({ managed with pool := { managed.pool with idle } }, site), session :: lent⟩
  | opened {managed : ManagedSlot ς} {site after : Site δ ς} {lent : List ς} {session : ς}
      (hidle : managed.pool.idle = []) (hroom : managed.pool.opened < managed.pool.capacity)
      (hcall : (device.call managed.slot (.openSession !config.readOnly)).run site =
        (.ok session, after)) :
      Move device config ⟨(managed, site), lent⟩
        ⟨({ managed with pool := { managed.pool with opened := managed.pool.opened + 1 } }, after),
          session :: lent⟩
  | notOpened {managed : ManagedSlot ς} {site after : Site δ ς} {lent : List ς} {e : Error}
      (hidle : managed.pool.idle = []) (hroom : managed.pool.opened < managed.pool.capacity)
      (hcall : (device.call managed.slot (.openSession !config.readOnly)).run site =
        (.error e, after)) :
      Move device config ⟨(managed, site), lent⟩ ⟨(managed, after), lent⟩
  | giveBack {managed : ManagedSlot ς} {site : Site δ ς} {lent rest : List ς} {session : ς}
      (hlent : lent.Perm (session :: rest)) :
      Move device config ⟨(managed, site), lent⟩
        ⟨({ managed with pool := managed.pool.giveBack session }, site), rest⟩
  | discard {managed : ManagedSlot ς} {site : Site δ ς} {lent rest : List ς} {session : ς}
      (hlent : lent.Perm (session :: rest)) :
      Move device config ⟨(managed, site), lent⟩
        ⟨({ managed with pool := managed.pool.freePlace },
          ((device.call managed.slot (.close session)).run site).2), rest⟩
  | told {managed : ManagedSlot ς} {site after : Site δ ς} {lent : List ς}
      {answer : List Mechanism} (hunknown : managed.mechanisms = none)
      (hcall : (device.call managed.slot .mechanisms).run site = (.ok answer, after)) :
      Move device config ⟨(managed, site), lent⟩
        ⟨({ managed with mechanisms := some (Mechanism.sorted answer) }, after), lent⟩
  | untold {managed : ManagedSlot ς} {site after : Site δ ς} {lent : List ς} {e : Error}
      (hunknown : managed.mechanisms = none)
      (hcall : (device.call managed.slot .mechanisms).run site = (.error e, after)) :
      Move device config ⟨(managed, site), lent⟩ ⟨(managed, after), lent⟩
  | findKey {managed : ManagedSlot ς} {site : Site δ ς} {lent : List ς} {session : ς}
      (key : KeyIdentifier) (hlent : session ∈ lent) :
      Move device config ⟨(managed, site), lent⟩
        ⟨(managed, ((device.call managed.slot (.findKey session key)).run site).2), lent⟩
  | publicKey {managed : ManagedSlot ς} {site : Site δ ς} {lent : List ς} {session : ς}
      (object : UInt64) (key : KeyIdentifier) (hlent : session ∈ lent) :
      Move device config ⟨(managed, site), lent⟩
        ⟨(managed, ((device.call managed.slot (.publicKey session object key)).run site).2), lent⟩
  | sign {managed : ManagedSlot ς} {site : Site δ ς} {lent : List ς} {session : ς}
      {mechanism : Mechanism} {known : List Mechanism} (call : Call ς)
      (hsession : call.session? = some session) (hsigning : call.signing? = some mechanism)
      (hlent : session ∈ lent) (hallowed : config.allows managed.slot mechanism = true)
      (hknown : managed.mechanisms = some known) (hmem : mechanism ∈ known) :
      Move device config ⟨(managed, site), lent⟩
        ⟨(managed, ((device.call managed.slot call).run site).2), lent⟩
  | handles {managed : ManagedSlot ς} {site : Site δ ς} {lent : List ς} (handles : HandleCache) :
      Move device config ⟨(managed, site), lent⟩ ⟨({ managed with handles }, site), lent⟩
  | salts {managed : ManagedSlot ς} {site : Site δ ς} {lent : List ς} (salts : Entropy) :
      Move device config ⟨(managed, site), lent⟩ ⟨({ managed with salts }, site), lent⟩
  | warn {managed : ManagedSlot ς} {site : Site δ ς} {lent : List ς} (warning : Warning) :
      Move device config ⟨(managed, site), lent⟩
        ⟨(managed, { site with warnings := site.warnings ++ [warning] }), lent⟩

abbrev Moves (device : Device δ ς) (config : ModuleConfig) :=
  Relation.ReflTransGen (Move device config)

variable {device : Device δ ς} {config : ModuleConfig} {lent : List ς}

theorem Moves.slot_eq {x y : Scene δ ς} (h : Moves device config x y) :
    y.state.1.slot = x.state.1.slot := by
  induction h with
  | refl => rfl
  | tail _ hmove ih =>
    rw [← ih]
    cases hmove <;> rfl

theorem events_of_call {slot : SlotIdentifier} {call : Call ς} {site after : Site δ ς}
    {result : Except Error call.Answer} (h : (device.call slot call).run site = (result, after)) :
    after.events = site.events ++ [⟨slot, call, result⟩] := by
  cases h
  rfl

theorem Move.events_cases {x y : Scene δ ς} (h : Move device config x y) :
    y.state.2.events = x.state.2.events ∨
    ∃ event : Event ς, y.state.2.events = x.state.2.events ++ [event] ∧
      event.slot = x.state.1.slot ∧
      ∀ mechanism, event.call.signing? = some mechanism →
        config.allows x.state.1.slot mechanism = true ∧
        ∃ known, x.state.1.mechanisms = some known ∧ mechanism ∈ known := by
  cases h with
  | lend | giveBack | handles | salts | warn => exact Or.inl rfl
  | opened hidle hroom hcall =>
    refine Or.inr ⟨_, events_of_call hcall, rfl, ?_⟩
    intro mechanism hsigning
    cases hsigning
  | notOpened hidle hroom hcall =>
    refine Or.inr ⟨_, events_of_call hcall, rfl, ?_⟩
    intro mechanism hsigning
    cases hsigning
  | told hunknown hcall =>
    refine Or.inr ⟨_, events_of_call hcall, rfl, ?_⟩
    intro mechanism hsigning
    cases hsigning
  | untold hunknown hcall =>
    refine Or.inr ⟨_, events_of_call hcall, rfl, ?_⟩
    intro mechanism hsigning
    cases hsigning
  | discard | findKey | publicKey =>
    refine Or.inr ⟨_, rfl, rfl, ?_⟩
    intro mechanism hsigning
    cases hsigning
  | sign call hsession hsigning hlent hallowed hknown hmem =>
    refine Or.inr ⟨_, rfl, rfl, ?_⟩
    intro mechanism hsigning'
    cases hsigning.symm.trans hsigning'
    exact ⟨hallowed, _, hknown, hmem⟩

theorem Move.mechanisms_cases {x y : Scene δ ς} (h : Move device config x y) :
    y.state.1.mechanisms = x.state.1.mechanisms ∨
    ∃ answer, y.state.1.mechanisms = some (Mechanism.sorted answer) ∧
      ⟨x.state.1.slot, .mechanisms, .ok answer⟩ ∈ y.state.2.events := by
  cases h with
  | told hunknown hcall =>
    refine Or.inr ⟨_, rfl, ?_⟩
    have hevents := events_of_call hcall
    simp only [hevents]
    exact List.mem_append_right _ (List.mem_singleton_self _)
  | _ => exact Or.inl rfl

end TokenSigner.ManagedSlot
