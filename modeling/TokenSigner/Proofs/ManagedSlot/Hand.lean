import TokenSigner.Proofs.ManagedSlot.Move

namespace TokenSigner

namespace Event

variable {ς : Type}

def failure? (event : Event ς) : Option Error :=
  match event.result with
  | .ok _ => none
  | .error e => some e

def opened? : Event ς → Option ς
  | ⟨_, .openSession _, .ok session⟩ => some session
  | _ => none

def unopened : Event ς → Bool
  | ⟨_, .openSession _, .error _⟩ => true
  | _ => false

def closed? (event : Event ς) : Option ς :=
  match event.call with
  | .close session => some session
  | _ => none

def spoilt? (event : Event ς) : Option ς :=
  if event.call.signing?.isSome ∧ event.failure?.any (·.kind = .token) then event.call.session?
  else none

theorem failure?_of_error {event : Event ς} {e : Error} (h : event.result = .error e) :
    event.failure? = some e := by
  unfold failure?
  rw [h]

theorem unopened_of_session {event : Event ς} {session : ς}
    (h : event.call.session? = some session) : event.unopened = false := by
  obtain ⟨slot, call, result⟩ := event
  cases call with
  | openSession readWrite => cases h
  | _ => rfl

end Event

namespace ManagedSlot

variable {δ ς : Type}

inductive Hand (ς : Type) where
  | empty
  | holding (session : ς)
  | spoilt (session : ς)
  | closed (session : ς)

def Hand.sessions : Hand ς → List ς
  | empty | closed _ => []
  | holding session | spoilt session => [session]

def Hand.places : Hand ς → Nat
  | empty => 0
  | holding _ | spoilt _ | closed _ => 1

structure Worker (δ ς : Type) where
  state : ManagedSlot ς × Site δ ς
  hand : Hand ς

inductive Step (device : Device δ ς) (config : ModuleConfig) : Worker δ ς → Worker δ ς → Prop where
  | lend {managed : ManagedSlot ς} {site : Site δ ς} {idle : List ς} {session : ς}
      (hidle : managed.pool.idle = session :: idle) :
      Step device config ⟨(managed, site), .empty⟩
        ⟨({ managed with pool := { managed.pool with idle } }, site), .holding session⟩
  | opened {managed : ManagedSlot ς} {site after : Site δ ς} {session : ς}
      (hidle : managed.pool.idle = []) (hroom : managed.pool.opened < managed.pool.capacity)
      (hcall : (device.call managed.slot (.openSession !config.readOnly)).run site =
        (.ok session, after)) :
      Step device config ⟨(managed, site), .empty⟩
        ⟨({ managed with pool := { managed.pool with opened := managed.pool.opened + 1 } }, after),
          .holding session⟩
  | notOpened {managed : ManagedSlot ς} {site after : Site δ ς} {e : Error}
      (hidle : managed.pool.idle = []) (hroom : managed.pool.opened < managed.pool.capacity)
      (hcall : (device.call managed.slot (.openSession !config.readOnly)).run site =
        (.error e, after)) :
      Step device config ⟨(managed, site), .empty⟩ ⟨(managed, after), .empty⟩
  | findKey {managed : ManagedSlot ς} {site : Site δ ς} {session : ς} (key : KeyIdentifier) :
      Step device config ⟨(managed, site), .holding session⟩
        ⟨(managed, ((device.call managed.slot (.findKey session key)).run site).2),
          .holding session⟩
  | publicKey {managed : ManagedSlot ς} {site : Site δ ς} {session : ς} (object : UInt64)
      (key : KeyIdentifier) :
      Step device config ⟨(managed, site), .holding session⟩
        ⟨(managed, ((device.call managed.slot (.publicKey session object key)).run site).2),
          .holding session⟩
  | sign {managed : ManagedSlot ς} {site after : Site δ ς} {session : ς} {mechanism : Mechanism}
      {known : List Mechanism} {call : Call ς} {result : Except Error call.Answer}
      (hsession : call.session? = some session) (hsigning : call.signing? = some mechanism)
      (hallowed : config.allows managed.slot mechanism = true)
      (hknown : managed.mechanisms = some known) (hmem : mechanism ∈ known)
      (hcall : (device.call managed.slot call).run site = (result, after))
      (hspared : ∀ e, result = .error e → e.kind ≠ .token) :
      Step device config ⟨(managed, site), .holding session⟩ ⟨(managed, after), .holding session⟩
  | spoil {managed : ManagedSlot ς} {site after : Site δ ς} {session : ς} {mechanism : Mechanism}
      {known : List Mechanism} {call : Call ς} {e : Error}
      (hsession : call.session? = some session) (hsigning : call.signing? = some mechanism)
      (hallowed : config.allows managed.slot mechanism = true)
      (hknown : managed.mechanisms = some known) (hmem : mechanism ∈ known)
      (hcall : (device.call managed.slot call).run site = (.error e, after))
      (hkind : e.kind = .token) :
      Step device config ⟨(managed, site), .holding session⟩ ⟨(managed, after), .spoilt session⟩
  | giveBack {managed : ManagedSlot ς} {site : Site δ ς} {session : ς} :
      Step device config ⟨(managed, site), .holding session⟩
        ⟨({ managed with pool := managed.pool.giveBack session }, site), .empty⟩
  | close {managed : ManagedSlot ς} {site : Site δ ς} {session : ς} :
      Step device config ⟨(managed, site), .spoilt session⟩
        ⟨(managed, ((device.call managed.slot (.close session)).run site).2), .closed session⟩
  | free {managed : ManagedSlot ς} {site : Site δ ς} {session : ς} :
      Step device config ⟨(managed, site), .closed session⟩
        ⟨({ managed with pool := managed.pool.freePlace }, site), .empty⟩
  | told {managed : ManagedSlot ς} {site after : Site δ ς} {answer : List Mechanism}
      (hunknown : managed.mechanisms = none)
      (hcall : (device.call managed.slot .mechanisms).run site = (.ok answer, after)) :
      Step device config ⟨(managed, site), .empty⟩
        ⟨({ managed with mechanisms := some (Mechanism.sorted answer) }, after), .empty⟩
  | untold {managed : ManagedSlot ς} {site after : Site δ ς} {e : Error}
      (hunknown : managed.mechanisms = none)
      (hcall : (device.call managed.slot .mechanisms).run site = (.error e, after)) :
      Step device config ⟨(managed, site), .empty⟩ ⟨(managed, after), .empty⟩
  | handles {managed : ManagedSlot ς} {site : Site δ ς} {hand : Hand ς} (handles : HandleCache) :
      Step device config ⟨(managed, site), hand⟩ ⟨({ managed with handles }, site), hand⟩
  | salts {managed : ManagedSlot ς} {site : Site δ ς} (salts : Entropy) :
      Step device config ⟨(managed, site), .empty⟩ ⟨({ managed with salts }, site), .empty⟩
  | warn {managed : ManagedSlot ς} {site : Site δ ς} (warning : Warning) :
      Step device config ⟨(managed, site), .empty⟩
        ⟨(managed, { site with warnings := site.warnings ++ [warning] }), .empty⟩

abbrev Steps (device : Device δ ς) (config : ModuleConfig) :=
  Relation.ReflTransGen (Step device config)

variable {device : Device δ ς} {config : ModuleConfig} {lent : List ς}

theorem Step.slot_eq {x y : Worker δ ς} (h : Step device config x y) :
    y.state.1.slot = x.state.1.slot := by
  cases h <;> rfl

theorem Steps.slot_eq {x y : Worker δ ς} (h : Steps device config x y) :
    y.state.1.slot = x.state.1.slot := by
  induction h with
  | refl => rfl
  | tail _ hstep ih => rw [hstep.slot_eq, ih]

theorem Steps.mechanisms_eq {x y : Worker δ ς} {known : List Mechanism}
    (h : Steps device config x y) (hknown : x.state.1.mechanisms = some known) :
    y.state.1.mechanisms = some known := by
  induction h with
  | refl => exact hknown
  | tail _ hstep ih =>
    cases hstep with
    | told hunknown | untold hunknown =>
      rw [hunknown] at ih
      cases ih
    | _ => exact ih

inductive Reaches (device : Device δ ς) (lent : List ς) : Worker δ ς → Scene δ ς → Prop where
  | same (state : ManagedSlot ς × Site δ ς) (hand : Hand ς)
      (hunclosed : ∀ session, hand ≠ .closed session) :
      Reaches device lent ⟨state, hand⟩ ⟨state, hand.sessions ++ lent⟩
  | closing {managed : ManagedSlot ς} {site : Site δ ς} {session : ς} :
      Reaches device lent
        ⟨(managed, ((device.call managed.slot (.close session)).run site).2), .closed session⟩
        ⟨(managed, site), session :: lent⟩

theorem reaches_empty (state : ManagedSlot ς × Site δ ς) :
    Reaches device lent ⟨state, .empty⟩ ⟨state, lent⟩ :=
  .same state .empty (by simp)

theorem reaches_holding (state : ManagedSlot ς × Site δ ς) (session : ς) :
    Reaches device lent ⟨state, .holding session⟩ ⟨state, session :: lent⟩ :=
  .same state (.holding session) (by simp)

theorem Step.moves {x y : Worker δ ς} {scene : Scene δ ς} (h : Step device config x y)
    (hx : Reaches device lent x scene) :
    ∃ next, Moves device config scene next ∧ Reaches device lent y next := by
  cases h with
  | lend hidle =>
    cases hx
    exact ⟨_, .single (.lend hidle), reaches_holding _ _⟩
  | opened hidle hroom hcall =>
    cases hx
    exact ⟨_, .single (.opened hidle hroom hcall), reaches_holding _ _⟩
  | notOpened hidle hroom hcall =>
    cases hx
    exact ⟨_, .single (.notOpened hidle hroom hcall), reaches_empty _⟩
  | findKey key =>
    cases hx
    exact ⟨_, .single (.findKey key List.mem_cons_self), reaches_holding _ _⟩
  | publicKey object key =>
    cases hx
    exact ⟨_, .single (.publicKey object key List.mem_cons_self), reaches_holding _ _⟩
  | sign hsession hsigning hallowed hknown hmem hcall =>
    cases hx
    cases hcall
    exact ⟨_, .single (.sign _ hsession hsigning List.mem_cons_self hallowed hknown hmem),
      reaches_holding _ _⟩
  | spoil hsession hsigning hallowed hknown hmem hcall =>
    cases hx
    cases congrArg Prod.snd hcall
    exact ⟨_, .single (.sign _ hsession hsigning List.mem_cons_self hallowed hknown hmem),
      .same _ (.spoilt _) (by simp)⟩
  | giveBack =>
    cases hx
    exact ⟨_, .single (.giveBack (.refl _)), reaches_empty _⟩
  | close =>
    cases hx
    exact ⟨_, .refl, .closing⟩
  | free =>
    cases hx with
    | same _ _ hunclosed => exact absurd rfl (hunclosed _)
    | closing => exact ⟨_, .single (.discard (.refl _)), reaches_empty _⟩
  | told hunknown hcall =>
    cases hx
    exact ⟨_, .single (.told hunknown hcall), reaches_empty _⟩
  | untold hunknown hcall =>
    cases hx
    exact ⟨_, .single (.untold hunknown hcall), reaches_empty _⟩
  | handles handles =>
    cases hx with
    | same _ _ hunclosed => exact ⟨_, .single (.handles handles), .same _ _ hunclosed⟩
    | closing => exact ⟨_, .single (.handles handles), .closing⟩
  | salts salts =>
    cases hx
    exact ⟨_, .single (.salts salts), reaches_empty _⟩
  | warn warning =>
    cases hx
    exact ⟨_, .single (.warn warning), reaches_empty _⟩

theorem Steps.reaches {x y : Worker δ ς} {scene : Scene δ ς} (h : Steps device config x y)
    (hx : Reaches device lent x scene) :
    ∃ next, Moves device config scene next ∧ Reaches device lent y next := by
  induction h with
  | refl => exact ⟨scene, .refl, hx⟩
  | tail _ hstep ih =>
    obtain ⟨between, hbefore, hbetween⟩ := ih
    obtain ⟨next, hmoves, hnext⟩ := hstep.moves hbetween
    exact ⟨next, hbefore.trans hmoves, hnext⟩

theorem Steps.moves {x y : ManagedSlot ς × Site δ ς}
    (h : Steps device config ⟨x, .empty⟩ ⟨y, .empty⟩) (lent : List ς) :
    Moves device config ⟨x, lent⟩ ⟨y, lent⟩ := by
  obtain ⟨next, hmoves, hnext⟩ := h.reaches (reaches_empty x)
  cases hnext
  exact hmoves

theorem Steps.moves_taken {x y : ManagedSlot ς × Site δ ς} {session : ς}
    (h : Steps device config ⟨x, .empty⟩ ⟨y, .holding session⟩) (lent : List ς) :
    Moves device config ⟨x, lent⟩ ⟨y, session :: lent⟩ := by
  obtain ⟨next, hmoves, hnext⟩ := h.reaches (reaches_empty x)
  cases hnext
  exact hmoves

inductive Deal (device : Device δ ς) (config : ModuleConfig) : Scene δ ς → Scene δ ς → Prop where
  | work {x y : ManagedSlot ς × Site δ ς} (lent : List ς)
      (hsteps : Steps device config ⟨x, .empty⟩ ⟨y, .empty⟩) :
      Deal device config ⟨x, lent⟩ ⟨y, lent⟩
  | take {x y : ManagedSlot ς × Site δ ς} {lent : List ς} {session : ς}
      (hstep : Step device config ⟨x, .empty⟩ ⟨y, .holding session⟩) :
      Deal device config ⟨x, lent⟩ ⟨y, session :: lent⟩
  | giveBack {state : ManagedSlot ς × Site δ ς} {lent : List ς} (session : ς) :
      Deal device config ⟨state, session :: lent⟩
        ⟨((ManagedSlot.giveBack session : Work δ ς Unit).run state).2, lent⟩
  | discard {state : ManagedSlot ς × Site δ ς} {lent : List ς} (session : ς) :
      Deal device config ⟨state, session :: lent⟩
        ⟨((ManagedSlot.discard device session).run state).2, lent⟩

theorem Deal.steps {x y : Scene δ ς} (h : Deal device config x y) :
    ∃ start next lent, Steps device config start next ∧
      x = ⟨start.state, start.hand.sessions ++ lent⟩ ∧
      y = ⟨next.state, next.hand.sessions ++ lent⟩ ∧
      start.hand.places = start.hand.sessions.length ∧
      next.hand.places = next.hand.sessions.length := by
  cases h with
  | work lent hsteps => exact ⟨_, _, lent, hsteps, rfl, rfl, rfl, rfl⟩
  | take hstep => exact ⟨_, _, _, .single hstep, rfl, rfl, rfl, rfl⟩
  | @giveBack state lent session =>
    exact ⟨⟨state, .holding session⟩, ⟨_, .empty⟩, lent, .single .giveBack, rfl, rfl, rfl, rfl⟩
  | @discard state lent session =>
    have hclosed : Steps device config ⟨state, .spoilt session⟩ ⟨_, .empty⟩ :=
      (Relation.ReflTransGen.single .close).tail .free
    exact ⟨⟨state, .spoilt session⟩, ⟨_, .empty⟩, lent, hclosed, rfl, rfl, rfl, rfl⟩

theorem Deal.moves {x y : Scene δ ς} (h : Deal device config x y) : Moves device config x y := by
  cases h with
  | work lent hsteps => exact hsteps.moves lent
  | take hstep => exact Steps.moves_taken (.single hstep) _
  | giveBack session => exact .single (.giveBack (.refl _))
  | discard session => exact .single (.discard (.refl _))

end ManagedSlot

end TokenSigner
