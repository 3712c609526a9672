import TokenSigner.Proofs.ManagedSlot.Errand
import TokenSigner.Proofs.Refusals

namespace TokenSigner.ManagedSlot

variable {δ ς α : Type} {device : Device δ ς} {config : ModuleConfig}

theorem borrow_cases (device : Device δ ς) (config : ModuleConfig)
    (managed : ManagedSlot ς) (site : Site δ ς) :
    (∃ session idle, managed.pool.idle = session :: idle ∧
      (borrow device config).run (managed, site) =
        (.ok session, { managed with pool := { managed.pool with idle } }, site)) ∨
    (managed.pool.idle = [] ∧ managed.pool.opened < managed.pool.capacity ∧
      ((∃ session after, (device.call managed.slot (.openSession !config.readOnly)).run site =
          (.ok session, after) ∧
        (borrow device config).run (managed, site) = (.ok session,
          { managed with pool := { managed.pool with opened := managed.pool.opened + 1 } },
          after)) ∨
      ∃ e after, (device.call managed.slot (.openSession !config.readOnly)).run site =
          (.error e, after) ∧
        (borrow device config).run (managed, site) = (.error e, managed, after))) ∨
    (managed.pool.Blocked ∧
      (borrow device config).run (managed, site) =
        (.error (.sessionTimeout managed.slot), managed, site)) := by
  have hrun : (borrow device config).run (managed, site) =
      let opening := device.call managed.slot (.openSession !config.readOnly)
      let after := (Pool.acquire managed.slot config.waitLimit opening).run (managed.pool, site)
      (after.1, { managed with pool := after.2.1 }, after.2.2) := rfl
  rw [hrun]
  dsimp only
  rcases Pool.acquire_cases managed.slot config.waitLimit
      (device.call managed.slot (.openSession !config.readOnly)) managed.pool site with
    ⟨session, idle, hidle, hacquire⟩ |
    ⟨hidle, hroom, ⟨session, after, hcall, hacquire⟩ | ⟨e, after, hcall, hacquire⟩⟩ |
    ⟨hidle, hfull, hacquire⟩
  · rw [hacquire]
    exact Or.inl ⟨session, idle, hidle, rfl⟩
  · rw [hacquire]
    exact Or.inr (Or.inl ⟨hidle, hroom, Or.inl ⟨session, after, hcall, rfl⟩⟩)
  · rw [hacquire]
    exact Or.inr (Or.inl ⟨hidle, hroom, Or.inr ⟨e, after, hcall, rfl⟩⟩)
  · rw [hacquire]
    exact Or.inr (Or.inr ⟨⟨hidle, hfull⟩, rfl⟩)

theorem run_discard {managed : ManagedSlot ς} {site after : Site δ ς} {session : ς}
    {result : Except Error Unit}
    (h : (device.call managed.slot (.close session)).run site = (result, after)) :
    (discard device session).run (managed, site) =
      (.ok (), { managed with pool := managed.pool.freePlace }, after) := by
  have hrun : (discard device session).run (managed, site) = (.ok (),
      { managed with pool := managed.pool.freePlace },
      ((device.call managed.slot (.close session)).run site).2) := rfl
  rw [hrun, h]

structure Takes (device : Device δ ς) (config : ModuleConfig) (x : ManagedSlot ς × Site δ ς)
    (session : ς) (y : ManagedSlot ς × Site δ ς) (calls : List (Event ς)) : Prop where
  recorded : y.2.events = x.2.events ++ calls
  step : Step device config ⟨x, .empty⟩ ⟨y, .holding session⟩
  opened : ∀ event ∈ calls, event.unopened = false

theorem run_borrow (device : Device δ ς) (config : ModuleConfig) (x : ManagedSlot ς × Site δ ς) :
    (∃ session y calls, (borrow device config).run x = (.ok session, y) ∧
      Takes device config x session y calls) ∨
    ∃ e y calls, (borrow device config).run x = (.error e, y) ∧
      Errand device config .empty x (.error e : Except Error ς) y calls := by
  obtain ⟨managed, site⟩ := x
  rcases borrow_cases device config managed site with
    ⟨session, idle, hidle, hrun⟩ |
    ⟨hidle, hroom, ⟨session, after, hcall, hrun⟩ | ⟨e, after, hcall, hrun⟩⟩ |
    ⟨hblocked, hrun⟩
  · refine Or.inl ⟨session, _, [], hrun, ⟨(List.append_nil _).symm, .lend hidle, ?_⟩⟩
    intro event hevent
    cases hevent
  · refine Or.inl ⟨session, _, _, hrun, ⟨events_of_call hcall, .opened hidle hroom hcall, ?_⟩⟩
    intro event hevent
    rw [List.mem_singleton.mp hevent]
    rfl
  · refine Or.inr ⟨e, _, _, hrun, ⟨events_of_call hcall, .single (.notOpened hidle hroom hcall),
      ?_, ?_, ?_⟩⟩
    · intro value hvalue
      cases hvalue
    · intro event hevent hunopened
      exact ⟨rfl, ⟨e, rfl⟩, hidle, rfl⟩
    · intro e' he hkind
      cases he
      exact Or.inr ⟨_, rfl, rfl⟩
  · refine Or.inr ⟨_, _, [], hrun, ⟨(List.append_nil _).symm, .refl, ?_, ?_, ?_⟩⟩
    · intro value hvalue
      cases hvalue
    · intro event hevent
      cases hevent
    · intro e he hkind
      exact Or.inl ⟨rfl, hblocked⟩

theorem Takes.errand {x y z : ManagedSlot ς × Site δ ς} {session : ς}
    {result : Except Error α} {calls more : List (Event ς)}
    (h : Takes device config x session y calls)
    (hrecorded : z.2.events = y.2.events ++ more)
    (hsteps : Steps device config ⟨y, .holding session⟩ ⟨z, .empty⟩)
    (hstocked : ∀ value, result = .ok value → z.1.pool.idle ≠ [])
    (hopened : ∀ event ∈ more, event.unopened = false)
    (htimeout : ∀ e, result = .error e → e.kind = .sessionTimeout →
      ∃ event, more.getLast? = some event ∧ event.failure? = some e) :
    Errand device config .empty x result z (calls ++ more) where
  recorded := by rw [hrecorded, h.recorded, List.append_assoc]
  steps := .head h.step hsteps
  stocked value hvalue _ := Or.inr (hstocked value hvalue)
  unopened event hevent hunopened := by
    have hfalse : event.unopened = false :=
      (List.mem_append.mp hevent).elim (h.opened event) (hopened event)
    rw [hfalse] at hunopened
    cases hunopened
  timeout e he hkind := by
    obtain ⟨event, hlast, hfailure⟩ := htimeout e he hkind
    exact Or.inr ⟨event, by simp [List.getLast?_append, hlast], hfailure⟩

theorem does_withSession {use : ς → Work δ ς α}
    (huse : ∀ session, Does device config (.holding session) (use session)) :
    Does device config .empty (withSession device config use) := by
  intro x
  rcases run_borrow device config x with
    ⟨session, y, calls, hborrow, htakes⟩ | ⟨e, y, calls, hborrow, herrand⟩
  · obtain ⟨more, hused⟩ := huse session y
    have hrun : (withSession device config use).run x = (((use session).run y).1,
        ((giveBack session : Work δ ς Unit).run ((use session).run y).2).2) := by
      unfold withSession
      rw [Action.run_bind_ok hborrow]
      rfl
    rw [hrun]
    refine ⟨calls ++ more, htakes.errand hused.recorded (hused.steps.tail .giveBack) ?_ ?_ ?_⟩
    · intro value hvalue
      exact List.cons_ne_nil _ _
    · intro event hevent
      cases hunopened : event.unopened with
      | false => rfl
      | true =>
        obtain ⟨hhand, -⟩ := hused.unopened event hevent hunopened
        cases hhand
    · intro e he hkind
      rcases hused.timeout e he hkind with ⟨hhand, -⟩ | hlast
      · cases hhand
      · exact hlast
  · unfold withSession
    rw [Action.run_bind_error hborrow]
    exact ⟨calls, herrand.fail⟩

theorem supportedMechanisms_cases (device : Device δ ς) (managed : ManagedSlot ς)
    (site : Site δ ς) :
    (∃ known, managed.mechanisms = some known ∧
      (supportedMechanisms device).run (managed, site) = (.ok known, managed, site)) ∨
    (managed.mechanisms = none ∧
      ((∃ answer after, (device.call managed.slot .mechanisms).run site = (.ok answer, after) ∧
        (supportedMechanisms device).run (managed, site) = (.ok (Mechanism.sorted answer),
          { managed with mechanisms := some (Mechanism.sorted answer) }, after)) ∨
      ∃ e after, (device.call managed.slot .mechanisms).run site = (.error e, after) ∧
        (supportedMechanisms device).run (managed, site) = (.error e, managed, after))) := by
  cases hmechanisms : managed.mechanisms with
  | some known =>
    refine Or.inl ⟨known, rfl, ?_⟩
    simp only [supportedMechanisms, Action.run_bind, Action.run_get, hmechanisms, Action.run_pure]
  | none =>
    refine Or.inr ⟨rfl, ?_⟩
    rcases hcall : (device.call managed.slot .mechanisms).run site with ⟨e | answer, after⟩
    · refine Or.inr ⟨e, after, rfl, ?_⟩
      simp only [supportedMechanisms, Action.run_bind, Action.run_get, hmechanisms, run_ask hcall]
    · refine Or.inl ⟨answer, after, rfl, ?_⟩
      simp only [supportedMechanisms, Action.run_bind, Action.run_get, hmechanisms, run_ask hcall,
        update, Action.run_modify, Action.run_pure]

theorem known_of_supportedMechanisms {x y : ManagedSlot ς × Site δ ς} {known : List Mechanism}
    (h : (supportedMechanisms device).run x = (.ok known, y)) :
    y.1.mechanisms = some known := by
  rcases supportedMechanisms_cases device x.1 x.2 with
    ⟨answer, hknown, hrun⟩ | ⟨-, ⟨answer, after, -, hrun⟩ | ⟨e, after, -, hrun⟩⟩
  · rw [hrun] at h
    cases h
    exact hknown
  · rw [hrun] at h
    cases h
    rfl
  · rw [hrun] at h
    cases h

theorem does_supportedMechanisms :
    Does device config .empty (supportedMechanisms device) := by
  rintro ⟨managed, site⟩
  rcases supportedMechanisms_cases device managed site with
    ⟨known, hknown, hrun⟩ | ⟨hunknown, ⟨answer, after, hcall, hrun⟩ | ⟨e, after, hcall, hrun⟩⟩
  · rw [hrun]
    exact Does.pure known (managed, site)
  · rw [hrun]
    refine ⟨_, .call (events_of_call hcall) rfl (.single (.told hunknown hcall)) rfl ?_⟩
    intro e he
    cases he
  · rw [hrun]
    refine ⟨_, .call (events_of_call hcall) rfl (.single (.untold hunknown hcall)) rfl ?_⟩
    intro e' he
    cases he
    rfl

theorem supports_cases (device : Device δ ς) (config : ModuleConfig) (mechanism : Mechanism)
    (managed : ManagedSlot ς) (site : Site δ ς) :
    (supports device config mechanism).run (managed, site) =
        (.ok (config.allows managed.slot mechanism &&
          managed.mechanisms.any (·.elem mechanism)), managed, site) ∨
    (managed.mechanisms = none ∧
      ((∃ answer after, (device.call managed.slot .mechanisms).run site = (.ok answer, after) ∧
        (supports device config mechanism).run (managed, site) =
          (.ok ((Mechanism.sorted answer).elem mechanism),
            { managed with mechanisms := some (Mechanism.sorted answer) }, after)) ∨
      ∃ e after, (device.call managed.slot .mechanisms).run site = (.error e, after) ∧
        (supports device config mechanism).run (managed, site) = (.ok false, managed,
          { after with warnings :=
            after.warnings ++ [.mechanismsUnknown managed.slot e] }))) := by
  unfold supports
  rw [run_identifier_bind]
  cases hallowed : config.allows managed.slot mechanism with
  | false =>
    rw [if_neg Bool.false_ne_true]
    exact Or.inl rfl
  | true =>
    rw [if_pos rfl]
    rcases supportedMechanisms_cases device managed site with
      ⟨known, hknown, hrun⟩ | ⟨hunknown, ⟨answer, after, hcall, hrun⟩ | ⟨e, after, hcall, hrun⟩⟩
    · rw [Action.run_bind, Action.run_outcome, hrun, hknown]
      exact Or.inl rfl
    · rw [Action.run_bind, Action.run_outcome, hrun]
      exact Or.inr ⟨hunknown, Or.inl ⟨answer, after, hcall, rfl⟩⟩
    · rw [Action.run_bind, Action.run_outcome, hrun]
      exact Or.inr ⟨hunknown, Or.inr ⟨e, after, hcall, rfl⟩⟩

theorem does_supports (mechanism : Mechanism) :
    Does device config .empty (supports device config mechanism) := by
  rintro ⟨managed, site⟩
  rcases supports_cases device config mechanism managed site with
    hrun | ⟨hunknown, ⟨answer, after, hcall, hrun⟩ | ⟨e, after, hcall, hrun⟩⟩
  · rw [hrun]
    exact Does.pure _ (managed, site)
  · rw [hrun]
    refine ⟨_, .call (events_of_call hcall) rfl (.single (.told hunknown hcall)) rfl ?_⟩
    intro e he
    cases he
  · rw [hrun]
    have hsteps : Steps device config ⟨(managed, site), .empty⟩ ⟨(managed, after), .empty⟩ :=
      .single (.untold hunknown hcall)
    have hevents := events_of_call hcall
    refine ⟨_, .call hevents rfl (hsteps.tail (.warn _)) rfl ?_⟩
    intro e' he
    cases he

theorem does_evict (key : KeyIdentifier) :
    Does device config .empty (evict key : Work δ ς Unit) :=
  .update (fun _ => rfl) fun _ _ => .handles _

theorem does_findKey (key : KeyIdentifier) :
    Does device config .empty (findKey device config key) := by
  refine .bind does_identifier fun slot => .bind ?_ fun known => ?_
  · intro x
    refine ⟨[], .quiet rfl rfl (.single (.handles _)) ?_⟩
    intro e he
    cases he
  · cases known with
    | some handle => exact .pure handle
    | none =>
      refine does_withSession fun session => .bind ?_ fun found => ?_
      · exact .ask rfl fun _ _ => .findKey key
      · cases found with
        | none => exact .throw ErrorKind.noConfusion
        | some handle =>
          refine .bind ?_ fun _ => .pure handle
          exact .update (fun _ => rfl) fun _ _ => .handles _

theorem does_publicKey (object : UInt64) (key : KeyIdentifier) :
    Does device config .empty (publicKey device config object key) := by
  exact does_withSession fun session => .ask rfl fun _ _ => .publicKey object key

theorem signOn_eq (device : Device δ ς) (config : ModuleConfig) (session : ς) (object : UInt64)
    (mechanism : Mechanism) (parameters : Option MechanismParameters) (data : Bytes) :
    ∃ call : Call ς, call.session? = some session ∧ call.signing? = some mechanism ∧
      ∃ read : call.Answer → Bytes,
        signOn device config session object mechanism parameters data =
          read <$> ask device call := by
  unfold signOn
  split
  · exact ⟨.signParts session object mechanism parameters (data.parts config.maxMessageSize),
      rfl, rfl, id, (id_map _).symm⟩
  · exact ⟨.sign session object mechanism parameters data, rfl, rfl, id, (id_map _).symm⟩

section SignBorrowed

variable {object : UInt64} {mechanism : Mechanism} {parameters : Option MechanismParameters}
  {data : Bytes} {session : ς} {state after signed : ManagedSlot ς × Site δ ς}

theorem run_signBorrowed_ok {signature : Bytes}
    (hborrow : (borrow device config).run state = (.ok session, after))
    (hsign : (signOn device config session object mechanism parameters data).run after =
      (.ok signature, signed)) :
    (signBorrowed device config object mechanism parameters data).run state =
      (.ok signature, ((giveBack session : Work δ ς Unit).run signed).2) := by
  unfold signBorrowed
  rw [Action.run_bind_ok hborrow, Action.run_bind, Action.run_outcome, hsign]
  rfl

theorem run_signBorrowed_error {e : Error}
    (hborrow : (borrow device config).run state = (.ok session, after))
    (hsign : (signOn device config session object mechanism parameters data).run after =
      (.error e, signed)) :
    (signBorrowed device config object mechanism parameters data).run state =
      (.error e, if e.kind = .token then ((discard device session).run signed).2
        else ((giveBack session : Work δ ς Unit).run signed).2) := by
  unfold signBorrowed
  rw [Action.run_bind_ok hborrow, Action.run_bind, Action.run_outcome, hsign]
  by_cases hkind : e.kind = .token
  · simp only [hkind, if_true]
    rfl
  · simp only [hkind, if_false]
    rfl

end SignBorrowed

theorem run_sign (device : Device δ ς) (config : ModuleConfig) (object : UInt64)
    (mechanism : Mechanism) (parameters : Option MechanismParameters) (data : Bytes)
    (state : ManagedSlot ς × Site δ ς) :
    (config.allows state.1.slot mechanism = false ∧
      (sign device config object mechanism parameters data).run state =
        (.error (.mechanismNotPermitted state.1.slot mechanism), state)) ∨
    config.allows state.1.slot mechanism = true ∧
      ((∃ e asked, (supportedMechanisms device).run state = (.error e, asked) ∧
        (sign device config object mechanism parameters data).run state = (.error e, asked)) ∨
      ∃ known asked, (supportedMechanisms device).run state = (.ok known, asked) ∧
        ((mechanism ∉ known ∧ (sign device config object mechanism parameters data).run state =
          (.error (.mechanismNotSupported state.1.slot mechanism), asked)) ∨
        mechanism ∈ known ∧ (sign device config object mechanism parameters data).run state =
          (signBorrowed device config object mechanism parameters data).run asked)) := by
  unfold sign
  rw [run_identifier_bind]
  cases hallowed : config.allows state.1.slot mechanism with
  | false => exact Or.inl ⟨rfl, rfl⟩
  | true =>
    refine Or.inr ⟨rfl, ?_⟩
    rw [if_pos rfl]
    rcases htold : (supportedMechanisms device).run state with ⟨e | known, asked⟩
    · exact Or.inl ⟨e, asked, rfl, Action.run_bind_error htold _⟩
    · refine Or.inr ⟨known, asked, rfl, ?_⟩
      rw [Action.run_bind_ok htold]
      by_cases hmem : mechanism ∈ known
      · exact Or.inr ⟨hmem, by rw [if_pos (List.elem_eq_true_of_mem hmem)]⟩
      · refine Or.inl ⟨hmem, ?_⟩
        rw [if_neg fun helem => hmem (List.mem_of_elem_eq_true helem)]
        rfl

section Signed

variable {mechanism : Mechanism} {known : List Mechanism} {x : ManagedSlot ς × Site δ ς}
  {managed : ManagedSlot ς} {site after : Site δ ς} {session : ς} {calls : List (Event ς)}
  {call : Call ς}

theorem Takes.errand_spared {answer : Except Error call.Answer} {result : Except Error α}
    (h : Takes device config x session (managed, site) calls)
    (hsession : call.session? = some session)
    (hstep : Step device config ⟨(managed, site), .holding session⟩
      ⟨(managed, after), .holding session⟩)
    (hcall : (device.call managed.slot call).run site = (answer, after))
    (hanswer : ∀ e, result = .error e → answer = .error e) :
    Errand device config .empty x result
      ((giveBack session : Work δ ς Unit).run (managed, after)).2
      (calls ++ [⟨managed.slot, call, answer⟩]) := by
  refine h.errand (events_of_call hcall) ((Relation.ReflTransGen.single hstep).tail .giveBack)
    ?_ ?_ ?_
  · intro value hvalue
    exact List.cons_ne_nil _ _
  · intro event hevent
    rw [List.mem_singleton.mp hevent]
    exact Event.unopened_of_session hsession
  · intro e he hkind
    exact ⟨_, rfl, Event.failure?_of_error (hanswer e he)⟩

theorem Takes.errand_spoilt {e : Error} {closing : Except Error Unit} {closed : Site δ ς}
    (h : Takes device config x session (managed, site) calls)
    (hsession : call.session? = some session)
    (hstep : Step device config ⟨(managed, site), .holding session⟩
      ⟨(managed, after), .spoilt session⟩)
    (hcall : (device.call managed.slot call).run site = (.error e, after))
    (hkind : e.kind = .token)
    (hclose : (device.call managed.slot (.close session)).run after = (closing, closed)) :
    Errand device config .empty x (.error e : Except Error α)
      ((discard device session).run (managed, after)).2
      (calls ++ ([⟨managed.slot, call, .error e⟩] ++
        [⟨managed.slot, .close session, closing⟩])) := by
  have hclosed := ((Relation.ReflTransGen.single hstep).tail .close).tail .free
  rw [hclose] at hclosed
  rw [run_discard hclose]
  refine h.errand ?_ hclosed ?_ ?_ ?_
  · rw [events_of_call hclose, events_of_call hcall, List.append_assoc]
  · intro value hvalue
    cases hvalue
  · intro event hevent
    rcases List.mem_append.mp hevent with hsigning | hclosing
    · rw [List.mem_singleton.mp hsigning]
      exact Event.unopened_of_session hsession
    · rw [List.mem_singleton.mp hclosing]
      rfl
  · intro e' he htimeout
    cases he
    rw [hkind] at htimeout
    cases htimeout

theorem errand_signBorrowed (object : UInt64) (parameters : Option MechanismParameters)
    (data : Bytes) (hallowed : config.allows x.1.slot mechanism = true)
    (hknown : x.1.mechanisms = some known) (hmem : mechanism ∈ known) :
    ∃ calls, Errand device config .empty x
      ((signBorrowed device config object mechanism parameters data).run x).1
      ((signBorrowed device config object mechanism parameters data).run x).2 calls := by
  rcases run_borrow device config x with
    ⟨session, ⟨managed, site⟩, calls, hborrow, htakes⟩ | ⟨e, y, calls, hborrow, herrand⟩
  · have hslot : managed.slot = x.1.slot := htakes.step.slot_eq
    rw [← hslot] at hallowed
    have htaken : Steps device config ⟨x, .empty⟩ ⟨(managed, site), .holding session⟩ :=
      .single htakes.step
    have hstill : managed.mechanisms = some known := htaken.mechanisms_eq hknown
    obtain ⟨call, hsession, hsigning, read, hasks⟩ :=
      signOn_eq device config session object mechanism parameters data
    rcases hcall : (device.call managed.slot call).run site with ⟨e | answer, after⟩
    · have hsign : (signOn device config session object mechanism parameters data).run
          (managed, site) = (.error e, managed, after) := by
        rw [hasks, Action.run_map, run_ask hcall]
        rfl
      rw [run_signBorrowed_error hborrow hsign]
      by_cases hkind : e.kind = .token
      · have hstep := Step.spoil hsession hsigning hallowed hstill hmem hcall hkind
        rw [if_pos hkind]
        exact ⟨_, htakes.errand_spoilt hsession hstep hcall hkind rfl⟩
      · have hstep := Step.sign hsession hsigning hallowed hstill hmem hcall (by
          intro e' he
          cases he
          exact hkind)
        rw [if_neg hkind]
        refine ⟨_, htakes.errand_spared hsession hstep hcall ?_⟩
        intro e' he
        cases he
        rfl
    · have hsign : (signOn device config session object mechanism parameters data).run
          (managed, site) = (.ok (read answer), managed, after) := by
        rw [hasks, Action.run_map, run_ask hcall]
        rfl
      have hstep := Step.sign hsession hsigning hallowed hstill hmem hcall (by
        intro e he
        cases he)
      rw [run_signBorrowed_ok hborrow hsign]
      refine ⟨_, htakes.errand_spared hsession hstep hcall ?_⟩
      intro e he
      cases he
  · unfold signBorrowed
    rw [Action.run_bind_error hborrow]
    exact ⟨calls, herrand.fail⟩

end Signed

theorem does_sign (object : UInt64) (mechanism : Mechanism)
    (parameters : Option MechanismParameters) (data : Bytes) :
    Does device config .empty (sign device config object mechanism parameters data) := by
  intro x
  have hasks : Does device config .empty (supportedMechanisms device) := does_supportedMechanisms
  obtain ⟨asking, hasking⟩ := hasks x
  rcases run_sign device config object mechanism parameters data x with
    ⟨-, hrun⟩ | ⟨hallowed, ⟨e, asked, htold, hrun⟩ | ⟨known, asked, htold, hsupported⟩⟩
  · rw [hrun]
    exact Does.throw ErrorKind.noConfusion x
  · rw [htold] at hasking
    rw [hrun]
    exact ⟨asking, hasking.fail⟩
  · rw [htold] at hasking
    have hslot : asked.1.slot = x.1.slot := hasking.steps.slot_eq
    rcases hsupported with ⟨-, hrun⟩ | ⟨hmem, hrun⟩
    · rw [hrun]
      have hrefuses : Does device config .empty
          (throw (.mechanismNotSupported x.1.slot mechanism) : Work δ ς Bytes) :=
        .throw ErrorKind.noConfusion
      obtain ⟨calls, hrefused⟩ := hrefuses asked
      exact ⟨asking ++ calls, hasking.trans hrefused⟩
    · rw [hrun]
      obtain ⟨calls, hsigned⟩ := errand_signBorrowed object parameters data (hslot ▸ hallowed)
        (known_of_supportedMechanisms htold) hmem
      exact ⟨asking ++ calls, hasking.trans hsigned⟩

theorem asked_of_sign {object : UInt64} {mechanism : Mechanism}
    {parameters : Option MechanismParameters} {data signature : Bytes}
    {x y : ManagedSlot ς × Site δ ς}
    (h : (sign device config object mechanism parameters data).run x = (.ok signature, y)) :
    ∃ session state,
      (config.maxMessageSize < data.length ∧
        (device.ask x.1.slot (.signParts session object mechanism parameters
          (data.parts config.maxMessageSize)) state).result = .ok signature) ∨
      (data.length ≤ config.maxMessageSize ∧
        (device.ask x.1.slot (.sign session object mechanism parameters data) state).result =
          .ok signature) := by
  rcases run_sign device config object mechanism parameters data x with
    ⟨-, hrun⟩ | ⟨-, ⟨e, asked, -, hrun⟩ | ⟨known, asked, htold, ⟨-, hrun⟩ | ⟨-, hrun⟩⟩⟩
  · rw [hrun] at h
    cases h
  · rw [hrun] at h
    cases h
  · rw [hrun] at h
    cases h
  · rw [hrun] at h
    have hasks : Does device config .empty (supportedMechanisms device) := does_supportedMechanisms
    have hasked := hasks.slot_eq htold
    rcases run_borrow device config asked with
      ⟨session, ⟨managed, site⟩, calls, hborrow, htakes⟩ | ⟨e, y, calls, hborrow, -⟩
    · have hslot : managed.slot = x.1.slot := htakes.step.slot_eq.trans hasked
      rcases hsign : (signOn device config session object mechanism parameters data).run
          (managed, site) with ⟨e | answer, signed⟩
      · rw [run_signBorrowed_error hborrow hsign] at h
        cases h
      · rw [run_signBorrowed_ok hborrow hsign] at h
        cases h
        refine ⟨session, site.device, ?_⟩
        rw [← hslot]
        unfold signOn at hsign
        split at hsign
        · next hlong => exact Or.inl ⟨hlong, congrArg Prod.fst hsign⟩
        · next hshort => exact Or.inr ⟨Nat.le_of_not_lt hshort, congrArg Prod.fst hsign⟩
    · unfold signBorrowed at h
      rw [Action.run_bind_error hborrow] at h
      cases h

theorem does_find (key : KeyIdentifier) :
    Does device config .empty (KeyHandle.find device config key) := by
  refine .bind does_identifier fun slot => .bind (does_findKey key) fun object => ?_
  refine .bind (does_publicKey object key) fun publicKey => .bind ?_ fun _ => .pure _
  exact .ofExcept_of_kind ErrorKind.noConfusion PublicKey.kind_of_classify

theorem run_find_eq_ok {key : KeyIdentifier} {handle : KeyHandle} {x z : ManagedSlot ς × Site δ ς} :
    (KeyHandle.find device config key).run x = (.ok handle, z) ↔
      ∃ y revealed,
        (findKey device config key).run x = (.ok handle.object, y) ∧
        (publicKey device config handle.object key).run y = (.ok revealed, z) ∧
        revealed.classify = .ok (handle.algorithm, handle.bits) ∧
        handle.slot = x.1.slot ∧ handle.key = key := by
  unfold KeyHandle.find
  rw [run_identifier_bind, Action.run_bind_eq_ok]
  constructor
  · rintro ⟨object, y, hobject, hrest⟩
    obtain ⟨revealed, read, hread, hrest⟩ := Action.run_bind_eq_ok.mp hrest
    obtain ⟨⟨algorithm, bits⟩, hclassify, hanswer⟩ := Action.run_ofExcept_bind_eq_ok.mp hrest
    cases hanswer
    exact ⟨y, revealed, hobject, hread, hclassify, rfl, rfl⟩
  · rintro ⟨y, revealed, hobject, hread, hclassify, hown, rfl⟩
    refine ⟨handle.object, y, hobject, Action.run_bind_eq_ok.mpr ⟨revealed, z, hread, ?_⟩⟩
    rw [hclassify, ← hown]
    rfl

theorem does_require (handle : KeyHandle) (algorithm : KeyAlgorithm) :
    Does device config .empty (Action.ofExcept (handle.require algorithm) : Work δ ς Unit) :=
  .ofExcept_of_kind ErrorKind.noConfusion KeyHandle.kind_of_require

theorem does_checkHash (digest : Digest) (hash : Bytes) :
    Does device config .empty
      (Action.ofExcept (KeyHandle.checkHash digest hash) : Work δ ς Unit) :=
  .ofExcept_of_kind ErrorKind.noConfusion KeyHandle.kind_of_checkHash

theorem does_signPkcs1 (handle : KeyHandle) (digest : Digest) (hash : Bytes) :
    Does device config .empty (handle.signPkcs1 device config digest hash) := by
  refine .bind (does_require _ _) fun _ => .bind (does_checkHash _ _) fun _ => ?_
  refine .bind (does_supports _) fun supported => .ite (fun _ => ?_) fun _ => ?_
  · exact does_sign _ _ _ _
  · refine .bind ?_ fun block => does_sign _ _ _ _
    exact .ofExcept_of_kind ErrorKind.noConfusion Emsa.Pkcs1.kind_of_encode

theorem does_signPssEncoded (handle : KeyHandle) (message : PssMessage) :
    Does device config .empty (handle.signPssEncoded device config message) := by
  refine .bind (does_require _ _) fun _ => .ite (fun _ => ?_) fun _ => does_sign _ _ _ _
  exact .bind (.throw ErrorKind.noConfusion) fun _ => does_sign _ _ _ _

theorem does_encodePss (handle : KeyHandle) (parameters : PssParameters) (hash : Bytes) :
    Does device config .empty (handle.encodePss parameters hash : Work δ ς PssMessage) := by
  intro x
  refine ⟨[], .quiet rfl rfl (.single (.salts _)) ?_⟩
  exact fun _ => Emsa.Pss.kind_of_encodeFresh

theorem does_signPss (handle : KeyHandle) (parameters : PssParameters) (hash : Bytes) :
    Does device config .empty (handle.signPss device config parameters hash) := by
  refine .bind (does_require _ _) fun _ => .bind (does_checkHash _ _) fun _ => ?_
  refine .bind (does_supports _) fun supported => .ite (fun _ => ?_) fun _ => ?_
  · exact does_sign _ _ _ _
  · exact .bind (does_encodePss _ _ _) fun message => does_signPssEncoded _ _

theorem does_signEcdsa (handle : KeyHandle) (hash : Bytes) (encoding : Ecdsa.Encoding) :
    Does device config .empty (handle.signEcdsa device config hash encoding) := by
  refine .bind (does_require _ _) fun _ => .bind (does_sign _ _ _ _) fun raw => ?_
  exact .ofExcept fun _ => Ecdsa.kind_of_encode

theorem does_order (order : Engine.Order) :
    Does device config .empty (order.sign device config) := by
  cases order with
  | pkcs1 key digest hash => exact does_signPkcs1 key digest hash
  | pss key parameters hash => exact does_signPss key parameters hash
  | ecdsa key hash encoding => exact does_signEcdsa key hash encoding

end TokenSigner.ManagedSlot
