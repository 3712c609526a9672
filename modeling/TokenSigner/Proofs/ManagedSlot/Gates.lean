import TokenSigner.Proofs.ManagedSlot.Operations

namespace TokenSigner.ManagedSlot

variable {δ ς α : Type} {device : Device δ ς} {config : ModuleConfig}
  {x : ManagedSlot ς × Site δ ς} {mechanism : Mechanism} {object : UInt64}
  {parameters : Option MechanismParameters} {data : Bytes}

def Refused (work : Work δ ς α) (x : ManagedSlot ς × Site δ ς) (kind : ErrorKind) : Prop :=
  ∃ e, work.run x = (.error e, x) ∧ e.kind = kind

theorem refused_iff_of_error {work : Work δ ς α} {e : Error} (hrun : work.run x = (.error e, x))
    (kind : ErrorKind) : Refused work x kind ↔ e.kind = kind := by
  constructor
  · rintro ⟨e', hrun', hkind⟩
    rw [hrun] at hrun'
    cases hrun'
    exact hkind
  · intro hkind
    exact ⟨e, hrun, hkind⟩

theorem run_supportedMechanisms_known {known : List Mechanism}
    (hknown : x.1.mechanisms = some known) :
    (supportedMechanisms device).run x = (.ok known, x) := by
  rcases supportedMechanisms_cases device x.1 x.2 with ⟨known', hknown', hrun⟩ | ⟨hunknown, -⟩
  · rw [hknown'] at hknown
    cases hknown
    exact hrun
  · rw [hunknown] at hknown
    cases hknown

section Unknown

variable {after : Site δ ς} (hunknown : x.1.mechanisms = none)

include hunknown

theorem run_supportedMechanisms_failed {e : Error}
    (hquery : (device.call x.1.slot .mechanisms).run x.2 = (.error e, after)) :
    (supportedMechanisms device).run x = (.error e, x.1, after) := by
  rcases supportedMechanisms_cases device x.1 x.2 with
    ⟨known, hknown, -⟩ | ⟨-, ⟨told, after', hcall, -⟩ | ⟨e', after', hcall, hrun⟩⟩
  · rw [hunknown] at hknown
    cases hknown
  · rw [hquery] at hcall
    cases hcall
  · rw [hquery] at hcall
    cases hcall
    exact hrun

theorem run_supportedMechanisms_answered {told : List Mechanism}
    (hquery : (device.call x.1.slot .mechanisms).run x.2 = (.ok told, after)) :
    (supportedMechanisms device).run x = (.ok (Mechanism.sorted told),
      { x.1 with mechanisms := some (Mechanism.sorted told) }, after) := by
  rcases supportedMechanisms_cases device x.1 x.2 with
    ⟨known, hknown, -⟩ | ⟨-, ⟨told', after', hcall, hrun⟩ | ⟨e, after', hcall, -⟩⟩
  · rw [hunknown] at hknown
    cases hknown
  · rw [hquery] at hcall
    cases hcall
    exact hrun
  · rw [hquery] at hcall
    cases hcall

end Unknown

theorem run_supports_denied (h : config.allows x.1.slot mechanism = false) :
    (supports device config mechanism).run x = (.ok false, x) := by
  unfold supports
  rw [run_identifier_bind, h]
  rfl

theorem run_sign_denied (h : config.allows x.1.slot mechanism = false) :
    (sign device config object mechanism parameters data).run x =
      (.error (.mechanismNotPermitted x.1.slot mechanism), x) := by
  unfold sign
  rw [run_identifier_bind, h]
  rfl

section Allowed

variable {y : ManagedSlot ς × Site δ ς} (hallowed : config.allows x.1.slot mechanism = true)

include hallowed

theorem run_supports_told {known : List Mechanism}
    (htold : (supportedMechanisms device).run x = (.ok known, y)) :
    (supports device config mechanism).run x = (.ok (known.elem mechanism), y) := by
  unfold supports
  rw [run_identifier_bind, if_pos hallowed, Action.run_bind, Action.run_outcome, htold]
  rfl

theorem run_sign_told {known : List Mechanism}
    (htold : (supportedMechanisms device).run x = (.ok known, y)) :
    (sign device config object mechanism parameters data).run x =
      (if known.elem mechanism then signBorrowed device config object mechanism parameters data
        else throw (.mechanismNotSupported x.1.slot mechanism)).run y := by
  unfold sign
  rw [run_identifier_bind, if_pos hallowed, Action.run_bind_ok htold]

theorem run_sign_again {known : List Mechanism}
    (htold : (supportedMechanisms device).run x = (.ok known, y)) :
    (sign device config object mechanism parameters data).run x =
      (sign device config object mechanism parameters data).run y := by
  have hasks : Does device config .empty (supportedMechanisms device) := does_supportedMechanisms
  have hslot := hasks.slot_eq htold
  have hstill : (supportedMechanisms device).run y = (.ok known, y) :=
    run_supportedMechanisms_known (known_of_supportedMechanisms htold)
  rw [run_sign_told hallowed htold, run_sign_told (hslot ▸ hallowed) hstill, hslot]

theorem run_supports_untold {e : Error}
    (huntold : (supportedMechanisms device).run x = (.error e, y)) :
    (supports device config mechanism).run x = (.ok false, y.1,
      { y.2 with warnings := y.2.warnings ++ [.mechanismsUnknown x.1.slot e] }) := by
  unfold supports
  rw [run_identifier_bind, if_pos hallowed, Action.run_bind, Action.run_outcome, huntold]
  rfl

theorem run_sign_untold {e : Error}
    (huntold : (supportedMechanisms device).run x = (.error e, y)) :
    (sign device config object mechanism parameters data).run x = (.error e, y) := by
  unfold sign
  rw [run_identifier_bind, if_pos hallowed, Action.run_bind_error huntold]

end Allowed

theorem events_signBorrowed {session : ς} {y : ManagedSlot ς × Site δ ς}
    (hborrow : (borrow device config).run x = (.ok session, y)) :
    ∃ event rest, ((signBorrowed device config object mechanism parameters data).run x).2.2.events =
      y.2.events ++ event :: rest := by
  obtain ⟨call, -, -, read, hasks⟩ :=
    signOn_eq device config session object mechanism parameters data
  rcases hcall : (device.call y.1.slot call).run y.2 with ⟨e | answer, after⟩
  · have hsign : (signOn device config session object mechanism parameters data).run y =
        (.error e, y.1, after) := by
      rw [hasks, Action.run_map, run_ask hcall]
      rfl
    rw [run_signBorrowed_error hborrow hsign]
    by_cases hkind : e.kind = .token
    · rcases hclose : (device.call y.1.slot (.close session)).run after with ⟨closing, closed⟩
      rw [if_pos hkind, run_discard hclose]
      refine ⟨⟨y.1.slot, call, .error e⟩, [⟨y.1.slot, .close session, closing⟩], ?_⟩
      rw [events_of_call hclose, events_of_call hcall, List.append_assoc]
      rfl
    · rw [if_neg hkind]
      exact ⟨_, [], events_of_call hcall⟩
  · have hsign : (signOn device config session object mechanism parameters data).run y =
        (.ok (read answer), y.1, after) := by
      rw [hasks, Action.run_map, run_ask hcall]
      rfl
    rw [run_signBorrowed_ok hborrow hsign]
    exact ⟨_, [], events_of_call hcall⟩

theorem kind_of_refused_signBorrowed {kind : ErrorKind}
    (h : Refused (signBorrowed device config object mechanism parameters data) x kind) :
    kind = .sessionTimeout := by
  obtain ⟨e, hrun, rfl⟩ := h
  obtain ⟨managed, site⟩ := x
  have htaken {session : ς} {y : ManagedSlot ς × Site δ ς} {calls : List (Event ς)}
      (hborrow : (borrow device config).run (managed, site) = (.ok session, y))
      (hcalls : y.2.events = site.events ++ calls) : False := by
    obtain ⟨event, rest, hevents⟩ := @events_signBorrowed _ _ device config _ mechanism object
      parameters data _ _ hborrow
    rw [hrun, hcalls] at hevents
    have hlength := congrArg List.length hevents
    simp at hlength
  rcases borrow_cases device config managed site with
    ⟨session, idle, -, hborrow⟩ |
    ⟨-, -, ⟨session, after, hcall, hborrow⟩ | ⟨e', after, hcall, hborrow⟩⟩ | ⟨-, hborrow⟩
  · exact (htaken hborrow (List.append_nil _).symm).elim
  · exact (htaken hborrow (events_of_call hcall)).elim
  · unfold signBorrowed at hrun
    rw [Action.run_bind_error hborrow] at hrun
    cases hrun
    have hevents := congrArg List.length (events_of_call hcall)
    simp at hevents
  · unfold signBorrowed at hrun
    rw [Action.run_bind_error hborrow] at hrun
    cases hrun
    rfl

structure Decided (device : Device δ ς) (config : ModuleConfig) (told : List Mechanism)
    (x : ManagedSlot ς × Site δ ς) : Prop where
  supports (mechanism : Mechanism) : (supports device config mechanism).run x =
    (.ok (config.allows x.1.slot mechanism && told.elem mechanism), x)
  agree (mechanism : Mechanism) (object : UInt64) (parameters : Option MechanismParameters)
    (data : Bytes) :
    ((ManagedSlot.supports device config mechanism).run x).1 = .ok true ↔
      ¬(Refused (sign device config object mechanism parameters data) x .mechanismNotPermitted ∨
        Refused (sign device config object mechanism parameters data) x .security)
  denied (mechanism : Mechanism) (object : UInt64) (parameters : Option MechanismParameters)
    (data : Bytes) :
    Refused (sign device config object mechanism parameters data) x .mechanismNotPermitted ↔
      config.allows x.1.slot mechanism = false

structure Undecided (device : Device δ ς) (config : ModuleConfig)
    (x : ManagedSlot ς × Site δ ς) : Prop where
  unknown : x.1.mechanisms = none
  failed {e : Error} {after : Site δ ς} {mechanism : Mechanism}
    (hquery : (device.call x.1.slot .mechanisms).run x.2 = (.error e, after))
    (hallowed : config.allows x.1.slot mechanism = true) :
    after.events = x.2.events ++ [⟨x.1.slot, .mechanisms, .error e⟩] ∧
    (supports device config mechanism).run x = (.ok false, x.1,
      { after with warnings := after.warnings ++ [.mechanismsUnknown x.1.slot e] }) ∧
    ∀ object parameters data,
      (sign device config object mechanism parameters data).run x = (.error e, x.1, after)
  answered {told : List Mechanism} {after : Site δ ς} {mechanism : Mechanism}
    (hquery : (device.call x.1.slot .mechanisms).run x.2 = (.ok told, after))
    (hallowed : config.allows x.1.slot mechanism = true) :
    ∃ y, Decided device config told y ∧
      (supports device config mechanism).run x = (.ok (told.elem mechanism), y) ∧
      ∀ object parameters data,
        (sign device config object mechanism parameters data).run x =
          (sign device config object mechanism parameters data).run y

theorem refused_sign_iff {known : List Mechanism} (hknown : x.1.mechanisms = some known) :
    (Refused (sign device config object mechanism parameters data) x .mechanismNotPermitted ↔
      config.allows x.1.slot mechanism = false) ∧
    (Refused (sign device config object mechanism parameters data) x .security ↔
      config.allows x.1.slot mechanism = true ∧ mechanism ∉ known) := by
  cases hallowed : config.allows x.1.slot mechanism with
  | false =>
    have hrun : (sign device config object mechanism parameters data).run x = _ :=
      run_sign_denied hallowed
    simp [refused_iff_of_error hrun, Error.kind]
  | true =>
    have hrun : (sign device config object mechanism parameters data).run x = _ :=
      run_sign_told hallowed (run_supportedMechanisms_known hknown)
    by_cases hmem : mechanism ∈ known
    · rw [if_pos (List.elem_eq_true_of_mem hmem)] at hrun
      have hpasses {kind : ErrorKind} (hkind : kind ≠ .sessionTimeout) :
          ¬Refused (sign device config object mechanism parameters data) x kind := by
        rintro ⟨e, hsign, he⟩
        rw [hrun] at hsign
        exact hkind (kind_of_refused_signBorrowed ⟨e, hsign, he⟩)
      simp [hpasses, hmem]
    · rw [if_neg fun helem => hmem (List.mem_of_elem_eq_true helem), Action.run_throw] at hrun
      simp [refused_iff_of_error hrun, Error.kind, hmem]

theorem elem_sorted (mechanism : Mechanism) (told : List Mechanism) :
    (Mechanism.sorted told).elem mechanism = told.elem mechanism := by
  rw [Bool.eq_iff_iff, List.elem_iff, List.elem_iff, Mechanism.mem_sorted]

theorem decided_of_known {told : List Mechanism}
    (hknown : x.1.mechanisms = some (Mechanism.sorted told)) : Decided device config told x := by
  have hsupports (mechanism : Mechanism) : (supports device config mechanism).run x =
      (.ok (config.allows x.1.slot mechanism && told.elem mechanism), x) := by
    cases hallowed : config.allows x.1.slot mechanism with
    | false => exact run_supports_denied hallowed
    | true =>
      rw [run_supports_told hallowed (run_supportedMechanisms_known hknown), elem_sorted,
        Bool.true_and]
  refine ⟨hsupports, ?_, ?_⟩
  · intro mechanism object parameters data
    obtain ⟨hdenied, hlacking⟩ := @refused_sign_iff _ _ device config x mechanism object parameters
      data _ hknown
    rw [hsupports, hdenied, hlacking, Mechanism.mem_sorted]
    cases config.allows x.1.slot mechanism <;> simp
  · intro mechanism object parameters data
    exact (refused_sign_iff hknown).1

theorem undecided_of_unknown (hunknown : x.1.mechanisms = none) : Undecided device config x := by
  refine ⟨hunknown, ?_, ?_⟩
  · intro e after mechanism hquery hallowed
    have huntold := run_supportedMechanisms_failed hunknown hquery
    refine ⟨events_of_call hquery, run_supports_untold hallowed huntold, ?_⟩
    intro object parameters data
    exact run_sign_untold hallowed huntold
  · intro told after mechanism hquery hallowed
    have htold := run_supportedMechanisms_answered hunknown hquery
    refine ⟨_, decided_of_known (known_of_supportedMechanisms htold), ?_, ?_⟩
    · rw [← elem_sorted]
      exact run_supports_told hallowed htold
    · intro object parameters data
      exact run_sign_again hallowed htold

end TokenSigner.ManagedSlot
