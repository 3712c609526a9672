import TokenSigner.Proofs.ManagedSlot.Operations
import TokenSigner.Proofs.Bytes

namespace TokenSigner.ManagedSlot

variable {δ ς α β : Type} {device : Device δ ς} {config : ModuleConfig}

def signings (calls : List (Event ς)) : Nat :=
  calls.countP fun event => event.call.signing?.isSome

@[simp] theorem signings_nil : signings ([] : List (Event ς)) = 0 := rfl

@[simp] theorem signings_append (calls more : List (Event ς)) :
    signings (calls ++ more) = signings calls + signings more :=
  List.countP_append

theorem signings_eq_zero {calls : List (Event ς)}
    (h : ∀ event ∈ calls, event.call.signing? = none) :
    signings calls = 0 := by
  refine List.countP_eq_zero.mpr fun event hevent => ?_
  simp [h event hevent]

def Signs (count : Nat) (work : Work δ ς α) : Prop :=
  ∀ x, ∃ calls, (work.run x).2.2.events = x.2.events ++ calls ∧ signings calls ≤ count ∧
    ∀ value, (work.run x).1 = .ok value → signings calls = count

namespace Signs

variable {count more : Nat}

theorem quiet {work : Work δ ς α} (h : ∀ x, (work.run x).2.2.events = x.2.events) :
    Signs 0 work :=
  fun x => ⟨[], by simpa using h x, Nat.le_refl 0, fun _ _ => rfl⟩

theorem pure (value : α) : Signs 0 (Pure.pure value : Work δ ς α) := .quiet fun _ => rfl

theorem ofExcept (r : Except Error α) : Signs 0 (Action.ofExcept r : Work δ ς α) :=
  .quiet fun _ => rfl

theorem throw (e : Error) : Signs count (throw e : Work δ ς α) := by
  refine fun x => ⟨[], (List.append_nil _).symm, Nat.zero_le count, ?_⟩
  intro value hvalue
  cases hvalue

theorem update (f : ManagedSlot ς → ManagedSlot ς) : Signs 0 (update f : Work δ ς Unit) :=
  .quiet fun _ => rfl

theorem bind {work : Work δ ς α} {next : α → Work δ ς β} (h : Signs count work)
    (hnext : ∀ value, Signs more (next value)) : Signs (count + more) (work >>= next) := by
  intro x
  obtain ⟨calls, hcalls, hmost, hleast⟩ := h x
  rcases hrun : work.run x with ⟨e | value, y⟩
  · rw [hrun] at hcalls
    rw [Action.run_bind_error hrun]
    refine ⟨calls, hcalls, Nat.le_add_right_of_le hmost, ?_⟩
    intro value hvalue
    cases hvalue
  · rw [hrun] at hcalls hleast
    obtain ⟨others, hothers, hmost', hleast'⟩ := hnext value y
    rw [Action.run_bind_ok hrun]
    refine ⟨calls ++ others, ?_, ?_, ?_⟩
    · rw [hothers, hcalls, List.append_assoc]
    · rw [signings_append]
      exact Nat.add_le_add hmost hmost'
    · intro value' hvalue'
      rw [signings_append, hleast value rfl, hleast' value' hvalue']

theorem after {work : Work δ ς α} {next : α → Work δ ς β} (h : Signs 0 work)
    (hnext : ∀ value, Signs count (next value)) : Signs count (work >>= next) := by
  have hboth := h.bind hnext
  rw [Nat.zero_add] at hboth
  exact hboth

theorem get_after {next : ManagedSlot ς × Site δ ς → Work δ ς β}
    (hnext : ∀ state, Signs count (next state)) : Signs count (get >>= next) := by
  intro x
  exact hnext x x

theorem ite {c : Prop} [Decidable c] {a b : Work δ ς α} (ha : Signs count a)
    (hb : Signs count b) : Signs count (if c then a else b) := by
  split
  · exact ha
  · exact hb

theorem outcome {work : Work δ ς α} (h : Signs 0 work) : Signs 0 work.outcome := by
  intro x
  obtain ⟨calls, hcalls, hmost, -⟩ := h x
  exact ⟨calls, hcalls, hmost, fun _ _ => Nat.le_zero.mp hmost⟩

theorem ask {call : Call ς} (h : call.signing? = none) : Signs 0 (ask device call) := by
  intro x
  have hnone : signings [⟨x.1.slot, call, (device.ask x.1.slot call x.2.device).result⟩] = 0 :=
    signings_eq_zero (by simpa using h)
  exact ⟨_, rfl, hnone.le, fun _ _ => hnone⟩

end Signs

theorem signs_supportedMechanisms : Signs 0 (supportedMechanisms device) := by
  refine .get_after fun state => ?_
  dsimp only
  cases state.1.mechanisms with
  | some known => exact .pure known
  | none =>
    exact .after (.ask rfl) fun _ => .after (.update _) fun _ => .pure _

theorem signs_supports (mechanism : Mechanism) : Signs 0 (supports device config mechanism) := by
  refine .get_after fun state => .ite ?_ (.pure _)
  refine .after signs_supportedMechanisms.outcome fun told => ?_
  cases told with
  | ok known => exact .pure _
  | error e => exact .after (.quiet fun _ => rfl) fun _ => .pure _

theorem signs_borrow : Signs 0 (borrow device config) := by
  rintro ⟨managed, site⟩
  rcases borrow_cases device config managed site with
    ⟨session, idle, -, hrun⟩ | ⟨-, -, ⟨session, after, hcall, hrun⟩ | ⟨e, after, hcall, hrun⟩⟩ |
    ⟨-, hrun⟩
  · rw [hrun]
    exact ⟨[], (List.append_nil _).symm, Nat.le_refl 0, fun _ _ => rfl⟩
  · rw [hrun]
    exact ⟨_, events_of_call hcall, Nat.le_refl 0, fun _ _ => rfl⟩
  · rw [hrun]
    exact ⟨_, events_of_call hcall, Nat.le_refl 0, fun _ _ => rfl⟩
  · rw [hrun]
    exact ⟨[], (List.append_nil _).symm, Nat.le_refl 0, fun _ _ => rfl⟩

def permit (device : Device δ ς) (config : ModuleConfig) (mechanism : Mechanism) :
    Work δ ς Unit := do
  let slot ← identifier
  if config.allows slot mechanism then
    if (← supportedMechanisms device).elem mechanism then return ()
    else throw (.mechanismNotSupported slot mechanism)
  else throw (.mechanismNotPermitted slot mechanism)

def prepare (device : Device δ ς) (config : ModuleConfig) (mechanism : Mechanism) :
    Work δ ς ς := do
  permit device config mechanism
  borrow device config

theorem signs_permit (mechanism : Mechanism) : Signs 0 (permit device config mechanism) := by
  refine .get_after fun state => .ite ?_ (.throw _)
  exact .after signs_supportedMechanisms fun known => .ite (.pure _) (.throw _)

theorem signs_prepare (mechanism : Mechanism) : Signs 0 (prepare device config mechanism) :=
  .after (signs_permit mechanism) fun _ => signs_borrow

theorem sign_eq (device : Device δ ς) (config : ModuleConfig) (object : UInt64)
    (mechanism : Mechanism) (parameters : Option MechanismParameters) (data : Bytes) :
    sign device config object mechanism parameters data = (do
      permit device config mechanism
      signBorrowed device config object mechanism parameters data) := by
  unfold sign permit
  rw [bind_assoc]
  congr
  funext slot
  split
  · rw [bind_assoc]
    congr
    funext known
    split
    · rfl
    · rfl
  · rfl

inductive Asks (limit : Nat) (slot : SlotIdentifier) (session : ς) (object : UInt64)
    (mechanism : Mechanism) (parameters : Option MechanismParameters) (data : Bytes) :
    Event ς → Except Error Bytes → Prop
  | whole {result : Except Error Bytes} (hshort : data.length ≤ limit) :
    Asks limit slot session object mechanism parameters data
      ⟨slot, .sign session object mechanism parameters data, result⟩ result
  | inParts {parts : List Bytes} {result : Except Error Bytes} (hlong : limit < data.length)
    (hparts : data.Cut limit parts) :
    Asks limit slot session object mechanism parameters data
      ⟨slot, .signParts session object mechanism parameters parts, result⟩ result

section Signature

variable {object : UInt64} {mechanism : Mechanism} {parameters : Option MechanismParameters}
  {data : Bytes}

theorem Asks.signings_eq {limit : Nat} {slot : SlotIdentifier} {session : ς} {event : Event ς}
    {result : Except Error Bytes} {before after : List (Event ς)}
    (h : Asks limit slot session object mechanism parameters data event result)
    (hbefore : signings before = 0) (hafter : signings after = 0) :
    signings (before ++ event :: after) = 1 := by
  have hevent : signings [event] = 1 := by
    cases h with
    | whole hshort => rfl
    | inParts hlong hparts => rfl
  rw [signings_append, ← List.singleton_append, signings_append, hbefore, hevent, hafter]

theorem Asks.error?_eq {limit : Nat} {slot : SlotIdentifier} {session : ς} {event : Event ς}
    {result : Except Error Bytes}
    (h : Asks limit slot session object mechanism parameters data event result) :
    error? event.result = error? result := by
  cases h with
  | whole hshort => rfl
  | inParts hlong hparts => rfl

theorem asks_signOn (hsize : config.maxMessageSize ≠ 0) (session : ς)
    (x : ManagedSlot ς × Site δ ς) :
    ∃ event result called,
      Asks config.maxMessageSize x.1.slot session object mechanism parameters data event result ∧
      (device.call event.slot event.call).run x.2 = (event.result, called) ∧
      (signOn device config session object mechanism parameters data).run x =
        (result, x.1, called) := by
  unfold signOn
  split
  · next hlong => exact ⟨_, _, _, .inParts hlong (Bytes.cut_parts hsize data), rfl, rfl⟩
  · next hshort => exact ⟨_, _, _, .whole (Nat.le_of_not_lt hshort), rfl, rfl⟩

inductive Signature (device : Device δ ς) (config : ModuleConfig) (object : UInt64)
    (mechanism : Mechanism) (parameters : Option MechanismParameters) (data : Bytes)
    (x : ManagedSlot ς × Site δ ς) : Except Error Bytes → ManagedSlot ς × Site δ ς → Prop
  | refused {e : Error} {y : ManagedSlot ς × Site δ ς} {before : List (Event ς)}
    (hprepare : (prepare device config mechanism).run x = (.error e, y))
    (hrecorded : y.2.events = x.2.events ++ before) (hbefore : signings before = 0) :
    Signature device config object mechanism parameters data x (.error e) y
  | asked {session : ς} {taken y : ManagedSlot ς × Site δ ς} {event : Event ς}
    {result : Except Error Bytes} {called : Site δ ς} {before after : List (Event ς)}
    (hprepare : (prepare device config mechanism).run x = (.ok session, taken))
    (hcall : (device.call event.slot event.call).run taken.2 = (event.result, called))
    (hasks : Asks config.maxMessageSize taken.1.slot session object mechanism parameters data event
      result)
    (hrecorded : y.2.events = x.2.events ++ (before ++ event :: after))
    (hbefore : signings before = 0) (hafter : signings after = 0) :
    Signature device config object mechanism parameters data x result y

theorem run_signBorrowed {session : ς} {state taken : ManagedSlot ς × Site δ ς}
    (hsize : config.maxMessageSize ≠ 0)
    (hborrow : (borrow device config).run state = (.ok session, taken)) :
    ∃ event result called y after,
      (signBorrowed device config object mechanism parameters data).run state = (result, y) ∧
      Asks config.maxMessageSize taken.1.slot session object mechanism parameters data event
        result ∧
      (device.call event.slot event.call).run taken.2 = (event.result, called) ∧
      y.2.events = taken.2.events ++ event :: after ∧ signings after = 0 := by
  obtain ⟨event, result, called, hasks, hcall, hsign⟩ :=
    @asks_signOn _ _ device config object mechanism parameters data hsize session taken
  have hevents := events_of_call hcall
  refine ⟨event, result, called, ?_⟩
  cases result with
  | ok signature =>
    exact ⟨_, [], run_signBorrowed_ok hborrow hsign, hasks, hcall, hevents, rfl⟩
  | error e =>
    have hrun := run_signBorrowed_error hborrow hsign
    by_cases hkind : e.kind = .token
    · rcases hclose : (device.call taken.1.slot (.close session)).run called with ⟨closing, closed⟩
      rw [if_pos hkind, run_discard hclose] at hrun
      refine ⟨_, [⟨taken.1.slot, .close session, closing⟩], hrun, hasks, hcall, ?_, rfl⟩
      rw [events_of_call hclose, hevents, List.append_assoc]
      rfl
    · rw [if_neg hkind] at hrun
      exact ⟨_, [], hrun, hasks, hcall, hevents, rfl⟩

theorem signature_sign (hsize : config.maxMessageSize ≠ 0) (x : ManagedSlot ς × Site δ ς) :
    Signature device config object mechanism parameters data x
      ((sign device config object mechanism parameters data).run x).1
      ((sign device config object mechanism parameters data).run x).2 := by
  have hquiet : Signs 0 (prepare device config mechanism) := signs_prepare mechanism
  obtain ⟨before, hrecorded, hmost, -⟩ := hquiet x
  have hbefore := Nat.le_zero.mp hmost
  have hsign := sign_eq device config object mechanism parameters data
  rcases hpermit : (permit device config mechanism).run x with ⟨e | permitted, asked⟩
  · have hprepare := Action.run_bind_error hpermit fun _ => borrow device config
    rw [hsign, Action.run_bind_error hpermit]
    rw [prepare, hprepare] at hrecorded
    exact .refused hprepare hrecorded hbefore
  · have hprepare := Action.run_bind_ok hpermit fun _ => borrow device config
    rw [hsign, Action.run_bind_ok hpermit]
    rw [prepare, hprepare] at hrecorded
    rcases hborrow : (borrow device config).run asked with ⟨e | session, taken⟩
    · rw [hborrow] at hprepare hrecorded
      unfold signBorrowed
      rw [Action.run_bind_error hborrow]
      exact .refused hprepare hrecorded hbefore
    · rw [hborrow] at hprepare hrecorded
      obtain ⟨event, result, called, y, after, hrun, hasks, hcall, hevents, hafter⟩ :=
        @run_signBorrowed _ _ device config object mechanism parameters data session asked taken
          hsize hborrow
      rw [hrun]
      refine .asked hprepare hcall hasks ?_ hbefore hafter
      rw [hevents, hrecorded, List.append_assoc]

theorem signs_sign (hsize : config.maxMessageSize ≠ 0) :
    Signs 1 (sign device config object mechanism parameters data) := by
  intro x
  have hsignature : Signature device config object mechanism parameters data x _ _ :=
    signature_sign hsize x
  generalize (sign device config object mechanism parameters data).run x = outcome at hsignature ⊢
  obtain ⟨result, y⟩ := outcome
  cases hsignature with
  | refused hprepare hrecorded hbefore =>
    refine ⟨_, hrecorded, ?_, ?_⟩
    · rw [hbefore]
      exact Nat.zero_le 1
    · intro value hvalue
      cases hvalue
  | asked hprepare hcall hasks hrecorded hbefore hafter =>
    have hone := hasks.signings_eq hbefore hafter
    exact ⟨_, hrecorded, hone.le, fun _ _ => hone⟩

end Signature

section Keys

variable (hsize : config.maxMessageSize ≠ 0)

include hsize

theorem signs_signPkcs1 (handle : KeyHandle) (digest : Digest) (hash : Bytes) :
    Signs 1 (handle.signPkcs1 device config digest hash) := by
  refine .after (.ofExcept _) fun _ => .after (.ofExcept _) fun _ => ?_
  refine .after (signs_supports _) fun supported => .ite (signs_sign hsize) ?_
  exact .after (.ofExcept _) fun block => signs_sign hsize

theorem signs_signPssEncoded (handle : KeyHandle) (message : PssMessage) :
    Signs 1 (handle.signPssEncoded device config message) := by
  refine .after (.ofExcept _) fun _ => .ite ?_ (signs_sign hsize)
  exact Signs.after (.ofExcept (.error _)) fun _ => signs_sign hsize

theorem signs_signPss (handle : KeyHandle) (parameters : PssParameters) (hash : Bytes) :
    Signs 1 (handle.signPss device config parameters hash) := by
  refine .after (.ofExcept _) fun _ => .after (.ofExcept _) fun _ => ?_
  refine .after (signs_supports _) fun supported => .ite (signs_sign hsize) ?_
  exact .after (.quiet fun _ => rfl) fun message => signs_signPssEncoded hsize handle message

theorem signs_signEcdsa (handle : KeyHandle) (hash : Bytes) (encoding : Ecdsa.Encoding) :
    Signs 1 (handle.signEcdsa device config hash encoding) :=
  .after (.ofExcept _) fun _ => .bind (signs_sign hsize) fun _ => .ofExcept _

end Keys

end TokenSigner.ManagedSlot
