import TokenSigner.Proofs.ManagedSlot.Books
import TokenSigner.Proofs.ManagedSlot.Login

namespace TokenSigner.ManagedSlot

open Event (openings closings)

variable {δ ς : Type} {device : Device δ ς} {config : ModuleConfig} {resolver : PasswordResolver}

structure Fitting (config : ModuleConfig) (before : List (Event ς)) (event : Event ς) : Prop where
  loginless : ∀ session user pin, event.call ≠ .login session user pin
  mode : ∀ readWrite, event.call = .openSession readWrite → readWrite = !config.readOnly
  pooled : ∀ session, event.call.session? = some session → session ∈ openings before
  room : (openings (before ++ [event])).length ≤
    (closings (before ++ [event])).length + max config.maxSessions 1

structure Pooling (config : ModuleConfig) (log : List (Event ς)) (pool : Pool ς) (lent : List ς) :
    Prop where
  capacity : pool.capacity = max config.maxSessions 1
  opened : pool.opened = pool.idle.length + lent.length
  bounded : pool.opened ≤ pool.capacity
  balance : (openings log).length = (closings log).length + pool.opened
  drawn : ∀ session ∈ pool.idle ++ lent, session ∈ openings log
  fitting : ∀ before event after, log = before ++ event :: after → Fitting config before event

namespace Pooling

variable {log : List (Event ς)} {pool pool' : Pool ς} {lent lent' rest : List ς}
  {slot : SlotIdentifier} {session : ς}

theorem start (config : ModuleConfig) :
    Pooling config ([] : List (Event ς)) (.start config.maxSessions) [] := by
  constructor <;> simp [Pool.start, openings, closings]

theorem quiet (h : Pooling config log pool lent) (hcapacity : pool'.capacity = pool.capacity)
    (hopened : pool'.opened = pool.opened)
    (hsessions : (pool'.idle ++ lent').Perm (pool.idle ++ lent)) :
    Pooling config log pool' lent' := by
  have hlength := hsessions.length_eq
  simp only [List.length_append] at hlength
  obtain ⟨hlimit, hcount, hbound, hbalance, hdrawn, hfitting⟩ := h
  refine ⟨by omega, by omega, by omega, by omega, ?_, hfitting⟩
  intro session hsession
  exact hdrawn session (hsessions.mem_iff.mp hsession)

theorem call {event : Event ς} (h : Pooling config log pool lent)
    (hloginless : ∀ session user pin, event.call ≠ .login session user pin)
    (hmode : ∀ readWrite, event.call = .openSession readWrite → readWrite = !config.readOnly)
    (hopened : event.opened? = none) (hclosed : event.closed? = none)
    (hlent : ∀ session, event.call.session? = some session → session ∈ lent) :
    Pooling config (log ++ [event]) pool lent := by
  have hopenings : openings (log ++ [event]) = openings log := by
    simp [openings, hopened]
  have hclosings : closings (log ++ [event]) = closings log := by
    simp [closings, hclosed]
  refine ⟨h.capacity, h.opened, h.bounded, ?_, ?_, forall_split_snoc h.fitting ?_⟩
  · rw [hopenings, hclosings]
    exact h.balance
  · rw [hopenings]
    exact h.drawn
  · refine ⟨hloginless, hmode, ?_, ?_⟩
    · intro session hsession
      exact h.drawn session (List.mem_append_right _ (hlent session hsession))
    · rw [hopenings, hclosings, h.balance, ← h.capacity]
      exact Nat.add_le_add_left h.bounded _

theorem opens (h : Pooling config log pool lent) (slot : SlotIdentifier) (session : ς)
    (hroom : pool.opened < pool.capacity) :
    Pooling config (log ++ [⟨slot, .openSession !config.readOnly, .ok session⟩])
      { pool with opened := pool.opened + 1 } (session :: lent) := by
  have hopenings : openings (log ++ [⟨slot, .openSession !config.readOnly, .ok session⟩]) =
      openings log ++ [session] := Event.openings_append _ _
  have hclosings : closings (log ++ [⟨slot, .openSession !config.readOnly, .ok session⟩]) =
      closings log := by simp [closings, Event.closed?]
  have hcapacity := h.capacity
  have hopened := h.opened
  have hbalance := h.balance
  refine ⟨hcapacity, ?_, hroom, ?_, ?_, forall_split_snoc h.fitting ?_⟩
  · simp only [List.length_cons]
    omega
  · rw [hopenings, hclosings, List.length_append, List.length_singleton]
    dsimp only
    omega
  · rw [hopenings]
    intro other hother
    simp only [List.mem_append, List.mem_cons] at hother ⊢
    rcases hother with hidle | rfl | hlent
    · exact Or.inl (h.drawn other (by simp [hidle]))
    · simp
    · exact Or.inl (h.drawn other (by simp [hlent]))
  · refine ⟨by simp, ?_, by simp [Call.session?], ?_⟩
    · intro readWrite hsame
      cases hsame
      rfl
    · rw [hopenings, hclosings, List.length_append, List.length_singleton]
      omega

theorem closes (h : Pooling config log pool lent) (slot : SlotIdentifier)
    (result : Except Error Unit) (hlent : lent.Perm (session :: rest)) :
    Pooling config (log ++ [⟨slot, .close session, result⟩]) pool.freePlace rest := by
  have hopenings : openings (log ++ [⟨slot, .close session, result⟩]) = openings log := by
    simp [openings, Event.opened?]
  have hclosings : closings (log ++ [⟨slot, .close session, result⟩]) =
      closings log ++ [session] := Event.closings_append _ _
  have hcapacity := h.capacity
  have hopened := h.opened
  have hbounded := h.bounded
  have hbalance := h.balance
  have hlength := hlent.length_eq
  simp only [List.length_cons] at hlength
  refine ⟨hcapacity, ?_, ?_, ?_, ?_, forall_split_snoc h.fitting ?_⟩
  · simp only [Pool.freePlace]
    omega
  · simp only [Pool.freePlace]
    omega
  · rw [hopenings, hclosings, List.length_append, List.length_singleton]
    simp only [Pool.freePlace]
    omega
  · rw [hopenings]
    intro other hother
    rcases List.mem_append.mp hother with hidle | hrest
    · exact h.drawn other (List.mem_append_left _ hidle)
    · refine h.drawn other (List.mem_append_right _ (hlent.mem_iff.mpr ?_))
      exact List.mem_cons_of_mem _ hrest
  · refine ⟨by simp, by simp, ?_, ?_⟩
    · intro other hsame
      cases hsame
      exact h.drawn session (List.mem_append_right _ (hlent.mem_iff.mpr List.mem_cons_self))
    · rw [hopenings, hclosings, List.length_append, List.length_singleton]
      omega

end Pooling

theorem Move.login_eq {x y : Scene δ ς} (h : Move device config x y) :
    y.state.1.login = x.state.1.login := by
  cases h <;> rfl

theorem Move.pooling {x y : Scene δ ς} {log : List (Event ς)} (h : Move device config x y)
    (hx : Pooling config log x.state.1.pool x.lent) :
    (y.state.2.events = x.state.2.events ∧ Pooling config log y.state.1.pool y.lent) ∨
    ∃ event : Event ς, y.state.2.events = x.state.2.events ++ [event] ∧
      event.slot = x.state.1.slot ∧ Pooling config (log ++ [event]) y.state.1.pool y.lent := by
  cases h with
  | lend hidle =>
    refine Or.inl ⟨rfl, hx.quiet rfl rfl ?_⟩
    rw [hidle]
    exact List.perm_middle
  | giveBack hlent =>
    refine Or.inl ⟨rfl, hx.quiet rfl rfl ?_⟩
    exact List.perm_middle.symm.trans (hlent.symm.append_left _)
  | handles | salts | warn => exact Or.inl ⟨rfl, hx.quiet rfl rfl (.refl _)⟩
  | opened hidle hroom hcall =>
    exact Or.inr ⟨_, events_of_call hcall, rfl, hx.opens _ _ hroom⟩
  | discard hlent => exact Or.inr ⟨_, rfl, rfl, hx.closes _ _ hlent⟩
  | notOpened hidle hroom hcall =>
    refine Or.inr ⟨_, events_of_call hcall, rfl, hx.call (by simp) ?_ rfl rfl ?_⟩
    · intro readWrite hsame
      cases hsame
      rfl
    · simp [Call.session?]
  | told hunknown hcall | untold hunknown hcall =>
    exact Or.inr ⟨_, events_of_call hcall, rfl,
      hx.call (by simp) (by simp) rfl rfl (by simp [Call.session?])⟩
  | findKey key hlent =>
    exact Or.inr ⟨_, rfl, rfl, hx.call (by simp) (by simp) rfl rfl (by simp [Call.session?, hlent])⟩
  | publicKey object key hlent =>
    exact Or.inr ⟨_, rfl, rfl, hx.call (by simp) (by simp) rfl rfl (by simp [Call.session?, hlent])⟩
  | sign call hsession hsigning hlent hallowed hknown hmem =>
    refine Or.inr ⟨_, rfl, rfl, hx.call ?_ ?_ (Event.opened_of_session hsession)
      (Event.closed_of_signing hsigning) ?_⟩
    · rintro session user pin rfl
      cases hsigning
    · rintro readWrite rfl
      cases hsigning
    · intro session hsame
      cases hsession.symm.trans hsame
      exact hlent

structure Served (config : ModuleConfig) (resolver : PasswordResolver)
    (members : List SlotIdentifier) (past : List (Event ς)) (scene : Scene δ ς) : Prop where
  member : scene.state.1.slot ∈ members
  entered : Entered config resolver scene.state.1.slot scene.state.1.login
    (Event.on scene.state.1.slot past)
  pooling : ∃ log, scene.state.2.events = past ++ log ∧
    Pooling config (Event.on scene.state.1.slot log) scene.state.1.pool scene.lent

theorem steady_served (device : Device δ ς) (config : ModuleConfig) (resolver : PasswordResolver)
    (members : List SlotIdentifier) (past : List (Event ς)) :
    Steady device config (fun site => ∀ event ∈ site.events, event.slot ∈ members)
      (Served config resolver members past) where
  site hmove hx hsite := by
    rcases hmove.events_cases with hsame | ⟨event, hevents, hslot, -⟩
    · rw [hsame]
      exact hsite
    · rw [hevents]
      intro other hother
      rcases List.mem_append.mp hother with hold | hnew
      · exact hsite other hold
      · rw [List.mem_singleton.mp hnew, hslot]
        exact hx.member
  move {x y} hmove hx := by
    have hslot : y.state.1.slot = x.state.1.slot := Moves.slot_eq (.single hmove)
    obtain ⟨log, hrecorded, hpooling⟩ := hx.pooling
    refine ⟨hslot ▸ hx.member, ?_, ?_⟩
    · rw [hslot, hmove.login_eq]
      exact hx.entered
    · rw [hslot]
      rcases hmove.pooling hpooling with ⟨hsame, hafter⟩ | ⟨event, hevents, hhere, hafter⟩
      · exact ⟨log, hsame.trans hrecorded, hafter⟩
      · refine ⟨log ++ [event], ?_, ?_⟩
        · rw [hevents, hrecorded, List.append_assoc]
        · have hon : Event.on x.state.1.slot [event] = [event] := by
            apply Event.on_eq_self
            simpa using hhere
          rw [Event.on_append, hon]
          exact hafter
  beside {x y other lent} hmove hx hother hP := by
    obtain ⟨log, hrecorded, hpooling⟩ := hP.pooling
    refine ⟨hP.member, hP.entered, ?_⟩
    rcases hmove.events_cases with hsame | ⟨event, hevents, hslot, -⟩
    · exact ⟨log, hsame.trans hrecorded, hpooling⟩
    · refine ⟨log ++ [event], ?_, ?_⟩
      · change y.state.2.events = past ++ (log ++ [event])
        rw [hevents, ← List.append_assoc]
        exact congrArg (· ++ [event]) hrecorded
      · -- A call on one slot is none on the other, whose own calls stay as they were.
        have hon : Event.on other.slot [event] = [] := by
          refine Event.on_eq_nil ?_ hother
          simpa using hslot
        rw [Event.on_append, hon, List.append_nil]
        exact hpooling
  perm hperm hP := by
    obtain ⟨log, hrecorded, hpooling⟩ := hP.pooling
    refine ⟨hP.member, hP.entered, log, hrecorded, hpooling.quiet rfl rfl ?_⟩
    exact hperm.symm.append_left _

end TokenSigner.ManagedSlot
