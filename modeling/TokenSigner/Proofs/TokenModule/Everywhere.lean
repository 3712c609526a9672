import TokenSigner.Client
import TokenSigner.Proofs.ManagedSlot.Operations

namespace TokenSigner

open ManagedSlot (Scene Move Moves Deal Does Work)

variable {δ ς α : Type}

structure Lasting (device : Device δ ς) (config : ModuleConfig) (J : Site δ ς → Prop)
    (P : Scene δ ς → Prop) : Prop where
  site {x y : Scene δ ς} (hdeal : Deal device config x y) (hx : P x) (hsite : J x.state.2) :
    J y.state.2
  deal {x y : Scene δ ς} (hdeal : Deal device config x y) (hx : P x) : P y
  beside {x y : Scene δ ς} {other : ManagedSlot ς} {lent : List ς}
    (hdeal : Deal device config x y) (hx : P x) (hother : other.slot ≠ x.state.1.slot)
    (hP : P ⟨(other, x.state.2), lent⟩) : P ⟨(other, y.state.2), lent⟩
  perm {state : ManagedSlot ς × Site δ ς} {lent lent' : List ς} (hperm : lent.Perm lent')
    (hP : P ⟨state, lent⟩) : P ⟨state, lent'⟩

structure Steady (device : Device δ ς) (config : ModuleConfig) (J : Site δ ς → Prop)
    (P : Scene δ ς → Prop) : Prop where
  site {x y : Scene δ ς} (hmove : Move device config x y) (hx : P x) (hsite : J x.state.2) :
    J y.state.2
  move {x y : Scene δ ς} (hmove : Move device config x y) (hx : P x) : P y
  beside {x y : Scene δ ς} {other : ManagedSlot ς} {lent : List ς}
    (hmove : Move device config x y) (hx : P x) (hother : other.slot ≠ x.state.1.slot)
    (hP : P ⟨(other, x.state.2), lent⟩) : P ⟨(other, y.state.2), lent⟩
  perm {state : ManagedSlot ς × Site δ ς} {lent lent' : List ς} (hperm : lent.Perm lent')
    (hP : P ⟨state, lent⟩) : P ⟨state, lent'⟩

namespace Steady

variable {device : Device δ ς} {config : ModuleConfig} {J : Site δ ς → Prop}
  {P : Scene δ ς → Prop}

theorem moves (h : Steady device config J P) {x y : Scene δ ς} (hmoves : Moves device config x y)
    (hx : P x) : P y := by
  induction hmoves with
  | refl => exact hx
  | tail _ hmove ih => exact h.move hmove ih

theorem moves_site (h : Steady device config J P) {x y : Scene δ ς}
    (hmoves : Moves device config x y) (hx : P x) (hsite : J x.state.2) : J y.state.2 := by
  induction hmoves with
  | refl => exact hsite
  | tail hbefore hmove ih => exact h.site hmove (h.moves hbefore hx) ih

theorem moves_beside (h : Steady device config J P) {x y : Scene δ ς}
    (hmoves : Moves device config x y) (hx : P x) {other : ManagedSlot ς} {lent : List ς}
    (hother : other.slot ≠ x.state.1.slot) (hP : P ⟨(other, x.state.2), lent⟩) :
    P ⟨(other, y.state.2), lent⟩ := by
  induction hmoves with
  | refl => exact hP
  | tail hbefore hmove ih =>
    have hslot := Moves.slot_eq hbefore
    exact h.beside hmove (h.moves hbefore hx) (hslot ▸ hother) ih

theorem lasting (h : Steady device config J P) : Lasting device config J P where
  site hdeal := h.moves_site hdeal.moves
  deal hdeal := h.moves hdeal.moves
  beside hdeal hx hother hP := h.moves_beside hdeal.moves hx hother hP
  perm := h.perm

end Steady

theorem steady_of_calls {device : Device δ ς} {config : ModuleConfig} {J : Site δ ς → Prop}
    (hcall : ∀ slot (call : Call ς), Action.Keeps J (device.call slot call))
    (hwarnings : ∀ site warnings, J site → J { site with warnings }) :
    Steady device config J fun _ => True where
  site {x y} hmove _ hsite := by
    have hafter {slot : SlotIdentifier} {call : Call ς} {result : Except Error call.Answer}
        {before after : Site δ ς} (hrun : (device.call slot call).run before = (result, after))
        (hbefore : J before) : J after := by
      have hkept := hcall slot call before hbefore
      rw [hrun] at hkept
      exact hkept
    cases hmove with
    | lend | giveBack | handles | salts => exact hsite
    | opened _ _ hrun | notOpened _ _ hrun | told _ hrun | untold _ hrun => exact hafter hrun hsite
    | discard | findKey | publicKey | sign => exact hcall _ _ _ hsite
    | warn warning => exact hwarnings _ _ hsite
  move _ _ := trivial
  beside _ _ _ _ := trivial
  perm _ _ := trivial

def lentOn (loans : List (Borrowed ς)) (slot : SlotIdentifier) : List ς :=
  (loans.filter (·.slot == slot)).map (·.session)

@[simp] theorem lentOn_cons_same (loan : Borrowed ς) (loans : List (Borrowed ς)) :
    lentOn (loan :: loans) loan.slot = loan.session :: lentOn loans loan.slot := by
  simp [lentOn]

theorem lentOn_cons_of_ne {loan : Borrowed ς} {slot : SlotIdentifier} (h : slot ≠ loan.slot)
    (loans : List (Borrowed ς)) : lentOn (loan :: loans) slot = lentOn loans slot := by
  simp [lentOn, h.symm]

theorem lentOn_perm {loans loans' : List (Borrowed ς)} (h : loans.Perm loans')
    (slot : SlotIdentifier) : (lentOn loans slot).Perm (lentOn loans' slot) :=
  (h.filter _).map _

namespace TokenModule

structure Everywhere (config : ModuleConfig) (J : Site δ ς → Prop) (P : Scene δ ς → Prop)
    (m : TokenModule ς) (site : Site δ ς) (loans : List (Borrowed ς)) : Prop where
  config_eq : m.config = config
  device : J site
  excluded : ∀ slot ∈ m.slots, slot ∉ m.excluded
  each : ∀ managed ∈ m.managed, P ⟨(managed, site), lentOn loans managed.slot⟩

theorem mem_slots {m : TokenModule ς} {managed : ManagedSlot ς} (h : managed ∈ m.managed) :
    managed.slot ∈ m.slots :=
  List.mem_map_of_mem h

theorem mem_of_find {m : TokenModule ς} {wanted : SlotIdentifier → Bool} {missing : Error}
    {managed : ManagedSlot ς} (h : m.find wanted missing = .ok managed) :
    managed ∈ m.managed ∧ wanted managed.slot = true := by
  unfold find at h
  split at h
  · cases h
  · split at h
    · next found =>
      cases h
      have hwanted := List.find?_some found
      exact ⟨List.mem_of_find?_eq_some found, hwanted⟩
    · cases h

theorem not_mem_of_slot {m : TokenModule ς} {slot : SlotIdentifier} {e : Error}
    (hexcluded : ∀ slot ∈ m.slots, slot ∉ m.excluded) (h : m.slot slot = .error e) :
    slot ∉ m.slots := by
  intro hmem
  simp only [TokenModule.slot, find] at h
  split at h
  · next other found =>
    have hsame : other = slot := by simpa using List.find?_some found
    exact hexcluded slot hmem (hsame ▸ List.mem_of_find?_eq_some found)
  · split at h
    · cases h
    · next missing =>
      obtain ⟨managed, hmanaged, rfl⟩ := List.mem_map.mp hmem
      have := List.find?_eq_none.mp missing managed hmanaged
      simp at this

theorem slots_replace {m : TokenModule ς} (managed : ManagedSlot ς) :
    (m.replace managed).slots = m.slots := by
  simp only [slots, replace, List.map_map]
  refine List.map_congr_left fun other _ => ?_
  by_cases h : other.slot = managed.slot
  · simp [h]
  · simp [h]

namespace Everywhere

variable {device : Device δ ς} {config : ModuleConfig} {J : Site δ ς → Prop}
  {P : Scene δ ς → Prop} {m : TokenModule ς} {site : Site δ ς} {loans loans' : List (Borrowed ς)}

theorem perm (h : Everywhere config J P m site loans) (hP : Lasting device config J P)
    (hperm : loans.Perm loans') : Everywhere config J P m site loans' where
  config_eq := h.config_eq
  device := h.device
  excluded := h.excluded
  each managed hmanaged := hP.perm (lentOn_perm hperm _) (h.each managed hmanaged)

theorem replace (h : Everywhere config J P m site loans) (hP : Lasting device config J P)
    {managed after : ManagedSlot ς} {site' : Site δ ς} (hmanaged : managed ∈ m.managed)
    (hdeal : Deal device config ⟨(managed, site), lentOn loans managed.slot⟩
      ⟨(after, site'), lentOn loans' managed.slot⟩)
    (hlent : ∀ slot, slot ≠ managed.slot → lentOn loans' slot = lentOn loans slot) :
    Everywhere config J P (m.replace after) site' loans' := by
  have hslot : after.slot = managed.slot := Moves.slot_eq hdeal.moves
  have hhere := h.each managed hmanaged
  refine ⟨h.config_eq, hP.site hdeal hhere h.device, ?_, ?_⟩
  · rw [slots_replace]
    exact h.excluded
  · intro other hother
    obtain ⟨old, hold, rfl⟩ := List.mem_map.mp hother
    by_cases hsame : old.slot = after.slot
    · rw [if_pos hsame, hslot]
      exact hP.deal hdeal hhere
    · rw [if_neg hsame]
      rw [hslot] at hsame
      rw [hlent old.slot hsame]
      exact hP.beside hdeal hhere hsame (h.each old hold)

theorem on (h : Everywhere config J P m site loans) (hP : Lasting device config J P)
    {wanted : SlotIdentifier → Bool} {missing : Error} {work : Work δ ς α}
    (hwork : Does device config .empty work) :
    Everywhere config J P ((TokenModule.on (·.find wanted missing) work).run (m, site)).2.1
      ((TokenModule.on (·.find wanted missing) work).run (m, site)).2.2 loans := by
  match hfind : m.find wanted missing with
  | .error e =>
    rw [run_on_error hfind]
    exact h
  | .ok managed =>
    rw [run_on_ok hfind]
    have hdeal := Deal.work (lentOn loans managed.slot) (hwork.steps (managed, site))
    exact h.replace hP (mem_of_find hfind).1 hdeal fun _ _ => rfl

theorem on_borrowing (h : Everywhere config J P m site loans) (hP : Lasting device config J P)
    (wanted : SlotIdentifier → Bool) (missing : Error) :
    (∃ loan m' site', (TokenModule.on (·.find wanted missing)
        (Client.borrowing device config)).run (m, site) = (.ok loan, m', site') ∧
      Everywhere config J P m' site' (loan :: loans)) ∨
    ∃ e m' site', (TokenModule.on (·.find wanted missing)
        (Client.borrowing device config)).run (m, site) = (.error e, m', site') ∧
      Everywhere config J P m' site' loans := by
  match hfind : m.find wanted missing with
  | .error e =>
    rw [run_on_error hfind]
    exact Or.inr ⟨e, m, site, rfl, h⟩
  | .ok managed =>
    rw [run_on_ok hfind]
    have hmanaged := (mem_of_find hfind).1
    unfold Client.borrowing
    rcases ManagedSlot.run_borrow device config (managed, site) with
      ⟨session, after, calls, hborrow, htakes⟩ | ⟨e, after, calls, hborrow, herrand⟩
    · rw [Action.run_bind_ok hborrow]
      have hslot : after.1.slot = managed.slot := htakes.step.slot_eq
      refine Or.inl ⟨⟨after.1.slot, session⟩, _, _, rfl, ?_⟩
      rw [hslot]
      refine h.replace hP hmanaged ?_ fun slot hne => lentOn_cons_of_ne hne loans
      rw [lentOn_cons_same]
      exact .take htakes.step
    · rw [Action.run_bind_error hborrow]
      refine Or.inr ⟨e, _, _, rfl, ?_⟩
      exact h.replace hP hmanaged (.work _ herrand.steps) fun _ _ => rfl

theorem on_return {loan : Borrowed ς} (h : Everywhere config J P m site (loan :: loans))
    (hP : Lasting device config J P) {work : Work δ ς α}
    (hwork : ∀ state lent,
      Deal device config ⟨state, loan.session :: lent⟩ ⟨(work.run state).2, lent⟩) :
    Everywhere config J P ((TokenModule.on (·.slot loan.slot) work).run (m, site)).2.1
      ((TokenModule.on (·.slot loan.slot) work).run (m, site)).2.2 loans := by
  match hfind : m.slot loan.slot with
  | .error e =>
    rw [run_on_error hfind]
    have hmissing := not_mem_of_slot h.excluded hfind
    refine ⟨h.config_eq, h.device, h.excluded, ?_⟩
    intro managed hmanaged
    have hne : managed.slot ≠ loan.slot := by
      intro heq
      exact hmissing (heq ▸ mem_slots hmanaged)
    have hmanagedP := h.each managed hmanaged
    rw [lentOn_cons_of_ne hne] at hmanagedP
    exact hmanagedP
  | .ok managed =>
    rw [run_on_ok hfind]
    obtain ⟨hmanaged, hwanted⟩ := mem_of_find hfind
    have hslot : managed.slot = loan.slot := by simpa using hwanted
    have hdeal := hwork (managed, site) (lentOn loans loan.slot)
    rw [← lentOn_cons_same, ← hslot] at hdeal
    refine h.replace hP hmanaged hdeal fun slot hne => ?_
    exact (lentOn_cons_of_ne (hslot ▸ hne) loans).symm

end Everywhere

end TokenModule

end TokenSigner
