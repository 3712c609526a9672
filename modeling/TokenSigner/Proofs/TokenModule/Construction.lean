import TokenSigner.TokenModule
import TokenSigner.Proofs.Action

namespace TokenSigner

variable {δ ς : Type} {device : Device δ ς} {config : ModuleConfig} {resolver : PasswordResolver}

namespace ManagedSlot

theorem start_ok {salts : Entropy} {slot : SlotIdentifier} {site : Site δ ς}
    {managed : ManagedSlot ς}
    (h : ((start device config resolver salts slot).run site).1 = .ok managed) :
    ∃ login, managed = {
      slot, pool := .start config.maxSessions, mechanisms := none, handles := .empty, login,
      salts } := by
  match hrun : (start device config resolver salts slot).run site with
  | (.error e, after) =>
    rw [hrun] at h
    cases h
  | (.ok started, after) =>
    rw [hrun] at h
    cases h
    unfold start at hrun
    obtain ⟨pins, read, -, hrest⟩ := Action.run_bind_eq_ok.mp hrun
    cases pins with
    | none =>
      cases hrest
      exact ⟨none, rfl⟩
    | some pins =>
      obtain ⟨login, opened, -, hreturn⟩ := Action.run_bind_eq_ok.mp hrest
      cases hreturn
      exact ⟨login, rfl⟩

structure Admits (device : Device δ ς) (slot : SlotIdentifier) (J : Site δ ς → Prop)
    (Q : ς → Site δ ς → Prop) : Prop where
  opens (readWrite : Bool) {site : Site δ ς} (hsite : J site) :
    J ((device.call slot (.openSession readWrite)).run site).2 ∧
    ∀ session, ((device.call slot (.openSession readWrite)).run site).1 = .ok session →
      Q session ((device.call slot (.openSession readWrite)).run site).2
  logsIn (session : ς) (user : UInt64) (pin : Bytes) :
    Action.Keeps (fun site => J site ∧ Q session site) (device.call slot (.login session user pin))
  closes (session : ς) : Action.Keeps J (device.call slot (.close session))

section Calls

variable {J : Site δ ς → Prop} {Q : ς → Site δ ς → Prop} {slot : SlotIdentifier}

theorem admits_of_keeps (hcall : ∀ call : Call ς, call.signing? = none →
    Action.Keeps J (device.call slot call)) : Admits device slot J fun _ _ => True where
  opens readWrite site hsite := ⟨hcall (.openSession readWrite) rfl site hsite, by simp⟩
  logsIn session user pin := by
    intro site hsite
    exact ⟨hcall (.login session user pin) rfl site hsite.1, trivial⟩
  closes session := hcall (.close session) rfl

theorem keeps_release
    (hcloses : ∀ session : ς, Action.Keeps J (device.call slot (.close session))) (session : ς) :
    Action.Keeps J (device.release slot session) :=
  .bind (hcloses session).outcome fun _ => .pure _

theorem keeps_closeLogin {managed : ManagedSlot ς}
    (hcloses : ∀ session : ς, Action.Keeps J (device.call managed.slot (.close session))) :
    Action.Keeps J (managed.closeLogin device) := by
  unfold closeLogin
  cases managed.login with
  | none => exact .pure _
  | some session => exact keeps_release hcloses session

theorem keeps_closeAll
    (hcloses : ∀ session : ς, Action.Keeps J (device.call slot (.close session)))
    (sessions : List ς) : Action.Keeps J (closeAll device slot sessions) := by
  induction sessions with
  | nil => exact .pure _
  | cons session rest ih => exact .bind (keeps_release hcloses session) fun _ => ih

theorem keeps_close {managed : ManagedSlot ς}
    (hcloses : ∀ session : ς, Action.Keeps J (device.call managed.slot (.close session))) :
    Action.Keeps J (managed.close device) :=
  .bind (keeps_closeAll hcloses _) fun _ => keeps_closeLogin hcloses

theorem keeps_logIn (h : Admits device slot J Q) (user : UInt64) (session : ς)
    (pins : List Bytes) :
    Action.Keeps (fun site => J site ∧ Q session site) (logIn device slot user session pins) := by
  induction pins with
  | nil => exact .pure _
  | cons pin rest ih => exact .bind (h.logsIn session user pin) fun _ => ih

theorem keeps_openLogin (h : Admits device slot J Q) (pins : List Bytes) :
    Action.Keeps J (openLogin device config slot pins) := by
  intro site hsite
  obtain ⟨hopened, hanswer⟩ := h.opens (!config.readOnly) hsite
  unfold openLogin
  match hopen : (device.call slot (.openSession !config.readOnly)).run site with
  | (.error e, after) =>
    rw [Action.run_bind_error hopen]
    rw [hopen] at hopened
    exact hopened
  | (.ok session, after) =>
    rw [Action.run_bind_ok hopen]
    rw [hopen] at hopened hanswer
    have hlogin := keeps_logIn h config.userType session pins after
      ⟨hopened, hanswer session rfl⟩
    match hrun : (logIn device slot config.userType session pins).run after with
    | (.ok (), loggedIn) =>
      rw [hrun] at hlogin
      rw [Action.run_bind, Action.run_outcome, hrun]
      exact hlogin.1
    | (.error e, refused) =>
      rw [hrun] at hlogin
      rw [Action.run_bind, Action.run_outcome, hrun]
      exact keeps_release h.closes session refused hlogin.1

theorem keeps_start (h : Admits device slot J Q) (salts : Entropy) :
    Action.Keeps J (start device config resolver salts slot) := by
  refine .bind (.ofExcept _) fun pins => ?_
  cases pins with
  | none => exact .bind (.pure _) fun _ => .pure _
  | some pins => exact .bind (.map _ (keeps_openLogin h pins)) fun _ => .pure _

end Calls

end ManagedSlot

namespace TokenModule

structure Fresh (config : ModuleConfig) (m : TokenModule ς) : Prop where
  config_eq : m.config = config
  included : ∀ managed ∈ m.managed, config.includes managed.slot = true
  unasked : ∀ managed ∈ m.managed, managed.mechanisms = none
  unused : ∀ managed ∈ m.managed, managed.pool = .start config.maxSessions
  excluded : ∀ slot ∈ m.excluded, config.includes slot = false

theorem Fresh.use {m : TokenModule ς} (h : Fresh config m) {managed : ManagedSlot ς}
    (hincluded : config.includes managed.slot = true) (hunasked : managed.mechanisms = none)
    (hunused : managed.pool = .start config.maxSessions) :
    Fresh config { m with managed := m.managed ++ [managed] } := by
  refine ⟨h.config_eq, ?_, ?_, ?_, h.excluded⟩
  · intro other hother
    rcases List.mem_append.mp hother with hold | hnew
    · exact h.included other hold
    · rw [List.mem_singleton.mp hnew]
      exact hincluded
  · intro other hother
    rcases List.mem_append.mp hother with hold | hnew
    · exact h.unasked other hold
    · rw [List.mem_singleton.mp hnew]
      exact hunasked
  · intro other hother
    rcases List.mem_append.mp hother with hold | hnew
    · exact h.unused other hold
    · rw [List.mem_singleton.mp hnew]
      exact hunused

theorem Fresh.exclude {m : TokenModule ς} (h : Fresh config m) {slot : SlotIdentifier}
    (hexcluded : config.includes slot = false) :
    Fresh config { m with excluded := m.excluded ++ [slot] } := by
  refine ⟨h.config_eq, h.included, h.unasked, h.unused, ?_⟩
  intro other hother
  rcases List.mem_append.mp hother with hold | hnew
  · exact h.excluded other hold
  · rw [List.mem_singleton.mp hnew]
    exact hexcluded

theorem Fresh.apart {m : TokenModule ς} (h : Fresh config m) :
    ∀ slot ∈ m.slots, slot ∉ m.excluded := by
  intro slot hslot hexcluded
  obtain ⟨managed, hmanaged, rfl⟩ := List.mem_map.mp hslot
  have hincluded := h.included managed hmanaged
  rw [h.excluded _ hexcluded] at hincluded
  cases hincluded

variable {J : Site δ ς → Prop} {salts : SlotIdentifier → Entropy}

theorem keeps_closeLogins (slots : List (ManagedSlot ς))
    (hslots : ∀ managed ∈ slots, ∀ session : ς,
      Action.Keeps J (device.call managed.slot (.close session))) :
    Action.Keeps J (closeLogins device slots) := by
  induction slots with
  | nil => exact .pure _
  | cons managed rest ih =>
    refine .bind (ManagedSlot.keeps_closeLogin (hslots managed (by simp))) fun _ => ?_
    exact ih fun other hother => hslots other (by simp [hother])

theorem keeps_close (slots : List (ManagedSlot ς))
    (hslots : ∀ managed ∈ slots, ∀ session : ς,
      Action.Keeps J (device.call managed.slot (.close session))) :
    Action.Keeps J (close device slots) := by
  induction slots with
  | nil => exact .pure _
  | cons managed rest ih =>
    refine .bind (ManagedSlot.keeps_close (hslots managed (by simp))) fun _ => ?_
    exact ih fun other hother => hslots other (by simp [hother])

theorem keeps_takeSlots {Q : ς → Site δ ς → Prop}
    (h : ∀ slot, config.includes slot = true → ManagedSlot.Admits device slot J Q)
    (slots : List SlotIdentifier) {m : TokenModule ς} (hm : Fresh config m) :
    Action.Keeps J (takeSlots device resolver salts slots m) := by
  induction slots generalizing m with
  | nil => exact .pure _
  | cons slot rest ih =>
    unfold takeSlots
    refine .ite (fun hincluded => ?_) fun hexcluded => ?_
    · rw [hm.config_eq] at hincluded
      refine .bind_answer (ManagedSlot.keeps_start (h slot hincluded) _).outcome ?_
      intro site answer _ hanswer
      cases answer with
      | ok managed =>
        obtain ⟨login, rfl⟩ := ManagedSlot.start_ok (Except.ok.inj hanswer)
        exact ih (hm.use hincluded rfl (hm.config_eq ▸ rfl))
      | error e =>
        have hslots (managed : ManagedSlot ς) (hmanaged : managed ∈ m.managed) :=
          (h managed.slot (hm.included managed hmanaged)).closes
        exact .bind (keeps_closeLogins _ hslots) fun _ => .throw _
    · rw [hm.config_eq] at hexcluded
      exact ih (hm.exclude (by simpa using hexcluded))

theorem fresh_takeSlots {slots : List SlotIdentifier} {m built : TokenModule ς}
    {site after : Site δ ς} (hm : Fresh config m)
    (h : (takeSlots device resolver salts slots m).run site = (.ok built, after)) :
    Fresh config built := by
  induction slots generalizing m site with
  | nil =>
    cases h
    exact hm
  | cons slot rest ih =>
    unfold takeSlots at h
    rw [Action.run_ite] at h
    split at h
    · next hincluded =>
      rw [hm.config_eq] at hincluded
      obtain ⟨answer, started, hstart, hrest⟩ := Action.run_bind_eq_ok.mp h
      have hanswer := congrArg Prod.fst hstart
      cases answer with
      | ok managed =>
        obtain ⟨login, rfl⟩ := ManagedSlot.start_ok (Except.ok.inj hanswer)
        exact ih (hm.use hincluded rfl (hm.config_eq ▸ rfl)) hrest
      | error e =>
        obtain ⟨done, closed, -, hthrow⟩ := Action.run_bind_eq_ok.mp hrest
        cases hthrow
    · next hexcluded =>
      rw [hm.config_eq] at hexcluded
      exact ih (hm.exclude (by simpa using hexcluded)) h

theorem fresh_start (config : ModuleConfig) : Fresh config (⟨config, [], []⟩ : TokenModule ς) :=
  ⟨rfl, by simp, by simp, by simp, by simp⟩

end TokenModule

end TokenSigner
