import Mathlib.Data.List.Forall2
import TokenSigner.Proofs.ManagedSlot.Course

namespace TokenSigner

variable {δ ς : Type}

namespace PasswordPolicy

variable {policy : PasswordPolicy} {resolver : PasswordResolver} {slot : SlotIdentifier}

inductive Secrets (policy : PasswordPolicy) (resolver : PasswordResolver) (slot : SlotIdentifier) :
    Option (List Bytes) → Prop where
  | none (huncovered : ∀ rule ∈ policy, SlotFilters.cover rule.slots slot = false) :
      Secrets policy resolver slot none
  | some {before after : List PasswordRule} {rule : PasswordRule} {pins : List Bytes}
      (hsplit : policy = before ++ rule :: after)
      (hfirst : ∀ other ∈ before, SlotFilters.cover other.slots slot = false)
      (hcovers : SlotFilters.cover rule.slots slot = true)
      (hpins : List.Forall₂ (fun source pin => resolver source = .ok pin) rule.sources pins) :
      Secrets policy resolver slot (some pins)

theorem forall₂_of_readAll {sources : List String} {pins : List Bytes}
    (h : (readAll resolver sources).result = .ok pins) :
    List.Forall₂ (fun source pin => resolver source = .ok pin) sources pins := by
  induction sources generalizing pins with
  | nil =>
    cases h
    exact .nil
  | cons source rest ih =>
    unfold readAll at h
    cases hsource : resolver source with
    | error e =>
      rw [hsource] at h
      cases h
    | ok pin =>
      rw [hsource] at h
      dsimp only at h
      cases hrest : (readAll resolver rest).result with
      | error e =>
        rw [hrest] at h
        cases h
      | ok others =>
        rw [hrest] at h
        cases h
        exact .cons hsource (ih hrest)

theorem secrets_of_read {pins : Option (List Bytes)}
    (h : (policy.read resolver slot).result = .ok pins) : Secrets policy resolver slot pins := by
  unfold read at h
  cases hrule : policy.find? fun rule => SlotFilters.cover rule.slots slot with
  | none =>
    rw [hrule] at h
    cases h
    refine .none fun rule hmem => ?_
    simpa using List.find?_eq_none.mp hrule rule hmem
  | some rule =>
    rw [hrule] at h
    dsimp only at h
    obtain ⟨hcovers, before, after, hsplit, hfirst⟩ := List.find?_eq_some_iff_append.mp hrule
    cases hread : (readAll resolver rule.sources).result with
    | error e =>
      rw [hread] at h
      cases h
    | ok pins =>
      rw [hread] at h
      cases h
      refine .some hsplit (fun other hother => ?_) hcovers (forall₂_of_readAll hread)
      simpa using hfirst other hother

theorem readAll_of_forall₂ {sources : List String} {pins : List Bytes}
    (h : List.Forall₂ (fun source pin => resolver source = .ok pin) sources pins) :
    (readAll resolver sources).result = .ok pins := by
  induction h with
  | nil => rfl
  | cons hsource _ ih =>
    unfold readAll
    rw [hsource]
    dsimp only
    rw [ih]
    rfl

theorem read_of_secrets {pins : Option (List Bytes)} (h : Secrets policy resolver slot pins) :
    (policy.read resolver slot).result = .ok pins := by
  unfold read
  cases h with
  | none huncovered =>
    have hnone : (policy.find? fun rule => SlotFilters.cover rule.slots slot) = none := by
      refine List.find?_eq_none.mpr fun rule hrule => ?_
      simp [huncovered rule hrule]
    rw [hnone]
  | @some before after rule pins hsplit hfirst hcovers hpins =>
    have hsome : (policy.find? fun rule => SlotFilters.cover rule.slots slot) = some rule := by
      refine List.find?_eq_some_iff_append.mpr ⟨hcovers, before, after, hsplit, ?_⟩
      intro other hother
      simp [hfirst other hother]
    rw [hsome]
    dsimp only
    rw [readAll_of_forall₂ hpins]
    rfl

end PasswordPolicy

namespace ManagedSlot

open PasswordPolicy (Secrets secrets_of_read read_of_secrets)

def loginCalls (slot : SlotIdentifier) (user : UInt64) (session : ς) (pins : List Bytes) :
    List (Event ς) :=
  pins.map fun pin => ⟨slot, .login session user pin, .ok ()⟩

inductive Entered (config : ModuleConfig) (resolver : PasswordResolver) (slot : SlotIdentifier) :
    Option ς → List (Event ς) → Prop where
  | unlocked (hsecrets : Secrets config.passwords resolver slot none) :
      Entered config resolver slot none []
  | loggedIn {session : ς} {pins : List Bytes}
      (hsecrets : Secrets config.passwords resolver slot (some pins)) :
      Entered config resolver slot (some session)
        (⟨slot, .openSession !config.readOnly, .ok session⟩ ::
          loginCalls slot config.userType session pins)

inductive Barred (config : ModuleConfig) (resolver : PasswordResolver) (slot : SlotIdentifier) :
    Error → List (Event ς) → List (Event ς) → Prop where
  | unread {e : Error} (hread : (config.passwords.read resolver slot).result = .error e) :
      Barred config resolver slot e [] []
  | unopened {pins : List Bytes} {e : Error}
      (hsecrets : Secrets config.passwords resolver slot (some pins)) :
      Barred config resolver slot e [⟨slot, .openSession !config.readOnly, .error e⟩] []
  | refused {session : ς} {accepted rest : List Bytes} {pin : Bytes} {e : Error}
      {closing : Except Error Unit}
      (hsecrets : Secrets config.passwords resolver slot (some (accepted ++ pin :: rest))) :
      Barred config resolver slot e
        (⟨slot, .openSession !config.readOnly, .ok session⟩ ::
          (loginCalls slot config.userType session accepted ++
            [⟨slot, .login session config.userType pin, .error e⟩]))
        [⟨slot, .close session, closing⟩]

variable {device : Device δ ς} {config : ModuleConfig} {resolver : PasswordResolver}
  {slot : SlotIdentifier} {login : Option ς} {e : Error} {calls own undone : List (Event ς)}

inductive Enters (config : ModuleConfig) (slot : SlotIdentifier) : Event ς → Prop where
  | opens (result : Except Error ς) :
      Enters config slot ⟨slot, .openSession !config.readOnly, result⟩
  | logsIn (session : ς) (pin : Bytes) (result : Except Error Unit) :
      Enters config slot ⟨slot, .login session config.userType pin, result⟩

theorem Enters.here {event : Event ς} (h : Enters config slot event) : event.slot = slot := by
  cases h <;> rfl

theorem Enters.unclosed {event : Event ς} (h : Enters config slot event) :
    event.closed? = none := by
  cases h <;> rfl

theorem enters_loginCalls {session : ς} {pins : List Bytes} {event : Event ς}
    (h : event ∈ loginCalls slot config.userType session pins) : Enters config slot event := by
  obtain ⟨pin, -, rfl⟩ := List.mem_map.mp h
  exact .logsIn session pin _

theorem Entered.enters (h : Entered config resolver slot login calls) :
    ∀ event ∈ calls, Enters config slot event := by
  intro event hevent
  cases h with
  | unlocked => cases hevent
  | loggedIn hsecrets =>
    rcases List.mem_cons.mp hevent with rfl | hlogin
    · exact .opens _
    · exact enters_loginCalls hlogin

theorem Barred.enters (h : Barred config resolver slot e own undone) :
    ∀ event ∈ own, Enters config slot event := by
  intro event hevent
  cases h with
  | unread => cases hevent
  | unopened =>
    rw [List.mem_singleton.mp hevent]
    exact .opens _
  | refused =>
    rcases List.mem_cons.mp hevent with rfl | hlater
    · exact .opens _
    · rcases List.mem_append.mp hlater with hlogin | hrefused
      · exact enters_loginCalls hlogin
      · rw [List.mem_singleton.mp hrefused]
        exact .logsIn _ _ _

theorem openings_loginCalls (user : UInt64) (session : ς) (pins : List Bytes) :
    Event.openings (loginCalls slot user session pins) = [] := by
  refine List.filterMap_eq_nil_iff.mpr fun event hevent => ?_
  obtain ⟨pin, -, rfl⟩ := List.mem_map.mp hevent
  rfl

theorem Entered.openings_eq (h : Entered config resolver slot login calls) :
    Event.openings calls = login.toList := by
  cases h with
  | unlocked => rfl
  | loggedIn hsecrets => exact congrArg _ (openings_loginCalls _ _ _)

theorem Barred.of_unread (h : Barred config resolver slot e own undone) {failure : Error}
    (hread : (config.passwords.read resolver slot).result = .error failure) :
    failure = e ∧ own = [] ∧ undone = [] := by
  cases h with
  | unread hunread =>
    rw [hunread] at hread
    cases hread
    exact ⟨rfl, rfl, rfl⟩
  | unopened hsecrets =>
    rw [read_of_secrets hsecrets] at hread
    cases hread
  | refused hsecrets =>
    rw [read_of_secrets hsecrets] at hread
    cases hread

theorem logIn_cases (device : Device δ ς) (slot : SlotIdentifier) (user : UInt64) (session : ς)
    (pins : List Bytes) (site : Site δ ς) :
    (∃ after, (logIn device slot user session pins).run site = (.ok (), after) ∧
      after.events = site.events ++ loginCalls slot user session pins) ∨
    ∃ accepted pin rest e after, pins = accepted ++ pin :: rest ∧
      (logIn device slot user session pins).run site = (.error e, after) ∧
      after.events = site.events ++ (loginCalls slot user session accepted ++
        [⟨slot, .login session user pin, .error e⟩]) := by
  induction pins generalizing site with
  | nil => exact Or.inl ⟨site, rfl, (List.append_nil _).symm⟩
  | cons pin rest ih =>
    unfold logIn
    rcases hcall : (device.call slot (.login session user pin)).run site with ⟨e | answer, after⟩
    · have hevents := events_of_call hcall
      rw [Action.run_bind_error hcall]
      exact Or.inr ⟨[], pin, rest, e, after, rfl, rfl, hevents⟩
    · have hevents := events_of_call hcall
      rw [Action.run_bind_ok hcall]
      rcases ih after with
        ⟨last, hrun, hlast⟩ | ⟨accepted, refused, left, e, last, hsplit, hrun, hlast⟩
      · refine Or.inl ⟨last, hrun, ?_⟩
        rw [hlast, hevents]
        simp [loginCalls]
      · refine Or.inr ⟨pin :: accepted, refused, left, e, last, by rw [hsplit]; rfl, hrun, ?_⟩
        rw [hlast, hevents]
        simp [loginCalls]

theorem openLogin_cases (device : Device δ ς) (config : ModuleConfig) (slot : SlotIdentifier)
    (pins : List Bytes) (site : Site δ ς) :
    (∃ session after, (openLogin device config slot pins).run site = (.ok session, after) ∧
      after.events = site.events ++ (⟨slot, .openSession !config.readOnly, .ok session⟩ ::
        loginCalls slot config.userType session pins)) ∨
    (∃ e after, (openLogin device config slot pins).run site = (.error e, after) ∧
      after.events = site.events ++ [⟨slot, .openSession !config.readOnly, .error e⟩]) ∨
    ∃ session accepted pin rest e closing after, pins = accepted ++ pin :: rest ∧
      (openLogin device config slot pins).run site = (.error e, after) ∧
      after.events = site.events ++ (⟨slot, .openSession !config.readOnly, .ok session⟩ ::
        (loginCalls slot config.userType session accepted ++
          [⟨slot, .login session config.userType pin, .error e⟩])) ++
        [⟨slot, .close session, closing⟩] := by
  unfold openLogin
  rcases hopen : (device.call slot (.openSession !config.readOnly)).run site with
    ⟨e | session, opened⟩
  · rw [Action.run_bind_error hopen]
    exact Or.inr (Or.inl ⟨e, opened, rfl, events_of_call hopen⟩)
  · rw [Action.run_bind_ok hopen, Action.run_bind, Action.run_outcome]
    have hopened := events_of_call hopen
    rcases logIn_cases device slot config.userType session pins opened with
      ⟨after, hlogin, hevents⟩ | ⟨accepted, pin, rest, e, after, hsplit, hlogin, hevents⟩
    · rw [hlogin]
      refine Or.inl ⟨session, after, rfl, ?_⟩
      rw [hevents, hopened]
      simp
    · rw [hlogin]
      rcases hclose : (device.call slot (.close session)).run after with ⟨closing, closed⟩
      have hrelease : (device.release slot session).run after = (.ok (), closed) := by
        rw [Device.run_release, hclose]
      refine Or.inr (Or.inr ⟨session, accepted, pin, rest, e, closing, closed, hsplit, ?_, ?_⟩)
      · dsimp only
        rw [Action.run_bind_ok hrelease]
        rfl
      · rw [events_of_call hclose, hevents, hopened]
        simp

theorem run_start {salts : Entropy} {pins : List Bytes} {answer : Except Error ς}
    {site after : Site δ ς}
    (hread : (config.passwords.read resolver slot).result = .ok (some pins))
    (hopen : (openLogin device config slot pins).run site = (answer, after)) :
    (start device config resolver salts slot).run site = (answer.map fun session => {
      slot, pool := .start config.maxSessions, mechanisms := none, handles := .empty
      login := some session, salts }, after) := by
  have hlogin : (some <$> openLogin device config slot pins).run site =
      (answer.map some, after) := by
    rw [Action.run_map, hopen]
  unfold start
  rw [hread, Action.run_bind, Action.run_ofExcept]
  dsimp only
  rw [Action.run_bind, hlogin]
  cases answer <;> rfl

theorem start_cases (device : Device δ ς) (config : ModuleConfig) (resolver : PasswordResolver)
    (salts : Entropy) (slot : SlotIdentifier) (site : Site δ ς) :
    (∃ managed calls after,
      (start device config resolver salts slot).run site = (.ok managed, after) ∧
      managed.slot = slot ∧ after.events = site.events ++ calls ∧
      Entered config resolver managed.slot managed.login calls) ∨
    ∃ e own undone after, (start device config resolver salts slot).run site = (.error e, after) ∧
      after.events = site.events ++ own ++ undone ∧
      Barred config resolver slot e own undone := by
  cases hread : (config.passwords.read resolver slot).result with
  | error e =>
    refine Or.inr ⟨e, [], [], site, ?_, by simp, .unread hread⟩
    unfold start
    rw [hread]
    rfl
  | ok pins? =>
    have hsecrets := secrets_of_read hread
    cases pins? with
    | none =>
      have hrun : (start device config resolver salts slot).run site = (.ok {
          slot, pool := .start config.maxSessions, mechanisms := none, handles := .empty
          login := none, salts }, site) := by
        unfold start
        rw [hread]
        rfl
      exact Or.inl ⟨_, [], site, hrun, rfl, by simp, .unlocked hsecrets⟩
    | some pins =>
      rcases openLogin_cases device config slot pins site with
        ⟨session, after, hopen, hevents⟩ | ⟨e, after, hopen, hevents⟩ |
        ⟨session, accepted, pin, rest, e, closing, after, hsplit, hopen, hevents⟩
      · exact Or.inl ⟨_, _, after, run_start hread hopen, rfl, hevents, .loggedIn hsecrets⟩
      · refine Or.inr ⟨e, _, [], after, run_start hread hopen, ?_, .unopened hsecrets⟩
        rw [hevents, List.append_nil]
      · subst hsplit
        exact Or.inr ⟨e, _, _, after, run_start hread hopen, hevents, .refused hsecrets⟩

end ManagedSlot

end TokenSigner
