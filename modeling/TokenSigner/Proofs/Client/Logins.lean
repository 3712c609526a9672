import TokenSigner.Proofs.Client.Layout
import TokenSigner.Proofs.Client.Throughout
import TokenSigner.Proofs.Config.Acceptance
import TokenSigner.Proofs.ManagedSlot.Pooling
import TokenSigner.Proofs.TokenModule.Failure

namespace TokenSigner

open Event (openings)
open ManagedSlot (Entered Fitting Pooling Served Work)

variable {δ ς α : Type} {device : Device δ ς} {config : ModuleConfig}

namespace TokenModule

theorem taken_of_build {resolver : PasswordResolver} {salts : SlotIdentifier → Entropy}
    {ids : List UInt64} {tokens : δ} {m : TokenModule ς} {site : Site δ ς}
    (h : (build device config resolver salts ids).run ⟨tokens, [], []⟩ = (.ok m, site)) :
    ∃ logs, m.slots = (identifiers ids).filter config.includes ∧
      Taken config resolver m.managed logs ∧ site.events = logs.flatten := by
  unfold build at h
  rcases takeSlots_cases device config resolver salts (identifiers ids) [] [] ⟨tokens, [], []⟩ with
    ⟨taken, logs, after, hrun, hslots, htaken, hevents⟩ | ⟨_, _, _, _, _, _, _, _, _, _, hrun, _⟩
  · rw [hrun] at h
    cases h
    exact ⟨logs, hslots, htaken, hevents⟩
  · rw [hrun] at h
    cases h

end TokenModule

namespace Client

variable {resolver : PasswordResolver} {salts : SlotIdentifier → Entropy} {ids : List UInt64}
  {tokens : δ} {m : TokenModule ς} {site : Site δ ς}

theorem served_build
    (hbuild : (TokenModule.build device config resolver salts ids).run ⟨tokens, [], []⟩ =
      (.ok m, site)) :
    Throughout config (fun site => ∀ event ∈ site.events, event.slot ∈ m.slots)
      (Served config resolver m.slots site.events) ⟨m, site, [], [], []⟩ := by
  have hfresh := TokenModule.fresh_takeSlots (TokenModule.fresh_start config) hbuild
  obtain ⟨logs, hslots, htaken, hevents⟩ := TokenModule.taken_of_build hbuild
  have hnodup : m.slots.Nodup := hslots ▸ (TokenModule.nodup_identifiers ids).filter _
  refine ⟨List.nodup_nil, hfresh.config_eq, ?_, hfresh.apart, ?_⟩
  · intro event hevent
    rw [hevents] at hevent
    exact htaken.mem_slots hevent
  · intro managed hmanaged
    refine ⟨TokenModule.mem_slots hmanaged, ?_, [], (List.append_nil _).symm, ?_⟩
    · rw [hevents]
      exact htaken.entered hnodup hmanaged
    · change Pooling config [] managed.pool []
      rw [hfresh.unused managed hmanaged]
      exact .start config

structure Attended (config : ModuleConfig) (resolver : PasswordResolver) (managed : ManagedSlot ς)
    (lent : List ς) (entry log : List (Event ς)) : Prop where
  entered : Entered config resolver managed.slot managed.login entry
  pooling : Pooling config log managed.pool lent
  apart : (openings (entry ++ log)).Nodup → ∀ login, managed.login = some login →
    login ∉ managed.pool.idle ++ lent ∧ ∀ event ∈ log, event.call.session? ≠ some login

theorem attended_of_pooling {managed : ManagedSlot ς} {lent : List ς} {entry log : List (Event ς)}
    (hentered : Entered config resolver managed.slot managed.login entry)
    (hpooling : Pooling config log managed.pool lent) :
    Attended config resolver managed lent entry log := by
  refine ⟨hentered, hpooling, ?_⟩
  intro hnodup login hlogin
  have hopenings : openings (entry ++ log) = login :: openings log := by
    rw [Event.openings_append, hentered.openings_eq, hlogin]
    rfl
  have hfresh : login ∉ openings log := by
    rw [hopenings] at hnodup
    exact (List.nodup_cons.mp hnodup).1
  constructor
  · intro hmem
    exact hfresh (hpooling.drawn login hmem)
  · intro event hevent hsession
    -- A call on the session of the login would go to a session opened before for the pool.
    obtain ⟨before, after, rfl⟩ := List.append_of_mem hevent
    have hbefore := (hpooling.fitting before event after rfl).pooled login hsession
    apply hfresh
    rw [Event.openings_append]
    exact List.mem_append_left _ hbefore

theorem maxSessions_pos {d : ModuleDescriptor} {system : String} {warnings : List Warning}
    (h : ((ModuleConfig.ofDescriptor d system).run warnings).1 = .ok config) :
    0 < config.maxSessions := by
  rcases hrun : (ModuleConfig.ofDescriptor d system).run warnings with ⟨result, told⟩
  rw [hrun] at h
  cases h
  have haccepted := ModuleConfig.accepted_iff.mp hrun
  rw [haccepted.maxSessions_eq]
  exact Nat.pos_of_ne_zero haccepted.sessions

theorem logins_kept
    (hbuild : (TokenModule.build device config resolver salts ids).run ⟨tokens, [], []⟩ =
      (.ok m, site)) (requests : List Request) :
    let client := after device ⟨m, site, [], [], []⟩ requests
    client.tokens.slots = (TokenModule.identifiers ids).filter config.includes ∧
    (∀ event ∈ client.site.events, event.slot ∈ client.tokens.slots) ∧
    (∀ managed ∈ client.tokens.managed, ∃ entry log,
      Event.on managed.slot client.site.events = entry ++ log ∧
      Attended config resolver managed (lentOn (client.borrowed.map (·.2)) managed.slot)
        entry log) ∧
    ∀ d system warnings, ((ModuleConfig.ofDescriptor d system).run warnings).1 = .ok config →
      max config.maxSessions 1 = config.maxSessions := by
  intro client
  have hslots : client.tokens.slots = m.slots := slots_after device _ requests
  have hclient := throughout_after (ManagedSlot.steady_served device config resolver m.slots
    site.events).lasting requests (served_build hbuild)
  refine ⟨?_, ?_, ?_, ?_⟩
  · obtain ⟨logs, hbuilt, -⟩ := TokenModule.taken_of_build hbuild
    rw [hslots, hbuilt]
  · rw [hslots]
    exact hclient.slots.device
  · intro managed hmanaged
    have hserved := hclient.slots.each managed hmanaged
    obtain ⟨log, hrecorded, hpooling⟩ := hserved.pooling
    refine ⟨_, _, ?_, attended_of_pooling hserved.entered hpooling⟩
    rw [← Event.on_append]
    exact congrArg _ hrecorded
  · intro d system warnings hread
    exact Nat.max_eq_left (maxSessions_pos hread)

theorem logins_kept_beside_a_loan :
    let config : ModuleConfig := { Rehearsal.config with passwords := [⟨[], [""]⟩] }
    let salts : SlotIdentifier → Entropy := fun _ => ⟨fun _ => .ok 0, 0⟩
    let slot : SlotIdentifier := ⟨0, 7⟩
    let m : TokenModule Nat :=
      ⟨config, [⟨slot, .start 1, none, .empty, some 1, salts slot⟩], [⟨1, 8⟩]⟩
    let entry : List (Event Nat) :=
      [⟨slot, .openSession false, .ok 1⟩, ⟨slot, .login 1 1 [1], .ok ()⟩]
    let site : Site (List Rehearsal.Token) Nat :=
      ⟨[{ Rehearsal.token with made := [.openSession, .login] }, Rehearsal.token], entry, []⟩
    let requests : List Request := [.borrow "first" 0, .borrow "second" 0, .giveBack "first",
      .onSlot 0 (.findKey (.label "signing"))]
    (TokenModule.build Rehearsal.device config (fun _ => .ok [1]) salts [7, 8]).run
      ⟨[Rehearsal.token, Rehearsal.token], [], []⟩ = (.ok m, site) ∧
    ((after Rehearsal.device ⟨m, site, [], [], []⟩ requests).site.events.map
      fun event => (Rehearsal.CallKind.of event.call, event.call.session?)) =
      [(.openSession, none), (.login, some 1), (.openSession, none), (.findKey, some 2)] ∧
    ∀ managed ∈ (after Rehearsal.device ⟨m, site, [], [], []⟩ requests).tokens.managed,
      ∃ entry log, Event.on managed.slot
          (after Rehearsal.device ⟨m, site, [], [], []⟩ requests).site.events = entry ++ log ∧
        Attended config (fun _ => .ok [1]) managed
          (lentOn ((after Rehearsal.device ⟨m, site, [], [], []⟩ requests).borrowed.map (·.2))
            managed.slot) entry log := by
  intro config salts slot m entry site requests
  have hbuild : (TokenModule.build Rehearsal.device config (fun _ => .ok [1]) salts [7, 8]).run
      ⟨[Rehearsal.token, Rehearsal.token], [], []⟩ = (.ok m, site) := rfl
  exact ⟨hbuild, by decide +kernel, (logins_kept hbuild requests).2.2.1⟩

end Client

end TokenSigner
