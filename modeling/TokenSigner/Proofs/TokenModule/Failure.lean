import TokenSigner.Proofs.ManagedSlot.Books
import TokenSigner.Proofs.ManagedSlot.Login
import TokenSigner.Rehearsal.Setting

namespace TokenSigner

variable {δ ς : Type}

namespace Event

def openedAt (events : List (Event ς)) : List (SlotIdentifier × ς) :=
  events.filterMap fun event => event.opened?.map (event.slot, ·)

theorem openedAt_append (events more : List (Event ς)) :
    openedAt (events ++ more) = openedAt events ++ openedAt more :=
  List.filterMap_append

theorem openedAt_of_here {slot : SlotIdentifier} {events : List (Event ς)}
    (h : ∀ event ∈ events, event.slot = slot) :
    openedAt events = (openings events).map (slot, ·) := by
  induction events with
  | nil => rfl
  | cons event rest ih =>
    have hslot : event.slot = slot := h event (by simp)
    have hrest := ih fun other hother => h other (by simp [hother])
    cases hopened : event.opened? with
    | none => simpa [openedAt, openings, hopened] using hrest
    | some session => simpa [openedAt, openings, hopened, hslot] using hrest

theorem mem_on {slot : SlotIdentifier} {events : List (Event ς)} {event : Event ς} :
    event ∈ on slot events ↔ event ∈ events ∧ event.slot = slot := by
  simp [on]

end Event

open Event (openedAt)
open ManagedSlot (Entered Barred)

namespace TokenModule

def logins (slots : List (ManagedSlot ς)) : List (SlotIdentifier × ς) :=
  slots.filterMap fun managed => managed.login.map (managed.slot, ·)

abbrev Closes : List (SlotIdentifier × ς) → List (Event ς) → Prop :=
  List.Forall₂ fun place event => ∃ result, event = ⟨place.1, .close place.2, result⟩

abbrev Taken (config : ModuleConfig) (resolver : PasswordResolver) :
    List (ManagedSlot ς) → List (List (Event ς)) → Prop :=
  List.Forall₂ fun managed calls => Entered config resolver managed.slot managed.login calls

variable {device : Device δ ς} {config : ModuleConfig} {resolver : PasswordResolver}
  {salts : SlotIdentifier → Entropy}

theorem run_closeLogins (device : Device δ ς) (slots : List (ManagedSlot ς)) (site : Site δ ς) :
    ∃ closing after, (closeLogins device slots).run site = (.ok (), after) ∧
      after.events = site.events ++ closing ∧ Closes (logins slots) closing := by
  induction slots generalizing site with
  | nil => exact ⟨[], site, rfl, (List.append_nil _).symm, .nil⟩
  | cons managed rest ih =>
    unfold closeLogins ManagedSlot.closeLogin
    cases hlogin : managed.login with
    | none =>
      obtain ⟨closing, after, hrun, hevents, hcloses⟩ := ih site
      have hlogins : logins (managed :: rest) = logins rest := by simp [logins, hlogin]
      rw [hlogins]
      exact ⟨closing, after, hrun, hevents, hcloses⟩
    | some session =>
      rcases hclose : (device.call managed.slot (.close session)).run site with ⟨result, closed⟩
      have hrelease : (device.release managed.slot session).run site = (.ok (), closed) := by
        rw [Device.run_release, hclose]
      obtain ⟨closing, after, hrun, hevents, hcloses⟩ := ih closed
      have hlogins : logins (managed :: rest) = (managed.slot, session) :: logins rest := by
        simp [logins, hlogin]
      dsimp only
      rw [hlogins, Action.run_bind_ok hrelease]
      refine ⟨_ :: closing, after, hrun, ?_, .cons ⟨result, rfl⟩ hcloses⟩
      rw [hevents, ManagedSlot.events_of_call hclose, List.append_assoc]
      rfl

section Taken

variable {taken : List (ManagedSlot ς)} {logs : List (List (Event ς))}

theorem Taken.mem_slots (h : Taken config resolver taken logs) {event : Event ς}
    (hevent : event ∈ logs.flatten) : event.slot ∈ taken.map (·.slot) := by
  induction h with
  | nil => cases hevent
  | cons hentered _ ih =>
    rw [List.flatten_cons] at hevent
    rcases List.mem_append.mp hevent with hhere | hrest
    · simp [(hentered.enters event hhere).here]
    · simp only [List.map_cons, List.mem_cons]
      exact Or.inr (ih hrest)

theorem Taken.on_eq_nil (h : Taken config resolver taken logs) {slot : SlotIdentifier}
    (hslot : slot ∉ taken.map (·.slot)) : Event.on slot logs.flatten = [] := by
  refine List.eq_nil_iff_forall_not_mem.mpr ?_
  rintro event hevent
  obtain ⟨hmem, rfl⟩ := Event.mem_on.mp hevent
  exact hslot (h.mem_slots hmem)

theorem Taken.entered (h : Taken config resolver taken logs)
    (hslots : (taken.map (·.slot)).Nodup) {managed : ManagedSlot ς} (hmanaged : managed ∈ taken) :
    Entered config resolver managed.slot managed.login (Event.on managed.slot logs.flatten) := by
  induction h with
  | nil => cases hmanaged
  | @cons first calls rest logs hentered hrest ih =>
    rw [List.map_cons, List.nodup_cons] at hslots
    have hhere (event : Event ς) (hevent : event ∈ calls) : event.slot = first.slot :=
      (hentered.enters event hevent).here
    rw [List.flatten_cons, Event.on_append]
    rcases List.mem_cons.mp hmanaged with rfl | hmem
    · rw [Event.on_eq_self hhere, Taken.on_eq_nil hrest hslots.1, List.append_nil]
      exact hentered
    · have hne : managed.slot ≠ first.slot := by
        intro hsame
        exact hslots.1 (hsame ▸ List.mem_map_of_mem hmem)
      rw [Event.on_eq_nil hhere hne, List.nil_append]
      exact ih hslots.2 hmem

theorem Taken.unclosed (h : Taken config resolver taken logs) :
    ∀ event ∈ logs.flatten, event.closed? = none := by
  intro event hevent
  induction h with
  | nil => cases hevent
  | cons hentered _ ih =>
    rw [List.flatten_cons] at hevent
    rcases List.mem_append.mp hevent with hhere | hrest
    · exact (hentered.enters event hhere).unclosed
    · exact ih hrest

theorem Taken.openedAt_eq (h : Taken config resolver taken logs) :
    openedAt logs.flatten = logins taken := by
  induction h with
  | nil => rfl
  | @cons managed calls rest logs hentered _ ih =>
    have hhere (event : Event ς) (hevent : event ∈ calls) : event.slot = managed.slot :=
      (hentered.enters event hevent).here
    rw [List.flatten_cons, Event.openedAt_append, Event.openedAt_of_here hhere,
      hentered.openings_eq, ih]
    cases hlogin : managed.login with
    | none => simp [logins, hlogin]
    | some session => simp [logins, hlogin]

theorem sublist_logins (slots : List (ManagedSlot ς)) :
    ((logins slots).map (·.1)).Sublist (slots.map (·.slot)) := by
  induction slots with
  | nil => exact .slnil
  | cons managed rest ih =>
    cases hlogin : managed.login with
    | none => simpa [logins, hlogin] using ih.cons managed.slot
    | some session => simpa [logins, hlogin] using ih.cons_cons managed.slot

end Taken

theorem Closes.mem_slots {places : List (SlotIdentifier × ς)} {closing : List (Event ς)}
    (h : Closes places closing) {event : Event ς} (hevent : event ∈ closing) :
    event.slot ∈ places.map (·.1) := by
  induction h with
  | nil => cases hevent
  | cons hclose _ ih =>
    obtain ⟨result, rfl⟩ := hclose
    rcases List.mem_cons.mp hevent with rfl | hrest
    · simp
    · simp only [List.map_cons, List.mem_cons]
      exact Or.inr (ih hrest)

theorem Closes.on_eq_nil {places : List (SlotIdentifier × ς)} {closing : List (Event ς)}
    (h : Closes places closing) {slot : SlotIdentifier} (hslot : slot ∉ places.map (·.1)) :
    Event.on slot closing = [] := by
  refine List.eq_nil_iff_forall_not_mem.mpr ?_
  rintro event hevent
  obtain ⟨hmem, rfl⟩ := Event.mem_on.mp hevent
  exact hslot (h.mem_slots hmem)

theorem closes_of_barred {slot : SlotIdentifier} {e : Error} {own undone : List (Event ς)}
    (h : Barred config resolver slot e own undone) : Closes (openedAt own) undone := by
  have hhere (event : Event ς) (hevent : event ∈ own) : event.slot = slot :=
    (h.enters event hevent).here
  rw [Event.openedAt_of_here hhere]
  cases h with
  | unread => exact .nil
  | unopened => exact .nil
  | @refused session accepted rest pin e closing hsecrets =>
    have hlogins : Event.openings (ManagedSlot.loginCalls slot config.userType session accepted ++
        [⟨slot, .login session config.userType pin, .error e⟩]) = [] := by
      rw [Event.openings_append, ManagedSlot.openings_loginCalls]
      rfl
    have hopenings : Event.openings (⟨slot, .openSession !config.readOnly, .ok session⟩ ::
        (ManagedSlot.loginCalls slot config.userType session accepted ++
          [⟨slot, .login session config.userType pin, .error e⟩])) = [session] :=
      congrArg (session :: ·) hlogins
    rw [hopenings]
    exact .cons ⟨closing, rfl⟩ .nil

section One

variable {m : TokenModule ς} {slot : SlotIdentifier} {managed : ManagedSlot ς} {e : Error}
  {site started closed : Site δ ς}

theorem run_takeSlots_excluded (hexcluded : m.config.includes slot = false)
    (rest : List SlotIdentifier) (site : Site δ ς) :
    (takeSlots device resolver salts (slot :: rest) m).run site =
      (takeSlots device resolver salts rest { m with excluded := m.excluded ++ [slot] }).run
        site := by
  rw [takeSlots, hexcluded, if_neg Bool.false_ne_true]

theorem run_takeSlots_taken (hincluded : m.config.includes slot = true)
    (hstart : (ManagedSlot.start device m.config resolver (salts slot) slot).run site =
      (.ok managed, started)) (rest : List SlotIdentifier) :
    (takeSlots device resolver salts (slot :: rest) m).run site =
      (takeSlots device resolver salts rest { m with managed := m.managed ++ [managed] }).run
        started := by
  rw [takeSlots, if_pos hincluded, Action.run_bind, Action.run_outcome, hstart]

theorem run_takeSlots_barred (hincluded : m.config.includes slot = true)
    (hstart : (ManagedSlot.start device m.config resolver (salts slot) slot).run site =
      (.error e, started)) (rest : List SlotIdentifier)
    (hclose : (closeLogins device m.managed).run started = (.ok (), closed)) :
    (takeSlots device resolver salts (slot :: rest) m).run site = (.error e, closed) := by
  rw [takeSlots, if_pos hincluded, Action.run_bind, Action.run_outcome, hstart]
  exact Action.run_bind_ok hclose _

end One

theorem takeSlots_cases (device : Device δ ς) (config : ModuleConfig)
    (resolver : PasswordResolver) (salts : SlotIdentifier → Entropy)
    (slots : List SlotIdentifier) (managed : List (ManagedSlot ς))
    (excluded : List SlotIdentifier) (site : Site δ ς) :
    (∃ taken logs after,
      (takeSlots device resolver salts slots ⟨config, managed, excluded⟩).run site =
        (.ok ⟨config, managed ++ taken, excluded ++ slots.filter (!config.includes ·)⟩, after) ∧
      taken.map (·.slot) = slots.filter config.includes ∧ Taken config resolver taken logs ∧
      after.events = site.events ++ logs.flatten) ∨
    ∃ before slot rest taken logs e own undone closing after,
      (takeSlots device resolver salts slots ⟨config, managed, excluded⟩).run site =
        (.error e, after) ∧
      slots = before ++ slot :: rest ∧ config.includes slot = true ∧
      taken.map (·.slot) = before.filter config.includes ∧ Taken config resolver taken logs ∧
      Barred config resolver slot e own undone ∧ Closes (logins (managed ++ taken)) closing ∧
      after.events = site.events ++ (logs.flatten ++ own) ++ (undone ++ closing) := by
  induction slots generalizing managed excluded site with
  | nil => exact Or.inl ⟨[], [], site, by simp [takeSlots], rfl, .nil, (List.append_nil _).symm⟩
  | cons slot rest ih =>
    cases hincluded : config.includes slot with
    | false =>
      rw [run_takeSlots_excluded hincluded]
      rcases ih managed (excluded ++ [slot]) site with
        ⟨taken, logs, after, hrun, hslots, htaken, hevents⟩ |
        ⟨before, barred, left, taken, logs, e, own, undone, closing, after, hrun, hsplit, hbarring,
          hslots, htaken, hbarred, hcloses, hevents⟩
      · refine Or.inl ⟨taken, logs, after, ?_, ?_, htaken, hevents⟩
        · rw [hrun]
          simp [hincluded]
        · rw [hslots]
          simp [hincluded]
      · refine Or.inr ⟨slot :: before, barred, left, taken, logs, e, own, undone, closing, after,
          hrun, ?_, hbarring, ?_, htaken, hbarred, hcloses, hevents⟩
        · rw [hsplit]
          rfl
        · rw [hslots]
          simp [hincluded]
    | true =>
      rcases ManagedSlot.start_cases device config resolver (salts slot) slot site with
        ⟨fresh, calls, started, hstart, hslot, hevents, hentered⟩ |
        ⟨e, own, undone, started, hstart, hevents, hbarred⟩
      · rw [run_takeSlots_taken hincluded hstart]
        rcases ih (managed ++ [fresh]) excluded started with
          ⟨taken, logs, after, hrun, hslots, htaken, hrest⟩ |
          ⟨before, barred, left, taken, logs, e, own, undone, closing, after, hrun, hsplit,
            hbarring, hslots, htaken, hbarred, hcloses, hrest⟩
        · refine Or.inl ⟨fresh :: taken, calls :: logs, after, ?_, ?_, .cons hentered htaken, ?_⟩
          · rw [hrun]
            simp [hincluded]
          · rw [List.map_cons, hslot, hslots]
            simp [hincluded]
          · rw [hrest, hevents]
            simp
        · refine Or.inr ⟨slot :: before, barred, left, fresh :: taken, calls :: logs, e, own,
            undone, closing, after, hrun, ?_, hbarring, ?_, .cons hentered htaken, hbarred, ?_, ?_⟩
          · rw [hsplit]
            rfl
          · rw [List.map_cons, hslot, hslots]
            simp [hincluded]
          · rw [List.append_assoc] at hcloses
            exact hcloses
          · rw [hrest, hevents]
            simp
      · obtain ⟨closing, closed, hrun, hclosed, hcloses⟩ := run_closeLogins device managed started
        refine Or.inr ⟨[], slot, rest, [], [], e, own, undone, closing, closed, ?_, rfl, hincluded,
          rfl, .nil, hbarred, ?_, ?_⟩
        · exact run_takeSlots_barred hincluded hstart rest hrun
        · rw [List.append_nil]
          exact hcloses
        · rw [hclosed, hevents]
          simp

theorem map_index_identifiers (ids : List UInt64) :
    (identifiers ids).map (·.index) = List.range' 0 ids.length := by
  simp [identifiers, Function.comp_def, List.zipIdx_map_snd]

theorem nodup_identifiers (ids : List UInt64) : (identifiers ids).Nodup :=
  List.Nodup.of_map (·.index) (map_index_identifiers ids ▸ List.nodup_range')

structure Undone (config : ModuleConfig) (resolver : PasswordResolver)
    (before : List SlotIdentifier) (slot : SlotIdentifier) (e : Error)
    (opening closing : List (Event ς)) : Prop where
  barred : Barred config resolver slot e (Event.on slot opening) (Event.on slot closing)
  entered : ∀ earlier ∈ before, config.includes earlier = true →
    ∃ login, Entered config resolver earlier login (Event.on earlier opening)
  elsewhere : ∀ other, other ≠ slot → other ∉ before.filter config.includes →
    Event.on other (opening ++ closing) = []
  unclosed : ∀ event ∈ opening, event.closed? = none
  closes : ∃ built own, openedAt opening = built ++ own ∧ Closes (own ++ built) closing ∧
    (∀ place ∈ own, place.1 = slot) ∧ (built.map (·.1)).Sublist (before.filter config.includes)

theorem undone_of_taken {before : List SlotIdentifier} {slot : SlotIdentifier} {e : Error}
    {taken : List (ManagedSlot ς)} {logs : List (List (Event ς))}
    {own undone closing : List (Event ς)} (hfirst : slot ∉ before) (hnodup : before.Nodup)
    (hslots : taken.map (·.slot) = before.filter config.includes)
    (htaken : Taken config resolver taken logs) (hbarred : Barred config resolver slot e own undone)
    (hcloses : Closes (logins taken) closing) :
    Undone config resolver before slot e (logs.flatten ++ own) (undone ++ closing) := by
  have hown (event : Event ς) (hevent : event ∈ own) : event.slot = slot :=
    (hbarred.enters event hevent).here
  have hundone := closes_of_barred hbarred
  have hplaces : ∀ place ∈ openedAt own, place.1 = slot := by
    rw [Event.openedAt_of_here hown]
    simp
  have hlogins : ((logins taken).map (·.1)).Sublist (before.filter config.includes) := by
    rw [← hslots]
    exact sublist_logins taken
  have hclosing {other : SlotIdentifier} (hother : other ∉ before.filter config.includes) :
      Event.on other closing = [] := by
    apply hcloses.on_eq_nil
    intro hmem
    exact hother (hlogins.subset hmem)
  have hundoing {other : SlotIdentifier} (hother : other ≠ slot) : Event.on other undone = [] := by
    apply Closes.on_eq_nil hundone
    intro hmem
    obtain ⟨place, hplace, rfl⟩ := List.mem_map.mp hmem
    exact hother (hplaces place hplace)
  have hundonehere : Event.on slot undone = undone := by
    apply Event.on_eq_self
    intro event hevent
    obtain ⟨place, hplace, hslot⟩ := List.mem_map.mp (Closes.mem_slots hundone hevent)
    rw [← hslot]
    exact hplaces place hplace
  constructor
  · have hself : slot ∉ before.filter config.includes := by
      intro hmem
      exact hfirst (List.mem_filter.mp hmem).1
    rw [Event.on_append, Event.on_append, htaken.on_eq_nil (hslots ▸ hself),
      Event.on_eq_self hown, hundonehere, hclosing hself, List.nil_append, List.append_nil]
    exact hbarred
  · intro earlier hearlier hincluded
    have hmem : earlier ∈ taken.map (·.slot) := by
      rw [hslots]
      exact List.mem_filter.mpr ⟨hearlier, hincluded⟩
    obtain ⟨managed, hmanaged, rfl⟩ := List.mem_map.mp hmem
    have hne : managed.slot ≠ slot := by
      intro hsame
      exact hfirst (hsame ▸ hearlier)
    refine ⟨managed.login, ?_⟩
    rw [Event.on_append, Event.on_eq_nil hown hne, List.append_nil]
    exact htaken.entered (hslots ▸ hnodup.filter _) hmanaged
  · intro other hother hmissing
    simp only [Event.on_append]
    rw [htaken.on_eq_nil (hslots ▸ hmissing), Event.on_eq_nil hown hother, hundoing hother,
      hclosing hmissing]
    rfl
  · intro event hevent
    rcases List.mem_append.mp hevent with hearlier | hhere
    · exact htaken.unclosed event hearlier
    · exact (hbarred.enters event hhere).unclosed
  · refine ⟨logins taken, openedAt own, ?_, ?_, hplaces, hlogins⟩
    · rw [Event.openedAt_append, htaken.openedAt_eq]
    · exact List.rel_append hundone hcloses

theorem failure_undone {ids : List UInt64} {tokens : δ} {e : Error} {site : Site δ ς}
    (h : (build device config resolver salts ids).run ⟨tokens, [], []⟩ = (.error e, site)) :
    ∃ before slot behind opening closing, identifiers ids = before ++ slot :: behind ∧
      config.includes slot = true ∧ site.events = opening ++ closing ∧
      Undone config resolver before slot e opening closing ∧
      (∀ later ∈ behind, Event.on later site.events = []) ∧
      ∀ failure, (config.passwords.read resolver slot).result = .error failure →
        failure = e ∧ Event.on slot site.events = [] := by
  unfold build at h
  rcases takeSlots_cases device config resolver salts (identifiers ids) [] [] ⟨tokens, [], []⟩ with
    ⟨taken, logs, after, hrun, -⟩ |
    ⟨before, slot, behind, taken, logs, e', own, undone, closing, after, hrun, hsplit, hincluded,
      hslots, htaken, hbarred, hcloses, hevents⟩
  · rw [hrun] at h
    cases h
  · rw [hrun] at h
    cases h
    have hnodup := nodup_identifiers ids
    rw [hsplit] at hnodup
    obtain ⟨hbefore, hrest, hapart⟩ := List.nodup_append.mp hnodup
    have hfirst : slot ∉ before := by
      intro hmem
      exact hapart slot hmem slot (by simp) rfl
    have hundone := undone_of_taken hfirst hbefore hslots htaken hbarred hcloses
    rw [List.nil_append] at hevents
    refine ⟨before, slot, behind, _, _, hsplit, hincluded, hevents, hundone, ?_, ?_⟩
    · intro later hlater
      rw [hevents]
      apply hundone.elsewhere
      · rintro rfl
        exact (List.nodup_cons.mp hrest).1 hlater
      · intro hmem
        exact hapart later (List.mem_filter.mp hmem).1 later (by simp [hlater]) rfl
    · intro failure hread
      obtain ⟨hsame, hown, hclosed⟩ := hundone.barred.of_unread hread
      refine ⟨hsame, ?_⟩
      rw [hevents, Event.on_append, hown, hclosed]
      rfl

theorem failure_undone_of_a_refusal :
    let refused : Error := .reported .token "pin incorrect"
    let config : ModuleConfig := { Rehearsal.config with
      passwords := [⟨[⟨some 0, none, rfl⟩], [""]⟩, ⟨[], ["", ""]⟩] }
    let wary : Rehearsal.Token := { Rehearsal.token with faults := [⟨.login, some 2, refused⟩] }
    let tokens := [Rehearsal.token, Rehearsal.token, wary, Rehearsal.token]
    ∃ site, (build Rehearsal.device config (fun _ => .ok [1]) (fun _ => ⟨fun _ => .ok 0, 0⟩)
        [7, 8, 9, 10]).run ⟨tokens, [], []⟩ = (.error refused, site) ∧
      (site.events.map fun event => (event.slot.index, Rehearsal.CallKind.of event.call)) =
        [(0, .openSession), (0, .login), (2, .openSession), (2, .login), (2, .login), (2, .close),
          (0, .close)] ∧
      ∃ before slot behind opening closing,
        identifiers [7, 8, 9, 10] = before ++ slot :: behind ∧ site.events = opening ++ closing ∧
        Undone config (fun _ => .ok [1]) before slot refused opening closing := by
  intro refused config wary tokens
  have hrefused : error? ((build Rehearsal.device config (fun _ => .ok [1])
      (fun _ => ⟨fun _ => .ok 0, 0⟩) [7, 8, 9, 10]).run ⟨tokens, [], []⟩).1 = some refused := by
    decide +kernel
  have hfails := Action.run_eq_of_error? hrefused
  refine ⟨_, hfails, by decide +kernel, ?_⟩
  obtain ⟨before, slot, behind, opening, closing, hslots, -, hevents, hundone, -⟩ :=
    failure_undone hfails
  exact ⟨before, slot, behind, opening, closing, hslots, hevents, hundone⟩

end TokenModule

end TokenSigner
