import Mathlib.Data.List.Perm.Basic
import TokenSigner.Proofs.ManagedSlot.Hand

namespace TokenSigner

namespace Event

variable {ς : Type}

def openings (events : List (Event ς)) : List ς := events.filterMap opened?

def closings (events : List (Event ς)) : List ς := events.filterMap closed?

theorem openings_append (events more : List (Event ς)) :
    openings (events ++ more) = openings events ++ openings more :=
  List.filterMap_append

theorem closings_append (events more : List (Event ς)) :
    closings (events ++ more) = closings events ++ closings more :=
  List.filterMap_append

def Apart (event later : Event ς) : Prop :=
  ∀ session, event.closed? = some session → later.call.session? ≠ some session

theorem mem_closings {events : List (Event ς)} {event : Event ς} {session : ς}
    (h : event ∈ events) (hclosed : event.closed? = some session) : session ∈ closings events :=
  List.mem_filterMap.mpr ⟨event, h, hclosed⟩

inductive Tidy : List (Event ς) → Prop where
  | nil : Tidy []
  | keep {event : Event ς} {rest : List (Event ς)} (hspoilt : event.spoilt? = none)
      (hclosed : event.closed? = none) (hrest : Tidy rest) : Tidy (event :: rest)
  | drop {event closing : Event ς} {session : ς} {rest : List (Event ς)}
      (hspoilt : event.spoilt? = some session) (hclosed : closing.closed? = some session)
      (hrest : Tidy rest) : Tidy (event :: closing :: rest)

theorem Tidy.append {events more : List (Event ς)} (h : Tidy events) (hmore : Tidy more) :
    Tidy (events ++ more) := by
  induction h with
  | nil => exact hmore
  | keep hspoilt hclosed _ ih => exact .keep hspoilt hclosed ih
  | drop hspoilt hclosed _ ih => exact .drop hspoilt hclosed ih

theorem spoilt_of_signing {event : Event ς} (h : event.call.signing? = none) :
    event.spoilt? = none := by
  simp [spoilt?, h]

theorem spoilt_of_closed {event : Event ς} {session : ς} (h : event.closed? = some session) :
    event.spoilt? = none := by
  obtain ⟨slot, call, result⟩ := event
  cases call with
  | close session => rfl
  | _ => cases h

theorem closed_of_signing {event : Event ς} {mechanism : Mechanism}
    (h : event.call.signing? = some mechanism) : event.closed? = none := by
  obtain ⟨slot, call, result⟩ := event
  cases call with
  | close session => cases h
  | _ => rfl

theorem opened_of_session {event : Event ς} {session : ς}
    (h : event.call.session? = some session) : event.opened? = none := by
  obtain ⟨slot, call, result⟩ := event
  cases call with
  | openSession readWrite => cases h
  | _ => rfl

theorem closed_of_spoilt {event : Event ς} {session : ς} (h : event.spoilt? = some session) :
    event.closed? = none := by
  cases hsigning : event.call.signing? with
  | none =>
    rw [spoilt_of_signing hsigning] at h
    cases h
  | some mechanism => exact closed_of_signing hsigning

theorem spoilt_of_spared {event : Event ς}
    (h : ∀ e, event.result = .error e → e.kind ≠ .token) : event.spoilt? = none := by
  unfold spoilt? failure?
  cases hresult : event.result with
  | ok answer => simp
  | error e => simp [h e hresult]

theorem spoilt_of_failure {event : Event ς} {session : ς} {mechanism : Mechanism} {e : Error}
    (hsession : event.call.session? = some session)
    (hsigning : event.call.signing? = some mechanism) (hresult : event.result = .error e)
    (hkind : e.kind = .token) : event.spoilt? = some session := by
  simp [spoilt?, failure?_of_error hresult, hsigning, hkind, hsession]

theorem openings_of_session {event : Event ς} {session : ς}
    (h : event.call.session? = some session) : openings [event] = [] :=
  List.filterMap_cons_none (opened_of_session h)

theorem closings_of_signing {event : Event ς} {mechanism : Mechanism}
    (h : event.call.signing? = some mechanism) : closings [event] = [] :=
  List.filterMap_cons_none (closed_of_signing h)

theorem Tidy.closings_eq {events : List (Event ς)} (h : Tidy events) :
    closings events = events.filterMap spoilt? := by
  induction h with
  | nil => rfl
  | keep hspoilt hclosed _ ih =>
    rw [closings, List.filterMap_cons_none hclosed, List.filterMap_cons_none hspoilt]
    exact ih
  | drop hspoilt hclosed _ ih =>
    rw [closings, List.filterMap_cons_none (closed_of_spoilt hspoilt),
      List.filterMap_cons_some hclosed, List.filterMap_cons_some hspoilt,
      List.filterMap_cons_none (spoilt_of_closed hclosed)]
    exact congrArg _ ih

end Event

namespace ManagedSlot

open Event (Tidy openings closings)

variable {δ ς : Type}

theorem perm_join {here here' before opened closed opened' closed' : List ς}
    (hafter : (here' ++ closed').Perm (here ++ opened'))
    (hbefore : (here ++ closed).Perm (before ++ opened)) :
    (here' ++ (closed ++ closed')).Perm (before ++ (opened ++ opened')) :=
  calc
    List.Perm (here' ++ (closed ++ closed')) (here' ++ closed' ++ closed) := by
      rw [List.append_assoc]
      exact List.perm_append_comm.append_left here'
    List.Perm _ (here ++ opened' ++ closed) := hafter.append_right closed
    List.Perm _ (here ++ closed ++ opened') := by
      rw [List.append_assoc, List.append_assoc]
      exact List.perm_append_comm.append_left here
    List.Perm _ (before ++ opened ++ opened') := hbefore.append_right opened'
    _ = before ++ (opened ++ opened') := List.append_assoc _ _ _

def Hand.Tidies (calls : List (Event ς)) : Hand ς → Prop
  | spoilt session => ∃ before event, calls = before ++ [event] ∧ Tidy before ∧
      event.spoilt? = some session
  | empty | holding _ | closed _ => Tidy calls

structure Course (start : Worker δ ς) (calls : List (Event ς)) (worker : Worker δ ς) : Prop where
  slot_eq : worker.state.1.slot = start.state.1.slot
  recorded : worker.state.2.events = start.state.2.events ++ calls
  here : ∀ event ∈ calls, event.slot = start.state.1.slot
  placed : (worker.state.1.pool.idle ++ worker.hand.sessions ++ closings calls).Perm
    (start.state.1.pool.idle ++ start.hand.sessions ++ openings calls)
  used : ∀ event ∈ calls, ∀ session, event.call.session? = some session →
    session ∈ start.state.1.pool.idle ++ start.hand.sessions ++ openings calls
  retired : (start.state.1.pool.idle ++ start.hand.sessions ++ openings calls).Nodup →
    calls.Pairwise Event.Apart
  tidies : start.hand = .empty → worker.hand.Tidies calls

namespace Course

variable {device : Device δ ς} {config : ModuleConfig} {start : Worker δ ς}
  {calls : List (Event ς)} {managed managed' : ManagedSlot ς} {site site' : Site δ ς}
  {hand hand' : Hand ς}

theorem refl (start : Worker δ ς) : Course start [] start where
  slot_eq := rfl
  recorded := (List.append_nil _).symm
  here := by simp
  placed := by simp [closings, openings]
  used := by simp
  retired _ := .nil
  tidies hempty := by
    rw [hempty]
    exact .nil

theorem quiet (h : Course start calls ⟨(managed, site), hand⟩)
    (hslot : managed'.slot = managed.slot) (hevents : site'.events = site.events)
    (hplaced : (managed'.pool.idle ++ hand'.sessions).Perm (managed.pool.idle ++ hand.sessions))
    (htidies : hand.Tidies calls → hand'.Tidies calls) :
    Course start (calls ++ []) ⟨(managed', site'), hand'⟩ := by
  rw [List.append_nil]
  exact {
    slot_eq := hslot.trans h.slot_eq
    recorded := hevents.trans h.recorded
    here := h.here
    placed := (hplaced.append_right _).trans h.placed
    used := h.used
    retired := h.retired
    tidies := fun hempty => htidies (h.tidies hempty) }

theorem call {event : Event ς} (h : Course start calls ⟨(managed, site), hand⟩)
    (hslot : managed'.slot = managed.slot) (hevents : site'.events = site.events ++ [event])
    (hhere : event.slot = managed.slot)
    (hsession : ∀ session, event.call.session? = some session → session ∈ hand.sessions)
    (hplaced : (managed'.pool.idle ++ hand'.sessions ++ closings [event]).Perm
      (managed.pool.idle ++ hand.sessions ++ openings [event]))
    (htidies : hand.Tidies calls → hand'.Tidies (calls ++ [event])) :
    Course start (calls ++ [event]) ⟨(managed', site'), hand'⟩ where
  slot_eq := hslot.trans h.slot_eq
  recorded := by
    have hbefore : site.events = start.state.2.events ++ calls := h.recorded
    rw [hevents, hbefore, List.append_assoc]
  here := by
    intro other hother
    rcases List.mem_append.mp hother with hold | hnew
    · exact h.here other hold
    · rw [List.mem_singleton.mp hnew, hhere]
      exact h.slot_eq
  placed := by
    rw [Event.closings_append, Event.openings_append]
    exact perm_join hplaced h.placed
  used := by
    rw [Event.openings_append, ← List.append_assoc]
    intro other hother session hcalled
    refine List.mem_append_left _ ?_
    rcases List.mem_append.mp hother with hold | hnew
    · exact h.used other hold session hcalled
    · rw [List.mem_singleton.mp hnew] at hcalled
      have hhand := hsession session hcalled
      exact h.placed.mem_iff.mp (by simp [hhand])
  retired hnodup := by
    rw [Event.openings_append, ← List.append_assoc] at hnodup
    have hbefore := (List.nodup_append.mp hnodup).1
    have hplaces := h.placed.nodup_iff.mpr hbefore
    refine List.pairwise_append.mpr ⟨h.retired hbefore, List.pairwise_singleton _ _, ?_⟩
    intro earlier hearlier last hlast session hclosed hcalled
    rw [List.mem_singleton.mp hlast] at hcalled
    have hhand : session ∈ managed.pool.idle ++ hand.sessions :=
      List.mem_append_right _ (hsession session hcalled)
    have hgone := Event.mem_closings hearlier hclosed
    exact (List.nodup_append.mp hplaces).2.2 session hhand session hgone rfl
  tidies hempty := htidies (h.tidies hempty)

theorem step {worker next : Worker δ ς} (h : Course start calls worker)
    (hstep : Step device config worker next) : ∃ more, Course start (calls ++ more) next := by
  have hkept {event : Event ς} (hspoilt : event.spoilt? = none) (hclosed : event.closed? = none)
      (htidy : Tidy calls) : Tidy (calls ++ [event]) := htidy.append (.keep hspoilt hclosed .nil)
  cases hstep with
  | lend hidle =>
    refine ⟨[], h.quiet rfl rfl ?_ id⟩
    rw [hidle]
    simp [Hand.sessions]
  | opened hidle hroom hcall =>
    refine ⟨_, h.call rfl (events_of_call hcall) rfl (by simp [Call.session?]) ?_ (hkept rfl rfl)⟩
    change (_ ++ [_] ++ []).Perm (_ ++ [] ++ [_])
    simp
  | notOpened _ _ hcall | told _ hcall | untold _ hcall =>
    exact ⟨_, h.call rfl (events_of_call hcall) rfl (by simp [Call.session?]) (.refl _)
      (hkept rfl rfl)⟩
  | findKey | publicKey =>
    exact ⟨_, h.call rfl rfl rfl (by simp [Call.session?, Hand.sessions]) (.refl _)
      (hkept rfl rfl)⟩
  | sign hsession hsigning hallowed hknown hmem hcall hspared =>
    refine ⟨_, h.call rfl (events_of_call hcall) rfl ?_ ?_
      (hkept (Event.spoilt_of_spared hspared) (Event.closed_of_signing hsigning))⟩
    · intro session hsame
      simpa [Hand.sessions] using Option.some.inj (hsame.symm.trans hsession)
    · rw [Event.openings_of_session hsession, Event.closings_of_signing hsigning]
  | spoil hsession hsigning hallowed hknown hmem hcall hkind =>
    refine ⟨_, h.call rfl (events_of_call hcall) rfl ?_ ?_ fun htidy => ?_⟩
    · intro session hsame
      simpa [Hand.sessions] using Option.some.inj (hsame.symm.trans hsession)
    · rw [Event.openings_of_session hsession, Event.closings_of_signing hsigning]
      exact .refl _
    · exact ⟨_, _, rfl, htidy, Event.spoilt_of_failure hsession hsigning rfl hkind⟩
  | giveBack =>
    refine ⟨[], h.quiet rfl rfl ?_ id⟩
    change (_ :: _ ++ []).Perm (_ ++ [_])
    rw [List.append_nil]
    exact (List.perm_append_singleton _ _).symm
  | close =>
    refine ⟨_, h.call rfl rfl rfl (by simp [Call.session?, Hand.sessions]) ?_ ?_⟩
    · change (_ ++ [] ++ [_]).Perm (_ ++ [_] ++ [])
      simp
    · rintro ⟨before, event, hcalls, htidy, hspoilt⟩
      rw [hcalls, List.append_assoc]
      exact htidy.append (.drop hspoilt rfl .nil)
  | free | handles | salts | warn => exact ⟨[], h.quiet rfl rfl (.refl _) id⟩

end Course

variable {device : Device δ ς} {config : ModuleConfig}

theorem Steps.course {start worker : Worker δ ς} (h : Steps device config start worker) :
    ∃ calls, Course start calls worker := by
  induction h with
  | refl => exact ⟨[], .refl start⟩
  | tail _ hstep ih =>
    obtain ⟨calls, hcourse⟩ := ih
    obtain ⟨more, hnext⟩ := hcourse.step hstep
    exact ⟨calls ++ more, hnext⟩

structure Counts (lent : Nat) (worker : Worker δ ς) : Prop where
  opened : worker.state.1.pool.opened =
    worker.state.1.pool.idle.length + lent + worker.hand.places
  bounded : worker.state.1.pool.opened ≤ worker.state.1.pool.capacity

theorem Step.counts {lent : Nat} {worker next : Worker δ ς} (h : Step device config worker next)
    (hcounts : Counts lent worker) : Counts lent next := by
  obtain ⟨hopened, hbounded⟩ := hcounts
  cases h with
  | lend hidle =>
    simp only [hidle, List.length_cons, Hand.places] at hopened
    exact ⟨by simp only [Hand.places]; omega, hbounded⟩
  | opened hidle hroom hcall =>
    exact ⟨by simp only [Hand.places] at hopened ⊢; omega, hroom⟩
  | giveBack =>
    simp only [Hand.places] at hopened
    exact ⟨by simp only [Pool.giveBack, List.length_cons, Hand.places]; omega, hbounded⟩
  | free =>
    simp only [Hand.places] at hopened
    refine ⟨?_, Nat.le_trans (Nat.sub_le _ _) hbounded⟩
    simp only [Pool.freePlace, Hand.places]
    omega
  | notOpened | findKey | publicKey | sign | spoil | close | told | untold | handles | salts
  | warn => exact ⟨hopened, hbounded⟩

theorem Steps.counts {lent : Nat} {worker next : Worker δ ς} (h : Steps device config worker next)
    (hcounts : Counts lent worker) : Counts lent next := by
  induction h with
  | refl => exact hcounts
  | tail _ hstep ih => exact hstep.counts ih

end ManagedSlot

end TokenSigner
