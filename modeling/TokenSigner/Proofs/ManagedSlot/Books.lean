import TokenSigner.Proofs.ManagedSlot.Course
import TokenSigner.Proofs.TokenModule.Everywhere

namespace TokenSigner

namespace Event

variable {ς : Type}

def on (slot : SlotIdentifier) (events : List (Event ς)) : List (Event ς) :=
  events.filter (·.slot == slot)

theorem on_append (slot : SlotIdentifier) (events more : List (Event ς)) :
    on slot (events ++ more) = on slot events ++ on slot more :=
  List.filter_append _ _

theorem on_eq_self {slot : SlotIdentifier} {events : List (Event ς)}
    (h : ∀ event ∈ events, event.slot = slot) : on slot events = events := by
  refine List.filter_eq_self.mpr fun event hevent => ?_
  simp [h event hevent]

theorem on_eq_nil {slot other : SlotIdentifier} {events : List (Event ς)}
    (h : ∀ event ∈ events, event.slot = other) (hne : slot ≠ other) : on slot events = [] := by
  refine List.filter_eq_nil_iff.mpr fun event hevent => ?_
  simp [h event hevent, hne.symm]

end Event

namespace ManagedSlot

open Event (Apart openings closings)

variable {δ ς : Type} {device : Device δ ς} {config : ModuleConfig}

structure Books (past log : List (Event ς)) (scene : Scene δ ς) : Prop where
  recorded : scene.state.2.events = past ++ log
  counts : Counts scene.lent.length ⟨scene.state, .empty⟩
  placed : (scene.state.1.pool.idle ++ scene.lent ++
    closings (Event.on scene.state.1.slot log)).Perm (openings (Event.on scene.state.1.slot log))

variable {past log calls : List (Event ς)}

theorem Books.gone {scene : Scene δ ς} (h : Books past log scene)
    (hnodup : (openings (Event.on scene.state.1.slot log)).Nodup) {session : ς}
    (hclosed : session ∈ closings (Event.on scene.state.1.slot log)) :
    session ∉ scene.state.1.pool.idle ∧ session ∉ scene.lent := by
  have hapart := (List.nodup_append.mp (h.placed.nodup_iff.mpr hnodup)).2.2
  constructor
  · intro hidle
    exact hapart session (List.mem_append_left _ hidle) session hclosed rfl
  · intro hlent
    exact hapart session (List.mem_append_right _ hlent) session hclosed rfl

theorem Books.perm {state : ManagedSlot ς × Site δ ς} {lent lent' : List ς}
    (h : Books past log ⟨state, lent⟩) (hperm : lent.Perm lent') :
    Books past log ⟨state, lent'⟩ where
  recorded := h.recorded
  counts := by
    have hlength := hperm.length_eq
    exact hlength ▸ h.counts
  placed := ((hperm.symm.append_left _).append_right _).trans h.placed

section Advance

variable {start next : Worker δ ς} {lent : List ς}

theorem Books.nodup_after (h : Books past log ⟨start.state, start.hand.sessions ++ lent⟩)
    (hnodup : (openings (Event.on start.state.1.slot log) ++ openings calls).Nodup) :
    (start.state.1.pool.idle ++ (start.hand.sessions ++ lent) ++
      closings (Event.on start.state.1.slot log) ++ openings calls).Nodup :=
  (h.placed.append_right _).nodup_iff.mpr hnodup

theorem Books.advance (h : Books past log ⟨start.state, start.hand.sessions ++ lent⟩)
    (hcourse : Course start calls next) (hcounts : Counts lent.length next)
    (hplaces : next.hand.places = next.hand.sessions.length) :
    Books past (log ++ calls) ⟨next.state, next.hand.sessions ++ lent⟩ := by
  have hlog : Event.on next.state.1.slot (log ++ calls) =
      Event.on start.state.1.slot log ++ calls := by
    rw [hcourse.slot_eq, Event.on_append, Event.on_eq_self hcourse.here]
  have hbefore : start.state.2.events = past ++ log := h.recorded
  refine ⟨?_, ?_, ?_⟩
  · rw [hcourse.recorded, hbefore, List.append_assoc]
  · refine ⟨?_, hcounts.bounded⟩
    have hopened := hcounts.opened
    change next.state.1.pool.opened =
      next.state.1.pool.idle.length + (next.hand.sessions ++ lent).length + 0
    rw [hopened, hplaces, List.length_append]
    omega
  · have hmoved : (next.state.1.pool.idle ++ (next.hand.sessions ++ lent) ++
        closings calls).Perm
          (start.state.1.pool.idle ++ (start.hand.sessions ++ lent) ++ openings calls) := by
      have hlent := hcourse.placed.append_right lent
      refine List.Perm.trans ?_ (hlent.trans ?_)
      · simp only [List.append_assoc]
        exact (List.perm_append_comm.append_left _).append_left _
      · simp only [List.append_assoc]
        exact (List.perm_append_comm.append_left _).append_left _
    have hplaced : (start.state.1.pool.idle ++ (start.hand.sessions ++ lent) ++
        closings (Event.on start.state.1.slot log)).Perm
          ([] ++ openings (Event.on start.state.1.slot log)) := h.placed
    rw [hlog, Event.closings_append, Event.openings_append]
    exact perm_join hmoved hplaced

theorem Books.apart (h : Books past log ⟨start.state, start.hand.sessions ++ lent⟩)
    (hcourse : Course start calls next)
    (hapart : (openings (Event.on start.state.1.slot log)).Nodup →
      (Event.on start.state.1.slot log).Pairwise Apart)
    (hnodup : (openings (Event.on start.state.1.slot log ++ calls)).Nodup) :
    (Event.on start.state.1.slot log ++ calls).Pairwise Apart := by
  rw [Event.openings_append] at hnodup
  have hall := h.nodup_after hnodup
  obtain ⟨hold, -, hnew⟩ := List.nodup_append.mp hall
  refine List.pairwise_append.mpr ⟨hapart (List.nodup_append.mp hnodup).1, ?_, ?_⟩
  · refine hcourse.retired (hall.sublist ?_)
    simp only [List.append_assoc]
    refine (List.Sublist.append_left ?_ _).append_left _
    exact (List.sublist_append_right _ _).trans (List.sublist_append_right _ _)
  · intro event hevent later hlater session hclosed hcalled
    have hgone := Event.mem_closings hevent hclosed
    rcases List.mem_append.mp (hcourse.used later hlater session hcalled) with hhere | hopened
    · refine (List.nodup_append.mp hold).2.2 session ?_ session hgone rfl
      rw [← List.append_assoc]
      exact List.mem_append_left _ hhere
    · exact hnew session (by simp [hgone]) session hopened rfl

end Advance

def Booked (past : List (Event ς)) (scene : Scene δ ς) : Prop :=
  ∃ log, Books past log scene

def Orderly (past : List (Event ς)) (site : Site δ ς) : Prop :=
  ∃ log, site.events = past ++ log ∧
    ∀ slot, (openings (Event.on slot log)).Nodup → (Event.on slot log).Pairwise Apart

theorem Deal.course {x y : Scene δ ς} (h : Deal device config x y) :
    ∃ start next calls lent, Course start calls next ∧ Steps device config start next ∧
      x = ⟨start.state, start.hand.sessions ++ lent⟩ ∧
      y = ⟨next.state, next.hand.sessions ++ lent⟩ ∧
      start.hand.places = start.hand.sessions.length ∧
      next.hand.places = next.hand.sessions.length := by
  obtain ⟨start, next, lent, hsteps, hx, hy, hstart, hnext⟩ := h.steps
  obtain ⟨calls, hcourse⟩ := hsteps.course
  exact ⟨start, next, calls, lent, hcourse, hsteps, hx, hy, hstart, hnext⟩

theorem Booked.deal {x y : Scene δ ς} (h : Deal device config x y) (hx : Booked past x) :
    Booked past y := by
  obtain ⟨start, next, calls, lent, hcourse, hsteps, rfl, rfl, hstart, hnext⟩ := h.course
  obtain ⟨log, hbooks⟩ := hx
  have hcounts : Counts lent.length start := by
    refine ⟨?_, hbooks.counts.bounded⟩
    have hopened : start.state.1.pool.opened = start.state.1.pool.idle.length +
        (start.hand.sessions ++ lent).length + 0 := hbooks.counts.opened
    rw [hopened, hstart, List.length_append]
    omega
  exact ⟨log ++ calls, hbooks.advance hcourse (hsteps.counts hcounts) hnext⟩

theorem Booked.beside {x y : Scene δ ς} {other : ManagedSlot ς} {lent : List ς}
    (h : Deal device config x y) (hother : other.slot ≠ x.state.1.slot)
    (hbooked : Booked past ⟨(other, x.state.2), lent⟩) :
    Booked past ⟨(other, y.state.2), lent⟩ := by
  obtain ⟨start, next, calls, lent', hcourse, -, rfl, rfl, -, -⟩ := h.course
  obtain ⟨log, hbooks⟩ := hbooked
  have hlog : Event.on other.slot (log ++ calls) = Event.on other.slot log := by
    rw [Event.on_append, Event.on_eq_nil hcourse.here hother, List.append_nil]
  have hbefore : start.state.2.events = past ++ log := hbooks.recorded
  refine ⟨log ++ calls, ?_, ⟨hbooks.counts.opened, hbooks.counts.bounded⟩, ?_⟩
  · rw [hcourse.recorded, hbefore, List.append_assoc]
  · rw [hlog]
    exact hbooks.placed

theorem Orderly.deal {x y : Scene δ ς} (h : Deal device config x y) (hx : Booked past x)
    (hsite : Orderly past x.state.2) : Orderly past y.state.2 := by
  obtain ⟨start, next, calls, lent, hcourse, -, rfl, rfl, -, -⟩ := h.course
  obtain ⟨log, hrecorded, horderly⟩ := hsite
  obtain ⟨log', hbooks⟩ := hx
  obtain rfl : log' = log := List.append_cancel_left (hbooks.recorded.symm.trans hrecorded)
  refine ⟨log' ++ calls, ?_, ?_⟩
  · rw [hcourse.recorded, hrecorded, List.append_assoc]
  · intro slot
    rw [Event.on_append]
    by_cases hslot : slot = start.state.1.slot
    · subst hslot
      rw [Event.on_eq_self hcourse.here]
      exact hbooks.apart hcourse (horderly _)
    · rw [Event.on_eq_nil hcourse.here hslot, List.append_nil]
      exact horderly slot

theorem lasting_booked (device : Device δ ς) (config : ModuleConfig)
    (since past : List (Event ς)) :
    Lasting device config (fun site => since <+: site.events ∧ Orderly past site)
      (Booked past) where
  site hdeal hx hsite := by
    refine ⟨?_, hsite.2.deal hdeal hx⟩
    obtain ⟨start, next, calls, lent, hcourse, -, rfl, rfl, -, -⟩ := hdeal.course
    rw [hcourse.recorded]
    exact hsite.1.trans (List.prefix_append _ _)
  deal hdeal hx := hx.deal hdeal
  beside hdeal _ hother hP := hP.beside hdeal hother
  perm hperm := by
    rintro ⟨log, hbooks⟩
    exact ⟨log, hbooks.perm hperm⟩

end ManagedSlot

end TokenSigner
