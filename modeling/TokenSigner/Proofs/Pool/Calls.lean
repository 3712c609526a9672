import Mathlib.Data.List.Basic
import Mathlib.Data.List.Nodup
import TokenSigner.Pool.Callers
import TokenSigner.Proofs.Pool.Accounting

namespace TokenSigner.Pool.Callers

open Threads (Accounts)

variable {ς : Type} [DecidableEq ς] {limit : Option Nat} {opening : Nat → Except Error ς}
  {c d : Callers ς} {act : Act ς}

def Free (c : Callers ς) (caller : Nat) : Prop :=
  caller ∉ c.asleep ∧ caller ∉ c.openings ∧ caller ∉ c.ended

inductive Deed (limit : Option Nat) (opening : Nat → Except Error ς) (c : Callers ς) :
    Act ς → Callers ς → Prop where
  | lent {caller waited : Nat} {session : ς} {idle : List ς} (hfree : c.Free caller)
      (hidle : c.threads.pool.idle = session :: idle) :
      Deed limit opening c (.look caller waited) { c with
        threads := { c.threads with
          pool := { c.threads.pool with idle }, waiting := c.threads.waiting.erase caller
          borrowed := (caller, session) :: c.threads.borrowed }
        outcomes := (caller, .lent session) :: c.outcomes }
  | reserved {caller waited : Nat} (hfree : c.Free caller) (hidle : c.threads.pool.idle = [])
      (hroom : c.threads.pool.opened < c.threads.pool.capacity) :
      Deed limit opening c (.look caller waited) { c with
        threads := { c.threads with
          pool := { c.threads.pool with opened := c.threads.pool.opened + 1 }
          waiting := c.threads.waiting.erase caller
          opening := caller :: c.threads.opening }
        openings := caller :: c.openings }
  | fellAsleep {caller waited : Nat} (hfree : c.Free caller) (hidle : c.threads.pool.idle = [])
      (hfull : c.threads.pool.capacity ≤ c.threads.pool.opened)
      (htime : limit.any (· ≤ waited) = false) :
      Deed limit opening c (.look caller waited) { c with
        threads := { c.threads with waiting := caller :: c.threads.waiting.erase caller }
        asleep := caller :: c.asleep }
  | gaveUp {caller waited : Nat} (hfree : c.Free caller) (hidle : c.threads.pool.idle = [])
      (hfull : c.threads.pool.capacity ≤ c.threads.pool.opened)
      (htime : limit.any (· ≤ waited) = true) :
      Deed limit opening c (.look caller waited) { c with
        threads := { c.threads with waiting := c.threads.waiting.erase caller }
        outcomes := (caller, .timedOut) :: c.outcomes }
  | woke {caller : Nat} (hasleep : caller ∈ c.asleep) :
      Deed limit opening c (.wake caller) { c with asleep := c.asleep.erase caller }
  | notified {caller owed : Nat} (howed : c.owed = owed + 1) (hasleep : caller ∈ c.asleep) :
      Deed limit opening c (.notify (some caller)) { c with
        owed, asleep := c.asleep.erase caller }
  | unheard {owed : Nat} (howed : c.owed = owed + 1) (hasleep : c.asleep = []) :
      Deed limit opening c (.notify none) { c with owed }
  | opened {caller : Nat} {session : ς} (hanswer : opening caller = .ok session)
      (hopening : caller ∈ c.threads.opening) (hnew : session ∉ c.threads.made) :
      Deed limit opening c (.answer caller) { c with
        threads := { c.threads with
          opening := c.threads.opening.erase caller
          borrowed := (caller, session) :: c.threads.borrowed
          made := session :: c.threads.made }
        outcomes := (caller, .lent session) :: c.outcomes }
  | notOpened {caller : Nat} {e : Error} (hanswer : opening caller = .error e)
      (hopening : caller ∈ c.threads.opening) :
      Deed limit opening c (.answer caller) { c with
        threads := { c.threads with
          opening := c.threads.opening.erase caller, pool := c.threads.pool.freePlace }
        owed := c.owed + 1
        outcomes := (caller, .failed e) :: c.outcomes }
  | gaveBack {holder : Nat} {session : ς} (hloan : (holder, session) ∈ c.threads.borrowed) :
      Deed limit opening c (.giveBack holder session) { c with
        threads := { c.threads with
          borrowed := c.threads.borrowed.erase (holder, session)
          pool := c.threads.pool.giveBack session }
        owed := c.owed + 1 }
  | discarded {holder : Nat} {session : ς} (hloan : (holder, session) ∈ c.threads.borrowed) :
      Deed limit opening c (.discard holder session) { c with
        threads := { c.threads with
          borrowed := c.threads.borrowed.erase (holder, session)
          pool := c.threads.pool.freePlace, closed := session :: c.threads.closed }
        owed := c.owed + 1 }

theorem deed_of_step (h : c.step limit opening act = some d) : Deed limit opening c act d := by
  cases act with
  | look caller waited =>
    simp only [step] at h
    split at h
    · cases h
    · next hbusy =>
      simp only [not_or] at hbusy
      obtain ⟨threads, hthreads, rfl⟩ := Option.map_eq_some_iff.mp h
      simp only [Threads.step] at hthreads
      rcases attempt_cases c.threads.pool limit waited with
        ⟨session, idle, hidle, he⟩ | ⟨hidle, hroom, he⟩ |
        ⟨hidle, hfull, ⟨htime, he⟩ | ⟨htime, he⟩⟩
      · rw [he] at hthreads ⊢
        cases hthreads
        exact .lent hbusy hidle
      · rw [he] at hthreads ⊢
        cases hthreads
        exact .reserved hbusy hidle hroom
      · rw [he] at hthreads ⊢
        cases hthreads
        exact .gaveUp hbusy hidle hfull htime
      · rw [he] at hthreads ⊢
        cases hthreads
        exact .fellAsleep hbusy hidle hfull htime
  | wake caller =>
    simp only [step] at h
    obtain ⟨hasleep, h⟩ := Option.ite_none_right_eq_some.mp h
    cases h
    exact .woke hasleep
  | notify caller =>
    simp only [step] at h
    split at h
    · cases h
    · next owed caller howed =>
      obtain ⟨hasleep, h⟩ := Option.ite_none_right_eq_some.mp h
      cases h
      exact .notified howed hasleep
    · next owed howed =>
      obtain ⟨hasleep, h⟩ := Option.ite_none_right_eq_some.mp h
      cases h
      exact .unheard howed hasleep
  | answer caller =>
    simp only [step] at h
    split at h
    · next session hanswer =>
      obtain ⟨threads, hthreads, rfl⟩ := Option.map_eq_some_iff.mp h
      obtain ⟨⟨hopening, hnew⟩, hthreads⟩ := Option.ite_none_right_eq_some.mp hthreads
      cases hthreads
      exact .opened hanswer hopening hnew
    · next e hanswer =>
      obtain ⟨threads, hthreads, rfl⟩ := Option.map_eq_some_iff.mp h
      obtain ⟨hopening, hthreads⟩ := Option.ite_none_right_eq_some.mp hthreads
      cases hthreads
      exact .notOpened hanswer hopening
  | giveBack holder session =>
    obtain ⟨threads, hthreads, rfl⟩ := Option.map_eq_some_iff.mp h
    obtain ⟨hloan, hthreads⟩ := Option.ite_none_right_eq_some.mp hthreads
    cases hthreads
    exact .gaveBack hloan
  | discard holder session =>
    obtain ⟨threads, hthreads, rfl⟩ := Option.map_eq_some_iff.mp h
    obtain ⟨hloan, hthreads⟩ := Option.ite_none_right_eq_some.mp hthreads
    cases hthreads
    exact .discarded hloan

theorem free_of_look {a waited : Nat} (h : Deed limit opening c (.look a waited) d) : c.Free a := by
  cases h with
  | lent hfree | reserved hfree | fellAsleep hfree | gaveUp hfree => exact hfree

theorem opening_of_answer {a : Nat} (h : Deed limit opening c (.answer a) d) :
    a ∈ c.threads.opening := by
  cases h with
  | opened _ hopening | notOpened _ hopening => exact hopening

theorem turn_of_deed (h : Deed limit opening c act d) :
    d.threads = c.threads ∨ ∃ s, Threads.Turn c.threads s d.threads := by
  cases h with
  | lent hfree hidle => exact Or.inr ⟨.ask _ 0, .lent hidle⟩
  | reserved hfree hidle hroom => exact Or.inr ⟨.ask _ 0, .reserved hidle hroom⟩
  | fellAsleep hfree hidle hfull htime => exact Or.inr ⟨.ask 0 0, .left hidle hfull⟩
  | gaveUp hfree hidle hfull htime => exact Or.inr ⟨.ask 0 0, .left hidle hfull⟩
  | woke | notified | unheard => exact Or.inl rfl
  | opened hanswer hopening hnew => exact Or.inr ⟨_, .opened hopening hnew⟩
  | notOpened hanswer hopening => exact Or.inr ⟨_, .notOpened hopening⟩
  | gaveBack hloan => exact Or.inr ⟨_, .giveBack hloan⟩
  | discarded hloan => exact Or.inr ⟨_, .discard hloan⟩

theorem accounts_deed (ha : Accounts c.threads) (h : Deed limit opening c act d) :
    Accounts d.threads := by
  rcases turn_of_deed h with heq | ⟨s, hturn⟩
  · rwa [heq]
  · exact Threads.accounts_turn ha hturn

structure Roster (asleep waiting opening openings : List Nat) (outcomes : List (Nat × Outcome ς)) :
    Prop where
  sleepers : asleep.Nodup ∧ ∀ a ∈ asleep, a ∈ waiting
  waiters : waiting.Nodup ∧ ∀ a ∈ waiting, a ∉ openings ∧ a ∉ outcomes.map Prod.fst
  openers : opening.Nodup ∧ ∀ a ∈ opening, a ∈ openings ∧ a ∉ outcomes.map Prod.fst
  openedOnce : openings.Nodup
  endedOnce : (outcomes.map Prod.fst).Nodup
  timedOut : ∀ a, (a, .timedOut) ∈ outcomes → a ∉ openings

section Roster

omit [DecidableEq ς]

variable {asleep waiting opening openings : List Nat} {outcomes : List (Nat × Outcome ς)}
  {caller : Nat} {outcome : Outcome ς}

theorem Roster.sleepers_fit (h : Roster asleep waiting opening openings outcomes)
    (hasleep : caller ∉ asleep) : ∀ a ∈ asleep, a ∈ waiting.erase caller := by
  intro a ha
  have hne : a ≠ caller := fun heq => hasleep (heq ▸ ha)
  exact (List.mem_erase_of_ne hne).mpr (h.sleepers.2 a ha)

theorem Roster.waiter_left (h : Roster asleep waiting opening openings outcomes) {a : Nat}
    (ha : a ∈ waiting.erase caller) : a ≠ caller ∧ a ∈ waiting :=
  (h.waiters.1.mem_erase_iff).mp ha

theorem Roster.ends (h : Roster asleep waiting opening openings outcomes)
    (hasleep : caller ∉ asleep) (hopenings : caller ∉ openings)
    (hended : caller ∉ outcomes.map Prod.fst) :
    Roster asleep (waiting.erase caller) opening openings ((caller, outcome) :: outcomes) where
  sleepers := ⟨h.sleepers.1, h.sleepers_fit hasleep⟩
  waiters := by
    refine ⟨h.waiters.1.erase caller, fun a ha => ?_⟩
    obtain ⟨hne, ha⟩ := h.waiter_left ha
    exact ⟨(h.waiters.2 a ha).1, List.not_mem_cons_of_ne_of_not_mem hne (h.waiters.2 a ha).2⟩
  openers := by
    refine ⟨h.openers.1, fun a ha => ?_⟩
    have hne : a ≠ caller := fun heq => hopenings (heq ▸ (h.openers.2 a ha).1)
    exact ⟨(h.openers.2 a ha).1, List.not_mem_cons_of_ne_of_not_mem hne (h.openers.2 a ha).2⟩
  openedOnce := h.openedOnce
  endedOnce := List.nodup_cons.mpr ⟨hended, h.endedOnce⟩
  timedOut := by
    intro a ha
    rcases List.mem_cons.mp ha with heq | ha
    · cases heq
      exact hopenings
    · exact h.timedOut a ha

theorem Roster.opens (h : Roster asleep waiting opening openings outcomes)
    (hasleep : caller ∉ asleep) (hopenings : caller ∉ openings)
    (hended : caller ∉ outcomes.map Prod.fst) :
    Roster asleep (waiting.erase caller) (caller :: opening) (caller :: openings) outcomes where
  sleepers := ⟨h.sleepers.1, h.sleepers_fit hasleep⟩
  waiters := by
    refine ⟨h.waiters.1.erase caller, fun a ha => ?_⟩
    obtain ⟨hne, ha⟩ := h.waiter_left ha
    exact ⟨List.not_mem_cons_of_ne_of_not_mem hne (h.waiters.2 a ha).1, (h.waiters.2 a ha).2⟩
  openers := by
    constructor
    · exact List.nodup_cons.mpr ⟨fun ha => hopenings (h.openers.2 caller ha).1, h.openers.1⟩
    · intro a ha
      rcases List.mem_cons.mp ha with rfl | ha
      · exact ⟨List.mem_cons_self, hended⟩
      · exact ⟨List.mem_cons_of_mem caller (h.openers.2 a ha).1, (h.openers.2 a ha).2⟩
  openedOnce := List.nodup_cons.mpr ⟨hopenings, h.openedOnce⟩
  endedOnce := h.endedOnce
  timedOut := by
    intro a ha
    have hne : a ≠ caller := fun heq => hended (heq ▸ List.mem_map_of_mem ha)
    exact List.not_mem_cons_of_ne_of_not_mem hne (h.timedOut a ha)

theorem Roster.sleeps (h : Roster asleep waiting opening openings outcomes)
    (hasleep : caller ∉ asleep) (hopenings : caller ∉ openings)
    (hended : caller ∉ outcomes.map Prod.fst) :
    Roster (caller :: asleep) (caller :: waiting.erase caller) opening openings outcomes where
  sleepers := by
    refine ⟨List.nodup_cons.mpr ⟨hasleep, h.sleepers.1⟩, fun a ha => ?_⟩
    rcases List.mem_cons.mp ha with rfl | ha
    · exact List.mem_cons_self
    · exact List.mem_cons_of_mem caller (h.sleepers_fit hasleep a ha)
  waiters := by
    constructor
    · exact List.nodup_cons.mpr ⟨h.waiters.1.not_mem_erase, h.waiters.1.erase caller⟩
    · intro a ha
      rcases List.mem_cons.mp ha with rfl | ha
      · exact ⟨hopenings, hended⟩
      · exact h.waiters.2 a (List.mem_of_mem_erase ha)
  openers := h.openers
  openedOnce := h.openedOnce
  endedOnce := h.endedOnce
  timedOut := h.timedOut

theorem Roster.wakes (h : Roster asleep waiting opening openings outcomes) (caller : Nat) :
    Roster (asleep.erase caller) waiting opening openings outcomes :=
  { h with
    sleepers := ⟨h.sleepers.1.erase caller, fun a ha =>
      h.sleepers.2 a (List.mem_of_mem_erase ha)⟩ }

theorem Roster.concludes (h : Roster asleep waiting opening openings outcomes)
    (hcaller : caller ∈ opening) (houtcome : outcome ≠ .timedOut) :
    Roster asleep waiting (opening.erase caller) openings ((caller, outcome) :: outcomes) where
  sleepers := h.sleepers
  waiters := by
    refine ⟨h.waiters.1, fun a ha => ?_⟩
    have hne : a ≠ caller := fun heq =>
      (h.waiters.2 a ha).1 (heq ▸ (h.openers.2 caller hcaller).1)
    exact ⟨(h.waiters.2 a ha).1, List.not_mem_cons_of_ne_of_not_mem hne (h.waiters.2 a ha).2⟩
  openers := by
    refine ⟨h.openers.1.erase caller, fun a ha => ?_⟩
    obtain ⟨hne, ha⟩ := (h.openers.1.mem_erase_iff).mp ha
    exact ⟨(h.openers.2 a ha).1, List.not_mem_cons_of_ne_of_not_mem hne (h.openers.2 a ha).2⟩
  openedOnce := h.openedOnce
  endedOnce := List.nodup_cons.mpr ⟨(h.openers.2 caller hcaller).2, h.endedOnce⟩
  timedOut := by
    intro a ha
    rcases List.mem_cons.mp ha with heq | ha
    · cases heq
      exact absurd rfl houtcome
    · exact h.timedOut a ha

end Roster

structure Orderly (opening : Nat → Except Error ς) (c : Callers ς) : Prop where
  accounts : Accounts c.threads
  capacity : 0 < c.threads.pool.capacity
  roster : Roster c.asleep c.threads.waiting c.threads.opening c.openings c.outcomes
  answered : ∀ session ∈ c.threads.made, ∃ a ∈ c.ended, opening a = .ok session
  heard : c.asleep ≠ [] →
    c.threads.pool.idle.length + (c.threads.pool.capacity - c.threads.pool.opened) +
      c.asleep.length ≤ c.threads.waiting.length + c.owed

omit [DecidableEq ς] in
theorem orderly_start (capacity : Nat) : Orderly opening (start capacity : Callers ς) where
  accounts := Threads.accounts_start capacity
  capacity := Nat.lt_of_lt_of_le Nat.one_pos (Nat.le_max_right capacity 1)
  roster := by constructor <;> simp [start, Threads.start]
  answered := by simp [start, Threads.start]
  heard := fun h => absurd rfl h

theorem roster_deed
    (h : Roster c.asleep c.threads.waiting c.threads.opening c.openings c.outcomes)
    (hdeed : Deed limit opening c act d) :
    Roster d.asleep d.threads.waiting d.threads.opening d.openings d.outcomes := by
  cases hdeed with
  | lent hfree => exact h.ends hfree.1 hfree.2.1 hfree.2.2
  | gaveUp hfree => exact h.ends hfree.1 hfree.2.1 hfree.2.2
  | reserved hfree => exact h.opens hfree.1 hfree.2.1 hfree.2.2
  | fellAsleep hfree => exact h.sleeps hfree.1 hfree.2.1 hfree.2.2
  | woke | notified => exact h.wakes _
  | opened hanswer hopening => exact h.concludes hopening nofun
  | notOpened hanswer hopening => exact h.concludes hopening nofun
  | unheard | gaveBack | discarded => exact h

theorem outcomes_deed (hdeed : Deed limit opening c act d) :
    ∀ outcome ∈ c.outcomes, outcome ∈ d.outcomes := by
  intro outcome h
  cases hdeed with
  | lent | gaveUp | opened | notOpened => exact List.mem_cons_of_mem _ h
  | reserved | fellAsleep | woke | notified | unheard | gaveBack | discarded => exact h

theorem openings_deed (hdeed : Deed limit opening c act d) : ∀ a ∈ c.openings, a ∈ d.openings := by
  intro a h
  cases hdeed with
  | reserved => exact List.mem_cons_of_mem _ h
  | lent | fellAsleep | gaveUp | woke | notified | unheard | opened | notOpened | gaveBack
  | discarded => exact h

theorem answered_deed (h : ∀ session ∈ c.threads.made, ∃ a ∈ c.ended, opening a = .ok session)
    (hdeed : Deed limit opening c act d) :
    ∀ session ∈ d.threads.made, ∃ a ∈ d.ended, opening a = .ok session := by
  intro session hmade
  have hearlier (hmade : session ∈ c.threads.made) : ∃ a ∈ d.ended, opening a = .ok session := by
    obtain ⟨a, ha, hanswer⟩ := h session hmade
    exact ⟨a, List.map_subset Prod.fst (outcomes_deed hdeed) ha, hanswer⟩
  cases hdeed with
  | opened hanswer =>
    rcases List.mem_cons.mp hmade with rfl | hmade
    · exact ⟨_, List.mem_cons_self, hanswer⟩
    · exact hearlier hmade
  | lent | reserved | fellAsleep | gaveUp | woke | notified | unheard | notOpened | gaveBack
  | discarded => exact hearlier hmade

theorem heard_deed (h : Orderly opening c) (hdeed : Deed limit opening c act d)
    (hasleep : d.asleep ≠ []) :
    d.threads.pool.idle.length + (d.threads.pool.capacity - d.threads.pool.opened) +
      d.asleep.length ≤ d.threads.waiting.length + d.owed := by
  have hbounded := h.accounts.bounded
  have hsleepers {caller : Nat} (hcaller : caller ∉ c.asleep) :
      c.asleep.length ≤ (c.threads.waiting.erase caller).length :=
    (List.subperm_of_subset h.roster.sleepers.1 (h.roster.sleepers_fit hcaller)).length_le
  cases hdeed with
  | @lent caller waited session idle hfree hidle =>
    have hheard := h.heard hasleep
    have herase := List.le_length_erase (l := c.threads.waiting) (a := caller)
    simp only [hidle, List.length_cons] at hheard ⊢
    omega
  | @reserved caller waited hfree hidle hroom =>
    have hheard := h.heard hasleep
    have herase := List.le_length_erase (l := c.threads.waiting) (a := caller)
    simp only at hheard ⊢
    omega
  | fellAsleep hfree hidle hfull =>
    have hsleepers := hsleepers hfree.1
    simp only [hidle, List.length_nil, List.length_cons]
    omega
  | gaveUp hfree hidle hfull =>
    have hsleepers := hsleepers hfree.1
    simp only [hidle, List.length_nil]
    omega
  | woke hcaller =>
    have hheard := h.heard (List.ne_nil_of_mem hcaller)
    have herase := List.length_erase_add_one hcaller
    simp only
    omega
  | notified howed hcaller =>
    have hheard := h.heard (List.ne_nil_of_mem hcaller)
    have herase := List.length_erase_add_one hcaller
    simp only
    omega
  | unheard howed hnobody => exact absurd hnobody hasleep
  | opened => exact h.heard hasleep
  | notOpened =>
    have hheard := h.heard hasleep
    simp only [freePlace] at hheard ⊢
    omega
  | gaveBack =>
    have hheard := h.heard hasleep
    simp only [Pool.giveBack, List.length_cons] at hheard ⊢
    omega
  | discarded =>
    have hheard := h.heard hasleep
    simp only [freePlace] at hheard ⊢
    omega

theorem orderly_deed (h : Orderly opening c) (hdeed : Deed limit opening c act d) :
    Orderly opening d where
  accounts := accounts_deed h.accounts hdeed
  capacity := by
    rcases turn_of_deed hdeed with heq | ⟨s, hturn⟩
    · exact heq ▸ h.capacity
    · exact Threads.capacity_turn hturn ▸ h.capacity
  roster := roster_deed h.roster hdeed
  answered := answered_deed h.answered hdeed
  heard := heard_deed h hdeed

theorem orderly_run {acts : List (Act ς)} (h : Orderly opening c)
    (hr : c.run limit opening acts = some d) : Orderly opening d := by
  induction acts generalizing c with
  | nil =>
    cases hr
    exact h
  | cons act rest ih =>
    obtain ⟨e, hs, hr⟩ := Option.bind_eq_some_iff.mp hr
    exact ih (orderly_deed h (deed_of_step hs)) hr

theorem kept_run {acts : List (Act ς)} (hr : c.run limit opening acts = some d) :
    (∀ outcome ∈ c.outcomes, outcome ∈ d.outcomes) ∧ ∀ a ∈ c.openings, a ∈ d.openings := by
  induction acts generalizing c with
  | nil =>
    cases hr
    exact ⟨fun _ h => h, fun _ h => h⟩
  | cons act rest ih =>
    obtain ⟨e, hs, hr⟩ := Option.bind_eq_some_iff.mp hr
    obtain ⟨houtcomes, hopenings⟩ := ih hr
    have hdeed := deed_of_step hs
    exact ⟨fun outcome h => houtcomes outcome (outcomes_deed hdeed outcome h),
      fun a h => hopenings a (openings_deed hdeed a h)⟩

end TokenSigner.Pool.Callers
