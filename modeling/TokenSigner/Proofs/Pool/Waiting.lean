import Mathlib.Data.List.Basic
import Mathlib.Data.List.Nodup
import TokenSigner.Proofs.Pool.Calls

namespace TokenSigner.Pool

def Exhausted {ς : Type} (pool : Pool ς) : Prop :=
  pool.idle = [] ∧ pool.opened = pool.capacity

theorem Exhausted.room {ς : Type} {pool : Pool ς} (h : pool.Exhausted) (hopened : 0 < pool.opened) :
    pool.freePlace.opened < pool.freePlace.capacity := by
  simp only [freePlace, ← h.2]
  omega

theorem retake {ς : Type} {pool : Pool ς} (hopened : 0 < pool.opened) :
    { pool.freePlace with opened := pool.freePlace.opened + 1 } = pool := by
  simp only [freePlace, Nat.sub_add_cancel hopened]

theorem acquire_exhausted {ς τ : Type} {pool : Pool ς} (h : pool.Exhausted)
    (slot : SlotIdentifier) (limit : Option Nat) (action : Action τ ς) (s : τ) :
    (acquire slot limit action).run (pool, s) = (.error (.sessionTimeout slot), (pool, s)) := by
  rcases acquire_cases slot limit action pool s with
    ⟨session, idle, hidle, -⟩ | ⟨-, hroom, -⟩ | ⟨-, -, hrun⟩
  · rw [h.1] at hidle
    cases hidle
  · exact absurd h.2 (Nat.ne_of_lt hroom)
  · exact hrun

theorem acquireBeside_exhausted {ς τ : Type} {pool : Pool ς} (h : pool.Exhausted)
    (slot : SlotIdentifier) {limit : Option Nat} (htime : limit.any (· ≤ 0) = false)
    (action : Action τ ς) (other : Pool ς → Pool ς) (s : τ) :
    (acquireBeside slot limit action other).run (pool, s) =
      (acquire slot limit action).run (other pool, s) := by
  have hwait : pool.attempt limit 0 = .wait := by
    rw [attempt, h.1]
    simp only [h.2, Nat.lt_irrefl, if_false, htime, Bool.false_eq_true]
  simp only [Action.run, acquireBeside, hwait]

theorem acquireBeside_giveBack {ς τ : Type} {pool : Pool ς} (h : pool.Exhausted)
    (slot : SlotIdentifier) {limit : Option Nat} (htime : limit.any (· ≤ 0) = false)
    (action : Action τ ς) (session : ς) (s : τ) :
    (acquireBeside slot limit action (·.giveBack session)).run (pool, s) =
      (.ok session, (pool, s)) := by
  rw [acquireBeside_exhausted h slot htime]
  rfl

theorem acquireBeside_freePlace {ς τ : Type} {pool : Pool ς} (h : pool.Exhausted)
    (hopened : 0 < pool.opened) (slot : SlotIdentifier) {limit : Option Nat}
    (htime : limit.any (· ≤ 0) = false) (action : Action τ ς) (s : τ) :
    (acquireBeside slot limit action freePlace).run (pool, s) =
      match action.run s with
      | (.ok session, t) => (.ok session, (pool, t))
      | (.error e, t) => (.error e, (pool.freePlace, t)) := by
  rw [acquireBeside_exhausted h slot htime]
  rcases acquire_cases slot limit action pool.freePlace s with
    ⟨session, idle, hidle, -⟩ |
    ⟨-, -, ⟨session, t, haction, hrun⟩ | ⟨e, t, haction, hrun⟩⟩ | ⟨-, hfull, -⟩
  · rw [show pool.freePlace.idle = [] from h.1] at hidle
    cases hidle
  · rw [hrun, haction, retake hopened]
  · rw [hrun, haction]
  · exact absurd (h.room hopened) (Nat.not_lt.mpr hfull)

namespace Callers

variable {ς : Type} [DecidableEq ς] {limit : Option Nat} {opening : Nat → Except Error ς}
  {c d : Callers ς} {act : Act ς} {w : Nat} {pool : Pool ς} {goal : Callers ς → Prop}

def Act.Spares (opening : Nat → Except Error ς) (w : Nat) : Act ς → Prop
  | .look caller _ => caller = w
  | .wake _ | .notify _ => True
  | .answer caller => caller = w ∨ ∃ session, opening caller = .ok session
  | .giveBack _ _ | .discard _ _ => False

-- nobody can count on waking up without a notification
def Act.Due : Act ς → Prop
  | .wake _ => False
  | .look _ _ | .notify _ | .answer _ | .giveBack _ _ | .discard _ _ => True

-- the goal is reached in whatever order the acts that spare the caller come
inductive Certain (limit : Option Nat) (opening : Nat → Except Error ς) (w : Nat)
    (goal : Callers ς → Prop) : Callers ς → Prop where
  | now {c : Callers ς} (hgoal : goal c) : Certain limit opening w goal c
  | later {c : Callers ς}
      (hdue : ∃ act d, act.Due ∧ act.Spares opening w ∧ c.step limit opening act = some d)
      (hall : ∀ act d, act.Spares opening w → c.step limit opening act = some d →
        Certain limit opening w goal d) : Certain limit opening w goal c

def pending (c : Callers ς) : Nat :=
  c.asleep.length + c.owed + c.threads.opening.length

theorem certain_of_stage (stage : Callers ς → Prop)
    (hdue : ∀ c, stage c →
      ∃ act d, act.Due ∧ act.Spares opening w ∧ c.step limit opening act = some d)
    (hdeed : ∀ c act d, stage c → act.Spares opening w → Deed limit opening c act d →
      Certain limit opening w goal d ∨ stage d ∧ d.pending < c.pending)
    (c : Callers ς) (h : stage c) : Certain limit opening w goal c := by
  induction hn : c.pending using Nat.strongRecOn generalizing c with
  | ind n ih =>
    refine .later (hdue c h) fun act d hspares hs => ?_
    rcases hdeed c act d h hspares (deed_of_step hs) with hcertain | ⟨hd, hless⟩
    · exact hcertain
    · exact ih d.pending (hn ▸ hless) d hd rfl

theorem spared_deed (hspares : act.Spares opening w) (hdeed : Deed limit opening c act d) :
    (∃ waited, act = .look w waited) ∨ act = .answer w ∨
      d.threads.pool = c.threads.pool ∧ d.threads.waiting = c.threads.waiting ∧
        (w ∈ c.threads.opening → w ∈ d.threads.opening) ∧ d.pending < c.pending := by
  cases hdeed with
  | @lent _ waited | @reserved _ waited | @fellAsleep _ waited | @gaveUp _ waited =>
    exact Or.inl ⟨waited, by rw [show _ = w from hspares]⟩
  | woke hasleep =>
    have herase := List.length_erase_add_one hasleep
    refine Or.inr (Or.inr ⟨rfl, rfl, id, ?_⟩)
    simp only [pending]
    omega
  | notified howed hasleep =>
    have herase := List.length_erase_add_one hasleep
    refine Or.inr (Or.inr ⟨rfl, rfl, id, ?_⟩)
    simp only [pending]
    omega
  | unheard howed =>
    refine Or.inr (Or.inr ⟨rfl, rfl, id, ?_⟩)
    simp only [pending]
    omega
  | @opened caller _ hanswer hopening =>
    by_cases hcaller : caller = w
    · exact Or.inr (Or.inl (by rw [hcaller]))
    · have herase := List.length_erase_add_one hopening
      refine Or.inr (Or.inr ⟨rfl, rfl, (List.mem_erase_of_ne (Ne.symm hcaller)).mpr, ?_⟩)
      simp only [pending]
      omega
  | notOpened hanswer =>
    rcases hspares with rfl | ⟨session, hsession⟩
    · exact Or.inr (Or.inl rfl)
    · rw [hsession] at hanswer
      cases hanswer
  | gaveBack | discarded => exact hspares.elim

structure NextUp (opening : Nat → Except Error ς) (w : Nat) (pool : Pool ς) (c : Callers ς) :
    Prop where
  orderly : Orderly opening c
  waiting : c.threads.waiting = [w]
  pool : c.threads.pool = pool

omit [DecidableEq ς] in
theorem NextUp.free (h : NextUp opening w pool c) (hasleep : c.asleep = []) : c.Free w := by
  have hw := h.orderly.roster.waiters.2 w (h.waiting ▸ List.mem_cons_self)
  exact ⟨hasleep ▸ List.not_mem_nil, hw.1, hw.2⟩

theorem look_of_free (hfree : c.Free w) (waited : Nat) :
    ∃ d, c.step limit opening (.look w waited) = some d := by
  have hbusy : ¬ (w ∈ c.asleep ∨ w ∈ c.openings ∨ w ∈ c.ended) := by
    simpa only [not_or, Free] using hfree
  simp only [step, if_neg hbusy, Threads.step]
  rcases attempt_cases c.threads.pool limit waited with
    ⟨session, idle, -, he⟩ | ⟨-, -, he⟩ | ⟨-, -, ⟨-, he⟩ | ⟨-, he⟩⟩ <;>
  · rw [he]
    exact ⟨_, rfl⟩

theorem NextUp.due (hroom : 0 < pool.idle.length + (pool.capacity - pool.opened))
    (h : NextUp opening w pool c) :
    ∃ act d, act.Due ∧ act.Spares opening w ∧ c.step limit opening act = some d := by
  by_cases hasleep : c.asleep = []
  · obtain ⟨d, hs⟩ := look_of_free (h.free hasleep) 0
    exact ⟨.look w 0, d, trivial, rfl, hs⟩
  · obtain ⟨a, ha⟩ := List.exists_mem_of_ne_nil _ hasleep
    have haw : a = w := List.mem_singleton.mp (h.waiting ▸ h.orderly.roster.sleepers.2 a ha)
    subst haw
    have hheard := h.orderly.heard hasleep
    have hlength := List.length_pos_of_mem ha
    rw [h.pool, h.waiting, List.length_singleton] at hheard
    obtain ⟨owed, howed⟩ : ∃ owed, c.owed = owed + 1 := ⟨c.owed - 1, by omega⟩
    refine ⟨.notify (some a), { c with owed, asleep := c.asleep.erase a }, trivial, trivial, ?_⟩
    simp only [step, howed, if_pos ha]

theorem NextUp.deed (h : NextUp opening w pool c) (hspares : act.Spares opening w)
    (hdeed : Deed limit opening c act d) :
    (∃ waited, act = .look w waited) ∨ NextUp opening w pool d ∧ d.pending < c.pending := by
  have hw := h.orderly.roster.waiters.2 w (h.waiting ▸ List.mem_cons_self)
  rcases spared_deed hspares hdeed with hlook | rfl | ⟨hpool, hwaiting, -, hless⟩
  · exact Or.inl hlook
  · have hopening := opening_of_answer hdeed
    exact absurd (h.orderly.roster.openers.2 w hopening).1 hw.1
  · exact Or.inr ⟨⟨orderly_deed h.orderly hdeed, hwaiting.trans h.waiting, hpool.trans h.pool⟩,
      hless⟩

theorem NextUp.certain (hroom : 0 < pool.idle.length + (pool.capacity - pool.opened))
    (hlook : ∀ c waited d, NextUp opening w pool c →
      Deed limit opening c (.look w waited) d → Certain limit opening w goal d)
    (h : NextUp opening w pool c) : Certain limit opening w goal c := by
  refine certain_of_stage (NextUp opening w pool) ?_ ?_ c h
  · exact fun c h => h.due hroom
  · intro c act d h hspares hdeed
    rcases h.deed hspares hdeed with ⟨waited, rfl⟩ | hnext
    · exact Or.inl (hlook c waited d h hdeed)
    · exact Or.inr hnext

def IsLent (w : Nat) (session : ς) (pool : Pool ς) (c : Callers ς) : Prop :=
  (w, .lent session) ∈ c.outcomes ∧ (w, session) ∈ c.threads.borrowed ∧ w ∉ c.openings ∧
    c.threads.pool = pool

theorem certain_lent {session : ς} (h : NextUp opening w (pool.giveBack session) c) :
    Certain limit opening w (IsLent w session pool) c := by
  refine h.certain ?_ fun c waited d h hdeed => ?_
  · simp only [Pool.giveBack, List.length_cons]
    omega
  have hidle : c.threads.pool.idle = session :: pool.idle := by rw [h.pool, Pool.giveBack]
  cases hdeed with
  | lent hfree hsame =>
    rw [hidle] at hsame
    cases hsame
    exact .now ⟨List.mem_cons_self, List.mem_cons_self, hfree.2.1, by rw [h.pool, Pool.giveBack]⟩
  | reserved _ hnone | fellAsleep _ hnone | gaveUp _ hnone =>
    rw [hidle] at hnone
    cases hnone

structure Opens (opening : Nat → Except Error ς) (w : Nat) (pool : Pool ς) (c : Callers ς) :
    Prop where
  orderly : Orderly opening c
  waiting : c.threads.waiting = []
  pool : c.threads.pool = pool
  place : w ∈ c.threads.opening

theorem Opens.due (hdistinct : ∀ a b session,
      opening a = .ok session → opening b = .ok session → a = b)
    (h : Opens opening w pool c) :
    ∃ act d, act.Due ∧ act.Spares opening w ∧ c.step limit opening act = some d := by
  suffices hanswers : ∃ d, c.step limit opening (.answer w) = some d by
    obtain ⟨d, hs⟩ := hanswers
    exact ⟨.answer w, d, trivial, Or.inl rfl, hs⟩
  have hw := h.orderly.roster.openers.2 w h.place
  cases hanswer : opening w with
  | error e =>
    simp only [step, hanswer, Threads.step, if_pos h.place]
    exact ⟨_, rfl⟩
  | ok session =>
    have hnew : session ∉ c.threads.made := by
      intro hmade
      obtain ⟨a, ha, hother⟩ := h.orderly.answered session hmade
      exact hw.2 (hdistinct a w session hother hanswer ▸ ha)
    simp only [step, hanswer, Threads.step, if_pos (And.intro h.place hnew)]
    exact ⟨_, rfl⟩

theorem Opens.deed (h : Opens opening w pool c) (hspares : act.Spares opening w)
    (hdeed : Deed limit opening c act d) :
    act = .answer w ∨ Opens opening w pool d ∧ d.pending < c.pending := by
  have hw := h.orderly.roster.openers.2 w h.place
  rcases spared_deed hspares hdeed with ⟨waited, rfl⟩ | hanswer | ⟨hpool, hwaiting, hplace, hless⟩
  · exact absurd hw.1 (free_of_look hdeed).2.1
  · exact Or.inl hanswer
  · exact Or.inr ⟨⟨orderly_deed h.orderly hdeed, hwaiting.trans h.waiting, hpool.trans h.pool,
      hplace h.place⟩, hless⟩

def HasOpened (opening : Nat → Except Error ς) (w : Nat) (pool : Pool ς) (c : Callers ς) : Prop :=
  c.openings.count w = 1 ∧
    ((∃ session, opening w = .ok session ∧ (w, .lent session) ∈ c.outcomes ∧
      (w, session) ∈ c.threads.borrowed ∧ c.threads.pool = pool) ∨
    ∃ e, opening w = .error e ∧ (w, .failed e) ∈ c.outcomes ∧
      c.threads.pool = pool.freePlace ∧ c.threads.pool.opened + 1 = pool.opened)

theorem certain_opened (hdistinct : ∀ a b session,
      opening a = .ok session → opening b = .ok session → a = b)
    (hopened : 0 < pool.opened) (h : Opens opening w pool c) :
    Certain limit opening w (HasOpened opening w pool) c := by
  refine certain_of_stage (Opens opening w pool) (fun c h => h.due hdistinct) ?_ c h
  intro c act d h hspares hdeed
  rcases h.deed hspares hdeed with rfl | hnext
  · have hw := h.orderly.roster.openers.2 w h.place
    have honce : c.openings.count w = 1 :=
      List.count_eq_one_of_mem h.orderly.roster.openedOnce hw.1
    left
    cases hdeed with
    | opened hanswer =>
      exact .now ⟨honce, Or.inl ⟨_, hanswer, List.mem_cons_self, List.mem_cons_self, h.pool⟩⟩
    | notOpened hanswer =>
      refine .now ⟨honce, Or.inr ⟨_, hanswer, List.mem_cons_self, by rw [h.pool], ?_⟩⟩
      simp only [h.pool, freePlace, Nat.sub_add_cancel hopened]
  · exact Or.inr hnext

theorem certain_on_free_place (hdistinct : ∀ a b session,
      opening a = .ok session → opening b = .ok session → a = b)
    (hexhausted : pool.Exhausted) (hopened : 0 < pool.opened)
    (h : NextUp opening w pool.freePlace c) :
    Certain limit opening w (HasOpened opening w pool) c := by
  have hroom := hexhausted.room hopened
  refine h.certain (by omega) fun c waited d h hdeed => ?_
  have horderly := orderly_deed h.orderly hdeed
  cases hdeed with
  | reserved =>
    have hwaiting : c.threads.waiting.erase w = [] := by
      rw [h.waiting, List.erase_cons_head]
    have hpool : { c.threads.pool with opened := c.threads.pool.opened + 1 } = pool := by
      rw [h.pool, retake hopened]
    exact certain_opened hdistinct hopened ⟨horderly, hwaiting, hpool, List.mem_cons_self⟩
  | lent _ hother =>
    rw [h.pool, show pool.freePlace.idle = [] from hexhausted.1] at hother
    cases hother
  | fellAsleep _ _ hfull | gaveUp _ _ hfull =>
    rw [h.pool] at hfull
    exact absurd hroom (Nat.not_lt.mpr hfull)

theorem gaveUp_of_deed {a : Nat} (hdeed : Deed limit opening c act d)
    (hd : (a, .timedOut) ∈ d.outcomes) (hc : (a, .timedOut) ∉ c.outcomes) :
    ∃ waited, act = .look a waited ∧ c.threads.pool.idle = [] ∧
      c.threads.pool.capacity ≤ c.threads.pool.opened ∧ limit.any (· ≤ waited) = true := by
  cases hdeed with
  | @gaveUp caller waited hfree hidle hfull htime =>
    rcases List.mem_cons.mp hd with heq | hd
    · cases heq
      exact ⟨waited, rfl, hidle, hfull, htime⟩
    · exact absurd hd hc
  | lent | opened | notOpened =>
    rcases List.mem_cons.mp hd with heq | hd
    · cases heq
    · exact absurd hd hc
  | reserved | fellAsleep | woke | notified | unheard | gaveBack | discarded => exact absurd hd hc

theorem gaveUp_of_run {acts : List (Act ς)} {a : Nat} (hr : c.run limit opening acts = some d)
    (hd : (a, .timedOut) ∈ d.outcomes) (hc : (a, .timedOut) ∉ c.outcomes) :
    ∃ before waited after e f, acts = before ++ .look a waited :: after ∧
      c.run limit opening before = some e ∧ e.step limit opening (.look a waited) = some f ∧
      f.run limit opening after = some d ∧ (a, .timedOut) ∈ f.outcomes ∧
      e.threads.pool.idle = [] ∧ e.threads.pool.capacity ≤ e.threads.pool.opened ∧
      limit.any (· ≤ waited) = true := by
  induction acts generalizing c with
  | nil =>
    cases hr
    exact absurd hd hc
  | cons act rest ih =>
    obtain ⟨f, hs, hrest⟩ := Option.bind_eq_some_iff.mp hr
    by_cases hf : (a, .timedOut) ∈ f.outcomes
    · obtain ⟨waited, rfl, hnothing⟩ := gaveUp_of_deed (deed_of_step hs) hf hc
      exact ⟨[], waited, rest, c, f, rfl, rfl, hs, hrest, hf, hnothing⟩
    · obtain ⟨before, waited, after, e, g, rfl, hbefore, hlook, hafter⟩ := ih hrest hf
      refine ⟨act :: before, waited, after, e, g, rfl, ?_, hlook, hafter⟩
      simp only [run, hs, Option.bind_some, hbefore]

theorem pool_of_look {after : List (Act ς)} {a waited : Nat} {e f : Callers ς}
    (h : Orderly opening c) (hc : (a, .timedOut) ∈ c.outcomes)
    (hs : e.step limit opening (.look a waited) = some f)
    (hr : f.run limit opening after = some c) : f.threads.pool = e.threads.pool := by
  obtain ⟨houtcomes, hopenings⟩ := kept_run hr
  cases deed_of_step hs with
  | @lent _ _ session =>
    have hlent := houtcomes (a, .lent session) List.mem_cons_self
    cases List.inj_on_of_nodup_map h.roster.endedOnce hlent hc rfl
  | reserved => exact absurd (hopenings a List.mem_cons_self) (h.roster.timedOut a hc)
  | fellAsleep | gaveUp => rfl

theorem look_takes {a : Nat} (hfree : c.Free a) (waited : Nat) :
    (∀ session idle, c.threads.pool.idle = session :: idle →
      ∃ d, c.step limit opening (.look a waited) = some d ∧ (a, .lent session) ∈ d.outcomes) ∧
    (c.threads.pool.idle = [] → c.threads.pool.opened < c.threads.pool.capacity →
      ∃ d, c.step limit opening (.look a waited) = some d ∧ a ∈ d.threads.opening) := by
  obtain ⟨d, hs⟩ : ∃ d, c.step limit opening (.look a waited) = some d :=
    look_of_free hfree waited
  constructor
  · intro session idle hidle
    refine ⟨d, hs, ?_⟩
    cases deed_of_step hs with
    | lent _ hsame =>
      rw [hidle] at hsame
      cases hsame
      exact List.mem_cons_self
    | reserved _ hnone | fellAsleep _ hnone | gaveUp _ hnone =>
      rw [hidle] at hnone
      cases hnone
  · intro hidle hroom
    refine ⟨d, hs, ?_⟩
    cases deed_of_step hs with
    | reserved => exact List.mem_cons_self
    | lent _ hother =>
      rw [hidle] at hother
      cases hother
    | fellAsleep _ _ hfull | gaveUp _ _ hfull => exact absurd hroom (Nat.not_lt.mpr hfull)

theorem nextUp_giveBack (limit : Option Nat) {holder : Nat} {session : ς}
    (h : Orderly opening c) (hwaiting : c.threads.waiting = [w])
    (hloan : (holder, session) ∈ c.threads.borrowed) :
    ∃ d, c.step limit opening (.giveBack holder session) = some d ∧
      NextUp opening w (c.threads.pool.giveBack session) d := by
  obtain ⟨d, hs⟩ : ∃ d, c.step limit opening (.giveBack holder session) = some d := by
    simp only [step, Threads.step, if_pos hloan]
    exact ⟨_, rfl⟩
  have horderly := orderly_deed h (deed_of_step hs)
  refine ⟨d, hs, ?_⟩
  cases deed_of_step hs with
  | gaveBack => exact ⟨horderly, hwaiting, rfl⟩

theorem nextUp_discard (limit : Option Nat) {holder : Nat} {session : ς}
    (h : Orderly opening c) (hwaiting : c.threads.waiting = [w])
    (hloan : (holder, session) ∈ c.threads.borrowed) :
    ∃ d, c.step limit opening (.discard holder session) = some d ∧
      NextUp opening w c.threads.pool.freePlace d := by
  obtain ⟨d, hs⟩ : ∃ d, c.step limit opening (.discard holder session) = some d := by
    simp only [step, Threads.step, if_pos hloan]
    exact ⟨_, rfl⟩
  have horderly := orderly_deed h (deed_of_step hs)
  refine ⟨d, hs, ?_⟩
  cases deed_of_step hs with
  | discarded => exact ⟨horderly, hwaiting, rfl⟩

theorem waiting_served {τ : Type} (capacity : Nat) (limit : Option Nat)
    (opening : Nat → Except Error ς)
    (hdistinct : ∀ a b session, opening a = .ok session → opening b = .ok session → a = b)
    (acts : List (Act ς)) (c : Callers ς) (h : (start capacity).run limit opening acts = some c) :
    (c.threads.pool.Exhausted → ∀ w, c.threads.waiting = [w] →
      ∀ holder session, (holder, session) ∈ c.threads.borrowed →
        (∃ d, c.step limit opening (.giveBack holder session) = some d ∧
          Certain limit opening w (IsLent w session c.threads.pool) d) ∧
        ∃ d, c.step limit opening (.discard holder session) = some d ∧
          Certain limit opening w (HasOpened opening w c.threads.pool) d) ∧
    (∀ a, (a, .timedOut) ∈ c.outcomes → a ∉ c.openings ∧
      (∃ before waited after e f, acts = before ++ .look a waited :: after ∧
        (start capacity).run limit opening before = some e ∧
        e.step limit opening (.look a waited) = some f ∧ (a, .timedOut) ∈ f.outcomes ∧
        e.threads.pool.Exhausted ∧ limit.any (· ≤ waited) = true) ∧
      ∀ before waited after e f, acts = before ++ .look a waited :: after →
        (start capacity).run limit opening before = some e →
        e.step limit opening (.look a waited) = some f → f.threads.pool = e.threads.pool) ∧
    (∀ a, c.Free a → ∀ waited,
      (∀ session idle, c.threads.pool.idle = session :: idle →
        ∃ d, c.step limit opening (.look a waited) = some d ∧ (a, .lent session) ∈ d.outcomes) ∧
      (c.threads.pool.idle = [] → c.threads.pool.opened < c.threads.pool.capacity →
        ∃ d, c.step limit opening (.look a waited) = some d ∧ a ∈ d.threads.opening)) ∧
    (c.asleep ≠ [] →
      c.threads.pool.idle.length + (c.threads.pool.capacity - c.threads.pool.opened) +
        c.asleep.length ≤ c.threads.waiting.length + c.owed) ∧
    (c.openings.Nodup ∧ c.ended.Nodup) ∧
    (c.threads.pool.Exhausted → ∀ slot (action : Action τ ς) s,
      (acquire slot limit action).run (c.threads.pool, s) =
        (.error (.sessionTimeout slot), (c.threads.pool, s)) ∧
      (limit.any (· ≤ 0) = false →
        (∀ session, (acquireBeside slot limit action (·.giveBack session)).run
          (c.threads.pool, s) = (.ok session, (c.threads.pool, s))) ∧
        (acquireBeside slot limit action freePlace).run (c.threads.pool, s) =
          match action.run s with
          | (.ok session, t) => (.ok session, (c.threads.pool, t))
          | (.error e, t) => (.error e, (c.threads.pool.freePlace, t)))) := by
  have horderly : Orderly opening c := orderly_run (orderly_start capacity) h
  have hopened (hexhausted : c.threads.pool.Exhausted) : 0 < c.threads.pool.opened :=
    hexhausted.2 ▸ horderly.capacity
  refine ⟨?_, ?_, fun a hfree waited => look_takes hfree waited, horderly.heard,
    ⟨horderly.roster.openedOnce, horderly.roster.endedOnce⟩, ?_⟩
  · intro hexhausted w hwaiting holder session hloan
    obtain ⟨d, hback, hnext⟩ := nextUp_giveBack limit horderly hwaiting hloan
    obtain ⟨e, hdiscard, hfreed⟩ := nextUp_discard limit horderly hwaiting hloan
    exact ⟨⟨d, hback, certain_lent hnext⟩, e, hdiscard,
      certain_on_free_place hdistinct hexhausted (hopened hexhausted) hfreed⟩
  · intro a ha
    refine ⟨horderly.roster.timedOut a ha, ?_, ?_⟩
    · obtain ⟨before, waited, after, e, f, hacts, hbefore, hs, -, hf, hidle, hfull, htime⟩ :=
        gaveUp_of_run h ha List.not_mem_nil
      have he : Orderly opening e := orderly_run (orderly_start capacity) hbefore
      exact ⟨before, waited, after, e, f, hacts, hbefore, hs, hf,
        ⟨hidle, Nat.le_antisymm he.accounts.bounded hfull⟩, htime⟩
    · intro before waited after e f hacts hbefore hs
      have hafter : f.run limit opening after = some c := by
        rw [hacts, run_append, hbefore, Option.bind_some, run, hs, Option.bind_some] at h
        exact h
      exact pool_of_look horderly ha hs hafter
  · intro hexhausted slot action s
    exact ⟨acquire_exhausted hexhausted slot limit action s, fun htime =>
      ⟨fun session => acquireBeside_giveBack hexhausted slot htime action session s,
        acquireBeside_freePlace hexhausted (hopened hexhausted) slot htime action s⟩⟩

theorem waiting_served_on_one_place :
    ∃ c : Callers Nat,
      (start 1).run (some 5) Except.ok [.look 1 0, .answer 1, .look 3 5, .look 2 0] = some c ∧
      c.threads.pool = ⟨1, [], 1⟩ ∧ c.asleep = [2] ∧
      (∃ d, c.step (some 5) Except.ok (.giveBack 1 1) = some d ∧
        Certain (some 5) Except.ok 2 (IsLent 2 1 ⟨1, [], 1⟩) d) ∧
      (∃ d, c.step (some 5) Except.ok (.discard 1 1) = some d ∧
        Certain (some 5) Except.ok 2 (HasOpened Except.ok 2 ⟨1, [], 1⟩) d) ∧
      (3, .timedOut) ∈ c.outcomes ∧ 3 ∉ c.openings := by
  have hdistinct (a b session : Nat) (ha : (Except.ok a : Except Error Nat) = .ok session)
      (hb : (Except.ok b : Except Error Nat) = .ok session) : a = b := by
    cases ha
    cases hb
    rfl
  obtain ⟨hserved, htimedOut, -⟩ := @waiting_served Nat _ Unit 1 (some 5) Except.ok hdistinct
    [.look 1 0, .answer 1, .look 3 5, .look 2 0] _ rfl
  obtain ⟨hback, hdiscard⟩ := hserved ⟨rfl, rfl⟩ 2 rfl 1 1 List.mem_cons_self
  exact ⟨_, rfl, rfl, rfl, hback, hdiscard, List.mem_cons_self,
    (htimedOut 3 List.mem_cons_self).1⟩

end Callers

end TokenSigner.Pool
