import Mathlib.Data.List.Basic
import Mathlib.Data.List.Perm.Basic
import TokenSigner.Pool.Threads

namespace TokenSigner.Pool

def Step.frees {ς : Type} : Step ς → Bool
  | notOpened _ | discard _ _ => true
  | ask _ _ | opened _ _ | giveBack _ _ => false

namespace Threads

variable {ς : Type}

structure Accounts (t : Threads ς) : Prop where
  counted : t.pool.opened = t.pool.idle.length + t.borrowed.length + t.opening.length
  bounded : t.pool.opened ≤ t.pool.capacity
  fresh : t.made.Nodup
  placed : (t.pool.idle ++ t.borrowed.map Prod.snd ++ t.closed).Perm t.made

theorem accounts_start (capacity : Nat) : Accounts (start capacity : Threads ς) where
  counted := rfl
  bounded := Nat.zero_le _
  fresh := List.nodup_nil
  placed := List.Perm.refl _

theorem Accounts.apart (h : Accounts t) : (t.pool.idle ++ t.borrowed.map Prod.snd).Nodup :=
  (List.nodup_append.mp (h.placed.nodup_iff.mpr h.fresh)).1

variable [DecidableEq ς] {limit : Option Nat} {t u : Threads ς} {s : Step ς}

inductive Turn (t : Threads ς) : Step ς → Threads ς → Prop where
  | lent {thread waited : Nat} {session : ς} {idle : List ς}
      (hidle : t.pool.idle = session :: idle) :
      Turn t (.ask thread waited) { t with
        pool := { t.pool with idle }, waiting := t.waiting.erase thread
        borrowed := (thread, session) :: t.borrowed }
  | reserved {thread waited : Nat} (hidle : t.pool.idle = [])
      (hroom : t.pool.opened < t.pool.capacity) :
      Turn t (.ask thread waited) { t with
        pool := { t.pool with opened := t.pool.opened + 1 }, waiting := t.waiting.erase thread
        opening := thread :: t.opening }
  | left {thread waited : Nat} {waiting : List Nat} (hidle : t.pool.idle = [])
      (hfull : t.pool.capacity ≤ t.pool.opened) :
      Turn t (.ask thread waited) { t with waiting }
  | opened {thread : Nat} {session : ς} (hopening : thread ∈ t.opening)
      (hnew : session ∉ t.made) :
      Turn t (.opened thread session) { t with
        opening := t.opening.erase thread, borrowed := (thread, session) :: t.borrowed
        made := session :: t.made }
  | notOpened {thread : Nat} (hopening : thread ∈ t.opening) :
      Turn t (.notOpened thread) { t with
        opening := t.opening.erase thread, pool := t.pool.freePlace }
  | giveBack {thread : Nat} {session : ς} (hloan : (thread, session) ∈ t.borrowed) :
      Turn t (.giveBack thread session) { t with
        borrowed := t.borrowed.erase (thread, session), pool := t.pool.giveBack session }
  | discard {thread : Nat} {session : ς} (hloan : (thread, session) ∈ t.borrowed) :
      Turn t (.discard thread session) { t with
        borrowed := t.borrowed.erase (thread, session), pool := t.pool.freePlace
        closed := session :: t.closed }

theorem turn_of_step (hs : t.step limit s = some u) : Turn t s u := by
  cases s with
  | ask thread waited =>
    simp only [step] at hs
    rcases attempt_cases t.pool limit waited with
      ⟨session, idle, hidle, he⟩ | ⟨hidle, hroom, he⟩ | ⟨hidle, hfull, ⟨_, he⟩ | ⟨_, he⟩⟩
    · rw [he] at hs
      cases hs
      exact .lent hidle
    · rw [he] at hs
      cases hs
      exact .reserved hidle hroom
    · rw [he] at hs
      cases hs
      exact .left hidle hfull
    · rw [he] at hs
      cases hs
      exact .left hidle hfull
  | opened thread session =>
    simp only [step] at hs
    split at hs
    · next h =>
      cases hs
      exact .opened h.1 h.2
    · cases hs
  | notOpened thread =>
    simp only [step] at hs
    split at hs
    · next hopening =>
      cases hs
      exact .notOpened hopening
    · cases hs
  | giveBack thread session =>
    simp only [step] at hs
    split at hs
    · next hloan =>
      cases hs
      exact .giveBack hloan
    · cases hs
  | discard thread session =>
    simp only [step] at hs
    split at hs
    · next hloan =>
      cases hs
      exact .discard hloan
    · cases hs

theorem borrowed_perm {loan : Nat × ς} (h : loan ∈ t.borrowed) :
    (t.borrowed.map Prod.snd).Perm (loan.2 :: (t.borrowed.erase loan).map Prod.snd) :=
  (List.perm_cons_erase h).map Prod.snd

theorem counted_turn (h : Accounts t) (hturn : Turn t s u) :
    u.pool.opened = u.pool.idle.length + u.borrowed.length + u.opening.length := by
  have hcounted := h.counted
  cases hturn with
  | lent hidle =>
    rw [hidle] at hcounted
    simp only [List.length_cons] at hcounted ⊢
    omega
  | reserved hidle hroom =>
    simp only [List.length_cons]
    omega
  | left hidle hfull => exact hcounted
  | opened hopening hnew =>
    have herase := List.length_erase_add_one hopening
    simp only [List.length_cons]
    omega
  | notOpened hopening =>
    have herase := List.length_erase_add_one hopening
    simp only [freePlace]
    omega
  | giveBack hloan =>
    have herase := List.length_erase_add_one hloan
    simp only [Pool.giveBack, List.length_cons]
    omega
  | discard hloan =>
    have herase := List.length_erase_add_one hloan
    simp only [freePlace]
    omega

theorem placed_turn (h : Accounts t) (hturn : Turn t s u) :
    (u.pool.idle ++ u.borrowed.map Prod.snd ++ u.closed).Perm u.made := by
  have hplaced := h.placed
  cases hturn with
  | lent hidle =>
    rw [hidle] at hplaced
    refine List.Perm.trans ?_ hplaced
    simp
  | reserved hidle hroom => exact hplaced
  | left hidle hfull => exact hplaced
  | opened hopening hnew =>
    refine List.Perm.trans ?_ (hplaced.cons _)
    simp only [List.map_cons, List.append_assoc, List.cons_append]
    exact List.perm_middle
  | notOpened hopening => exact hplaced
  | giveBack hloan =>
    refine List.Perm.trans ?_ hplaced
    refine List.Perm.append_right t.closed ?_
    refine List.Perm.trans ?_ ((borrowed_perm hloan).symm.append_left t.pool.idle)
    exact List.perm_middle.symm
  | discard hloan =>
    refine List.Perm.trans ?_ hplaced
    simp only [freePlace, List.append_assoc]
    refine List.Perm.append_left t.pool.idle ?_
    refine List.Perm.trans List.perm_middle ?_
    exact (borrowed_perm hloan).symm.append_right t.closed

theorem accounts_turn (h : Accounts t) (hturn : Turn t s u) : Accounts u := by
  refine ⟨counted_turn h hturn, ?_, ?_, placed_turn h hturn⟩
  · have hbounded := h.bounded
    cases hturn with
    | reserved hidle hroom => exact hroom
    | notOpened | discard => exact Nat.le_trans (Nat.sub_le _ _) hbounded
    | lent | left | opened | giveBack => exact hbounded
  · have hfresh := h.fresh
    cases hturn with
    | opened hopening hnew => exact List.nodup_cons.mpr ⟨hnew, hfresh⟩
    | lent | reserved | left | notOpened | giveBack | discard => exact hfresh

theorem capacity_turn (hturn : Turn t s u) : u.pool.capacity = t.pool.capacity := by
  cases hturn <;> rfl

theorem accounts_run {steps : List (Step ς)} (h : Accounts t) (hr : t.run limit steps = some u) :
    Accounts u ∧ u.pool.capacity = t.pool.capacity := by
  induction steps generalizing t with
  | nil =>
    cases hr
    exact ⟨h, rfl⟩
  | cons s rest ih =>
    obtain ⟨v, hs, hr⟩ := Option.bind_eq_some_iff.mp hr
    obtain ⟨hu, hc⟩ := ih (accounts_turn h (turn_of_step hs)) hr
    exact ⟨hu, hc.trans (capacity_turn (turn_of_step hs))⟩

theorem Accounts.count (h : Accounts t) (session : ς) :
    t.pool.idle.count session + (t.borrowed.map Prod.snd).count session +
      t.closed.count session = if session ∈ t.made then 1 else 0 := by
  rw [← List.count_append, ← List.count_append, h.placed.count_eq]
  exact h.fresh.count

theorem idle_of_reserving (hturn : Turn t s u) (hmore : t.opening.length < u.opening.length) :
    t.pool.idle = [] := by
  cases hturn with
  | reserved hidle hroom => exact hidle
  | left hidle hfull => exact hidle
  | opened hopening hnew =>
    have herase := List.length_erase_add_one hopening
    simp only at hmore
    omega
  | notOpened hopening =>
    have herase := List.length_erase_add_one hopening
    simp only at hmore
    omega
  | lent | giveBack | discard => exact absurd hmore (Nat.lt_irrefl _)

theorem Accounts.freed (h : Accounts t) (hturn : Turn t s u) (hfrees : s.frees = true) :
    u.pool.opened + 1 = t.pool.opened := by
  have hcounted := h.counted
  cases hturn with
  | notOpened hopening =>
    have hpos := List.length_pos_of_mem hopening
    simp only [freePlace]
    omega
  | discard hloan =>
    have hpos := List.length_pos_of_mem hloan
    simp only [freePlace]
    omega
  | lent | reserved | left | opened | giveBack => cases hfrees

theorem lending_exact (capacity : Nat) (limit : Option Nat) (steps : List (Step ς))
    (t : Threads ς) (h : (start capacity).run limit steps = some t) :
    (t.pool.opened = t.pool.idle.length + t.borrowed.length + t.opening.length ∧
      t.pool.opened ≤ max capacity 1) ∧
    (t.pool.idle ++ t.borrowed.map Prod.snd).Nodup ∧
    (∀ session, t.pool.idle.count session + (t.borrowed.map Prod.snd).count session +
      t.closed.count session = if session ∈ t.made then 1 else 0) ∧
    (∀ s u, t.step limit s = some u → t.opening.length < u.opening.length → t.pool.idle = []) ∧
    (∀ s u, t.step limit s = some u → s.frees = true → u.pool.opened + 1 = t.pool.opened) := by
  obtain ⟨ha, hc⟩ := accounts_run (accounts_start capacity) h
  refine ⟨⟨ha.counted, ?_⟩, ha.apart, ha.count, ?_, ?_⟩
  · have hb := ha.bounded
    rw [hc] at hb
    exact hb
  · intro s u hs hmore
    exact idle_of_reserving (turn_of_step hs) hmore
  · intro s u hs hfrees
    exact ha.freed (turn_of_step hs) hfrees

theorem lending_exact_on_one_place :
    (start 0 : Threads Nat).run none [.ask 1 0, .ask 2 0, .notOpened 1, .ask 2 0, .opened 2 7,
      .giveBack 2 7, .ask 1 0] = some ⟨⟨1, [], 1⟩, [], [], [(1, 7)], [7], []⟩ ∧
    ([] ++ [7] : List Nat).Nodup ∧
    ∀ session : Nat, [].count session + [7].count session + [].count session =
      if session ∈ [7] then 1 else 0 := by
  have h : (start 0 : Threads Nat).run none [.ask 1 0, .ask 2 0, .notOpened 1, .ask 2 0,
      .opened 2 7, .giveBack 2 7, .ask 1 0] = some ⟨⟨1, [], 1⟩, [], [], [(1, 7)], [7], []⟩ := by
    rfl
  obtain ⟨_, distinct, count, _⟩ := lending_exact 0 none _ _ h
  exact ⟨h, distinct, count⟩

end Threads

end TokenSigner.Pool
