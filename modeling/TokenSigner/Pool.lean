import TokenSigner.Action
import TokenSigner.Slot

namespace TokenSigner

structure Pool (ς : Type) where
  capacity : Nat
  idle : List ς
  opened : Nat

namespace Pool

variable {ς τ : Type}

def start (capacity : Nat) : Pool ς := ⟨max capacity 1, [], 0⟩

inductive Attempt (ς : Type) where
  | lent (session : ς) (pool : Pool ς)
  | place (pool : Pool ς)
  | wait
  | giveUp

def attempt (pool : Pool ς) (limit : Option Nat) (waited : Nat) : Attempt ς :=
  match pool.idle with
  | session :: idle => .lent session { pool with idle }
  | [] =>
    if pool.opened < pool.capacity then .place { pool with opened := pool.opened + 1 }
    else if limit.any (· ≤ waited) then .giveUp
    else .wait

theorem attempt_cases (pool : Pool ς) (limit : Option Nat) (waited : Nat) :
    (∃ session idle, pool.idle = session :: idle ∧
      pool.attempt limit waited = .lent session { pool with idle }) ∨
    (pool.idle = [] ∧ pool.opened < pool.capacity ∧
      pool.attempt limit waited = .place { pool with opened := pool.opened + 1 }) ∨
    (pool.idle = [] ∧ pool.capacity ≤ pool.opened ∧
      (limit.any (· ≤ waited) = true ∧ pool.attempt limit waited = .giveUp ∨
        limit.any (· ≤ waited) = false ∧ pool.attempt limit waited = .wait)) := by
  unfold attempt
  cases hidle : pool.idle with
  | cons session idle => exact Or.inl ⟨session, idle, rfl, rfl⟩
  | nil =>
    by_cases hroom : pool.opened < pool.capacity
    · exact Or.inr (Or.inl ⟨rfl, hroom, by simp [hroom]⟩)
    · refine Or.inr (Or.inr ⟨rfl, Nat.le_of_not_lt hroom, ?_⟩)
      cases hlimit : limit.any (· ≤ waited) with
      | true => exact Or.inl ⟨rfl, by simp [hroom]⟩
      | false => exact Or.inr ⟨rfl, by simp [hroom]⟩

def giveBack (pool : Pool ς) (session : ς) : Pool ς :=
  { pool with idle := session :: pool.idle }

def freePlace (pool : Pool ς) : Pool ς :=
  { pool with opened := pool.opened - 1 }

def openOn (opening : Action τ ς) (pool : Pool ς) : Action (Pool ς × τ) ς := fun (_, s) =>
  match opening.run s with
  | (.ok session, s) => (.ok session, (pool, s))
  | (.error e, s) => (.error e, (pool.freePlace, s))

def acquire (slot : SlotIdentifier) (limit : Option Nat) (opening : Action τ ς) :
    Action (Pool ς × τ) ς := fun (pool, s) =>
  match pool.attempt limit 0 with
  | .lent session pool => (.ok session, (pool, s))
  | .place pool => (openOn opening pool).run (pool, s)
  | .wait | .giveUp => (.error (.sessionTimeout slot), (pool, s))

theorem acquire_cases (slot : SlotIdentifier) (limit : Option Nat) (opening : Action τ ς)
    (pool : Pool ς) (s : τ) :
    (∃ session idle, pool.idle = session :: idle ∧
      (acquire slot limit opening).run (pool, s) = (.ok session, { pool with idle }, s)) ∨
    (pool.idle = [] ∧ pool.opened < pool.capacity ∧
      ((∃ session t, opening.run s = (.ok session, t) ∧
        (acquire slot limit opening).run (pool, s) =
          (.ok session, { pool with opened := pool.opened + 1 }, t)) ∨
      ∃ e t, opening.run s = (.error e, t) ∧
        (acquire slot limit opening).run (pool, s) = (.error e, pool, t))) ∨
    (pool.idle = [] ∧ pool.capacity ≤ pool.opened ∧
      (acquire slot limit opening).run (pool, s) = (.error (.sessionTimeout slot), pool, s)) := by
  simp only [Action.run, acquire]
  rcases pool.attempt_cases limit 0 with
    ⟨session, idle, hidle, hattempt⟩ | ⟨hidle, hroom, hattempt⟩ |
    ⟨hidle, hfull, ⟨-, hattempt⟩ | ⟨-, hattempt⟩⟩
  · exact Or.inl ⟨session, idle, hidle, by rw [hattempt]⟩
  · refine Or.inr (Or.inl ⟨hidle, hroom, ?_⟩)
    rw [hattempt]
    simp only [openOn, Action.run]
    rcases hopening : opening s with ⟨e | session, t⟩
    · exact Or.inr ⟨e, t, rfl, rfl⟩
    · exact Or.inl ⟨session, t, rfl, rfl⟩
  · exact Or.inr (Or.inr ⟨hidle, hfull, by rw [hattempt]⟩)
  · exact Or.inr (Or.inr ⟨hidle, hfull, by rw [hattempt]⟩)

def acquireBeside (slot : SlotIdentifier) (limit : Option Nat) (opening : Action τ ς)
    (other : Pool ς → Pool ς) : Action (Pool ς × τ) ς := fun (pool, s) =>
  match pool.attempt limit 0 with
  | .wait => (acquire slot limit opening).run (other pool, s)
  | _ =>
    let (result, (pool, s)) := (acquire slot limit opening).run (pool, s)
    (result, (other pool, s))

end Pool

end TokenSigner
