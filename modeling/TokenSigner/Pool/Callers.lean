import TokenSigner.Pool.Threads

namespace TokenSigner.Pool

inductive Outcome (ς : Type) where
  | lent (session : ς)
  | failed (error : Error)
  | timedOut
  deriving DecidableEq, Repr

structure Callers (ς : Type) where
  threads : Threads ς
  asleep : List Nat
  owed : Nat
  openings : List Nat
  outcomes : List (Nat × Outcome ς)

namespace Callers

variable {ς : Type} [DecidableEq ς]

inductive Act (ς : Type) where
  | look (caller waited : Nat)
  | wake (caller : Nat)
  | notify (caller : Option Nat)
  | answer (caller : Nat)
  | giveBack (holder : Nat) (session : ς)
  | discard (holder : Nat) (session : ς)
  deriving DecidableEq, Repr

def start (capacity : Nat) : Callers ς := ⟨.start capacity, [], 0, [], []⟩

def ended (c : Callers ς) : List Nat := c.outcomes.map Prod.fst

def step (limit : Option Nat) (opening : Nat → Except Error ς) (c : Callers ς) :
    Act ς → Option (Callers ς)
  | .look caller waited =>
    if caller ∈ c.asleep ∨ caller ∈ c.openings ∨ caller ∈ c.ended then none
    else (c.threads.step limit (.ask caller waited)).map fun threads =>
      match c.threads.pool.attempt limit waited with
      | .lent session _ => { c with threads, outcomes := (caller, .lent session) :: c.outcomes }
      | .place _ => { c with threads, openings := caller :: c.openings }
      | .wait => { c with threads, asleep := caller :: c.asleep }
      | .giveUp => { c with threads, outcomes := (caller, .timedOut) :: c.outcomes }
  | .wake caller =>
    if caller ∈ c.asleep then some { c with asleep := c.asleep.erase caller } else none
  | .notify caller =>
    match c.owed, caller with
    | 0, _ => none
    | owed + 1, some caller =>
      if caller ∈ c.asleep then some { c with owed, asleep := c.asleep.erase caller } else none
    | owed + 1, none => if c.asleep = [] then some { c with owed } else none
  | .answer caller =>
    match opening caller with
    | .ok session => (c.threads.step limit (.opened caller session)).map fun threads =>
      { c with threads, outcomes := (caller, .lent session) :: c.outcomes }
    | .error e => (c.threads.step limit (.notOpened caller)).map fun threads =>
      { c with threads, owed := c.owed + 1, outcomes := (caller, .failed e) :: c.outcomes }
  | .giveBack holder session =>
    (c.threads.step limit (.giveBack holder session)).map fun threads =>
      { c with threads, owed := c.owed + 1 }
  | .discard holder session =>
    (c.threads.step limit (.discard holder session)).map fun threads =>
      { c with threads, owed := c.owed + 1 }

def run (limit : Option Nat) (opening : Nat → Except Error ς) (c : Callers ς) :
    List (Act ς) → Option (Callers ς)
  | [] => some c
  | act :: rest => (c.step limit opening act).bind fun c => c.run limit opening rest

theorem run_append (limit : Option Nat) (opening : Nat → Except Error ς) (c : Callers ς)
    (acts more : List (Act ς)) :
    c.run limit opening (acts ++ more) =
      (c.run limit opening acts).bind (·.run limit opening more) := by
  induction acts generalizing c with
  | nil => rfl
  | cons act rest ih =>
    simp only [List.cons_append, run]
    cases c.step limit opening act with
    | none => rfl
    | some c => exact ih c

end Callers

end TokenSigner.Pool
