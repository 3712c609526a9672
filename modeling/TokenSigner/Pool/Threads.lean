import TokenSigner.Pool

namespace TokenSigner.Pool

structure Threads (ς : Type) where
  pool : Pool ς
  waiting : List Nat
  opening : List Nat
  borrowed : List (Nat × ς)
  made : List ς
  closed : List ς

inductive Step (ς : Type) where
  | ask (thread waited : Nat)
  | opened (thread : Nat) (session : ς)
  | notOpened (thread : Nat)
  | giveBack (thread : Nat) (session : ς)
  | discard (thread : Nat) (session : ς)
  deriving DecidableEq, Repr

namespace Threads

variable {ς : Type} [DecidableEq ς]

def start (capacity : Nat) : Threads ς := ⟨.start capacity, [], [], [], [], []⟩

def step (limit : Option Nat) (t : Threads ς) : Step ς → Option (Threads ς)
  | .ask thread waited =>
    let waiting := t.waiting.erase thread
    match t.pool.attempt limit waited with
    | .lent session pool =>
      some { t with pool, waiting, borrowed := (thread, session) :: t.borrowed }
    | .place pool => some { t with pool, waiting, opening := thread :: t.opening }
    | .wait => some { t with waiting := thread :: waiting }
    | .giveUp => some { t with waiting }
  | .opened thread session =>
    if thread ∈ t.opening ∧ session ∉ t.made then
      some { t with
        opening := t.opening.erase thread, borrowed := (thread, session) :: t.borrowed
        made := session :: t.made }
    else none
  | .notOpened thread =>
    if thread ∈ t.opening then
      some { t with opening := t.opening.erase thread, pool := t.pool.freePlace }
    else none
  | .giveBack thread session =>
    if (thread, session) ∈ t.borrowed then
      some { t with
        borrowed := t.borrowed.erase (thread, session), pool := t.pool.giveBack session }
    else none
  | .discard thread session =>
    if (thread, session) ∈ t.borrowed then
      some { t with
        borrowed := t.borrowed.erase (thread, session), pool := t.pool.freePlace
        closed := session :: t.closed }
    else none

def run (limit : Option Nat) (t : Threads ς) : List (Step ς) → Option (Threads ς)
  | [] => some t
  | s :: rest => (t.step limit s).bind fun t => t.run limit rest

theorem run_append (limit : Option Nat) (t : Threads ς) (steps more : List (Step ς)) :
    t.run limit (steps ++ more) = (t.run limit steps).bind (·.run limit more) := by
  induction steps generalizing t with
  | nil => rfl
  | cons s rest ih =>
    simp only [List.cons_append, run]
    cases t.step limit s with
    | none => rfl
    | some t => exact ih t

end Threads

end TokenSigner.Pool
