import TokenSigner.Pool

namespace TokenSigner.Rehearsal

structure PoolTrial where
  slot : SlotIdentifier
  limit : Option Nat
  pool : Pool Nat
  opens : Nat
  held : List (String × Nat)

inductive PoolStep where
  | acquire (name : String) (failure : Option String)
  | giveBack (name : String)
  | discard (name : String)
  | acquireBeside (name other : String) (discarded : Bool) (failure : Option String)
  deriving DecidableEq, Repr

inductive PoolAnswer where
  | session (number : Nat)
  | done
  | skipped
  deriving DecidableEq, Repr

namespace PoolTrial

def start (slot : SlotIdentifier) (capacity : Nat) (limit : Option Nat) : PoolTrial :=
  ⟨slot, limit, .start capacity, 0, []⟩

def opening (failure : Option String) : Action Nat Nat := fun opens =>
  match failure with
  | none => (.ok (opens + 1), opens + 1)
  | some text => (.error (.reported .token text), opens + 1)

def onPool {α : Type} (a : Action (Pool Nat × Nat) α) : Action PoolTrial α :=
  a.on (fun trial => (trial.pool, trial.opens)) fun (pool, opens) trial =>
    { trial with pool, opens }

def forget (name : String) (trial : PoolTrial) : PoolTrial :=
  { trial with held := trial.held.filter (·.1 != name) }

def keep (name : String) (session : Nat) (trial : PoolTrial) : PoolTrial :=
  let kept := { trial.forget name with held := (name, session) :: (trial.forget name).held }
  match trial.held.lookup name with
  | none => kept
  | some earlier => { kept with pool := kept.pool.giveBack earlier }

def perform (step : PoolStep) : Action PoolTrial PoolAnswer := do
  let trial ← get
  match step with
  | .acquire name failure => do
    let session ← onPool (Pool.acquire trial.slot trial.limit (opening failure))
    modify (keep name session)
    return .session session
  | .giveBack name =>
    match trial.held.lookup name with
    | none => return .skipped
    | some session => do
      set { trial.forget name with pool := trial.pool.giveBack session }
      return .done
  | .discard name =>
    match trial.held.lookup name with
    | none => return .skipped
    | some _ => do
      set { trial.forget name with pool := trial.pool.freePlace }
      return .done
  | .acquireBeside name other discarded failure =>
    match trial.held.lookup other with
    | none => return .skipped
    | some theirs => do
      set (trial.forget other)
      let release (pool : Pool Nat) := if discarded then pool.freePlace else pool.giveBack theirs
      let session ← onPool (Pool.acquireBeside trial.slot trial.limit (opening failure) release)
      modify (keep name session)
      return .session session

end PoolTrial

end TokenSigner.Rehearsal
