import TokenSigner.Action
import TokenSigner.Bytes
import TokenSigner.Cryptoki.Code
import TokenSigner.Warning

namespace TokenSigner.Cryptoki

inductive Request where
  | start (flags : UInt64)
  | finish
  | slotList (tokenPresent : Bool) (room : Option Nat)
  | mechanismList (slot : UInt64) (room : Option Nat)
  | openSession (slot flags : UInt64)
  | closeSession (session : UInt64)
  | login (session user : UInt64) (pin : Bytes)
  | logout (session : UInt64)
  | startSearch (session : UInt64) (template : List (UInt64 × Bytes))
  | search (session : UInt64) (room : Nat)
  | finishSearch (session : UInt64)
  | readAttribute (session object code : UInt64) (room : Option Nat)
  | startSignature (session key : UInt64) (mechanism : Mechanism) (parameters : Option Bytes)
  | sign (session : UInt64) (data : Bytes) (room : Option Nat)
  | feedSignature (session : UInt64) (part : Bytes)
  | finishSignature (session : UInt64) (room : Option Nat)
  deriving DecidableEq, Repr

namespace Request

def session? : Request → Option UInt64
  | start _ | finish | slotList _ _ | mechanismList _ _ | openSession _ _ => none
  | closeSession session | login session _ _ | logout session | startSearch session _
  | search session _ | finishSearch session | readAttribute session _ _ _
  | startSignature session _ _ _ | sign session _ _ | feedSignature session _
  | finishSignature session _ => some session

def function : Request → String
  | start _ => "C_Initialize"
  | finish => "C_Finalize"
  | slotList _ _ => "C_GetSlotList"
  | mechanismList _ _ => "C_GetMechanismList"
  | openSession _ _ => "C_OpenSession"
  | closeSession _ => "C_CloseSession"
  | login _ _ _ => "C_Login"
  | logout _ => "C_Logout"
  | startSearch _ _ => "C_FindObjectsInit"
  | search _ _ => "C_FindObjects"
  | finishSearch _ => "C_FindObjectsFinal"
  | readAttribute _ _ _ _ => "C_GetAttributeValue"
  | startSignature _ _ _ _ => "C_SignInit"
  | sign _ _ _ => "C_Sign"
  | feedSignature _ _ => "C_SignUpdate"
  | finishSignature _ _ => "C_SignFinal"

end Request

def requiredFunctions : List String := [
  "C_Initialize", "C_Finalize", "C_GetSlotList", "C_GetMechanismList", "C_OpenSession",
  "C_CloseSession", "C_Login", "C_Logout", "C_FindObjectsInit", "C_FindObjects",
  "C_FindObjectsFinal", "C_GetAttributeValue", "C_SignInit", "C_Sign", "C_SignUpdate",
  "C_SignFinal"]

structure Outcome where
  code : UInt64
  count : Option UInt64 := none
  words : List UInt64 := []
  bytes : Bytes := []
  deriving DecidableEq, Repr

def received {α : Type} (zero : α) (room : Nat) (announced : Option UInt64) (written : List α) :
    List α :=
  let length := min (announced.elim room UInt64.toNat) room
  written.take length ++ List.replicate (length - written.length) zero

namespace Outcome

def receivedWords (outcome : Outcome) (room : Nat) : List UInt64 :=
  received 0 room outcome.count outcome.words

def receivedBytes (outcome : Outcome) (room : Nat) : Bytes :=
  received 0 room outcome.count outcome.bytes

def announced (outcome : Outcome) : Nat :=
  outcome.count.elim 0 UInt64.toNat

end Outcome

structure Library (ℓ : Type) where
  serve : Request → ℓ → Outcome × ℓ

structure Application (ℓ : Type) where
  library : ℓ
  exchanges : List (Request × Outcome) := []
  warnings : List Warning := []
  sessions : Nat := 0
  loggedIn : List Nat := []

namespace Library

variable {ℓ : Type}

def exchange (library : Library ℓ) (request : Request) : Action (Application ℓ) Outcome :=
  modifyGet fun application =>
    let (outcome, state) := library.serve request application.library
    (outcome, { application with
      library := state, exchanges := application.exchanges ++ [(request, outcome)] })

def require (library : Library ℓ) (task : Task) (request : Request) :
    Action (Application ℓ) Outcome := do
  let outcome ← library.exchange request
  if outcome.code ≠ ReturnCode.ok then throw (.libraryCall task outcome.code)
  return outcome

def warn (warning : Warning) : Action (Application ℓ) Unit :=
  modify fun application => { application with warnings := application.warnings ++ [warning] }

end Library

end TokenSigner.Cryptoki
