import TokenSigner.Action
import TokenSigner.Ecdsa
import TokenSigner.Mechanism.Parameters
import TokenSigner.Warning

namespace TokenSigner

inductive Call (ς : Type) where
  | mechanisms
  | openSession (readWrite : Bool)
  | login (session : ς) (user : UInt64) (pin : Bytes)
  | findKey (session : ς) (key : KeyIdentifier)
  | publicKey (session : ς) (object : UInt64) (key : KeyIdentifier)
  | sign (session : ς) (object : UInt64) (mechanism : Mechanism)
      (parameters : Option MechanismParameters) (data : Bytes)
  | signParts (session : ς) (object : UInt64) (mechanism : Mechanism)
      (parameters : Option MechanismParameters) (parts : List Bytes)
  | close (session : ς)
  deriving DecidableEq, Repr

namespace Call

variable {ς : Type}

abbrev Answer : Call ς → Type
  | mechanisms => List Mechanism
  | openSession _ => ς
  | login _ _ _ => Unit
  | findKey _ _ => Option UInt64
  | publicKey _ _ _ => PublicKey
  | sign _ _ _ _ _ => Bytes
  | signParts _ _ _ _ _ => Bytes
  | close _ => Unit

def session? : Call ς → Option ς
  | mechanisms | openSession _ => none
  | login session _ _ | findKey session _ | publicKey session _ _ | sign session _ _ _ _
  | signParts session _ _ _ _ | close session => some session

def signing? : Call ς → Option Mechanism
  | sign _ _ mechanism _ _ | signParts _ _ mechanism _ _ => some mechanism
  | _ => none

end Call

structure Reply (δ α : Type) where
  result : Except Error α
  device : δ
  warnings : List Warning := []

-- the tokens, and the library of digests and encodings that stands beside them
structure Device (δ ς : Type) where
  ask : SlotIdentifier → (call : Call ς) → δ → Reply δ call.Answer
  hashing : Digest.Hashing := .reliable
  write : Ecdsa.Writer := fun r s => .ok (Ecdsa.inDer r s)

structure Event (ς : Type) where
  slot : SlotIdentifier
  call : Call ς
  result : Except Error call.Answer

structure Site (δ ς : Type) where
  device : δ
  events : List (Event ς) := []
  warnings : List Warning := []

namespace Site

variable {δ ς : Type}

def warn (warning : Warning) : Action (Site δ ς) Unit :=
  modify fun site => { site with warnings := site.warnings ++ [warning] }

end Site

namespace Device

variable {δ ς : Type}

def call (device : Device δ ς) (slot : SlotIdentifier) (call : Call ς) :
    Action (Site δ ς) call.Answer := fun site =>
  let reply := device.ask slot call site.device
  (reply.result, {
    device := reply.device
    events := site.events ++ [⟨slot, call, reply.result⟩]
    warnings := site.warnings ++ reply.warnings })

def release (device : Device δ ς) (slot : SlotIdentifier) (session : ς) :
    Action (Site δ ς) Unit := do
  let _ ← (device.call slot (.close session)).outcome

theorem run_release (device : Device δ ς) (slot : SlotIdentifier) (session : ς)
    (site : Site δ ς) :
    (device.release slot session).run site =
      (.ok (), ((device.call slot (.close session)).run site).2) := rfl

end Device

end TokenSigner
