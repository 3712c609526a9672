import TokenSigner.Emsa.Description
import TokenSigner.Engine

namespace TokenSigner.Client

inductive SchemeDescription where
  | pkcs1 (digest : String)
  | pss (digest : Option String)
  | ecdsa (digest : String) (encoding : Ecdsa.Encoding)
  deriving DecidableEq, Repr

def SchemeDescription.read : SchemeDescription → Except Error SignatureScheme
  | pkcs1 digest => (Digest.named digest).map .pkcs1
  | pss none => .ok (.pss none)
  | pss (some digest) => (Digest.named digest).map fun digest => .pss (some digest)
  | ecdsa digest encoding => (Digest.named digest).map fun digest => .ecdsa digest encoding

inductive SlotRequest where
  | mechanisms
  | supports (mechanism : Mechanism)
  | findKey (key : KeyIdentifier)
  | evict (key : KeyIdentifier)
  | publicKey (object : UInt64) (key : KeyIdentifier)
  | sign (object : UInt64) (mechanism : Mechanism) (parameters : Option MechanismParameters)
      (data : Bytes)
  deriving DecidableEq, Repr

inductive KeyRequest where
  | supports (mechanism : Mechanism)
  | sign (mechanism : Mechanism) (parameters : Option MechanismParameters) (data : Bytes)
  | signPkcs1 (digest : String) (hash : Bytes)
  | signPss (parameters : PssDescription) (hash : Bytes)
  | signEcdsa (hash : Bytes) (encoding : Ecdsa.Encoding)
  deriving DecidableEq, Repr

inductive EngineRequest where
  | initSign (key : String)
  | setParameters (parameters : PssDescription)
  | update (data : Bytes)
  | sign
  | encodePss
  | initVerify (key : String)
  | verify (data : Bytes)
  deriving DecidableEq, Repr

inductive Request where
  | summary
  | slot (slot : SlotIdentifier)
  | slotByIndex (index : Nat)
  | slotById (id : UInt64)
  | onSlot (index : Nat) (request : SlotRequest)
  | borrow (name : String) (index : Nat)
  | giveBack (name : String)
  | discard (name : String)
  | openKey (name : String) (slot : SlotIdentifier) (key : KeyIdentifier)
  | onKey (name : String) (request : KeyRequest)
  | signPssEncoded (key : String) (message : Bytes)
  | startEngine (name : String) (scheme : SchemeDescription)
  | onEngine (name : String) (request : EngineRequest)
  deriving DecidableEq, Repr

inductive Response where
  | done
  | skipped
  | summary (name : String) (maxMessageSize : Nat) (slots : List SlotIdentifier)
  | slot (slot : SlotIdentifier) (config : String) (capacity opened : Nat)
  | mechanisms (mechanisms : List Mechanism)
  | flag (value : Bool)
  | object (handle : UInt64)
  | publicKey (key : PublicKey)
  | bytes (data : Bytes)
  | key (handle : KeyHandle)
  | engine (state : Engine)
  | engineStep (result : Except Error (Option Bytes)) (state : Engine)

end TokenSigner.Client
