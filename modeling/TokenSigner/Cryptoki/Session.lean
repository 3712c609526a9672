import TokenSigner.Cryptoki.Library
import TokenSigner.Mechanism.Parameters

namespace TokenSigner.Cryptoki

structure Session where
  handle : UInt64
  number : Nat
  deriving DecidableEq, Repr

namespace Session

variable {ℓ : Type}

def start (library : Library ℓ) (slot : UInt64) (readWrite : Bool) :
    Action (Application ℓ) Session := do
  let flags :=
    if readWrite then Flag.readWriteSession ||| Flag.serialSession else Flag.serialSession
  let outcome ← library.require (.openSession slot) (.openSession slot flags)
  let number := (← get).sessions
  modify fun application => { application with sessions := number + 1 }
  return ⟨outcome.count.getD 0, number⟩

def login (library : Library ℓ) (session : Session) (user : UInt64) (pin : Bytes) :
    Action (Application ℓ) Unit := do
  let outcome ← library.exchange (.login session.handle user pin)
  if outcome.code = ReturnCode.userAlreadyLoggedIn then Library.warn .alreadyLoggedIn
  else if outcome.code ≠ ReturnCode.ok then throw (.libraryCall .login outcome.code)
  else modify fun application =>
    { application with loggedIn := session.number :: application.loggedIn }

def close (library : Library ℓ) (session : Session) : Action (Application ℓ) Unit := do
  if (← get).loggedIn.elem session.number then
    modify fun application =>
      { application with loggedIn := application.loggedIn.filter (· != session.number) }
    let _ ← library.exchange (.logout session.handle)
  let _ ← library.exchange (.closeSession session.handle)

def batch : Nat := 16

def collect (library : Library ℓ) (session : Session) :
    (patience : Nat) → (buffer : List UInt64) → (count : UInt64) →
    Action (Application ℓ) (List UInt64)
  | 0, _, _ => throw .endlessSearch
  | patience + 1, buffer, count => do
    let outcome ← library.require .search (.search session.handle batch)
    let buffer := outcome.words.take batch ++ buffer.drop outcome.words.length
    let count := outcome.count.getD count
    if count = 0 then return []
    else if batch < count.toNat then throw .tooManyObjects
    else return buffer.take count.toNat ++ (← collect library session patience buffer count)

def findObjects (library : Library ℓ) (patience : Nat) (session : Session)
    (template : List (UInt64 × Bytes)) : Action (Application ℓ) (List UInt64) := do
  let _ ← library.require .startSearch (.startSearch session.handle template)
  let handles ← collect library session patience (List.replicate batch 0) 0
  let _ ← library.require .finishSearch (.finishSearch session.handle)
  return handles

def template (objectClass : UInt64) (key : KeyIdentifier) : List (UInt64 × Bytes) :=
  let identity := match key with
    | .label _ => Attribute.label
    | .id _ => Attribute.id
  [(Attribute.objectClass, Bytes.ofNatLittle 8 objectClass.toNat), (identity, key.value)]

def findKey (library : Library ℓ) (patience : Nat) (session : Session) (objectClass : UInt64)
    (key : KeyIdentifier) : Action (Application ℓ) (Option UInt64) := do
  let handles ← findObjects library patience session (template objectClass key)
  if 1 < handles.length then Library.warn (.manyObjects handles.length key)
  return handles.head?

def askAttribute (library : Library ℓ) (session : Session) (object code : UInt64)
    (room : Option Nat) : Action (Application ℓ) (Option Outcome) := do
  let outcome ← library.exchange (.readAttribute session.handle object code room)
  if outcome.code = ReturnCode.attributeTypeInvalid ∨
      outcome.code = ReturnCode.attributeSensitive then return none
  else if outcome.code ≠ ReturnCode.ok then
    throw (.libraryCall (.readAttributes object) outcome.code)
  else return some outcome

def readAttribute (library : Library ℓ) (session : Session) (object code : UInt64) :
    Action (Application ℓ) (Option Bytes) := do
  match ← askAttribute library session object code none with
  | none => return none
  | some measured => do
    let room := measured.announced
    let outcome ← askAttribute library session object code (some room)
    return outcome.map (·.receivedBytes room)

def keyType (library : Library ℓ) (session : Session) (object : UInt64) :
    Action (Application ℓ) UInt64 := do
  match ← askAttribute library session object Attribute.keyType (some 8) with
  | none => throw (.noKeyType object)
  | some outcome => return UInt64.ofNat (Bytes.toNatLittle (outcome.bytes.take 8))

def pairAttribute (library : Library ℓ) (session : Session) (publicObject : Option UInt64)
    (object code : UInt64) : Action (Application ℓ) Bytes := do
  let told ← match publicObject with
    | none => pure none
    | some publicObject => readAttribute library session publicObject code
  match told with
  | some value => return value
  | none =>
    match ← readAttribute library session object code with
    | some value => return value
    | none => throw (.attributeUnavailable code object)

def publicKey (library : Library ℓ) (patience : Nat) (session : Session) (object : UInt64)
    (key : KeyIdentifier) : Action (Application ℓ) PublicKey := do
  let publicObject ← findKey library patience session ObjectClass.publicKey key
  let keyType ← keyType library session object
  let read := pairAttribute library session publicObject object
  if keyType = KeyType.rsa then
    let modulus ← read Attribute.modulus
    return .rsa modulus (← read Attribute.publicExponent)
  else if keyType = KeyType.dsa then return .dsa (← read Attribute.prime)
  else if keyType = KeyType.ec then return .ec (← read Attribute.ecParameters)
  else return .other keyType

def marshal : MechanismParameters → Bytes
  | .pss hash mask saltLength =>
    Bytes.ofNatLittle 8 hash.toNat ++ Bytes.ofNatLittle 8 mask.toNat ++
      Bytes.ofNatLittle 8 saltLength
  | .userId identity => identity

def startSignature (library : Library ℓ) (session : Session) (object : UInt64)
    (mechanism : Mechanism) (parameters : Option MechanismParameters) :
    Action (Application ℓ) Unit := do
  let _ ← library.require .startSignature
    (.startSignature session.handle object mechanism (parameters.map marshal))

def takeSignature (library : Library ℓ) (request : Option Nat → Request) :
    Action (Application ℓ) Bytes := do
  let measured ← library.require .signatureLength (request none)
  let room := measured.announced
  if Bytes.largest < room then throw (.oversized room)
  else return (← library.require .sign (request (some room))).receivedBytes room

def sign (library : Library ℓ) (session : Session) (object : UInt64) (mechanism : Mechanism)
    (parameters : Option MechanismParameters) (data : Bytes) : Action (Application ℓ) Bytes := do
  startSignature library session object mechanism parameters
  takeSignature library (.sign session.handle data)

def feed (library : Library ℓ) (session : Session) : List Bytes → Action (Application ℓ) Unit
  | [] => return
  | part :: rest => do
    let _ ← library.require .feedSignature (.feedSignature session.handle part)
    feed library session rest

def signParts (library : Library ℓ) (session : Session) (object : UInt64) (mechanism : Mechanism)
    (parameters : Option MechanismParameters) (parts : List Bytes) :
    Action (Application ℓ) Bytes := do
  startSignature library session object mechanism parameters
  feed library session parts
  takeSignature library (.finishSignature session.handle)

end Session

end TokenSigner.Cryptoki
