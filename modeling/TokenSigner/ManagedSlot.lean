import TokenSigner.Config
import TokenSigner.Device
import TokenSigner.HandleCache
import TokenSigner.Pool

namespace TokenSigner

structure ManagedSlot (ς : Type) where
  slot : SlotIdentifier
  pool : Pool ς
  mechanisms : Option (List Mechanism)
  handles : HandleCache
  login : Option ς
  salts : Entropy

namespace ManagedSlot

variable {δ ς α : Type}

abbrev Work (δ ς : Type) := Action (ManagedSlot ς × Site δ ς)

def logIn (device : Device δ ς) (slot : SlotIdentifier) (user : UInt64) (session : ς) :
    List Bytes → Action (Site δ ς) Unit
  | [] => return
  | pin :: rest => do
    device.call slot (.login session user pin)
    logIn device slot user session rest

def openLogin (device : Device δ ς) (config : ModuleConfig) (slot : SlotIdentifier)
    (pins : List Bytes) : Action (Site δ ς) ς := do
  let session ← device.call slot (.openSession !config.readOnly)
  match ← (logIn device slot config.userType session pins).outcome with
  | .ok () => return session
  | .error e => do
    device.release slot session
    throw e

def start (device : Device δ ς) (config : ModuleConfig) (resolver : PasswordResolver)
    (salts : Entropy) (slot : SlotIdentifier) : Action (Site δ ς) (ManagedSlot ς) := do
  let login ← match ← Action.ofExcept (config.passwords.read resolver slot).result with
    | none => pure none
    | some pins => some <$> openLogin device config slot pins
  return {
    slot, pool := .start config.maxSessions, mechanisms := none, handles := .empty, login, salts }

def ask (device : Device δ ς) (call : Call ς) : Work δ ς call.Answer := fun (managed, site) =>
  let (result, site) := (device.call managed.slot call).run site
  (result, (managed, site))

def update (f : ManagedSlot ς → ManagedSlot ς) : Work δ ς Unit :=
  modify fun (managed, site) => (f managed, site)

def identifier : Work δ ς SlotIdentifier := return (← get).1.slot

def borrow (device : Device δ ς) (config : ModuleConfig) : Work δ ς ς := do
  let slot ← identifier
  let opening := device.call slot (.openSession !config.readOnly)
  (Pool.acquire slot config.waitLimit opening).on (fun (managed, site) => (managed.pool, site))
    (fun (pool, site) (managed, _) => ({ managed with pool }, site))

def giveBack (session : ς) : Work δ ς Unit :=
  update fun managed => { managed with pool := managed.pool.giveBack session }

def discard (device : Device δ ς) (session : ς) : Work δ ς Unit := do
  let slot ← identifier
  (device.release slot session).on Prod.snd fun site (managed, _) => (managed, site)
  update fun managed => { managed with pool := managed.pool.freePlace }

def withSession (device : Device δ ς) (config : ModuleConfig) (use : ς → Work δ ς α) :
    Work δ ς α := do
  let session ← borrow device config
  let result ← (use session).outcome
  giveBack session
  Action.ofExcept result

def supportedMechanisms (device : Device δ ς) : Work δ ς (List Mechanism) := do
  match (← get).1.mechanisms with
  | some mechanisms => return mechanisms
  | none => do
    let mechanisms := Mechanism.sorted (← ask device .mechanisms)
    update fun managed => { managed with mechanisms := some mechanisms }
    return mechanisms

def supports (device : Device δ ς) (config : ModuleConfig) (mechanism : Mechanism) :
    Work δ ς Bool := do
  let slot ← identifier
  if config.allows slot mechanism then
    match ← (supportedMechanisms device).outcome with
    | .ok mechanisms => return mechanisms.elem mechanism
    | .error e => do
      (Site.warn (.mechanismsUnknown slot e)).on Prod.snd fun site (managed, _) => (managed, site)
      return false
  else return false

def findKey (device : Device δ ς) (config : ModuleConfig) (key : KeyIdentifier) :
    Work δ ς UInt64 := do
  let slot ← identifier
  let known ← modifyGet fun (managed, site) =>
    let (handle, handles) := managed.handles.get key.cacheKey
    (handle, ({ managed with handles }, site))
  match known with
  | some handle => return handle
  | none => withSession device config fun session => do
    match ← ask device (.findKey session key) with
    | none => throw (.noPrivateKey key slot)
    | some handle => do
      update fun managed => { managed with handles := managed.handles.insert key.cacheKey handle }
      return handle

def evict (key : KeyIdentifier) : Work δ ς Unit :=
  update fun managed => { managed with handles := managed.handles.remove key.cacheKey }

def publicKey (device : Device δ ς) (config : ModuleConfig) (object : UInt64)
    (key : KeyIdentifier) : Work δ ς PublicKey :=
  withSession device config fun session => ask device (.publicKey session object key)

def signOn (device : Device δ ς) (config : ModuleConfig) (session : ς) (object : UInt64)
    (mechanism : Mechanism) (parameters : Option MechanismParameters) (data : Bytes) :
    Work δ ς Bytes :=
  if config.maxMessageSize < data.length then
    ask device
      (.signParts session object mechanism parameters (data.parts config.maxMessageSize))
  else ask device (.sign session object mechanism parameters data)

def signBorrowed (device : Device δ ς) (config : ModuleConfig) (object : UInt64)
    (mechanism : Mechanism) (parameters : Option MechanismParameters) (data : Bytes) :
    Work δ ς Bytes := do
  let session ← borrow device config
  match ← (signOn device config session object mechanism parameters data).outcome with
  | .ok signature => do
    giveBack session
    return signature
  | .error e => do
    if e.kind = .token then discard device session else giveBack session
    throw e

def sign (device : Device δ ς) (config : ModuleConfig) (object : UInt64) (mechanism : Mechanism)
    (parameters : Option MechanismParameters) (data : Bytes) : Work δ ς Bytes := do
  let slot ← identifier
  if config.allows slot mechanism then
    if (← supportedMechanisms device).elem mechanism then
      signBorrowed device config object mechanism parameters data
    else throw (.mechanismNotSupported slot mechanism)
  else throw (.mechanismNotPermitted slot mechanism)

def closeLogin (device : Device δ ς) (managed : ManagedSlot ς) : Action (Site δ ς) Unit := do
  match managed.login with
  | none => return
  | some session => device.release managed.slot session

def closeAll (device : Device δ ς) (slot : SlotIdentifier) : List ς → Action (Site δ ς) Unit
  | [] => return
  | session :: rest => do
    device.release slot session
    closeAll device slot rest

def close (device : Device δ ς) (managed : ManagedSlot ς) : Action (Site δ ς) Unit := do
  closeAll device managed.slot managed.pool.idle.reverse
  closeLogin device managed

end ManagedSlot

end TokenSigner
