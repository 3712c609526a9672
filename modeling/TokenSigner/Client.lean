import TokenSigner.Client.Request
import TokenSigner.Engine.Call

namespace TokenSigner

structure Borrowed (ς : Type) where
  slot : SlotIdentifier
  session : ς

structure Client (δ ς : Type) where
  tokens : TokenModule ς
  site : Site δ ς
  keys : List (String × KeyHandle) := []
  engines : List (String × Engine) := []
  borrowed : List (String × Borrowed ς) := []

namespace Client

variable {δ ς α : Type}

def onModule (a : Action (TokenModule ς × Site δ ς) α) : Action (Client δ ς) α :=
  a.on (fun client => (client.tokens, client.site)) fun (tokens, site) client =>
    { client with tokens, site }

def onIndex (index : Nat) (work : ManagedSlot.Work δ ς α) : Action (Client δ ς) α :=
  onModule (TokenModule.on (·.slotByIndex index) work)

def onSlot (slot : SlotIdentifier) (work : ManagedSlot.Work δ ς α) : Action (Client δ ς) α :=
  onModule (TokenModule.on (·.slot slot) work)

def describe (found : Except Error (ManagedSlot ς)) : Action (Client δ ς) Response := do
  let managed ← Action.ofExcept found
  return .slot managed.slot (← get).tokens.config.name managed.pool.capacity managed.pool.opened

def borrowing (device : Device δ ς) (config : ModuleConfig) :
    ManagedSlot.Work δ ς (Borrowed ς) := do
  let session ← ManagedSlot.borrow device config
  return ⟨← ManagedSlot.identifier, session⟩

def returnSession (loan : Borrowed ς) : Action (Client δ ς) Unit :=
  onSlot loan.slot (ManagedSlot.giveBack loan.session)

def forget (name : String) : Action (Client δ ς) Unit :=
  modify fun client => { client with borrowed := client.borrowed.filter (·.1 != name) }

def borrowAs (device : Device δ ς) (config : ModuleConfig) (name : String) (index : Nat) :
    Action (Client δ ς) Response := do
  let earlier := (← get).borrowed.lookup name
  let loan ← onIndex index (borrowing device config)
  forget name
  modify fun client => { client with borrowed := client.borrowed ++ [(name, loan)] }
  if let some earlier := earlier then returnSession earlier
  return .done

def letGo (name : String) (work : ς → ManagedSlot.Work δ ς Unit) :
    Action (Client δ ς) Response := do
  match (← get).borrowed.lookup name with
  | none => return .skipped
  | some loan => do
    forget name
    onSlot loan.slot (work loan.session)
    return .done

def slotRequest (device : Device δ ς) (config : ModuleConfig) :
    SlotRequest → ManagedSlot.Work δ ς Response
  | .mechanisms => return .mechanisms (← ManagedSlot.supportedMechanisms device)
  | .supports mechanism => return .flag (← ManagedSlot.supports device config mechanism)
  | .findKey key => return .object (← ManagedSlot.findKey device config key)
  | .evict key => do
    ManagedSlot.evict key
    return .done
  | .publicKey object key => return .publicKey (← ManagedSlot.publicKey device config object key)
  | .sign object mechanism parameters data =>
    return .bytes (← ManagedSlot.sign device config object mechanism parameters data)

def keyRequest (device : Device δ ς) (config : ModuleConfig) (handle : KeyHandle) :
    KeyRequest → ManagedSlot.Work δ ς Response
  | .supports mechanism => return .flag (← ManagedSlot.supports device config mechanism)
  | .sign mechanism parameters data =>
    return .bytes (← handle.sign device config mechanism parameters data)
  | .signPkcs1 digest hash => do
    let digest ← Action.ofExcept (Digest.named digest)
    return .bytes (← handle.signPkcs1 device config digest hash)
  | .signPss parameters hash => do
    let parameters ← Action.ofExcept parameters.read
    return .bytes (← handle.signPss device config parameters hash)
  | .signEcdsa hash encoding => return .bytes (← handle.signEcdsa device config hash encoding)

def put (table : List (String × α)) (name : String) (value : α) : List (String × α) :=
  (name, value) :: table.filter (·.1 != name)

def putEngine (name : String) (engine : Engine) : Action (Client δ ς) Unit :=
  modify fun client => { client with engines := put client.engines name engine }

def engineCall (device : Device δ ς) (config : ModuleConfig) (name : String) (engine : Engine)
    (call : Engine.Call) : Action (Client δ ς) Response := do
  let client ← get
  let (result, (engine, tokens, site)) :=
    (Engine.perform device.hashing device config call).run (engine, client.tokens, client.site)
  set { client with tokens, site }
  putEngine name engine
  return .engineStep result engine

def engineRequest (device : Device δ ς) (config : ModuleConfig) (name : String) (engine : Engine) :
    EngineRequest → Action (Client δ ς) Response
  | .initSign key => do
    match (← get).keys.lookup key with
    | none => return .skipped
    | some handle => engineCall device config name engine (.initSign handle)
  | .setParameters parameters =>
    match parameters.read with
    | .error e => return .engineStep (.error e) engine
    | .ok parameters => engineCall device config name engine (.setParameters parameters)
  | .update data => engineCall device config name engine (.update data)
  | .sign => engineCall device config name engine .sign
  | .encodePss => engineCall device config name engine .encodePss
  | .initVerify key => do
    match (← get).keys.lookup key with
    | none => return .skipped
    | some handle => engineCall device config name engine (.initVerify handle)
  | .verify data => engineCall device config name engine (.verify data)

def perform (device : Device δ ς) (request : Request) : Action (Client δ ς) Response := do
  let client ← get
  let tokens := client.tokens
  let config := tokens.config
  match request with
  | .summary => return .summary config.name config.maxMessageSize tokens.slots
  | .slot slot => describe (tokens.slot slot)
  | .slotByIndex index => describe (tokens.slotByIndex index)
  | .slotById id => describe (tokens.slotById id)
  | .onSlot index request => onIndex index (slotRequest device config request)
  | .borrow name index => borrowAs device config name index
  | .giveBack name => letGo name ManagedSlot.giveBack
  | .discard name => letGo name (ManagedSlot.discard device)
  | .openKey name slot key => do
    let handle ← onSlot slot (KeyHandle.find device config key)
    modify fun client => { client with keys := put client.keys name handle }
    return .key handle
  | .onKey name request =>
    match client.keys.lookup name with
    | none => return .skipped
    | some handle => onSlot handle.slot (keyRequest device config handle request)
  | .signPssEncoded name message => do
    let message ← Action.ofExcept (PssMessage.ofBytes message)
    match client.keys.lookup name with
    | none => return .skipped
    | some handle =>
      return .bytes (← onSlot handle.slot (handle.signPssEncoded device config message))
  | .startEngine name scheme => do
    let engine := Engine.start (← Action.ofExcept scheme.read)
    putEngine name engine
    return .engine engine
  | .onEngine name request =>
    match client.engines.lookup name with
    | none => return .skipped
    | some engine => engineRequest device config name engine request

def returnAll : List (Borrowed ς) → Action (Client δ ς) Unit
  | [] => return
  | loan :: rest => do
    returnSession loan
    returnAll rest

def close (device : Device δ ς) : Action (Client δ ς) Unit := do
  returnAll ((← get).borrowed.map (·.2))
  onModule fun (tokens, site) =>
    let (result, site) := (TokenModule.close device tokens.managed).run site
    (result, (tokens, site))

end Client

end TokenSigner
