import TokenSigner.Client
import TokenSigner.Cryptoki.Session

namespace TokenSigner.Cryptoki

variable {ℓ : Type}

def slotList (library : Library ℓ) : Action (Application ℓ) (List UInt64) := do
  let counted ← library.require .countSlots (.slotList true none)
  let room := counted.announced
  return (← library.require .listSlots (.slotList true (some room))).receivedWords room

def mechanismList (library : Library ℓ) (slot : UInt64) :
    Action (Application ℓ) (List Mechanism) := do
  let counted ← library.require .countMechanisms (.mechanismList slot none)
  let room := counted.announced
  return (← library.require .listMechanisms (.mechanismList slot (some room))).receivedWords room

def serve (library : Library ℓ) (patience : Nat) (slot : SlotIdentifier) :
    (call : Call Session) → Action (Application ℓ) call.Answer
  | .mechanisms => mechanismList library slot.id
  | .openSession readWrite => Session.start library slot.id readWrite
  | .login session user pin => session.login library user pin
  | .findKey session key => Session.findKey library patience session ObjectClass.privateKey key
  | .publicKey session object key => Session.publicKey library patience session object key
  | .sign session object mechanism parameters data =>
    session.sign library object mechanism parameters data
  | .signParts session object mechanism parameters parts =>
    session.signParts library object mechanism parameters parts
  | .close session => session.close library

def device (library : Library ℓ) (patience : Nat) : Device (Application ℓ) Session where
  ask slot call application :=
    let (result, after) :=
      (serve library patience slot call).run { application with warnings := [] }
    ⟨result, { after with warnings := application.warnings }, after.warnings⟩

def startLibrary (library : Library ℓ) : Action (Application ℓ) Unit := do
  let outcome ← library.exchange (.start Flag.osLocking)
  if outcome.code ≠ ReturnCode.ok ∧ outcome.code ≠ ReturnCode.alreadyInitialized then
    throw (.libraryCall .start outcome.code)

def finishLibrary (library : Library ℓ) : Action (Application ℓ) Unit := do
  let _ ← library.exchange .finish

def onApplication {α : Type} (a : Action (Application ℓ) α) :
    Action (Site (Application ℓ) Session) α :=
  a.on (·.device) fun device site => { site with device }

abbrev Installed := String → Option (List String)

def loadLibrary (installed : Installed) (path : String) : Except Error Unit :=
  match installed path with
  | none => .error .libraryNotLoaded
  | some functions =>
    if requiredFunctions.all functions.elem then .ok () else .error .libraryNotLoaded

def instantiate (library : Library ℓ) (installed : Installed) (path : String) :
    Action (Application ℓ) Unit := do
  Action.ofExcept (loadLibrary installed path)
  match ← (startLibrary library).outcome with
  | .ok () => return
  | .error e => do
    finishLibrary library
    throw e

def release (library : Library ℓ) (tokens : TokenModule Session) :
    Action (Site (Application ℓ) Session) Unit :=
  if tokens.managed.isEmpty then onApplication (finishLibrary library) else pure ()

def load (library : Library ℓ) (installed : Installed) (patience : Nat) (config : ModuleConfig)
    (resolver : PasswordResolver) (salts : SlotIdentifier → Entropy) :
    Action (Site (Application ℓ) Session) (TokenModule Session) := do
  Action.ofExcept (loadLibrary installed config.library)
  let build := do
    onApplication (startLibrary library)
    let slots ← onApplication (slotList library)
    TokenModule.build (device library patience) config resolver salts slots
  match ← build.outcome with
  | .ok tokens => do
    release library tokens
    return tokens
  | .error e => do
    onApplication (finishLibrary library)
    throw e

def unload (library : Library ℓ) (patience : Nat) :
    Action (Client (Application ℓ) Session) Unit := do
  Client.close (device library patience)
  let tokens := (← get).tokens
  if !tokens.managed.isEmpty then
    Client.onModule ((onApplication (finishLibrary library)).on Prod.snd fun site (tokens, _) =>
      (tokens, site))

end TokenSigner.Cryptoki
