import TokenSigner.Key.Handle
import TokenSigner.Stage

namespace TokenSigner

inductive SignatureScheme where
  | pkcs1 (digest : Digest)
  | pss (digest : Option Digest)
  | ecdsa (digest : Digest) (encoding : Ecdsa.Encoding)
  deriving DecidableEq, Repr

namespace SignatureScheme

def algorithm : SignatureScheme → KeyAlgorithm
  | pkcs1 _ | pss _ => .rsa
  | ecdsa _ _ => .ec

def parameters : SignatureScheme → Option PssParameters
  | pss (some digest) => some (.ofDigest digest)
  | pss none => some .standard
  | pkcs1 _ | ecdsa _ _ => none

end SignatureScheme

structure Engine where
  scheme : SignatureScheme
  parameters : Option PssParameters
  key : Option KeyHandle
  running : Option Digest.Running
  stage : Stage

namespace Engine

def start (scheme : SignatureScheme) : Engine :=
  ⟨scheme, scheme.parameters, none, none, .uninitialized⟩

def digest (engine : Engine) : Digest :=
  match engine.scheme, engine.parameters with
  | .pkcs1 digest, _ | .ecdsa digest _, _ => digest
  | .pss _, some parameters => parameters.digest
  | .pss digest, none => digest.getD .sha1

-- the parameters are replaced before their digest is started, which may fail
def replaceParameters (hashing : Digest.Hashing) (parameters : PssParameters) (engine : Engine) :
    Action Engine Unit := do
  let engine := { engine with parameters := some parameters }
  set engine
  if engine.stage = .initialized then
    let running ← Action.ofExcept ((hashing.start parameters.digest).mapError .cryptography)
    set { engine with running := some running }

def setParameters (hashing : Digest.Hashing) (parameters : PssParameters) :
    Action Engine Unit := do
  let engine ← get
  match engine.scheme with
  | .pkcs1 _ | .ecdsa _ _ => throw .parametersNeedPss
  | .pss fixed => do
    if engine.stage = .accumulating then throw .parametersFixed
    if let some fixed := fixed then
      if parameters.digest ≠ fixed then throw (.digestFixed fixed parameters.digest)
    replaceParameters hashing parameters engine

def initSign (hashing : Digest.Hashing) (key : KeyHandle) : Action Engine Unit := do
  let engine ← get
  Action.ofExcept (key.require engine.scheme.algorithm)
  let running ← Action.ofExcept ((hashing.start engine.digest).mapError .cryptography)
  set { engine with running := some running, key := some key, stage := .initialized }

def update (hashing : Digest.Hashing) (data : Bytes) : Action Engine Unit := do
  let engine ← get
  Action.ofExcept engine.stage.checkUpdate
  match engine.running with
  | none => throw .noRunningDigest
  | some running => do
    let running ← Action.ofExcept ((hashing.feed running data).mapError .cryptography)
    set { engine with running := some running, stage := .accumulating }

def finish (hashing : Digest.Hashing) : Action Engine (KeyHandle × Bytes) := do
  let engine ← get
  Action.ofExcept engine.stage.checkFinish
  set { engine with running := none, stage := .finalized }
  match engine.running, engine.key with
  | none, _ => throw .noRunningDigest
  | some _, none => throw .noKeyBound
  | some running, some key =>
    return (key, ← Action.ofExcept ((hashing.finish running).mapError .cryptography))

def currentParameters (engine : Engine) : Except Error PssParameters :=
  match engine.parameters with
  | some parameters => .ok parameters
  | none => .error .noPssParameters

inductive Order where
  | pkcs1 (key : KeyHandle) (digest : Digest) (hash : Bytes)
  | pss (key : KeyHandle) (parameters : PssParameters) (hash : Bytes)
  | ecdsa (key : KeyHandle) (hash : Bytes) (encoding : Ecdsa.Encoding)

def order (hashing : Digest.Hashing) : Action Engine Order := do
  let (key, hash) ← finish hashing
  let engine ← get
  match engine.scheme with
  | .pkcs1 digest => return .pkcs1 key digest hash
  | .pss _ => return .pss key (← Action.ofExcept engine.currentParameters) hash
  | .ecdsa _ encoding => return .ecdsa key hash encoding

def orderEncoding (hashing : Digest.Hashing) :
    Action Engine (KeyHandle × PssParameters × Bytes) := do
  match (← get).scheme with
  | .pkcs1 _ | .ecdsa _ _ => throw .encodingNeedsPss
  | .pss _ => do
    let (key, hash) ← finish hashing
    let parameters ← Action.ofExcept (← get).currentParameters
    return (key, parameters, hash)

def verify : Action Engine Unit := throw .verificationUnsupported

namespace Order

variable {δ ς : Type}

def key : Order → KeyHandle
  | pkcs1 key _ _ | pss key _ _ | ecdsa key _ _ => key

def sign (device : Device δ ς) (config : ModuleConfig) : Order → ManagedSlot.Work δ ς Bytes
  | pkcs1 key digest hash => key.signPkcs1 device config digest hash
  | pss key parameters hash => key.signPss device config parameters hash
  | ecdsa key hash encoding => key.signEcdsa device config hash encoding

end Order

end Engine

end TokenSigner
