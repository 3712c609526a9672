import TokenSigner.Digest.Info
import TokenSigner.Emsa.Pkcs1
import TokenSigner.ManagedSlot

namespace TokenSigner

def PublicKey.classify : PublicKey → Except Error (KeyAlgorithm × Nat)
  | rsa modulus _ => .ok (.rsa, modulus.bitLength)
  | dsa prime => .ok (.dsa, prime.bitLength)
  | ec parameters =>
    match Curve.objectIdentifier? parameters with
    | none => .error .unnamedCurve
    | some oid =>
      match Curve.fieldSize? oid with
      | none => .error (.unknownCurve oid)
      | some bits => .ok (.ec, bits)
  | other keyType => .error (.unsupportedKeyType keyType)

structure KeyHandle where
  slot : SlotIdentifier
  key : KeyIdentifier
  object : UInt64
  algorithm : KeyAlgorithm
  bits : Nat
  deriving DecidableEq, Repr

namespace KeyHandle

open ManagedSlot (Work)

variable {δ ς : Type}

def length (handle : KeyHandle) : Nat := (handle.bits + 7) / 8

def find (device : Device δ ς) (config : ModuleConfig) (key : KeyIdentifier) :
    Work δ ς KeyHandle := do
  let slot ← ManagedSlot.identifier
  let object ← ManagedSlot.findKey device config key
  let publicKey ← ManagedSlot.publicKey device config object key
  let (algorithm, bits) ← Action.ofExcept publicKey.classify
  return { slot, key, object, algorithm, bits }

def require (handle : KeyHandle) (algorithm : KeyAlgorithm) : Except Error Unit :=
  if handle.algorithm = algorithm then .ok ()
  else .error (.wrongAlgorithm algorithm handle.key handle.algorithm)

def checkHash (digest : Digest) (hash : Bytes) : Except Error Unit :=
  if hash.length = digest.length then .ok ()
  else .error (.wrongHashLength digest hash.length)

def sign (device : Device δ ς) (config : ModuleConfig) (handle : KeyHandle) (mechanism : Mechanism)
    (parameters : Option MechanismParameters) (data : Bytes) : Work δ ς Bytes :=
  ManagedSlot.sign device config handle.object mechanism parameters data

def signPkcs1 (device : Device δ ς) (config : ModuleConfig) (handle : KeyHandle) (digest : Digest)
    (hash : Bytes) : Work δ ς Bytes := do
  Action.ofExcept (handle.require .rsa)
  Action.ofExcept (checkHash digest hash)
  if ← ManagedSlot.supports device config .rsaPkcs then
    handle.sign device config .rsaPkcs none (digest.info hash)
  else
    let block ← Action.ofExcept (Emsa.Pkcs1.encode (digest.info hash) handle.length)
    handle.sign device config .rsaRaw none block

def signPssEncoded (device : Device δ ς) (config : ModuleConfig) (handle : KeyHandle)
    (message : PssMessage) : Work δ ς Bytes := do
  Action.ofExcept (handle.require .rsa)
  if handle.length < message.bytes.length then
    throw (.encodedMessageTooLong message.bytes.length handle.bits)
  handle.sign device config .rsaRaw none (message.bytes.padLeft handle.length)

def encodePss (handle : KeyHandle) (parameters : PssParameters) (hash : Bytes) :
    Work δ ς PssMessage :=
  (Emsa.Pss.encodeFresh parameters handle.bits hash).on (·.1.salts)
    fun salts (managed, site) => ({ managed with salts }, site)

def signPss (device : Device δ ς) (config : ModuleConfig) (handle : KeyHandle)
    (parameters : PssParameters) (hash : Bytes) : Work δ ς Bytes := do
  Action.ofExcept (handle.require .rsa)
  Action.ofExcept (checkHash parameters.digest hash)
  if ← ManagedSlot.supports device config .rsaPss then
    handle.sign device config .rsaPss (some parameters.forToken) hash
  else
    let message ← handle.encodePss parameters hash
    handle.signPssEncoded device config message

def signEcdsa (device : Device δ ς) (config : ModuleConfig) (handle : KeyHandle) (hash : Bytes)
    (encoding : Ecdsa.Encoding) : Work δ ς Bytes := do
  Action.ofExcept (handle.require .ec)
  let raw ← handle.sign device config .ecdsa none hash
  Action.ofExcept (Ecdsa.encode device.write encoding handle.length raw)

end KeyHandle

end TokenSigner
