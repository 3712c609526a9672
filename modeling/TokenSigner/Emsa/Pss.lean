import TokenSigner.Action
import TokenSigner.Emsa.Mask
import TokenSigner.Entropy

namespace TokenSigner

structure PssParameters where
  digest : Digest
  maskDigest : Digest
  saltLength : Nat
  trailer : UInt32
  deriving DecidableEq, Repr

namespace PssParameters

def standard : PssParameters := ⟨.sha1, .sha1, 20, 1⟩

def ofDigest (digest : Digest) : PssParameters := ⟨digest, digest, digest.length, 1⟩

def of (digest maskDigest : Digest) (saltLength : Nat) (trailer : UInt32) :
    Except Error PssParameters :=
  if maskDigest ≠ digest then .error (.maskDigestDiffers maskDigest digest)
  else if trailer ≠ 1 then .error (.unsupportedTrailer trailer)
  else .ok ⟨digest, maskDigest, saltLength, trailer⟩

end PssParameters

structure PssMessage where
  bytes : Bytes
  ends : bytes.getLast? = some 0xbc

namespace PssMessage

def ofBytes (bytes : Bytes) : Except Error PssMessage :=
  if h : bytes.getLast? = some 0xbc then .ok ⟨bytes, h⟩ else .error .notPssEncoded

end PssMessage

namespace Emsa.Pss

def emBits (modulusBits : Nat) : Nat := modulusBits - 1

def emLength (modulusBits : Nat) : Nat := (emBits modulusBits + 7) / 8

def clearTop (count : Nat) : Bytes → Bytes
  | [] => []
  | b :: rest => UInt8.ofNat (b.toNat % (1 <<< (8 - count))) :: rest

def saltedHash (hash : Bytes → Bytes) (messageHash salt : Bytes) : Bytes :=
  hash (List.replicate 8 0 ++ messageHash ++ salt)

def dataBlock (length : Nat) (salt : Bytes) : Bytes :=
  List.replicate (length - salt.length - 1) 0 ++ 0x01 :: salt

def assemble (hash maskHash : Bytes → Bytes) (modulusBits : Nat) (messageHash salt : Bytes) :
    PssMessage :=
  let length := emLength modulusBits
  let h := saltedHash hash messageHash salt
  let blockLength := length - h.length - 1
  let masked := Bytes.xor (dataBlock blockLength salt) (mgf1 maskHash h blockLength)
  ⟨clearTop (8 * length - emBits modulusBits) masked ++ h ++ [0xbc], by simp⟩

def check (parameters : PssParameters) (modulusBits hashLength saltLength : Nat) :
    Except Error Unit :=
  let digest := parameters.digest
  if hashLength ≠ digest.length then .error (.wrongHashLength digest hashLength)
  else if saltLength ≠ parameters.saltLength then
    .error (.wrongSaltLength parameters.saltLength saltLength)
  else if emLength modulusBits < digest.length + saltLength + 2 then
    .error (.modulusTooSmall modulusBits digest saltLength)
  else .ok ()

def encodeOver (hash : Digest → Bytes → Bytes) (parameters : PssParameters) (modulusBits : Nat)
    (messageHash salt : Bytes) : Except Error PssMessage :=
  (check parameters modulusBits messageHash.length salt.length).map fun _ =>
    assemble (hash parameters.digest) (hash parameters.maskDigest) modulusBits messageHash salt

def encode : PssParameters → (modulusBits : Nat) → (messageHash salt : Bytes) →
    Except Error PssMessage :=
  encodeOver Digest.hash

def encodeFresh (parameters : PssParameters) (modulusBits : Nat) (messageHash : Bytes) :
    Action Entropy PssMessage := do
  if Bytes.largest < parameters.saltLength then throw (.oversized parameters.saltLength)
  let salt ← Entropy.draw parameters.saltLength
  Action.ofExcept (encode parameters modulusBits messageHash salt)

def recover (hash maskHash : Bytes → Bytes) (hashLength saltLength bits : Nat)
    (messageHash encoded : Bytes) : Option Bytes :=
  let length := (bits + 7) / 8
  let blockLength := length - hashLength - 1
  let masked := encoded.take blockLength
  let h := (encoded.drop blockLength).take hashLength
  let top := 8 * length - bits
  let block := clearTop top (Bytes.xor masked (mgf1 maskHash h blockLength))
  let filling := blockLength - saltLength - 1
  let salt := block.drop (filling + 1)
  if encoded.length = length ∧ hashLength + saltLength + 2 ≤ length
      ∧ encoded.getLast? = some 0xbc ∧ clearTop top masked = masked
      ∧ block.take (filling + 1) = List.replicate filling 0 ++ [0x01]
      ∧ hash (List.replicate 8 0 ++ messageHash ++ salt) = h then some salt
  else none

end Emsa.Pss

end TokenSigner
