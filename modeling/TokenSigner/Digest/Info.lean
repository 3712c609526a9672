import TokenSigner.Der
import TokenSigner.Digest

namespace TokenSigner.Digest

def objectIdentifier : Digest → Bytes
  | sha1 => [0x2b, 0x0e, 0x03, 0x02, 0x1a]
  | sha224 => nist 0x04
  | sha256 => nist 0x01
  | sha384 => nist 0x02
  | sha512 => nist 0x03
  | sha3_224 => nist 0x07
  | sha3_256 => nist 0x08
  | sha3_384 => nist 0x09
  | sha3_512 => nist 0x0a
where
  nist (algorithm : UInt8) : Bytes := [0x60, 0x86, 0x48, 0x01, 0x65, 0x03, 0x04, 0x02, algorithm]

def infoHead (digest : Digest) : Bytes :=
  let oid := digest.objectIdentifier
  let algorithm : Bytes := 0x06 :: UInt8.ofNat oid.length :: oid ++ [0x05, 0x00]
  0x30 :: UInt8.ofNat (algorithm.length + 4 + digest.length)
    :: 0x30 :: UInt8.ofNat algorithm.length :: algorithm ++ [0x04, UInt8.ofNat digest.length]

def info (digest : Digest) (hash : Bytes) : Bytes :=
  digest.infoHead ++ hash

def ofInfo? (info : Bytes) : Option (Digest × Bytes) := do
  let (items, after) ← Der.tagged? 0x30 info
  let (algorithm, items) ← Der.tagged? 0x30 items
  let (hash, items) ← Der.tagged? 0x04 items
  let (oid, parameters) ← Der.tagged? 0x06 algorithm
  guard (after = [] ∧ items = [] ∧ parameters = [0x05, 0x00])
  let digest ← all.find? (·.objectIdentifier == oid)
  guard (hash.length = digest.length)
  return (digest, hash)

end TokenSigner.Digest
