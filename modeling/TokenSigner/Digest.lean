import TokenSigner.Digest.Sha1
import TokenSigner.Digest.Sha256
import TokenSigner.Digest.Sha512
import TokenSigner.Digest.Sha3
import TokenSigner.Mechanism

namespace TokenSigner

inductive Digest where
  | sha1
  | sha224
  | sha256
  | sha384
  | sha512
  | sha3_224
  | sha3_256
  | sha3_384
  | sha3_512
  deriving DecidableEq, Repr

namespace Digest

def all : List Digest :=
  [sha1, sha224, sha256, sha384, sha512, sha3_224, sha3_256, sha3_384, sha3_512]

def name : Digest → String
  | sha1 => "SHA-1"
  | sha224 => "SHA-224"
  | sha256 => "SHA-256"
  | sha384 => "SHA-384"
  | sha512 => "SHA-512"
  | sha3_224 => "SHA3-224"
  | sha3_256 => "SHA3-256"
  | sha3_384 => "SHA3-384"
  | sha3_512 => "SHA3-512"

def length : Digest → Nat
  | sha1 => 20
  | sha224 | sha3_224 => 28
  | sha256 | sha3_256 => 32
  | sha384 | sha3_384 => 48
  | sha512 | sha3_512 => 64

def blockLength : Digest → Nat
  | sha1 | sha224 | sha256 => 64
  | sha384 | sha512 => 128
  | sha3_224 => 144
  | sha3_256 => 136
  | sha3_384 => 104
  | sha3_512 => 72

def hash : Digest → Bytes → Bytes
  | sha1 => Sha1.hash
  | sha224 => Sha256.hash .start224 28
  | sha256 => Sha256.hash .start256 32
  | sha384 => Sha512.hash .start384 48
  | sha512 => Sha512.hash .start512 64
  | sha3_224 => Sha3.hash 28
  | sha3_256 => Sha3.hash 32
  | sha3_384 => Sha3.hash 48
  | sha3_512 => Sha3.hash 64

def mechanism : Digest → Mechanism
  | sha1 => 0x0220
  | sha224 => 0x0255
  | sha256 => 0x0250
  | sha384 => 0x0260
  | sha512 => 0x0270
  | sha3_224 => 0x02B5
  | sha3_256 => 0x02B0
  | sha3_384 => 0x02C0
  | sha3_512 => 0x02D0

def maskCode : Digest → UInt64
  | sha1 => 1
  | sha256 => 2
  | sha384 => 3
  | sha512 => 4
  | sha224 => 5
  | sha3_224 => 6
  | sha3_256 => 7
  | sha3_384 => 8
  | sha3_512 => 9

structure Running where
  digest : Digest
  fed : Bytes

-- what the library of the digests reports, where one of its steps fails
structure Hashing where
  starting : Digest → Option String
  feeding : Running → Bytes → Option String
  finishing : Running → Option String

namespace Hashing

def reliable : Hashing := ⟨fun _ => none, fun _ _ => none, fun _ => none⟩

def start (hashing : Hashing) (digest : Digest) : Except String Running :=
  (hashing.starting digest).elim (.ok ⟨digest, []⟩) .error

def feed (hashing : Hashing) (running : Running) (data : Bytes) : Except String Running :=
  (hashing.feeding running data).elim (.ok { running with fed := running.fed ++ data }) .error

def finish (hashing : Hashing) (running : Running) : Except String Bytes :=
  (hashing.finishing running).elim (.ok (running.digest.hash running.fed)) .error

end Hashing

end Digest

end TokenSigner
