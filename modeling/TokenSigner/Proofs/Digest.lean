import TokenSigner.Digest
import TokenSigner.Digest.Hmac

namespace TokenSigner.Digest

theorem Sha256.length_toBytes (s : Sha256.State) : s.toBytes.length = 32 := by
  simp [Sha256.State.toBytes]

theorem Sha512.length_toBytes (s : Sha512.State) : s.toBytes.length = 64 := by
  simp [Sha512.State.toBytes]

theorem Sha3.length_toBytes (s : Sha3.State) : (Sha3.toBytes s).length = 200 := by
  have h : s.toList.length = 25 := s.length_toList
  simp [Sha3.toBytes, List.length_flatMap, List.map_const', h]

theorem length_pos (digest : Digest) : 0 < digest.length := by
  cases digest <;> decide

theorem length_hash (digest : Digest) (message : Bytes) :
    (digest.hash message).length = digest.length := by
  cases digest with
  | sha1 => simp [hash, length, Sha1.hash, Sha1.State.toBytes]
  | sha224 | sha256 => simp [hash, length, Sha256.hash, Sha256.length_toBytes]
  | sha384 | sha512 => simp [hash, length, Sha512.hash, Sha512.length_toBytes]
  | sha3_224 | sha3_256 | sha3_384 | sha3_512 =>
    simp [hash, length, Sha3.hash, Sha3.length_toBytes]

theorem length_hmac (digest : Digest) (key message : Bytes) :
    (digest.hmac key message).length = digest.length :=
  length_hash digest _

end TokenSigner.Digest
