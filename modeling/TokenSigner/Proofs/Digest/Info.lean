import TokenSigner.Digest.Info
import TokenSigner.Proofs.Der

namespace TokenSigner

namespace Digest

theorem length_le (digest : Digest) : digest.length ≤ 64 := by
  cases digest <;> decide

theorem length_objectIdentifier_le (digest : Digest) : digest.objectIdentifier.length ≤ 9 := by
  cases digest <;> decide

theorem find?_objectIdentifier (digest : Digest) :
    all.find? (·.objectIdentifier == digest.objectIdentifier) = some digest := by
  cases digest <;> rfl

def algorithm (digest : Digest) : Bytes :=
  Der.tagged 0x06 digest.objectIdentifier ++ Der.tagged 0x05 []

theorem length_algorithm_le (digest : Digest) : digest.algorithm.length ≤ 13 := by
  cases digest <;> decide

theorem info_eq {digest : Digest} {hash : Bytes} (h : hash.length = digest.length) :
    digest.info hash =
      Der.sequence [Der.sequence [digest.algorithm], Der.tagged 0x04 hash] := by
  cases digest <;> simp [info, infoHead, algorithm, Der.sequence, Der.tagged, Der.length, h, length,
    objectIdentifier, objectIdentifier.nist]

theorem ofInfo?_info {digest : Digest} {hash : Bytes} (h : hash.length = digest.length) :
    ofInfo? (digest.info hash) = some (digest, hash) := by
  have hdigest := digest.length_le
  have halgorithm := digest.length_algorithm_le
  have hitems :
      (Der.tagged 0x30 digest.algorithm ++ Der.tagged 0x04 hash).length < Der.lengthBound := by
    refine Der.lt_lengthBound ?_
    rw [List.length_append, Der.length_tagged, Der.length_tagged,
      Der.lengthOctets_of_lt (by omega), Der.lengthOctets_of_lt (by omega)]
    omega
  have hinfo : digest.info hash =
      Der.tagged 0x30 (Der.tagged 0x30 digest.algorithm ++ Der.tagged 0x04 hash) := by
    rw [info_eq h]
    simp [Der.sequence]
  have hoid : Der.tagged? 0x06 digest.algorithm = some (digest.objectIdentifier, [0x05, 0x00]) := by
    refine Der.tagged?_tagged (Der.lt_lengthBound ?_) _
    have hle := digest.length_objectIdentifier_le
    omega
  simp [ofInfo?, hinfo, Der.tagged?_tagged_nil hitems,
    Der.tagged?_tagged (Der.lt_lengthBound (show digest.algorithm.length < 2 ^ 32 by omega)),
    Der.tagged?_tagged_nil (Der.lt_lengthBound (show hash.length < 2 ^ 32 by omega)), hoid,
    find?_objectIdentifier, h, guard]

end Digest

end TokenSigner
