import TokenSigner.Bytes

namespace TokenSigner.Emsa

def mask (hash : Bytes → Bytes) (seed : Bytes) (counter : UInt32) (length : Nat) : Bytes :=
  let block := hash (seed ++ Bytes.ofNat 4 counter.toNat)
  if length ≤ block.length ∨ block = [] then block.take length
  else block ++ mask hash seed (counter + 1) (length - block.length)
termination_by length
decreasing_by
  rename_i h
  simp only [not_or, Nat.not_le] at h
  have : block.length ≠ 0 := fun h₀ => h.2 (List.length_eq_zero_iff.mp h₀)
  change length - block.length < length
  omega

def mgf1 (hash : Bytes → Bytes) (seed : Bytes) (length : Nat) : Bytes :=
  mask hash seed 0 length

end TokenSigner.Emsa
