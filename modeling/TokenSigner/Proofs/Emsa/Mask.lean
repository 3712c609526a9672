import Mathlib.Algebra.Order.Floor.Div
import Mathlib.GroupTheory.GroupAction.Ring
import TokenSigner.Emsa.Mask
import TokenSigner.Proofs.Bytes
import TokenSigner.Proofs.Digest

namespace TokenSigner.Emsa

variable {hash : Bytes → Bytes} {size length : Nat} {seed made : Bytes} {counter : UInt32}

theorem length_mask (fixed : ∀ m, (hash m).length = size)
    (hpos : 0 < size) (seed : Bytes) (counter : UInt32) (length : Nat) :
    (mask hash seed counter length).length = length := by
  fun_induction mask hash seed counter length with
  | case1 counter length block last =>
    have hb : block.length = size := fixed _
    have hne : block ≠ [] := List.ne_nil_of_length_pos (hb ▸ hpos)
    have hle : length ≤ block.length := last.resolve_right hne
    rw [List.length_take, Nat.min_eq_left hle]
  | case2 counter length block more ih =>
    have hlt : block.length < length := Nat.lt_of_not_le fun h => more (Or.inl h)
    rw [List.length_append, ih]
    omega

theorem length_mgf1 (fixed : ∀ m, (hash m).length = size)
    (hpos : 0 < size) (seed : Bytes) (length : Nat) : (mgf1 hash seed length).length = length :=
  length_mask fixed hpos seed 0 length

def blocks (hash : Bytes → Bytes) (seed : Bytes) (count : Nat) : Bytes :=
  (List.range count).flatMap fun i => hash (seed ++ Bytes.ofNat 4 i)

theorem blocks_succ (hash : Bytes → Bytes) (seed : Bytes) (count : Nat) :
    blocks hash seed (count + 1) =
      blocks hash seed count ++ hash (seed ++ Bytes.ofNat 4 count) := by
  simp [blocks, List.range_succ]

theorem length_blocks (fixed : ∀ m, (hash m).length = size) (seed : Bytes) (count : Nat) :
    (blocks hash seed count).length = size * count := by
  induction count with
  | zero => rfl
  | succ count ih => rw [blocks_succ, List.length_append, ih, fixed, Nat.mul_succ]

theorem blocks_isPrefix (hash : Bytes → Bytes) (seed : Bytes) {count more : Nat}
    (h : count ≤ more) : blocks hash seed count <+: blocks hash seed more := by
  induction h with
  | refl => exact List.prefix_rfl
  | step _ ih =>
    rw [Nat.succ_eq_add_one, blocks_succ]
    exact ih.trans (List.prefix_append _ _)

theorem take_blocks (fixed : ∀ m, (hash m).length = size) (seed : Bytes) {count more : Nat}
    (hlength : length ≤ size * count) (hmore : count ≤ more) :
    (blocks hash seed more).take length = (blocks hash seed count).take length := by
  obtain ⟨rest, hrest⟩ := blocks_isPrefix hash seed hmore
  rw [← hrest, List.take_append_of_le_length]
  rwa [length_blocks fixed]

inductive Growing (hash : Bytes → Bytes) (seed : Bytes) (length : Nat) : Bytes → UInt32 → Prop
  | start : Growing hash seed length [] 0
  | block {made : Bytes} {counter : UInt32} (hgrowing : Growing hash seed length made counter)
    (hmissing : made.length < length) :
    Growing hash seed length (made ++ hash (seed ++ Bytes.ofNat 4 counter.toNat)) (counter + 1)

theorem Growing.take_append_mask (fixed : ∀ m, (hash m).length = size) (hpos : 0 < size)
    (h : Growing hash seed length made counter) :
    (made ++ mask hash seed counter (length - made.length)).take length =
      mgf1 hash seed length := by
  induction h with
  | start =>
    rw [List.nil_append, List.length_nil, Nat.sub_zero, List.take_of_length_le]
    · rfl
    · rw [length_mask fixed hpos]
  | @block made counter _ hmissing ih =>
    rw [← ih]
    generalize hblock : hash (seed ++ Bytes.ofNat 4 counter.toNat) = block
    have hsize : block.length = size := hblock ▸ fixed _
    have hne : block ≠ [] := List.ne_nil_of_length_pos (hsize ▸ hpos)
    rw [mask.eq_1 hash seed counter]
    simp only [hblock]
    by_cases hlast : length - made.length ≤ block.length
    · rw [if_pos (Or.inl hlast), List.take_append_of_le_length]
      · simp only [List.take_append, List.take_take, Nat.min_self]
      · rw [List.length_append]
        omega
    · rw [if_neg (not_or.mpr ⟨hlast, hne⟩), List.append_assoc, List.length_append, Nat.sub_add_eq]

section Counters

variable (fixed : ∀ m, (hash m).length = size) (hpos : 0 < size)
  (hlength : length ≤ (2 ^ 32 - 1) * size)
include fixed hpos

theorem missing_iff (seed : Bytes) (count : Nat) :
    (blocks hash seed count).length < length ↔ count < length ⌈/⌉ size := by
  rw [length_blocks fixed, ← Nat.not_le, ← Nat.not_le, ceilDiv_le_iff_le_mul hpos]

omit fixed in
include hlength in
theorem blocks_le : length ⌈/⌉ size ≤ 2 ^ 32 - 1 := by
  rw [ceilDiv_le_iff_le_mul hpos, Nat.mul_comm]
  exact hlength

include hlength

omit fixed in
theorem toNat_add_one (hcount : counter.toNat < length ⌈/⌉ size) :
    (counter + 1).toNat = counter.toNat + 1 := by
  have hle := blocks_le hpos hlength
  rw [UInt32.toNat_add]
  exact Nat.mod_eq_of_lt (by simp only [UInt32.toNat_one]; omega)

theorem Growing.eq_blocks (h : Growing hash seed length made counter) :
    counter.toNat ≤ length ⌈/⌉ size ∧ made = blocks hash seed counter.toNat := by
  induction h with
  | start => exact ⟨Nat.zero_le _, rfl⟩
  | @block made counter _ hmissing ih =>
    obtain ⟨-, rfl⟩ := ih
    have hcount := (missing_iff fixed hpos seed _).mp hmissing
    rw [toNat_add_one hpos hlength hcount, blocks_succ]
    exact ⟨hcount, rfl⟩

theorem growing_blocks (seed : Bytes) {count : Nat} (hcount : count ≤ length ⌈/⌉ size) :
    Growing hash seed length (blocks hash seed count) (UInt32.ofNat count) := by
  induction count with
  | zero => exact .start
  | succ count ih =>
    have hle := blocks_le hpos hlength
    have hcounter : (UInt32.ofNat count).toNat = count :=
      UInt32.toNat_ofNat_of_lt' (by simp only [UInt32.size]; omega)
    have hgrowing := ih (Nat.le_of_succ_le hcount)
    have hmissing := (missing_iff fixed hpos seed count).mpr hcount
    have hblock := hgrowing.block hmissing
    rw [hcounter, ← blocks_succ] at hblock
    rw [UInt32.ofNat_add]
    exact hblock

omit hlength in
theorem Growing.mgf1_eq (h : Growing hash seed length made counter) (hmade : length ≤ made.length) :
    mgf1 hash seed length = made.take length := by
  rw [← h.take_append_mask fixed hpos, List.take_append_of_le_length hmade]

end Counters

theorem mgf1_counts_up (fixed : ∀ m, (hash m).length = size) (hpos : 0 < size) (seed : Bytes)
    (hlength : length ≤ (2 ^ 32 - 1) * size) :
    (∀ count, length ≤ size * count →
      mgf1 hash seed length = (blocks hash seed count).take length) ∧
    (∀ count < 2 ^ 32, (Bytes.ofNat 4 count).length = 4 ∧ (Bytes.ofNat 4 count).toNat = count) ∧
    (∀ made counter, Growing hash seed length made counter →
      made = blocks hash seed counter.toNat ∧ counter.toNat ≤ length ⌈/⌉ size ∧
      (made.length < length → (counter + 1).toNat = counter.toNat + 1) ∧
      (length ≤ made.length → mgf1 hash seed length = made.take length)) ∧
    (∃ made counter, Growing hash seed length made counter ∧ length ≤ made.length) ∧
    ∀ shorter ≤ length, mgf1 hash seed shorter <+: mgf1 hash seed length := by
  have hmgf1 {length : Nat} (hlength : length ≤ (2 ^ 32 - 1) * size) {count : Nat}
      (hcount : length ≤ size * count) :
      mgf1 hash seed length = (blocks hash seed count).take length := by
    have hleast : length ≤ size * (length ⌈/⌉ size) := le_smul_ceilDiv hpos
    have hle : length ⌈/⌉ size ≤ count := (ceilDiv_le_iff_le_mul hpos).mpr hcount
    have hgrown := growing_blocks fixed hpos hlength seed (Nat.le_refl (length ⌈/⌉ size))
    have hmade : length ≤ (blocks hash seed (length ⌈/⌉ size)).length := by
      rwa [length_blocks fixed]
    rw [hgrown.mgf1_eq fixed hpos hmade, take_blocks fixed seed hleast hle]
  refine ⟨fun count => hmgf1 hlength, ?_, ?_, ?_, ?_⟩
  · intro count hcount
    rw [Bytes.toNat_ofNat]
    exact ⟨Bytes.length_ofNat 4 count, Nat.mod_eq_of_lt hcount⟩
  · intro made counter hgrowing
    obtain ⟨hcount, hmade⟩ := hgrowing.eq_blocks fixed hpos hlength
    refine ⟨hmade, hcount, ?_, hgrowing.mgf1_eq fixed hpos⟩
    intro hmissing
    rw [hmade] at hmissing
    exact toNat_add_one hpos hlength ((missing_iff fixed hpos seed _).mp hmissing)
  · refine ⟨_, _, growing_blocks fixed hpos hlength seed (Nat.le_refl _), ?_⟩
    rw [length_blocks fixed]
    exact le_smul_ceilDiv hpos
  · intro shorter hshorter
    have hcount : length ≤ size * (length ⌈/⌉ size) := le_smul_ceilDiv hpos
    rw [hmgf1 hlength hcount, hmgf1 (hshorter.trans hlength) (hshorter.trans hcount)]
    exact List.take_prefix_take_left hshorter

theorem mgf1_counts_up_in_two_blocks :
    (∀ m, (Digest.sha1.hash m).length = 20) ∧ 25 ≤ (2 ^ 32 - 1) * 20 ∧
    mgf1 Digest.sha1.hash [0x66, 0x6f, 0x6f] 25 =
      (Digest.sha1.hash [0x66, 0x6f, 0x6f, 0, 0, 0, 0] ++
        Digest.sha1.hash [0x66, 0x6f, 0x6f, 0, 0, 0, 1]).take 25 ∧
    mgf1 Digest.sha1.hash [0x66, 0x6f, 0x6f] 3 <+: mgf1 Digest.sha1.hash [0x66, 0x6f, 0x6f] 25 := by
  have fixed (m : Bytes) : (Digest.sha1.hash m).length = 20 := Digest.length_hash .sha1 m
  have hlength : 25 ≤ (2 ^ 32 - 1) * 20 := by decide
  obtain ⟨hblocks, -, -, -, hprefix⟩ := mgf1_counts_up fixed (by decide) [0x66, 0x6f, 0x6f] hlength
  refine ⟨fixed, hlength, ?_, hprefix 3 (by decide)⟩
  have htwo := hblocks 2 (by decide)
  simpa [blocks, List.range_succ, Bytes.ofNat] using htwo

example : mgf1 Digest.sha1.hash [0x66, 0x6f, 0x6f] 3 = [0x1a, 0xc9, 0x07] := by decide +kernel

end TokenSigner.Emsa
