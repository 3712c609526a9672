namespace TokenSigner

abbrev Bytes := List UInt8

namespace Bytes

-- the most bytes that a buffer can have
def largest : Nat := 0x7fffffffffffffff

def toNat (bytes : Bytes) : Nat :=
  bytes.foldl (fun n b => n * 256 + b.toNat) 0

def ofNat : (width : Nat) → Nat → Bytes
  | 0, _ => []
  | width + 1, n => ofNat width (n / 256) ++ [UInt8.ofNat n]

@[simp] theorem length_ofNat (width n : Nat) : (ofNat width n).length = width := by
  induction width generalizing n with
  | zero => rfl
  | succ width ih => simp [ofNat, ih]

def ofNatLittle : (width : Nat) → Nat → Bytes
  | 0, _ => []
  | width + 1, n => UInt8.ofNat n :: ofNatLittle width (n / 256)

@[simp] theorem length_ofNatLittle (width n : Nat) : (ofNatLittle width n).length = width := by
  induction width generalizing n with
  | zero => rfl
  | succ width ih => simp [ofNatLittle, ih]

def toNatLittle : Bytes → Nat
  | [] => 0
  | b :: rest => b.toNat + 256 * toNatLittle rest

def bitLength : Bytes → Nat
  | [] => 0
  | b :: rest => if b = 0 then bitLength rest else 8 * rest.length + (b.toNat.log2 + 1)

def stripZeros (bytes : Bytes) : Bytes :=
  bytes.dropWhile (· == 0)

def padLeft (width : Nat) (bytes : Bytes) : Bytes :=
  List.replicate (width - bytes.length) 0 ++ bytes

theorem length_padLeft {width : Nat} {bytes : Bytes} (h : bytes.length ≤ width) :
    (padLeft width bytes).length = width := by
  simp [padLeft, h]

def xor (xs ys : Bytes) : Bytes :=
  List.zipWith (· ^^^ ·) xs ys

@[simp] theorem length_xor (xs ys : Bytes) : (xor xs ys).length = min xs.length ys.length := by
  simp [xor]

def parts (size : Nat) (bytes : Bytes) : List Bytes :=
  if _h : size = 0 ∨ bytes = [] then []
  else bytes.take size :: parts size (bytes.drop size)
termination_by bytes.length
decreasing_by
  have : bytes.length ≠ 0 := fun h => _h (Or.inr (List.length_eq_zero_iff.mp h))
  simp only [List.length_drop]
  omega

@[simp] theorem flatten_parts {size : Nat} (h : size ≠ 0) (bytes : Bytes) :
    (parts size bytes).flatten = bytes := by
  fun_induction parts size bytes with
  | case1 bytes none =>
    rcases none with zero | nil
    · exact absurd zero h
    · exact nil.symm
  | case2 bytes _ ih => rw [List.flatten_cons, ih, List.take_append_drop]

theorem length_le_of_mem_parts {size : Nat} {bytes part : Bytes} (h : part ∈ parts size bytes) :
    part.length ≤ size := by
  fun_induction parts size bytes with
  | case1 => simp at h
  | case2 bytes _ ih =>
    rcases List.mem_cons.mp h with rfl | rest
    · rw [List.length_take]
      exact Nat.min_le_left _ _
    · exact ih rest

end Bytes

end TokenSigner
