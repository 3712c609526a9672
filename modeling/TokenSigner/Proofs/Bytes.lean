import Mathlib.Data.Nat.Digits.Lemmas
import Mathlib.Data.Nat.Size
import Mathlib.Tactic.Ring
import TokenSigner.Bytes

namespace TokenSigner.Bytes

theorem foldl_value (bytes : Bytes) (n : Nat) :
    bytes.foldl (fun n b => n * 256 + b.toNat) n = n * 256 ^ bytes.length + toNat bytes := by
  induction bytes generalizing n with
  | nil => simp [toNat]
  | cons b rest ih =>
    have hb := ih b.toNat
    simp only [toNat, List.foldl_cons, List.length_cons, Nat.zero_mul, Nat.zero_add] at hb ⊢
    rw [ih, hb]
    simp only [toNat]
    ring

@[simp] theorem toNat_nil : toNat [] = 0 := rfl

theorem toNat_cons (b : UInt8) (rest : Bytes) :
    toNat (b :: rest) = b.toNat * 256 ^ rest.length + toNat rest := by
  have h := foldl_value rest b.toNat
  simpa [toNat] using h

theorem toNat_append (xs ys : Bytes) :
    toNat (xs ++ ys) = toNat xs * 256 ^ ys.length + toNat ys := by
  have h := foldl_value ys (toNat xs)
  rw [← h]
  exact List.foldl_append

theorem toNat_append_lt {xs ys : Bytes} {bound : Nat} (hx : toNat xs < bound)
    (hy : toNat ys < 256 ^ ys.length) : toNat (xs ++ ys) < bound * 256 ^ ys.length := by
  rw [toNat_append]
  calc toNat xs * 256 ^ ys.length + toNat ys
      < toNat xs * 256 ^ ys.length + 256 ^ ys.length := Nat.add_lt_add_left hy _
    _ = (toNat xs + 1) * 256 ^ ys.length := by ring
    _ ≤ bound * 256 ^ ys.length := Nat.mul_le_mul_right _ hx

theorem toNat_lt (bytes : Bytes) : toNat bytes < 256 ^ bytes.length := by
  induction bytes with
  | nil => exact Nat.one_pos
  | cons b rest ih =>
    have hb : toNat [b] < 256 := by
      rw [toNat_cons]
      simpa using b.toNat_lt
    have h := toNat_append_lt hb ih
    rw [← Nat.pow_succ'] at h
    exact h

theorem toNat_zeros (count : Nat) : toNat (List.replicate count 0) = 0 := by
  induction count with
  | zero => rfl
  | succ count ih =>
    rw [List.replicate_succ, toNat_cons, ih]
    simp

theorem toNat_zeros_append (count : Nat) (bytes : Bytes) :
    toNat (List.replicate count 0 ++ bytes) = toNat bytes := by
  rw [toNat_append, toNat_zeros, Nat.zero_mul, Nat.zero_add]

theorem toNat_padLeft (width : Nat) (bytes : Bytes) :
    toNat (padLeft width bytes) = toNat bytes :=
  toNat_zeros_append _ _

theorem pow_eq_two_pow (width : Nat) : 256 ^ width = 2 ^ (8 * width) := by
  rw [Nat.pow_mul]

theorem size_le_iff {n width : Nat} : n.size ≤ 8 * width ↔ n < 256 ^ width := by
  rw [pow_eq_two_pow, Nat.size_le]

theorem size_toNat (bytes : Bytes) : (toNat bytes).size = bitLength bytes := by
  induction bytes with
  | nil => exact Nat.size_zero
  | cons b rest ih =>
    by_cases hzero : b = 0
    · rw [bitLength, if_pos hzero, toNat_cons, hzero, ← ih]
      simp
    · have hb : b.toNat ≠ 0 := fun h => hzero (UInt8.toNat_inj.mp h)
      have hlow : 2 ^ (8 * rest.length + b.toNat.log2) ≤ toNat (b :: rest) := by
        rw [toNat_cons, pow_eq_two_pow, Nat.add_comm, Nat.pow_add]
        exact (Nat.mul_le_mul_right _ (Nat.log2_self_le hb)).trans (Nat.le_add_right _ _)
      have hhigh : toNat (b :: rest) < 2 ^ (8 * rest.length + (b.toNat.log2 + 1)) := by
        have hsingle : toNat [b] < 2 ^ (b.toNat.log2 + 1) := by
          rw [toNat_cons]
          simpa using Nat.lt_log2_self
        have h := toNat_append_lt hsingle (toNat_lt rest)
        rw [pow_eq_two_pow, ← Nat.pow_add, Nat.add_comm] at h
        exact h
      rw [bitLength, if_neg hzero]
      exact Nat.le_antisymm (Nat.size_le.mpr hhigh) (Nat.lt_size.mpr hlow)

theorem length_digits_toNat (bytes : Bytes) :
    (Nat.digits 2 (toNat bytes)).length = bitLength bytes := by
  rw [Nat.digits_two_eq_bits, List.length_map, Nat.size_eq_bits_len, size_toNat]

theorem bitLength_eq_zero {bytes : Bytes} : bitLength bytes = 0 ↔ toNat bytes = 0 := by
  rw [← size_toNat, Nat.size_eq_zero]

theorem bitLength_zeros_append (count : Nat) (bytes : Bytes) :
    bitLength (List.replicate count 0 ++ bytes) = bitLength bytes := by
  rw [← size_toNat, toNat_zeros_append, size_toNat]

theorem toNat_ofNat (width n : Nat) : toNat (ofNat width n) = n % 256 ^ width := by
  induction width generalizing n with
  | zero => simp [ofNat, Nat.mod_one]
  | succ width ih =>
    have hlast : toNat [UInt8.ofNat n] = n % 256 := by
      rw [toNat_cons]
      simp
    rw [ofNat, toNat_append, ih, hlast, Nat.pow_succ, Nat.mul_comm (256 ^ width), Nat.mod_mul]
    simp only [List.length_singleton, Nat.pow_one]
    omega

theorem exists_toNat_eq_iff {width n : Nat} :
    (∃ bytes : Bytes, bytes.length = width ∧ toNat bytes = n) ↔ n < 256 ^ width := by
  constructor
  · rintro ⟨bytes, rfl, rfl⟩
    exact toNat_lt bytes
  · intro h
    exact ⟨ofNat width n, length_ofNat width n, by rw [toNat_ofNat, Nat.mod_eq_of_lt h]⟩

theorem pow_le_toNat_cons {b : UInt8} (hb : b ≠ 0) (rest : Bytes) :
    256 ^ rest.length ≤ toNat (b :: rest) := by
  have hpos : 1 ≤ b.toNat := Nat.one_le_iff_ne_zero.mpr fun h => hb (UInt8.toNat_inj.mp h)
  rw [toNat_cons]
  calc 256 ^ rest.length = 1 * 256 ^ rest.length := (Nat.one_mul _).symm
    _ ≤ b.toNat * 256 ^ rest.length := Nat.mul_le_mul_right _ hpos
    _ ≤ _ := Nat.le_add_right _ _

theorem eq_of_toNat_eq {xs ys : Bytes} (hlength : xs.length = ys.length)
    (h : toNat xs = toNat ys) : xs = ys := by
  induction xs generalizing ys with
  | nil => exact (List.length_eq_zero_iff.mp hlength.symm).symm
  | cons x xs ih =>
    cases ys with
    | nil => cases hlength
    | cons y ys =>
      have hrest : xs.length = ys.length := Nat.succ.inj hlength
      have hx := toNat_lt xs
      have hy := toNat_lt ys
      have hpos : 0 < 256 ^ ys.length := Nat.pow_pos (by decide)
      rw [toNat_cons, toNat_cons, hrest] at h
      rw [hrest] at hx
      have hhead : x.toNat = y.toNat := by
        have hdiv := congrArg (· / 256 ^ ys.length) h
        simpa [Nat.mul_comm _ (256 ^ ys.length), Nat.mul_add_div hpos, Nat.div_eq_of_lt hx,
          Nat.div_eq_of_lt hy] using hdiv
      rw [hhead, Nat.add_left_cancel_iff] at h
      rw [UInt8.toNat_inj.mp hhead, ih hrest h]

theorem stripZeros_cases (bytes : Bytes) :
    stripZeros bytes = [] ∨ ∃ b rest, stripZeros bytes = b :: rest ∧ b ≠ 0 := by
  cases hstripped : stripZeros bytes with
  | nil => exact Or.inl rfl
  | cons b rest =>
    refine Or.inr ⟨b, rest, rfl, ?_⟩
    rintro rfl
    have hhead := List.head?_dropWhile_not (· == 0) bytes
    rw [stripZeros] at hstripped
    rw [hstripped] at hhead
    simp at hhead

theorem toNat_stripZeros (bytes : Bytes) : toNat (stripZeros bytes) = toNat bytes := by
  induction bytes with
  | nil => rfl
  | cons b rest ih =>
    by_cases hzero : b = 0
    · subst hzero
      rw [toNat_cons]
      simpa [stripZeros] using ih
    · simp [stripZeros, hzero]

theorem stripZeros_zeros_append (count : Nat) (bytes : Bytes) :
    stripZeros (List.replicate count 0 ++ bytes) = stripZeros bytes := by
  induction count with
  | zero => rfl
  | succ count ih =>
    rw [← ih]
    rfl

theorem length_stripZeros_le_iff {bytes : Bytes} {width : Nat} :
    (stripZeros bytes).length ≤ width ↔ toNat bytes < 256 ^ width := by
  rw [← toNat_stripZeros]
  rcases stripZeros_cases bytes with hnil | ⟨b, rest, hcons, hb⟩
  · rw [hnil]
    simp
  · rw [hcons]
    constructor
    · intro h
      exact (toNat_lt _).trans_le (Nat.pow_le_pow_right (by decide) h)
    · intro h
      exact (Nat.pow_lt_pow_iff_right (by decide)).mp ((pow_le_toNat_cons hb rest).trans_lt h)

theorem stripZeros_eq_of_toNat_eq {xs ys : Bytes} (h : toNat xs = toNat ys) :
    stripZeros xs = stripZeros ys := by
  refine eq_of_toNat_eq (Nat.le_antisymm ?_ ?_) ?_
  · rw [length_stripZeros_le_iff, h, ← length_stripZeros_le_iff]
  · rw [length_stripZeros_le_iff, ← h, ← length_stripZeros_le_iff]
  · rw [toNat_stripZeros, toNat_stripZeros, h]

structure Cut (size : Nat) (bytes : Bytes) (parts : List Bytes) : Prop where
  joined : parts.flatten = bytes
  filled : ∀ part ∈ parts, part ≠ [] ∧ part.length ≤ size
  full : ∀ part ∈ parts.dropLast, part.length = size

theorem cut_parts {size : Nat} (h : size ≠ 0) (bytes : Bytes) :
    Cut size bytes (parts size bytes) := by
  refine ⟨flatten_parts h bytes, ?_, ?_⟩
  · intro part hpart
    refine ⟨?_, length_le_of_mem_parts hpart⟩
    fun_induction parts size bytes with
    | case1 => cases hpart
    | case2 bytes hmore ih =>
      rcases List.mem_cons.mp hpart with rfl | hrest
      · simpa [List.take_eq_nil_iff] using hmore
      · exact ih hrest
  · intro part hpart
    fun_induction parts size bytes with
    | case1 => cases hpart
    | case2 bytes hmore ih =>
      cases hrest : parts size (bytes.drop size) with
      | nil =>
        rw [hrest] at hpart
        cases hpart
      | cons next others =>
        rw [hrest, List.dropLast_cons_cons] at hpart
        rcases List.mem_cons.mp hpart with rfl | hlater
        · -- a part that another one follows leaves something over
          have hlong : size ≤ bytes.length := by
            by_contra hshort
            rw [List.drop_of_length_le (by omega), parts] at hrest
            simp at hrest
          exact List.length_take_of_le hlong
        · exact ih (hrest ▸ hlater)

theorem xor_xor_cancel (xs ys : Bytes) (h : xs.length ≤ ys.length) :
    xor (xor xs ys) ys = xs := by
  induction xs generalizing ys with
  | nil => simp [xor]
  | cons x xs ih =>
    cases ys with
    | nil => simp at h
    | cons y ys =>
      have hrest : xs.length ≤ ys.length := by simpa using h
      have hhead : x ^^^ y ^^^ y = x := by
        rw [UInt8.xor_assoc, UInt8.xor_self, UInt8.xor_zero]
      change (x ^^^ y ^^^ y) :: xor (xor xs ys) ys = x :: xs
      rw [hhead, ih ys hrest]

theorem toNatLittle_ofNatLittle {width n : Nat} (h : n < 256 ^ width) :
    toNatLittle (ofNatLittle width n) = n := by
  induction width generalizing n with
  | zero =>
    rw [Nat.pow_zero, Nat.lt_one_iff] at h
    exact h.symm
  | succ width ih =>
    have hrest : n / 256 < 256 ^ width := Nat.div_lt_of_lt_mul (by rwa [← Nat.pow_succ'])
    simp only [ofNatLittle, toNatLittle, ih hrest, UInt8.toNat_ofNat']
    exact Nat.mod_add_div n 256

theorem ofNatLittle_toNatLittle (bytes : Bytes) :
    ofNatLittle bytes.length (toNatLittle bytes) = bytes := by
  induction bytes with
  | nil => rfl
  | cons b rest ih =>
    have hb : b.toNat < 256 := b.toNat_lt
    have hrest : (b.toNat + 256 * toNatLittle rest) / 256 = toNatLittle rest := by omega
    have hfirst : UInt8.ofNat (b.toNat + 256 * toNatLittle rest) = b := by
      apply UInt8.toNat_inj.mp
      rw [UInt8.toNat_ofNat']
      omega
    simp only [List.length_cons, toNatLittle, ofNatLittle, hrest, hfirst, ih]

theorem eq_ofNatLittle_iff {width n : Nat} (h : n < 256 ^ width) {bytes : Bytes} :
    bytes = ofNatLittle width n ↔ bytes.length = width ∧ toNatLittle bytes = n := by
  constructor
  · rintro rfl
    exact ⟨length_ofNatLittle width n, toNatLittle_ofNatLittle h⟩
  · rintro ⟨rfl, rfl⟩
    exact (ofNatLittle_toNatLittle bytes).symm

end TokenSigner.Bytes
