import Mathlib.Data.Nat.Size
import Mathlib.Data.Option.Basic
import TokenSigner.Der
import TokenSigner.Proofs.Bytes

namespace TokenSigner.Der

def lengthOctets (n : Nat) : Nat :=
  if n < 128 then 1 else n.log2 / 8 + 2

theorem lengthOctets_of_lt {n : Nat} (h : n < 128) : lengthOctets n = 1 :=
  if_pos h

@[simp] theorem length_length (n : Nat) : (length n).length = lengthOctets n := by
  unfold length lengthOctets
  split
  · rfl
  · simp

theorem width_le_of_lt {n width : Nat} (h : n < 256 ^ width) (hn : n ≠ 0) :
    n.log2 / 8 + 1 ≤ width := by
  rw [Bytes.pow_eq_two_pow] at h
  have hlog := (Nat.log2_lt hn).mpr h
  omega

theorem lt_pow_width (n : Nat) : n < 256 ^ (n.log2 / 8 + 1) := by
  rw [Bytes.pow_eq_two_pow]
  exact Nat.lt_log2_self.trans_le (Nat.pow_le_pow_right (by decide) (by omega))

theorem pow_width_le {n : Nat} (hn : n ≠ 0) : 256 ^ (n.log2 / 8) ≤ n := by
  rw [Bytes.pow_eq_two_pow]
  exact (Nat.pow_le_pow_right (by decide) (by omega)).trans (Nat.log2_self_le hn)

theorem head_ne_zero {octets : Bytes} (h : 256 ^ (octets.length - 1) ≤ octets.toNat) :
    octets.head?.any (· != 0) = true := by
  cases octets with
  | nil => cases h
  | cons b rest =>
    have hne : b ≠ 0 := by
      rintro rfl
      have hrest := Bytes.toNat_lt rest
      rw [Bytes.toNat_cons] at h
      simp at h
      omega
    simpa using hne

theorem width_toNat {octets : Bytes} (h : octets.head?.any (· != 0) = true) :
    octets.toNat.log2 / 8 + 1 = octets.length := by
  cases octets with
  | nil => cases h
  | cons b rest =>
    have hb : b ≠ 0 := by simpa using h
    have hlow := Bytes.pow_le_toNat_cons hb rest
    have hpos : 0 < 256 ^ rest.length := Nat.pow_pos (by decide)
    refine Nat.le_antisymm (width_le_of_lt (Bytes.toNat_lt _) (by omega)) ?_
    exact (Nat.pow_lt_pow_iff_right (by decide)).mp (hlow.trans_lt (lt_pow_width _))

theorem lengthOctets_le_of_lt {n width : Nat} (h : n < 256 ^ width) :
    lengthOctets n ≤ width + 1 := by
  unfold lengthOctets
  split
  · omega
  · have hwidth := width_le_of_lt h (by omega)
    omega

def lengthBound : Nat := Nat.pow 256 127

theorem lt_lengthBound {n : Nat} (h : n < 2 ^ 32) : n < lengthBound :=
  h.trans (by decide)

theorem length?_length {n : Nat} (h : n < lengthBound) (rest : Bytes) :
    length? (length n ++ rest) = some (n, rest) := by
  unfold length
  by_cases hshort : n < 128
  · have hn : (UInt8.ofNat n).toNat = n := by
      rw [UInt8.toNat_ofNat']
      omega
    have hsmall : UInt8.ofNat n < 128 := by
      rw [UInt8.lt_iff_toNat_lt, hn]
      exact hshort
    simp only [hshort, if_true, List.cons_append, List.nil_append, length?, hsmall, hn]
  · have hpos : n ≠ 0 := by omega
    have hwidth : n.log2 / 8 + 1 ≤ 127 := width_le_of_lt h hpos
    have hcount : (UInt8.ofNat (128 + (n.log2 / 8 + 1))).toNat = 128 + (n.log2 / 8 + 1) := by
      rw [UInt8.toNat_ofNat']
      omega
    have hlarge : ¬UInt8.ofNat (128 + (n.log2 / 8 + 1)) < 128 := by
      rw [UInt8.lt_iff_toNat_lt, hcount]
      simp
    have hvalue : Bytes.toNat (Bytes.ofNat (n.log2 / 8 + 1) n) = n := by
      rw [Bytes.toNat_ofNat, Nat.mod_eq_of_lt (lt_pow_width n)]
    have hhead : (Bytes.ofNat (n.log2 / 8 + 1) n).head?.any (· != 0) = true := by
      refine head_ne_zero ?_
      rw [hvalue, Bytes.length_ofNat, Nat.add_sub_cancel]
      exact pow_width_le hpos
    simp only [hshort, if_false, List.cons_append, length?, hlarge, hcount, Nat.add_sub_cancel_left,
      List.take_left', List.drop_left', Bytes.length_ofNat, hhead, hvalue, true_and]
    rw [if_pos (by omega)]

theorem eq_length_of_length? {bytes rest : Bytes} {n : Nat} (h : length? bytes = some (n, rest)) :
    bytes = length n ++ rest := by
  cases bytes with
  | nil => cases h
  | cons b bytes =>
    have hbyte := b.toNat_lt
    by_cases hsmall : b < 128
    · simp only [length?, hsmall, if_true, Option.some.injEq, Prod.mk.injEq] at h
      obtain ⟨rfl, rfl⟩ := h
      have hlt : b.toNat < 128 := UInt8.lt_iff_toNat_lt.mp hsmall
      simp [length, hlt]
    · have hge : 128 ≤ b.toNat := by
        have hnot := mt UInt8.lt_iff_toNat_lt.mpr hsmall
        simpa using hnot
      simp only [length?, hsmall, if_false, ite_eq_iff, reduceCtorEq, and_false, or_false,
        Option.some.injEq, Prod.mk.injEq] at h
      obtain ⟨⟨hwidth, hhead, hlong⟩, hvalue, rfl⟩ := h
      generalize hoctets : bytes.take (b.toNat - 128) = octets at hwidth hhead hlong hvalue
      rw [hvalue] at hlong
      have hcount : n.log2 / 8 + 1 = b.toNat - 128 := by
        rw [← hwidth, ← hvalue]
        exact width_toNat hhead
      have hsame : Bytes.ofNat (b.toNat - 128) n = octets := by
        refine Bytes.eq_of_toNat_eq (by simp [hwidth]) ?_
        rw [Bytes.toNat_ofNat, hvalue, Nat.mod_eq_of_lt]
        rw [← hwidth, ← hvalue]
        exact Bytes.toNat_lt octets
      have hfirst : UInt8.ofNat (128 + (b.toNat - 128)) = b := by
        rw [Nat.add_sub_cancel' hge, UInt8.ofNat_toNat]
      unfold length
      rw [if_neg (by omega)]
      simp only [hcount, hsame, hfirst, List.cons_append, ← hoctets, List.take_append_drop]

theorem length_tagged (tag : UInt8) (contents : Bytes) :
    (tagged tag contents).length = 1 + lengthOctets contents.length + contents.length := by
  simp [tagged]
  omega

theorem tagged?_tagged {tag : UInt8} {contents : Bytes} (h : contents.length < lengthBound)
    (rest : Bytes) : tagged? tag (tagged tag contents ++ rest) = some (contents, rest) := by
  simp only [tagged, List.cons_append, List.append_assoc, tagged?, if_true]
  rw [length?_length h]
  simp

theorem tagged?_tagged_nil {tag : UInt8} {contents : Bytes} (h : contents.length < lengthBound) :
    tagged? tag (tagged tag contents) = some (contents, []) := by
  have hread := @tagged?_tagged tag contents h []
  rw [List.append_nil] at hread
  exact hread

theorem eq_tagged_of_tagged? {tag : UInt8} {bytes contents rest : Bytes}
    (h : tagged? tag bytes = some (contents, rest)) : bytes = tagged tag contents ++ rest := by
  cases bytes with
  | nil => cases h
  | cons t bytes =>
    simp only [tagged?, ite_eq_iff, reduceCtorEq, and_false, or_false, Option.bind_eq_some_iff,
      Prod.exists, Option.some.injEq, Prod.mk.injEq] at h
    obtain ⟨rfl, n, after, hlength, hle, rfl, rfl⟩ := h
    rw [tagged, List.length_take_of_le hle, eq_length_of_length? hlength]
    simp

def magnitudeOctets (n : Nat) : Nat :=
  n.size / 8 + 1

theorem magnitude_eq_of_toNat_eq {xs ys : Bytes} (h : xs.toNat = ys.toNat) :
    magnitude xs = magnitude ys := by
  rw [magnitude, magnitude, Bytes.stripZeros_eq_of_toNat_eq h]

theorem length_magnitude (value : Bytes) :
    (magnitude value).length = magnitudeOctets value.toNat := by
  rw [magnitudeOctets, ← Bytes.toNat_stripZeros, Bytes.size_toNat, magnitude]
  rcases Bytes.stripZeros_cases value with hnil | ⟨b, rest, hcons, hb⟩
  · simp [hnil, Bytes.bitLength]
  · have hpos : b.toNat ≠ 0 := fun h => hb (UInt8.toNat_inj.mp h)
    have hbyte := b.toNat_lt
    rw [hcons, Bytes.bitLength, if_neg hb]
    dsimp only
    split
    · next hlarge =>
      have hlog : 7 ≤ b.toNat.log2 := (Nat.le_log2 hpos).mpr (UInt8.le_iff_toNat_le.mp hlarge)
      have hlog' : b.toNat.log2 < 8 := (Nat.log2_lt hpos).mpr hbyte
      simp only [List.length_cons]
      omega
    · next hsmall =>
      have hlog : b.toNat.log2 < 7 := by
        rw [Nat.log2_lt hpos]
        simpa using mt UInt8.le_iff_toNat_le.mpr hsmall
      simp only [List.length_cons]
      omega

theorem magnitudeOctets_toNat_le (value : Bytes) :
    magnitudeOctets value.toNat ≤ value.length + 1 := by
  have hsize := Bytes.size_le_iff.mpr (Bytes.toNat_lt value)
  unfold magnitudeOctets
  omega

theorem natural?_magnitude (value : Bytes) : natural? (magnitude value) = some value.toNat := by
  rw [← Bytes.toNat_stripZeros, magnitude]
  rcases Bytes.stripZeros_cases value with hnil | ⟨b, rest, hcons, hb⟩
  · simp [hnil, natural?, Bytes.toNat_cons]
  · rw [hcons]
    dsimp only
    split
    · next hlarge =>
      have hclear : ¬b < 128 := by simpa using hlarge
      simp [natural?, hclear, Bytes.toNat_cons]
    · next hsmall => simp [natural?, hsmall, hb]

theorem magnitude_of_natural? {contents : Bytes} {n : Nat} (h : natural? contents = some n) :
    contents.toNat = n ∧ magnitude contents = contents := by
  cases contents with
  | nil => cases h
  | cons b rest =>
    simp only [natural?, ite_eq_iff, reduceCtorEq, and_false, false_or, Option.some.injEq,
      not_or, not_and] at h
    obtain ⟨⟨hsmall, hneeded⟩, hvalue⟩ := h
    refine ⟨hvalue, ?_⟩
    by_cases hzero : b = 0
    · subst hzero
      cases rest with
      | nil => rfl
      | cons c rest =>
        have hlarge : 128 ≤ c := by simpa using hneeded rfl
        have hne : c ≠ 0 := by
          rintro rfl
          simp at hlarge
        simp [magnitude, Bytes.stripZeros, hne, hlarge]
    · simp [magnitude, Bytes.stripZeros, hzero, hsmall]

theorem natural?_eq_some_iff {contents value : Bytes} :
    natural? contents = some value.toNat ↔ contents = magnitude value := by
  constructor
  · intro h
    obtain ⟨hvalue, hsame⟩ := magnitude_of_natural? h
    rw [← hsame, magnitude_eq_of_toNat_eq hvalue]
  · rintro rfl
    exact natural?_magnitude value

def integerOctets (n : Nat) : Nat :=
  1 + lengthOctets (magnitudeOctets n) + magnitudeOctets n

theorem length_integer (value : Bytes) : (integer value).length = integerOctets value.toNat := by
  rw [integer, length_tagged, length_magnitude, integerOctets]

end TokenSigner.Der
