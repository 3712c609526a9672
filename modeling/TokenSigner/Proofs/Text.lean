import Mathlib.Data.List.Forall2
import Mathlib.Data.List.TakeWhile
import TokenSigner.Text.Blank

namespace TokenSigner.Text

def Blank (cs : List Char) : Prop :=
  ∀ c ∈ cs, isBlank c = true

def SameLetter (c d : Char) : Prop :=
  d = c ∨ d = c.toUpper ∨ d = c.toLower

inductive Respelled : List Char → List Char → Prop where
  | intro {before core after before' core' after' : List Char} (hbefore : Blank before)
      (hafter : Blank after) (hbefore' : Blank before') (hafter' : Blank after')
      (hcore : List.Forall₂ SameLetter core core') :
      Respelled (before ++ core ++ after) (before' ++ core' ++ after')

theorem isLower_iff {c : Char} : c.isLower = true ↔ 97 ≤ c.toNat ∧ c.toNat ≤ 122 := by
  delta Char.isLower
  simp [UInt32.le_iff_toNat_le]

theorem isUpper_iff {c : Char} : c.isUpper = true ↔ 65 ≤ c.toNat ∧ c.toNat ≤ 90 := by
  delta Char.isUpper
  simp [UInt32.le_iff_toNat_le]

theorem toNat_toUpper (c : Char) :
    c.toUpper.toNat = if 97 ≤ c.toNat ∧ c.toNat ≤ 122 then c.toNat - 32 else c.toNat := by
  have hlower : 'a'.val ≤ c.val ∧ c.val ≤ 'z'.val ↔ 97 ≤ c.toNat ∧ c.toNat ≤ 122 := by
    simp [UInt32.le_iff_toNat_le]
  delta Char.toUpper
  by_cases h : 97 ≤ c.toNat ∧ c.toNat ≤ 122
  · rw [if_pos h, dif_pos (hlower.mpr h), ← Char.toNat_val, UInt32.toNat_add, Char.toNat_val]
    simp only [Char.reduceVal, UInt32.reduceSub, UInt32.reduceToNat]
    omega
  · rw [if_neg h, dif_neg (mt hlower.mp h)]

theorem toNat_toLower (c : Char) :
    c.toLower.toNat = if 65 ≤ c.toNat ∧ c.toNat ≤ 90 then c.toNat + 32 else c.toNat := by
  have hupper : c.val ≥ 'A'.val ∧ c.val ≤ 'Z'.val ↔ 65 ≤ c.toNat ∧ c.toNat ≤ 90 := by
    simp [UInt32.le_iff_toNat_le]
  delta Char.toLower
  by_cases h : 65 ≤ c.toNat ∧ c.toNat ≤ 90
  · rw [if_pos h, dif_pos (hupper.mpr h), ← Char.toNat_val, UInt32.toNat_add, Char.toNat_val]
    simp only [Char.reduceVal, UInt32.reduceSub, UInt32.reduceToNat]
    omega
  · rw [if_neg h, dif_neg (mt hupper.mp h)]

theorem toUpper_eq_toUpper_iff {c d : Char} : c.toUpper = d.toUpper ↔ SameLetter c d := by
  simp only [SameLetter, ← Char.toNat_inj, toNat_toUpper, toNat_toLower]
  split_ifs <;> omega

@[simp] theorem toUpper_toUpper (c : Char) : c.toUpper.toUpper = c.toUpper :=
  (toUpper_eq_toUpper_iff.mpr (.inr (.inl rfl))).symm

theorem toUpper_eq_self {c : Char} (h : c.isLower = false) : c.toUpper = c := by
  rw [← Bool.not_eq_true, isLower_iff] at h
  rw [← Char.toNat_inj, toNat_toUpper, if_neg h]

theorem isAlpha_iff {c : Char} : c.isAlpha = true ↔
    65 ≤ c.toNat ∧ c.toNat ≤ 90 ∨ 97 ≤ c.toNat ∧ c.toNat ≤ 122 := by
  delta Char.isAlpha
  rw [Bool.or_eq_true, isUpper_iff, isLower_iff]

theorem isAlpha_of_isUpper {c : Char} (h : c.isUpper = true) : c.isAlpha = true :=
  isAlpha_iff.mpr (.inl (isUpper_iff.mp h))

theorem isAlpha_of_isLower {c : Char} (h : c.isLower = true) : c.isAlpha = true :=
  isAlpha_iff.mpr (.inr (isLower_iff.mp h))

@[simp] theorem isAlpha_toUpper (c : Char) : c.toUpper.isAlpha = c.isAlpha := by
  rw [Bool.eq_iff_iff, isAlpha_iff, isAlpha_iff, toNat_toUpper]
  split_ifs <;> omega

theorem toUpper_eq_iff_of_not_isAlpha {c d : Char} (hd : d.isAlpha = false) :
    c.toUpper = d ↔ c = d := by
  rw [← Bool.not_eq_true, isAlpha_iff] at hd
  rw [← Char.toNat_inj, ← Char.toNat_inj, toNat_toUpper]
  split_ifs <;> omega

theorem upperAscii_eq_iff {cs ds : List Char} :
    upperAscii cs = upperAscii ds ↔ List.Forall₂ SameLetter cs ds := by
  unfold upperAscii
  rw [← List.forall₂_eq_eq_eq, List.forall₂_map_left_iff, List.forall₂_map_right_iff]
  simp only [toUpper_eq_toUpper_iff]

theorem not_isBlank_of_isAlpha {c : Char} (h : c.isAlpha = true) : isBlank c = false := by
  rw [isAlpha_iff] at h
  simp only [isBlank, Bool.or_eq_false_iff, Bool.and_eq_false_iff, decide_eq_false_iff_not,
    beq_eq_false_iff_ne]
  omega

@[simp] theorem isBlank_toUpper (c : Char) : isBlank c.toUpper = isBlank c := by
  by_cases h : c.isLower = true
  · have halpha := isAlpha_of_isLower h
    have hupper : c.toUpper.isAlpha = true := by rwa [isAlpha_toUpper]
    rw [not_isBlank_of_isAlpha halpha, not_isBlank_of_isAlpha hupper]
  · rw [toUpper_eq_self (Bool.eq_false_iff.mpr h)]

def Trimmed (cs : List Char) : Prop :=
  (∀ c ∈ cs.head?, isBlank c = false) ∧ ∀ c ∈ cs.getLast?, isBlank c = false

theorem trimStart_blank_append {before : List Char} (h : Blank before) (cs : List Char) :
    trimStart (before ++ cs) = trimStart cs :=
  List.dropWhile_append_of_pos h

theorem trimEnd_append_blank {after : List Char} (h : Blank after) (cs : List Char) :
    trimEnd (cs ++ after) = trimEnd cs := by
  unfold trimEnd
  rw [List.reverse_append, List.dropWhile_append_of_pos]
  intro c hc
  exact h c (List.mem_reverse.mp hc)

theorem trimStart_eq_self {cs : List Char} (h : ∀ c ∈ cs.head?, isBlank c = false) :
    trimStart cs = cs := by
  cases cs with
  | nil => rfl
  | cons c rest => exact List.dropWhile_cons_of_neg (by simp [h c rfl])

theorem trimEnd_eq_self {cs : List Char} (h : ∀ c ∈ cs.getLast?, isBlank c = false) :
    trimEnd cs = cs := by
  have hreverse : trimStart cs.reverse = cs.reverse := by
    refine trimStart_eq_self fun c hc => h c ?_
    rwa [List.head?_reverse] at hc
  unfold trimEnd
  rw [← trimStart, hreverse, List.reverse_reverse]

theorem exists_trimStart (cs : List Char) : ∃ before, Blank before ∧ cs = before ++ trimStart cs :=
  ⟨cs.takeWhile isBlank, fun _ hc => List.mem_takeWhile_imp hc,
    List.takeWhile_append_dropWhile.symm⟩

theorem exists_trimEnd (cs : List Char) : ∃ after, Blank after ∧ cs = trimEnd cs ++ after := by
  obtain ⟨before, hbefore, hcs⟩ := exists_trimStart cs.reverse
  refine ⟨before.reverse, fun c hc => hbefore c (List.mem_reverse.mp hc), ?_⟩
  have h := congrArg List.reverse hcs
  rwa [List.reverse_reverse, List.reverse_append] at h

theorem head?_trimStart {cs : List Char} : ∀ c ∈ (trimStart cs).head?, isBlank c = false := by
  intro c hc
  have h := List.head?_dropWhile_not isBlank cs
  unfold trimStart at hc
  rw [Option.mem_def.mp hc] at h
  simpa using h

theorem getLast?_trimEnd {cs : List Char} : ∀ c ∈ (trimEnd cs).getLast?, isBlank c = false := by
  intro c hc
  unfold trimEnd at hc
  rw [List.getLast?_reverse] at hc
  exact head?_trimStart c hc

theorem trimEnd_append {cs : List Char} (h : ∀ c ∈ cs.getLast?, isBlank c = false)
    (rest : List Char) : trimEnd (cs ++ rest) = cs ++ trimEnd rest := by
  obtain ⟨after, hafter, hrest⟩ := exists_trimEnd rest
  have hself : trimEnd (cs ++ trimEnd rest) = cs ++ trimEnd rest := by
    refine trimEnd_eq_self fun c hc => ?_
    rw [List.getLast?_append] at hc
    rcases Option.or_eq_some_iff.mp hc with hc | ⟨-, hc⟩
    · exact getLast?_trimEnd c hc
    · exact h c hc
  calc trimEnd (cs ++ rest) = trimEnd ((cs ++ trimEnd rest) ++ after) := by
        rw [List.append_assoc, ← hrest]
    _ = trimEnd (cs ++ trimEnd rest) := trimEnd_append_blank hafter _
    _ = cs ++ trimEnd rest := hself

theorem trimmed_trim (cs : List Char) : Trimmed (trim cs) := by
  refine ⟨fun c hc => ?_, getLast?_trimEnd⟩
  obtain ⟨after, -, hcs⟩ := exists_trimEnd (trimStart cs)
  have hhead : c ∈ (trimStart cs).head? := by
    rw [hcs, List.head?_append, ← trim, Option.mem_def.mp hc]
    rfl
  exact head?_trimStart c hhead

theorem trim_eq_self {cs : List Char} (h : Trimmed cs) : trim cs = cs := by
  rw [trim, trimStart_eq_self h.1, trimEnd_eq_self h.2]

theorem trim_eq_self_of_forall {cs : List Char} (h : ∀ c ∈ cs, isBlank c = false) :
    trim cs = cs :=
  trim_eq_self ⟨fun c hc => h c (List.mem_of_head? hc), fun c hc => h c (List.mem_of_getLast? hc)⟩

@[simp] theorem trim_trim (cs : List Char) : trim (trim cs) = trim cs :=
  trim_eq_self (trimmed_trim cs)

theorem trim_append_blank {after : List Char} (h : Blank after) (cs : List Char) :
    trim (cs ++ after) = trim cs := by
  unfold trim
  rw [trimStart, List.dropWhile_append, ← trimStart]
  split
  · next hempty =>
    have hafter : after.dropWhile isBlank = [] := List.dropWhile_eq_nil_iff.mpr h
    rw [hafter, List.isEmpty_iff.mp hempty]
  · exact trimEnd_append_blank h _

theorem trim_eq_trimEnd {cs : List Char} (h : ∀ c ∈ (trimEnd cs).head?, isBlank c = false) :
    trim cs = trimEnd cs := by
  obtain ⟨after, hafter, hcs⟩ := exists_trimEnd cs
  calc trim cs = trim (trimEnd cs ++ after) := by rw [← hcs]
    _ = trim (trimEnd cs) := trim_append_blank hafter _
    _ = trimEnd cs := trim_eq_self ⟨h, getLast?_trimEnd⟩

theorem trim_surrounded {before after : List Char} (hbefore : Blank before) (hafter : Blank after)
    (core : List Char) : trim (before ++ core ++ after) = trim core := by
  rw [trim_append_blank hafter, trim, trimStart_blank_append hbefore, ← trim]

theorem exists_trim (cs : List Char) :
    ∃ before after, Blank before ∧ Blank after ∧ cs = before ++ trim cs ++ after := by
  obtain ⟨before, hbefore, hstart⟩ := exists_trimStart cs
  obtain ⟨after, hafter, hend⟩ := exists_trimEnd (trimStart cs)
  refine ⟨before, after, hbefore, hafter, ?_⟩
  rw [List.append_assoc, trim, ← hend, ← hstart]

theorem trim_upperAscii (cs : List Char) : trim (upperAscii cs) = upperAscii (trim cs) := by
  have h : isBlank ∘ Char.toUpper = isBlank := funext isBlank_toUpper
  simp only [trim, trimEnd, trimStart, upperAscii, ← List.map_reverse, List.dropWhile_map, h]

@[simp] theorem upperAscii_upperAscii (cs : List Char) :
    upperAscii (upperAscii cs) = upperAscii cs := by
  simp [upperAscii]

theorem upperAscii_eq_self {cs : List Char} (h : ∀ c ∈ cs, c.isLower = false) :
    upperAscii cs = cs := by
  refine (List.map_congr_left fun c hc => ?_).trans (List.map_id cs)
  exact toUpper_eq_self (h c hc)

theorem mem_upperAscii_trimEnd {c : Char} {cs : List Char} (hc : c ∈ cs)
    (hblank : isBlank c = false) : c.toUpper ∈ upperAscii (trimEnd cs) := by
  obtain ⟨after, hafter, hcs⟩ := exists_trimEnd cs
  rw [hcs] at hc
  rcases List.mem_append.mp hc with hc | hc
  · exact List.mem_map_of_mem hc
  · rw [hafter c hc] at hblank
    cases hblank

theorem respelled_iff {cs ds : List Char} :
    Respelled cs ds ↔ upperAscii (trim cs) = upperAscii (trim ds) := by
  constructor
  · rintro ⟨hbefore, hafter, hbefore', hafter', hcore⟩
    rw [trim_surrounded hbefore hafter, trim_surrounded hbefore' hafter', ← trim_upperAscii,
      ← trim_upperAscii, upperAscii_eq_iff.mpr hcore]
  · intro h
    obtain ⟨before, after, hbefore, hafter, hcs⟩ := exists_trim cs
    obtain ⟨before', after', hbefore', hafter', hds⟩ := exists_trim ds
    rw [hcs, hds]
    exact .intro hbefore hafter hbefore' hafter' (upperAscii_eq_iff.mp h)

end TokenSigner.Text
