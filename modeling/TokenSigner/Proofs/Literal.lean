import Mathlib.Algebra.Group.Nat.Defs
import Mathlib.Data.List.Induction
import TokenSigner.Config
import TokenSigner.Literal
import TokenSigner.Proofs.Text

namespace TokenSigner.Literal

open Text (Blank SameLetter Trimmed upperAscii trim)

def IsDigit (base : Nat) (c : Char) (d : Nat) : Prop :=
  d < base ∧ SameLetter (Nat.digitChar d) c

inductive Digits (base : Nat) : List Char → Nat → Prop where
  | one {c : Char} {d : Nat} (h : IsDigit base c d) : Digits base [c] d
  | more {cs : List Char} {c : Char} {n d : Nat} (hs : Digits base cs n)
      (h : IsDigit base c d) : Digits base (cs ++ [c]) (n * base + d)

inductive Number (sign : List Char) : List Char → Nat → Prop where
  | decimal {digits : List Char} {n : Nat} (h : Digits 10 digits n) :
      Number sign (sign ++ digits) n
  | hexadecimal {x : Char} {digits : List Char} {n : Nat} (hx : SameLetter 'x' x)
      (h : Digits 16 digits n) : Number sign ('0' :: x :: (sign ++ digits)) n

inductive Suffix : Bool → List Char → Prop where
  | nothing {allowed : Bool} : Suffix allowed []
  | long {l : Char} (hl : SameLetter 'L' l) : Suffix true [l]
  | unsignedLong {u l : Char} (hu : SameLetter 'U' u) (hl : SameLetter 'L' l) : Suffix true [u, l]

inductive Spelled (sign : List Char) (suffix : Bool) : List Char → Nat → Prop where
  | intro {before number tail after : List Char} {n : Nat} (hbefore : Blank before)
      (hafter : Blank after) (hnumber : Number sign number n) (htail : Suffix suffix tail)
      (hbound : n < 2 ^ 64) : Spelled sign suffix (before ++ (number ++ tail) ++ after) n

def signs : List (List Char) := [[], ['+']]

variable {base n d : Nat} {c : Char} {cs digits : List Char}

theorem toNat_upper_digitChar {d : Nat} (h : d < 16) :
    (Nat.digitChar d).toUpper.toNat = if d < 10 then 48 + d else 55 + d := by
  decide +revert

theorem digit?_eq_some_iff (hbase : base ≤ 16) :
    digit? base c = some d ↔ d < base ∧ c = (Nat.digitChar d).toUpper := by
  have hchar (hd : d < base) : c = (Nat.digitChar d).toUpper ↔
      c.toNat = if d < 10 then 48 + d else 55 + d := by
    rw [← Char.toNat_inj, toNat_upper_digitChar (by omega)]
  constructor
  · intro h
    simp only [digit?] at h
    have hd : d < base := by grind
    refine ⟨hd, (hchar hd).mpr ?_⟩
    grind
  · rintro ⟨hd, hc⟩
    have hc := (hchar hd).mp hc
    simp only [digit?]
    grind

theorem isDigit_iff (hbase : base ≤ 16) : IsDigit base c d ↔ digit? base c.toUpper = some d := by
  rw [digit?_eq_some_iff hbase, IsDigit, ← Text.toUpper_eq_toUpper_iff, eq_comm]

theorem value?_concat (digits : List Char) (c : Char) :
    value? base (digits ++ [c]) =
      (value? base digits).bind fun n => (digit? base c).map (n * base + ·) := by
  unfold value?
  rw [List.foldlM_append]
  simp

theorem Digits.ne_nil (h : Digits base digits n) : digits ≠ [] := by
  cases h <;> simp

theorem digits_iff (hbase : base ≤ 16) :
    Digits base digits n ↔ digits ≠ [] ∧ value? base (upperAscii digits) = some n := by
  constructor
  · intro h
    refine ⟨h.ne_nil, ?_⟩
    induction h with
    | one h => simp [upperAscii, value?, (isDigit_iff hbase).mp h]
    | more hs h ih =>
      rw [upperAscii, List.map_append, List.map_singleton, value?_concat, ← upperAscii, ih]
      simp [(isDigit_iff hbase).mp h]
  · rintro ⟨hne, hvalue⟩
    induction digits using List.reverseRecOn generalizing n with
    | nil => exact absurd rfl hne
    | append_singleton digits c ih =>
      rw [upperAscii, List.map_append, List.map_singleton, value?_concat, ← upperAscii] at hvalue
      obtain ⟨m, hm, hvalue⟩ := Option.bind_eq_some_iff.mp hvalue
      obtain ⟨d, hd, rfl⟩ := Option.map_eq_some_iff.mp hvalue
      have hd := (isDigit_iff hbase).mpr hd
      cases digits with
      | nil =>
        obtain rfl : 0 = m := Option.some.inj hm
        simpa using Digits.one hd
      | cons first rest => exact .more (ih (by simp) hm) hd

theorem Digits.digit (hbase : base ≤ 16) (h : Digits base digits n) (hc : c ∈ digits) :
    (digit? base c.toUpper).isSome := by
  induction h with
  | one h =>
    rw [List.mem_singleton.mp hc, (isDigit_iff hbase).mp h]
    rfl
  | more hs h ih =>
    rcases List.mem_append.mp hc with hc | hc
    · exact ih hc
    · rw [List.mem_singleton.mp hc, (isDigit_iff hbase).mp h]
      rfl

theorem bounded_eq_some_iff (hbase : base ≤ 16) {n : UInt64} :
    (if (upperAscii digits).isEmpty then none
      else (value? base (upperAscii digits)).bind fun v =>
        if v < UInt64.size then some (UInt64.ofNat v) else none) = some n ↔
      Digits base digits n.toNat := by
  have hempty : (upperAscii digits).isEmpty = true ↔ digits = [] := by simp [upperAscii]
  rw [digits_iff hbase, Option.ite_none_left_eq_some, Option.bind_eq_some_iff, hempty]
  refine and_congr_right fun _ => ⟨?_, fun hv => ⟨_, hv, by simp [n.toNat_lt_size]⟩⟩
  rintro ⟨v, hv, hn⟩
  obtain ⟨hbound, hn⟩ := Option.ite_none_right_eq_some.mp hn
  rwa [← Option.some.inj hn, UInt64.toNat_ofNat_of_lt' hbound]

theorem Digits.plus_not_mem (hbase : base ≤ 16) (h : Digits base digits n) : '+' ∉ digits := by
  intro hc
  have hplus := h.digit hbase hc
  have hsame : '+'.toUpper = '+' := rfl
  simp [digit?, hsame] at hplus

theorem number?_eq_some_iff (hbase : base ≤ 16) {n : UInt64} :
    number? base (upperAscii cs) = some n ↔
      ∃ sign ∈ signs, ∃ digits, cs = sign ++ digits ∧ Digits base digits n.toNat := by
  have hsigns : (∃ sign ∈ signs, ∃ digits, cs = sign ++ digits ∧ Digits base digits n.toNat) ↔
      Digits base cs n.toNat ∨ ∃ digits, cs = '+' :: digits ∧ Digits base digits n.toNat := by
    simp [signs]
  rw [hsigns]
  by_cases hplus : ∃ digits, cs = '+' :: digits
  · obtain ⟨digits, rfl⟩ := hplus
    have hplus : ¬Digits base ('+' :: digits) n.toNat := fun h =>
      h.plus_not_mem hbase List.mem_cons_self
    simp only [hplus, false_or, List.cons.injEq, true_and, exists_eq_left']
    exact bounded_eq_some_iff hbase
  · have hnumber : number? base (upperAscii cs) = if (upperAscii cs).isEmpty then none
        else (value? base (upperAscii cs)).bind fun v =>
          if v < UInt64.size then some (UInt64.ofNat v) else none := by
      unfold number?
      split
      · next rest h =>
        obtain ⟨c, digits, rfl, hc, -⟩ := List.map_eq_cons_iff.mp h
        rw [Text.toUpper_eq_iff_of_not_isAlpha rfl] at hc
        exact absurd ⟨digits, by rw [hc]⟩ hplus
      · rfl
    rw [hnumber, bounded_eq_some_iff hbase]
    refine (or_iff_left ?_).symm
    rintro ⟨digits, h, -⟩
    exact hplus ⟨digits, h⟩

theorem dropSuffix_concat_ul (cs : List Char) : dropSuffix (cs ++ ['U', 'L']) = cs := by
  have h : ['U', 'L'].isSuffixOf? (cs ++ ['U', 'L']) = some cs :=
    List.isSuffixOf?_eq_some_iff_append_eq.mpr rfl
  simp [dropSuffix, h]

theorem dropSuffix_concat_l (h : ∀ c ∈ cs.getLast?, c ≠ 'U') : dropSuffix (cs ++ ['L']) = cs := by
  have hul : ['U', 'L'].isSuffixOf? (cs ++ ['L']) = none := by
    rw [Option.eq_none_iff_forall_ne_some]
    intro t ht
    have hcs : t ++ ['U'] ++ ['L'] = cs ++ ['L'] := by
      have h := List.isSuffixOf?_eq_some_iff_append_eq.mp ht
      simpa using h
    exact h 'U' (by simp [← List.append_cancel_right hcs]) rfl
  have hl : ['L'].isSuffixOf? (cs ++ ['L']) = some cs :=
    List.isSuffixOf?_eq_some_iff_append_eq.mpr rfl
  simp [dropSuffix, hul, hl]

theorem dropSuffix_eq_self (h : ∀ c ∈ cs.getLast?, c ≠ 'L') : dropSuffix cs = cs := by
  have hnone (rest : List Char) : (rest ++ ['L']).isSuffixOf? cs = none := by
    rw [Option.eq_none_iff_forall_ne_some]
    intro t ht
    have hcs := List.isSuffixOf?_eq_some_iff_append_eq.mp ht
    rw [← List.append_assoc] at hcs
    exact h 'L' (by simp [← hcs]) rfl
  have hul := hnone ['U']
  have hl := hnone []
  simp only [List.cons_append, List.nil_append] at hul hl
  simp [dropSuffix, hul, hl]

theorem dropSuffix_cases (cs : List Char) :
    (∃ rest, cs = rest ++ ['U', 'L'] ∧ dropSuffix cs = rest) ∨
      (∃ rest, cs = rest ++ ['L'] ∧ dropSuffix cs = rest) ∨ dropSuffix cs = cs := by
  unfold dropSuffix
  cases hul : ['U', 'L'].isSuffixOf? cs with
  | some rest => exact Or.inl ⟨rest, (List.isSuffixOf?_eq_some_iff_append_eq.mp hul).symm, rfl⟩
  | none =>
    refine Or.inr ?_
    cases hl : ['L'].isSuffixOf? cs with
    | some rest => exact Or.inl ⟨rest, (List.isSuffixOf?_eq_some_iff_append_eq.mp hl).symm, rfl⟩
    | none => exact Or.inr rfl

theorem isSome_digit?_last (hbase : base ≤ 16) {sign : List Char} (h : Digits base digits n) :
    ∀ c ∈ (upperAscii (sign ++ digits)).getLast?, (digit? base c).isSome := by
  intro c hc
  have hne : upperAscii digits ≠ [] := by simp [upperAscii, h.ne_nil]
  rw [upperAscii, List.map_append, ← upperAscii, ← upperAscii,
    List.getLast?_append_of_ne_nil _ hne] at hc
  obtain ⟨c, hmem, rfl⟩ := List.mem_map.mp (List.mem_of_getLast? hc)
  exact h.digit hbase hmem

theorem dropSuffix_upperAscii (hbase : base ≤ 16) {sign tail : List Char}
    (h : Digits base digits n) (htail : Suffix true tail) :
    dropSuffix (upperAscii (sign ++ digits ++ tail)) = upperAscii (sign ++ digits) := by
  have hlast : ∀ c ∈ (upperAscii (sign ++ digits)).getLast?, (digit? base c).isSome :=
    isSome_digit?_last hbase h
  have hletter {l : Char} (hl : digit? base l = none) :
      ∀ c ∈ (upperAscii (sign ++ digits)).getLast?, c ≠ l := by
    rintro c hc rfl
    simpa [hl] using hlast c hc
  rw [upperAscii, List.map_append]
  cases htail with
  | nothing =>
    rw [List.map_nil, List.append_nil]
    exact dropSuffix_eq_self (hletter (by simp [digit?]; omega))
  | long hl =>
    rw [List.map_singleton, ← Text.toUpper_eq_toUpper_iff.mpr hl]
    exact dropSuffix_concat_l (hletter (by simp [digit?]; omega))
  | unsignedLong hu hl =>
    rw [List.map_cons, List.map_singleton, ← Text.toUpper_eq_toUpper_iff.mpr hu,
      ← Text.toUpper_eq_toUpper_iff.mpr hl]
    exact dropSuffix_concat_ul _

theorem number?_stripped_eq_some_iff (hbase : base ≤ 16) {suffix : Bool} {n : UInt64} :
    number? base (if suffix then dropSuffix (upperAscii cs) else upperAscii cs) = some n ↔
      ∃ sign ∈ signs, ∃ digits tail, cs = sign ++ digits ++ tail ∧
        Digits base digits n.toNat ∧ Suffix suffix tail := by
  constructor
  · intro h
    have hsplit : ∃ number tail, cs = number ++ tail ∧ Suffix suffix tail ∧
        number? base (upperAscii number) = some n := by
      cases suffix with
      | false => exact ⟨cs, [], by simp, .nothing, h⟩
      | true =>
        rw [if_pos rfl] at h
        rcases dropSuffix_cases (upperAscii cs) with ⟨rest, hcs, hdrop⟩ | ⟨rest, hcs, hdrop⟩ | hdrop
        · obtain ⟨number, tail, rfl, rfl, htail⟩ := List.map_eq_append_iff.mp hcs
          obtain ⟨u, tail, rfl, hu, htail⟩ := List.map_eq_cons_iff.mp htail
          obtain ⟨l, tail, rfl, hl, htail⟩ := List.map_eq_cons_iff.mp htail
          obtain rfl := List.map_eq_nil_iff.mp htail
          rw [hdrop] at h
          exact ⟨number, [u, l], rfl, .unsignedLong (Text.toUpper_eq_toUpper_iff.mp hu.symm)
            (Text.toUpper_eq_toUpper_iff.mp hl.symm), h⟩
        · obtain ⟨number, tail, rfl, rfl, htail⟩ := List.map_eq_append_iff.mp hcs
          obtain ⟨l, tail, rfl, hl, htail⟩ := List.map_eq_cons_iff.mp htail
          obtain rfl := List.map_eq_nil_iff.mp htail
          rw [hdrop] at h
          exact ⟨number, [l], rfl, .long (Text.toUpper_eq_toUpper_iff.mp hl.symm), h⟩
        · rw [hdrop] at h
          exact ⟨cs, [], by simp, .nothing, h⟩
    obtain ⟨number, tail, rfl, htail, hnumber⟩ := hsplit
    obtain ⟨sign, hsign, digits, rfl, hdigits⟩ := (number?_eq_some_iff hbase).mp hnumber
    exact ⟨sign, hsign, digits, tail, rfl, hdigits, htail⟩
  · rintro ⟨sign, hsign, digits, tail, rfl, hdigits, htail⟩
    have hnumber : number? base (upperAscii (sign ++ digits)) = some n :=
      (number?_eq_some_iff hbase).mpr ⟨sign, hsign, digits, rfl, hdigits⟩
    cases suffix with
    | false =>
      cases htail
      simpa using hnumber
    | true => rwa [if_pos rfl, dropSuffix_upperAscii hbase hdigits htail]

theorem toUpper_ne_of_suffix {suffix : Bool} {tail : List Char} (h : Suffix suffix tail) :
    ∀ c ∈ tail, c.toUpper ≠ 'X' := by
  have hletter {l c : Char} (hl : SameLetter l c) (hx : l.toUpper ≠ 'X') : c.toUpper ≠ 'X' := by
    rwa [← Text.toUpper_eq_toUpper_iff.mpr hl]
  cases h with
  | nothing => simp
  | long hl => simpa using hletter hl (by decide)
  | unsignedLong hu hl => simpa using ⟨hletter hu (by decide), hletter hl (by decide)⟩

theorem not_hexadecimal {suffix : Bool} {sign tail : List Char} (hsign : sign ∈ signs)
    (hdigits : Digits 10 digits n) (htail : Suffix suffix tail) {x : Char} {rest : List Char}
    (hx : x.toUpper = 'X') : sign ++ digits ++ tail ≠ '0' :: x :: rest := by
  intro h
  have hmem : x ∈ digits ++ tail := by
    rcases List.mem_pair.mp hsign with rfl | rfl
    · rw [← List.nil_append digits, h]
      simp
    · simp at h
  rcases List.mem_append.mp hmem with hmem | hmem
  · have hdigit := hdigits.digit (by decide) hmem
    rw [hx] at hdigit
    exact absurd hdigit (by decide)
  · exact toUpper_ne_of_suffix htail x hmem hx

theorem unsigned?_hexadecimal {suffix : Bool} (cs : List Char) :
    unsigned? suffix ('0' :: 'X' :: cs) = number? 16 (if suffix then dropSuffix cs else cs) := rfl

theorem unsigned?_decimal {suffix : Bool} (h : ∀ rest, cs ≠ '0' :: 'X' :: rest) :
    unsigned? suffix cs = number? 10 (if suffix then dropSuffix cs else cs) := by
  unfold unsigned?
  split
  next hread =>
    split at hread
    · next rest => exact absurd rfl (h rest)
    · cases hread
      rfl

theorem unsigned?_eq_some_iff {suffix : Bool} {n : UInt64} :
    unsigned? suffix (upperAscii cs) = some n ↔
      ∃ sign ∈ signs, ∃ number tail, cs = number ++ tail ∧ Number sign number n.toNat ∧
        Suffix suffix tail := by
  by_cases hhex : ∃ rest, upperAscii cs = '0' :: 'X' :: rest
  · obtain ⟨rest, hrest⟩ := hhex
    obtain ⟨z, cs, rfl, hz, hrest⟩ := List.map_eq_cons_iff.mp hrest
    obtain ⟨x, cs, rfl, hx, rfl⟩ := List.map_eq_cons_iff.mp hrest
    obtain rfl := (Text.toUpper_eq_iff_of_not_isAlpha rfl).mp hz
    have hupper : upperAscii ('0' :: x :: cs) = '0' :: 'X' :: upperAscii cs := by
      simp only [upperAscii, List.map_cons, hx, hz]
    rw [hupper, unsigned?_hexadecimal, number?_stripped_eq_some_iff (by decide)]
    constructor
    · rintro ⟨sign, hsign, digits, tail, rfl, hdigits, htail⟩
      refine ⟨sign, hsign, '0' :: x :: (sign ++ digits), tail, rfl, ?_, htail⟩
      exact .hexadecimal (Text.toUpper_eq_toUpper_iff.mp hx.symm) hdigits
    · rintro ⟨sign, hsign, number, tail, hcs, hnumber, htail⟩
      cases hnumber with
      | decimal hdigits => exact absurd hcs.symm (not_hexadecimal hsign hdigits htail hx)
      | hexadecimal _ hdigits =>
        simp only [List.cons_append, List.cons.injEq] at hcs
        exact ⟨sign, hsign, _, tail, hcs.2.2, hdigits, htail⟩
  · have hdecimal : ∀ rest, upperAscii cs ≠ '0' :: 'X' :: rest := fun rest h => hhex ⟨rest, h⟩
    rw [unsigned?_decimal hdecimal, number?_stripped_eq_some_iff (by decide)]
    constructor
    · rintro ⟨sign, hsign, digits, tail, rfl, hdigits, htail⟩
      exact ⟨sign, hsign, sign ++ digits, tail, rfl, .decimal hdigits, htail⟩
    · rintro ⟨sign, hsign, number, tail, rfl, hnumber, htail⟩
      cases hnumber with
      | decimal hdigits => exact ⟨sign, hsign, _, tail, rfl, hdigits, htail⟩
      | @hexadecimal x digits _ hx _ =>
        refine absurd ?_ (hdecimal (upperAscii (sign ++ digits ++ tail)))
        simp only [upperAscii, List.cons_append, List.map_cons]
        rw [← Text.toUpper_eq_toUpper_iff.mpr hx]
        rfl

theorem Digits.not_isBlank (hbase : base ≤ 16) (h : Digits base digits n) (hc : c ∈ digits) :
    Text.isBlank c = false := by
  have hdigits : ∀ d < 16, Text.isBlank (Nat.digitChar d).toUpper = false := by decide
  obtain ⟨d, hd⟩ := Option.isSome_iff_exists.mp (h.digit hbase hc)
  obtain ⟨hd, hc⟩ := (digit?_eq_some_iff hbase).mp hd
  rw [← Text.isBlank_toUpper, hc]
  exact hdigits d (Nat.lt_of_lt_of_le hd hbase)

theorem Number.not_isBlank {sign number : List Char} (hsign : sign ∈ signs)
    (h : Number sign number n) (hc : c ∈ number) : Text.isBlank c = false := by
  have hplus : ∀ c ∈ sign, Text.isBlank c = false := by
    rcases List.mem_pair.mp hsign with rfl | rfl
    · simp
    · simp [Text.isBlank]
  cases h with
  | decimal hdigits =>
    rcases List.mem_append.mp hc with hc | hc
    · exact hplus c hc
    · exact hdigits.not_isBlank (by decide) hc
  | hexadecimal hx hdigits =>
    simp only [List.mem_cons, List.mem_append] at hc
    rcases hc with rfl | rfl | hc | hc
    · rfl
    · rw [← Text.isBlank_toUpper, ← Text.toUpper_eq_toUpper_iff.mpr hx]
      rfl
    · exact hplus c hc
    · exact hdigits.not_isBlank (by decide) hc

theorem Suffix.not_isBlank {suffix : Bool} {tail : List Char} (h : Suffix suffix tail)
    (hc : c ∈ tail) : Text.isBlank c = false := by
  have hletter {l c : Char} (hl : SameLetter l c) : Text.isBlank c = Text.isBlank l := by
    rw [← Text.isBlank_toUpper, ← Text.toUpper_eq_toUpper_iff.mpr hl, Text.isBlank_toUpper]
  cases h with
  | nothing => cases hc
  | long hl =>
    rw [List.mem_singleton.mp hc, hletter hl]
    rfl
  | unsignedLong hu hl =>
    rcases List.mem_pair.mp hc with rfl | rfl
    · exact hletter hu
    · exact hletter hl

theorem parse?_eq_some_iff {suffix : Bool} {n : UInt64} :
    parse? suffix cs = some n ↔ ∃ sign ∈ signs, Spelled sign suffix cs n.toNat := by
  unfold parse?
  rw [unsigned?_eq_some_iff]
  constructor
  · rintro ⟨sign, hsign, number, tail, htrim, hnumber, htail⟩
    obtain ⟨before, after, hbefore, hafter, hcs⟩ := Text.exists_trim cs
    rw [hcs, htrim]
    exact ⟨sign, hsign, .intro hbefore hafter hnumber htail n.toNat_lt⟩
  · rintro ⟨sign, hsign, ⟨hbefore, hafter, hnumber, htail, -⟩⟩
    refine ⟨sign, hsign, _, _, ?_, hnumber, htail⟩
    rw [Text.trim_surrounded hbefore hafter]
    refine Text.trim_eq_self_of_forall fun c hc => ?_
    rcases List.mem_append.mp hc with hc | hc
    · exact hnumber.not_isBlank hsign hc
    · exact htail.not_isBlank hc

theorem IsDigit.not_isAlpha (h : IsDigit 10 c d) : c.isAlpha = false := by
  have hdigits : ∀ d < 10, (Nat.digitChar d).toUpper.isAlpha = false := by decide
  obtain ⟨hd, hc⟩ := (digit?_eq_some_iff (by decide)).mp ((isDigit_iff (by decide)).mp h)
  rw [← Text.isAlpha_toUpper, hc]
  exact hdigits d hd

theorem Digits.head (h : Digits 10 digits n) :
    ∃ c ∈ digits.head?, c.isAlpha = false := by
  induction h with
  | one h => exact ⟨_, rfl, h.not_isAlpha⟩
  | more hs h ih =>
    obtain ⟨c, hc, halpha⟩ := ih
    exact ⟨c, by rw [List.head?_append, Option.mem_def.mp hc]; rfl, halpha⟩

theorem Number.head {sign number : List Char} (hsign : sign ∈ signs)
    (h : Number sign number n) : ∃ c ∈ number.head?, c.isAlpha = false := by
  cases h with
  | decimal hdigits =>
    rcases List.mem_pair.mp hsign with rfl | rfl
    · exact hdigits.head
    · exact ⟨'+', rfl, rfl⟩
  | hexadecimal => exact ⟨'0', rfl, rfl⟩

theorem head_of_parse? {suffix : Bool} {n : UInt64} (h : parse? suffix cs = some n) :
    ∃ c ∈ (trim cs).head?, c.isAlpha = false := by
  obtain ⟨sign, hsign, number, tail, htrim, hnumber, -⟩ := unsigned?_eq_some_iff.mp h
  obtain ⟨c, hc, halpha⟩ := hnumber.head hsign
  exact ⟨c, by rw [htrim, List.head?_append, Option.mem_def.mp hc]; rfl, halpha⟩

theorem parse?_normalize {suffix : Bool} (token : String) :
    parse? suffix (Text.normalize token) = parse? suffix token.toList := by
  simp [parse?, Text.normalize, Text.trim_upperAscii]

theorem Spelled.plus_mem {suffix : Bool} (h : Spelled ['+'] suffix cs n) : '+' ∈ cs := by
  obtain ⟨-, -, hnumber, -, -⟩ := h
  cases hnumber <;> simp

theorem Spelled.plus_not_mem {suffix : Bool} (h : Spelled [] suffix cs n) : '+' ∉ cs := by
  have hblank {before : List Char} (hbefore : Blank before) : '+' ∉ before := by
    intro hc
    have hplus := hbefore '+' hc
    simp [Text.isBlank] at hplus
  have hletter {l : Char} (hl : l.toUpper ≠ '+') : ¬SameLetter l '+' := fun h =>
    hl (Text.toUpper_eq_toUpper_iff.mpr h)
  obtain ⟨hbefore, hafter, hnumber, htail, -⟩ := h
  simp only [List.mem_append, not_or]
  refine ⟨⟨hblank hbefore, ?_, ?_⟩, hblank hafter⟩
  · cases hnumber with
    | decimal hdigits => exact hdigits.plus_not_mem (by decide)
    | hexadecimal hx hdigits =>
      simp only [List.mem_cons, not_or]
      refine ⟨by decide, ?_, hdigits.plus_not_mem (by decide)⟩
      rintro rfl
      exact hletter (by decide) hx
  · intro hc
    cases htail with
    | nothing => cases hc
    | long hl =>
      obtain rfl := List.mem_singleton.mp hc
      exact hletter (by decide) hl
    | unsignedLong hu hl =>
      rcases List.mem_pair.mp hc with rfl | rfl
      · exact hletter (by decide) hu
      · exact hletter (by decide) hl

theorem isDigit_digitChar (h : d < base) : IsDigit base (Nat.digitChar d) d :=
  ⟨h, Or.inl rfl⟩

theorem digits_zeros (hbase : 0 < base) (hd : d < base) (zeros : Nat) :
    Digits base (List.replicate zeros '0' ++ [Nat.digitChar d]) d := by
  have hzeros : zeros ≠ 0 → Digits base (List.replicate zeros '0') 0 := by
    induction zeros with
    | zero => exact fun h => absurd rfl h
    | succ zeros ih =>
      intro _
      by_cases hone : zeros = 0
      · subst hone
        exact .one (isDigit_digitChar hbase)
      · have hmore := (ih hone).more (isDigit_digitChar hbase)
        rw [Nat.zero_mul] at hmore
        rwa [List.replicate_succ']
  by_cases hnone : zeros = 0
  · subst hnone
    exact .one (isDigit_digitChar hd)
  · simpa using (hzeros hnone).more (isDigit_digitChar hd)

theorem digits_toDigits (hbase : 1 < base) (zeros n : Nat) :
    Digits base (List.replicate zeros '0' ++ Nat.toDigits base n) n := by
  induction n using Nat.strongRecOn with
  | ind n ih =>
    by_cases hn : n < base
    · rw [Nat.toDigits_of_lt_base hn]
      exact digits_zeros (by omega) hn zeros
    · have hquotient : 0 < n / base := Nat.div_pos (by omega) (by omega)
      have hremainder : n % base < base := Nat.mod_lt _ (by omega)
      have hdigits := Nat.toDigits_append_toDigits hbase hquotient hremainder
      rw [Nat.toDigits_of_lt_base hremainder, Nat.div_add_mod] at hdigits
      have hmore := (ih (n / base) (Nat.div_lt_self (by omega) hbase)).more
        (isDigit_digitChar hremainder)
      rwa [Nat.div_add_mod', List.append_assoc, hdigits] at hmore

theorem Spelled.of_number {suffix : Bool} {sign number tail : List Char} (hn : n < 2 ^ 64)
    (hnumber : Number sign number n) (htail : Suffix suffix tail) :
    Spelled sign suffix (number ++ tail) n := by
  have hblank : Blank [] := by simp [Blank]
  simpa using Spelled.intro hblank hblank hnumber htail hn

theorem spelled_decimal (n : UInt64) (zeros : Nat) {suffix : Bool} {tail : List Char}
    (htail : Suffix suffix tail) :
    Spelled [] suffix (List.replicate zeros '0' ++ Nat.toDigits 10 n.toNat ++ tail) n.toNat :=
  .of_number n.toNat_lt (.decimal (digits_toDigits (by decide) zeros n.toNat)) htail

theorem spelled_hexadecimal (n : UInt64) (zeros : Nat) {suffix : Bool} {tail : List Char}
    (htail : Suffix suffix tail) :
    Spelled [] suffix ('0' :: 'x' :: (List.replicate zeros '0' ++ Nat.toDigits 16 n.toNat) ++ tail)
      n.toNat :=
  .of_number n.toNat_lt (.hexadecimal (Or.inl rfl) (digits_toDigits (by decide) zeros n.toNat))
    htail

theorem hexDigits_eq (n : Nat) : Text.hexDigits n = Nat.toDigits 16 n := by
  fun_induction Text.hexDigits n with
  | case1 n hn => exact (Nat.toDigits_of_lt_base hn).symm
  | case2 n hn ih =>
    have hquotient : 0 < n / 16 := Nat.div_pos (by omega) (by decide)
    have hremainder : n % 16 < 16 := Nat.mod_lt _ (by decide)
    have hdigits := Nat.toDigits_append_toDigits (by decide) hquotient hremainder
    rwa [Nat.toDigits_of_lt_base hremainder, Nat.div_add_mod, ← ih] at hdigits

theorem spelled_hex (n : UInt64) {suffix : Bool} :
    Spelled [] suffix (Text.hex n.toNat).toList n.toNat := by
  rw [Text.hex, String.toList_ofList, hexDigits_eq]
  simpa using spelled_hexadecimal n 0 (.nothing : Suffix suffix [])

def namedUserTypes : List (List Char × UInt64) :=
  [("CKU_SO".toList, 0), ("CKU_USER".toList, 1), ("CKU_CONTEXT_SPECIFIC".toList, 2)]

theorem parseId_eq_ok_iff {literal : String} {id : UInt64} :
    SlotIdentifier.parseId literal = .ok id ↔ parse? false literal.toList = some id := by
  unfold SlotIdentifier.parseId
  cases parse? false literal.toList <;> simp

theorem lookup_namedUserTypes (word : List Char) :
    namedUserTypes.lookup word =
      if word = "CKU_SO".toList then some 0
      else if word = "CKU_USER".toList then some 1
      else if word = "CKU_CONTEXT_SPECIFIC".toList then some 2
      else none := by
  have hcons (name : List Char) (user : UInt64) (rest : List (List Char × UInt64)) :
      ((name, user) :: rest).lookup word = if word = name then some user else rest.lookup word := by
    by_cases h : word = name
    · simp [h]
    · rw [List.lookup_cons, beq_false_of_ne h, if_neg h]
  simp only [namedUserTypes, hcons, List.lookup_nil]

theorem readUserType_eq_ok_iff {token : String} {code : UInt64} :
    ModuleConfig.readUserType token = .ok code ↔
      namedUserTypes.lookup (Text.normalize token) = some code ∨
        parse? false token.toList = some code := by
  rw [← parse?_normalize, lookup_namedUserTypes]
  unfold ModuleConfig.readUserType
  generalize Text.normalize token = word
  -- No name is a number, so nothing hangs on the order in which they are tried.
  have hnames : ∀ entry ∈ namedUserTypes, parse? false entry.1 = none := by decide +kernel
  simp only [namedUserTypes, List.forall_mem_cons] at hnames
  dsimp only
  by_cases hempty : word = []
  · subst hempty
    have hnone : parse? false [] = none := by decide
    have hunnamed : namedUserTypes.lookup [] = none := by decide +kernel
    rw [if_pos rfl, hnone, ← lookup_namedUserTypes, hunnamed]
    simp
  rw [if_neg hempty]
  by_cases hofficer : word = "CKU_SO".toList
  · rw [if_pos hofficer, if_pos hofficer, hofficer, hnames.1]
    simp
  rw [if_neg hofficer, if_neg hofficer]
  by_cases huser : word = "CKU_USER".toList
  · rw [if_pos huser, if_pos huser, huser, hnames.2.1]
    simp
  rw [if_neg huser, if_neg huser]
  by_cases hcontext : word = "CKU_CONTEXT_SPECIFIC".toList
  · rw [if_pos hcontext, if_pos hcontext, hcontext, hnames.2.2.1]
    simp
  rw [if_neg hcontext, if_neg hcontext]
  cases parse? false word <;> simp

theorem spelled_numbers_read (suffix : Bool) (text : String) (n : UInt64) :
    (parse? suffix text.toList = some n ↔
      ∃ sign ∈ signs, Spelled sign suffix text.toList n.toNat) ∧
    ('+' ∉ text.toList →
      (parse? suffix text.toList = some n ↔ Spelled [] suffix text.toList n.toNat)) ∧
    (SlotIdentifier.parseId text = .ok n ↔
      ∃ sign ∈ signs, Spelled sign false text.toList n.toNat) ∧
    (ModuleConfig.readUserType text = .ok n ↔
      namedUserTypes.lookup (Text.normalize text) = some n ∨
        ∃ sign ∈ signs, Spelled sign false text.toList n.toNat) := by
  refine ⟨parse?_eq_some_iff, fun hplus => ?_, ?_, ?_⟩
  · rw [parse?_eq_some_iff]
    constructor
    · rintro ⟨sign, hsign, h⟩
      rcases List.mem_pair.mp hsign with rfl | rfl
      · exact h
      · exact absurd h.plus_mem hplus
    · exact fun h => ⟨[], by decide, h⟩
  · rw [parseId_eq_ok_iff, parse?_eq_some_iff]
  · rw [readUserType_eq_ok_iff, parse?_eq_some_iff]

theorem spelled_numbers_read_in_hexadecimal :
    parse? true " 0x1fUl ".toList = some 31 ∧ '+' ∉ " 0x1fUl ".toList ∧
      Spelled [] true " 0x1fUl ".toList 31 := by
  have h : parse? true " 0x1fUl ".toList = some 31 := by decide +kernel
  have hplus : '+' ∉ " 0x1fUl ".toList := by decide +kernel
  exact ⟨h, hplus, ((spelled_numbers_read true " 0x1fUl " 31).2.1 hplus).mp h⟩

theorem plus_sign_read :
    parse? false "+5".toList = some 5 ∧ ¬Spelled [] false "+5".toList 5 :=
  ⟨by decide +kernel, fun h => h.plus_not_mem (by decide +kernel)⟩

end TokenSigner.Literal
