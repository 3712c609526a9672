import TokenSigner.Mechanism.Selector
import TokenSigner.Proofs.Literal
import TokenSigner.Proofs.Text

namespace TokenSigner.Mechanism

open Text (Respelled trim trimEnd upperAscii)

def names : List String :=
  catalog.map (·.1) ++ aliases.map (·.1)

theorem mem_keys_of_lookup {β : Type} {key : String} {value : β} {entries : List (String × β)}
    (h : entries.lookup key = some value) : key ∈ entries.map (·.1) := by
  obtain ⟨before, after, rfl, -⟩ := List.lookup_eq_some_iff.mp h
  simp

theorem mem_names {name : String} {code : Mechanism} (h : ofName? name = some code) :
    name ∈ names := by
  unfold ofName? at h
  cases halias : aliases.lookup name with
  | none =>
    rw [halias] at h
    exact List.mem_append_left _ (mem_keys_of_lookup h)
  | some canonical => exact List.mem_append_right _ (mem_keys_of_lookup halias)

structure Bare (word : List Char) : Prop where
  begins : ∃ c ∈ word.head?, c.isUpper = true
  single : ¬"CKM_".toList <+: word
  proper : word ≠ "ALL".toList
  plain : ∀ c ∈ word, c.isLower = false ∧ Text.isBlank c = false ∧ c ≠ '|'

def isName : List Char → Bool
  | 'C' :: 'K' :: 'M' :: '_' :: c :: rest =>
    c.isUpper && !List.isPrefixOf ['C', 'K', 'M', '_'] (c :: rest) && c :: rest != ['A', 'L', 'L'] &&
      (c :: rest).all fun c => !c.isLower && !Text.isBlank c && c != '|'
  | _ => false

theorem bare_of_isName {cs : List Char} (h : isName cs = true) :
    ∃ word, cs = "CKM_".toList ++ word ∧ Bare word := by
  unfold isName at h
  split at h
  · next c rest =>
    simp only [Bool.and_eq_true, Bool.not_eq_true', ← Bool.not_eq_true, List.isPrefixOf_iff_prefix,
      List.all_eq_true, bne_iff_ne] at h
    obtain ⟨⟨⟨hbegins, hsingle⟩, hproper⟩, hplain⟩ := h
    refine ⟨c :: rest, rfl, ⟨c, rfl, hbegins⟩, hsingle, hproper, fun d hd => ?_⟩
    simpa [and_assoc] using hplain d hd
  · cases h

theorem isName_names : ∀ name ∈ names, isName name.toList = true := by
  decide +kernel

theorem bare_of_name {name : String} {code : Mechanism} (h : ofName? name = some code) :
    ∃ word, name.toList = "CKM_".toList ++ word ∧ Bare word :=
  bare_of_isName (isName_names name (mem_names h))

theorem bare_of_prefixed {word : List Char} {code : Mechanism}
    (h : ofName? (String.ofList ("CKM_".toList ++ word)) = some code) : Bare word := by
  obtain ⟨bare, heq, hbare⟩ := bare_of_name h
  rw [String.toList_ofList] at heq
  rwa [List.append_cancel_left heq]

def IsName (token : String) (code : Mechanism) : Prop :=
  ofName? (String.ofList (Text.normalize token)) = some code ∨
    ofName? (String.ofList ("CKM_".toList ++ Text.normalize token)) = some code

theorem head_of_number {token : String} {code : UInt64}
    (h : Literal.parse? true token.toList = some code) :
    ∃ c ∈ (Text.normalize token).head?, c.isAlpha = false := by
  obtain ⟨c, hc, halpha⟩ := Literal.head_of_parse? h
  refine ⟨c.toUpper, ?_, by simpa using halpha⟩
  rw [Text.normalize, upperAscii, List.head?_map, Option.mem_def.mp hc]
  rfl

theorem not_all_of_number {token : String} {code : UInt64}
    (h : Literal.parse? true token.toList = some code) : Text.normalize token ≠ "ALL".toList := by
  intro hall
  obtain ⟨c, hc, halpha⟩ := head_of_number h
  rw [hall] at hc
  obtain rfl : 'A' = c := Option.some.inj hc
  exact absurd halpha (by decide)

theorem not_prefixed_of_number {token : String} {code : UInt64}
    (h : Literal.parse? true token.toList = some code) :
    "CKM_".toList.isPrefixOf (Text.normalize token) = false := by
  rw [← Bool.not_eq_true, List.isPrefixOf_iff_prefix]
  rintro ⟨rest, hrest⟩
  obtain ⟨c, hc, halpha⟩ := head_of_number h
  rw [← hrest] at hc
  obtain rfl : 'C' = c := Option.some.inj hc
  exact absurd halpha (by decide)

theorem select?_of_number {token : String} {code : UInt64}
    (h : Literal.parse? true token.toList = some code) : select? token = some (.code code) := by
  have hword : Literal.parse? true (Text.normalize token) = some code := by
    rw [Literal.parse?_normalize, h]
  unfold select?
  simp only [not_all_of_number h, not_prefixed_of_number h, hword, if_false, Bool.false_eq_true]

theorem not_name_of_number {token : String} {code named : UInt64}
    (h : Literal.parse? true token.toList = some code) : ¬IsName token named := by
  rintro (hname | hname)
  · obtain ⟨word, heq, -⟩ := bare_of_name hname
    have hnot := not_prefixed_of_number h
    rw [← String.toList_ofList (l := Text.normalize token), heq,
      List.isPrefixOf_iff_prefix.mpr (List.prefix_append _ _)] at hnot
    cases hnot
  · obtain ⟨c, hc, halpha⟩ := head_of_number h
    obtain ⟨d, hd, hupper⟩ := (bare_of_prefixed hname).begins
    obtain rfl : c = d := Option.some.inj (hc.symm.trans hd)
    rw [Text.isAlpha_of_isUpper hupper] at halpha
    cases halpha

theorem not_all_of_name {token : String} {code : Mechanism} (h : IsName token code) :
    Text.normalize token ≠ "ALL".toList := by
  rcases h with h | h
  · obtain ⟨word, heq, -⟩ := bare_of_name h
    rw [← String.toList_ofList (l := Text.normalize token), heq]
    simp
  · exact (bare_of_prefixed h).proper

theorem normalize_prefixed (token : String) :
    Text.normalize ("CKM_" ++ token) = "CKM_".toList ++ upperAscii (trimEnd token.toList) := by
  have hstart : Text.trimStart ("CKM_".toList ++ token.toList) = "CKM_".toList ++ token.toList :=
    Text.trimStart_eq_self (by simp [Text.isBlank])
  have hend : trimEnd ("CKM_".toList ++ token.toList) = "CKM_".toList ++ trimEnd token.toList :=
    Text.trimEnd_append (by simp [Text.isBlank]) _
  rw [Text.normalize, String.toList_append, trim, hstart, hend, upperAscii, List.map_append]
  rfl

theorem normalize_of_prefixed {token : String} {code : Mechanism}
    (h : ofName? (String.ofList (Text.normalize ("CKM_" ++ token))) = some code) :
    Text.normalize ("CKM_" ++ token) = "CKM_".toList ++ Text.normalize token ∧
      Bare (Text.normalize token) := by
  rw [normalize_prefixed] at h ⊢
  have hbare := bare_of_prefixed h
  have htrim : trim token.toList = trimEnd token.toList := by
    refine Text.trim_eq_trimEnd fun c hc => ?_
    rw [← Text.isBlank_toUpper]
    refine (hbare.plain c.toUpper ?_).2.1
    exact List.mem_map_of_mem (List.mem_of_head? hc)
  rw [Text.normalize, htrim]
  exact ⟨rfl, hbare⟩

theorem select?_prefixed (token : String) :
    select? ("CKM_" ++ token) =
      (ofName? (String.ofList (Text.normalize ("CKM_" ++ token)))).map .code := by
  have hword := normalize_prefixed token
  have hall : Text.normalize ("CKM_" ++ token) ≠ "ALL".toList := by simp [hword]
  have hprefix : "CKM_".toList.isPrefixOf (Text.normalize ("CKM_" ++ token)) = true := by
    rw [hword, List.isPrefixOf_iff_prefix]
    exact List.prefix_append _ _
  unfold select?
  simp only [hall, hprefix, if_false, if_true]

theorem select?_of_bare {token : String} (h : Bare (Text.normalize token)) :
    select? token =
      (ofName? (String.ofList ("CKM_".toList ++ Text.normalize token))).map .code := by
  have hprefix : "CKM_".toList.isPrefixOf (Text.normalize token) = false := by
    rw [← Bool.not_eq_true, List.isPrefixOf_iff_prefix]
    exact h.single
  have hnumber : Literal.parse? true (Text.normalize token) = none := by
    rw [Option.eq_none_iff_forall_ne_some, Literal.parse?_normalize]
    intro n hn
    obtain ⟨c, hc, halpha⟩ := head_of_number hn
    obtain ⟨d, hd, hupper⟩ := h.begins
    obtain rfl : c = d := Option.some.inj (hc.symm.trans hd)
    rw [Text.isAlpha_of_isUpper hupper] at halpha
    cases halpha
  unfold select?
  simp only [h.proper, hprefix, hnumber, if_false, Bool.false_eq_true]

theorem select?_of_prefixed {token : String} {code : Mechanism}
    (h : select? ("CKM_" ++ token) = some (.code code)) : select? token = some (.code code) := by
  rw [select?_prefixed] at h
  obtain ⟨named, hname, hcode⟩ := Option.map_eq_some_iff.mp h
  obtain ⟨hword, hbare⟩ := normalize_of_prefixed hname
  rw [select?_of_bare hbare, ← hword, hname, ← hcode]
  rfl

theorem select?_eq_all_iff {token : String} :
    select? token = some .all ↔ Text.normalize token = "ALL".toList := by
  constructor
  · intro h
    by_contra hall
    unfold select? at h
    simp only [hall, if_false] at h
    split at h
    · cases ofName? (String.ofList (Text.normalize token)) <;> simp at h
    · split at h
      · cases h
      · cases ofName? (String.ofList ("CKM_".toList ++ Text.normalize token)) <;> simp at h
  · intro h
    unfold select?
    simp only [h, if_true]

theorem resolve_eq_ok_iff {token : String} {selector : Selector} :
    resolve token = .ok selector ↔ select? token = some selector := by
  unfold resolve
  cases select? token <;> simp

theorem error_of_resolve {token : String} {e : Error} (h : resolve token = .error e) :
    e = .unknownMechanism token := by
  unfold resolve at h
  split at h
  · cases h
  · exact (Except.error.inj h).symm

theorem select?_respelled {token other : String} (h : Respelled token.toList other.toList) :
    select? token = select? other := by
  have hword : Text.normalize token = Text.normalize other := Text.respelled_iff.mp h
  unfold select?
  rw [hword]

theorem resolve_of_spelled {token : String} {n : UInt64}
    (h : Literal.Spelled [] true token.toList n.toNat) : resolve token = .ok (.code n) :=
  resolve_eq_ok_iff.mpr (select?_of_number (Literal.parse?_eq_some_iff.mpr ⟨[], by decide, h⟩))

theorem not_all_of_readable {token : String} {code : UInt64}
    (h : IsName token code ∨ Literal.parse? true token.toList = some code) :
    resolve token ≠ .ok .all := by
  intro hall
  have hword := select?_eq_all_iff.mp (resolve_eq_ok_iff.mp hall)
  rcases h with h | h
  · exact not_all_of_name h hword
  · exact not_all_of_number h hword

theorem tokens_told_apart :
    (∀ (token other : String) (selector : Selector), Respelled token.toList other.toList →
      (resolve token = .ok selector ↔ resolve other = .ok selector)) ∧
    (∀ (token : String) (e : Error), resolve token = .error e → e = .unknownMechanism token) ∧
    (∀ (token : String) (code : Mechanism), resolve ("CKM_" ++ token) = .ok (.code code) →
      resolve token = .ok (.code code)) ∧
    (∀ (token : String) (n : UInt64), Literal.Spelled [] true token.toList n.toNat →
      resolve token = .ok (.code n)) ∧
    (∀ (n : UInt64) (zeros : Nat) (tail : List Char), Literal.Suffix true tail →
      resolve (String.ofList (List.replicate zeros '0' ++ Nat.toDigits 10 n.toNat ++ tail)) =
          .ok (.code n) ∧
        resolve (String.ofList
          ('0' :: 'x' :: (List.replicate zeros '0' ++ Nat.toDigits 16 n.toNat) ++ tail)) =
          .ok (.code n)) ∧
    (∀ (token : String) (n code : UInt64), Literal.parse? true token.toList = some n →
      ¬IsName token code) ∧
    (∀ token : String, resolve token = .ok .all ↔ Respelled "ALL".toList token.toList) ∧
    ∀ (token : String) (code : UInt64),
      IsName token code ∨ Literal.parse? true token.toList = some code →
        resolve token ≠ .ok .all := by
  refine ⟨?_, fun _ _ => error_of_resolve, ?_, fun _ _ => resolve_of_spelled, ?_,
    fun _ _ _ => not_name_of_number, ?_, fun _ _ => not_all_of_readable⟩
  · intro token other selector h
    rw [resolve_eq_ok_iff, resolve_eq_ok_iff, select?_respelled h]
  · intro token code h
    exact resolve_eq_ok_iff.mpr (select?_of_prefixed (resolve_eq_ok_iff.mp h))
  · intro n zeros tail htail
    constructor
    · refine resolve_of_spelled ?_
      rw [String.toList_ofList]
      exact Literal.spelled_decimal n zeros htail
    · refine resolve_of_spelled ?_
      rw [String.toList_ofList]
      exact Literal.spelled_hexadecimal n zeros htail
  · intro token
    have hall : upperAscii (trim "ALL".toList) = "ALL".toList := by decide +kernel
    rw [resolve_eq_ok_iff, select?_eq_all_iff, Text.respelled_iff, hall, eq_comm]
    rfl

theorem tokens_told_apart_of_ecdsa :
    resolve "CKM_EcDsa" = .ok (.code ecdsa) ∧ resolve "EcDsa" = .ok (.code ecdsa) ∧
      resolve (String.ofList ("00".toList ++ Nat.toDigits 10 4161 ++ ['u', 'L'])) =
        .ok (.code ecdsa) ∧
      ¬IsName "0x1041" ecdsa := by
  obtain ⟨-, -, hprefixed, -, hnumber, hapart, -⟩ := tokens_told_apart
  have hname : resolve "CKM_EcDsa" = .ok (.code ecdsa) := by decide +kernel
  have hprefix : resolve ("CKM_" ++ "EcDsa") = .ok (.code ecdsa) := by decide +kernel
  have htail : Literal.Suffix true ['u', 'L'] :=
    .unsignedLong (Or.inr (Or.inr rfl)) (Or.inl rfl)
  exact ⟨hname, hprefixed _ _ hprefix, (hnumber ecdsa 2 _ htail).1,
    hapart "0x1041" ecdsa ecdsa (by decide +kernel)⟩

end TokenSigner.Mechanism
