import TokenSigner.Proofs.Mechanism.Tokens

namespace TokenSigner.Mechanism

open Text (trimEnd)

theorem ofName?_catalog : ∀ entry ∈ catalog, ofName? entry.1 = some entry.2 := by
  decide +kernel

theorem ofName?_of_name? {code : Mechanism} {name : String} (h : name? code = some name) :
    ofName? name = some code := by
  obtain ⟨entry, hentry, rfl⟩ := Option.map_eq_some_iff.mp h
  have hcode := List.find?_some hentry
  rw [ofName?_catalog entry (List.mem_of_find?_eq_some hentry), beq_iff_eq.mp hcode]

theorem normalize_bare {word : List Char} (h : Bare word) :
    Text.normalize ("CKM_" ++ String.ofList word) = "CKM_".toList ++ word := by
  have hend : trimEnd word = word :=
    Text.trimEnd_eq_self fun c hc => (h.plain c (List.mem_of_getLast? hc)).2.1
  rw [normalize_prefixed, String.toList_ofList (l := word), hend,
    Text.upperAscii_eq_self fun c hc => (h.plain c hc).1]

theorem resolve_name {code : Mechanism} {name : String} (h : name? code = some name) :
    resolve name = .ok (.code code) := by
  have hname := ofName?_of_name? h
  obtain ⟨word, heq, hbare⟩ := bare_of_name hname
  obtain rfl : name = "CKM_" ++ String.ofList word := by
    rw [← String.toList_inj, heq, String.toList_append, String.toList_ofList (l := word)]
  rw [resolve_eq_ok_iff, select?_prefixed, normalize_bare hbare, ← heq, String.ofList_toList, hname]
  rfl

theorem resolve_hex {code : Mechanism} : resolve (Text.hex code.toNat) = .ok (.code code) :=
  resolve_of_spelled (Literal.spelled_hex code)

theorem resolve_barred {token : String} (h : '|' ∈ token.toList) :
    resolve ("CKM_" ++ token) = .error (.unknownMechanism ("CKM_" ++ token)) := by
  have hnone : ofName? (String.ofList (Text.normalize ("CKM_" ++ token))) = none := by
    rw [Option.eq_none_iff_forall_ne_some]
    intro code hname
    rw [normalize_prefixed] at hname
    have hbar := Text.mem_upperAscii_trimEnd h rfl
    exact ((bare_of_prefixed hname).plain _ hbar).2.2 rfl
  unfold resolve
  rw [select?_prefixed, hnone]
  rfl

theorem resolveCode_of_ok {token : String} {code : Mechanism}
    (h : resolve token = .ok (.code code)) : resolveCode token = .ok code := by
  unfold resolveCode
  rw [h]

theorem resolveCode_of_error {token : String} {e : Error} (h : resolve token = .error e) :
    resolveCode token = .error e := by
  unfold resolveCode
  rw [h]

theorem describe_vendor {code : Mechanism} (hname : name? code = none)
    (hvendor : vendorDefined ≤ code) :
    describe code =
      "CKM_" ++ ("VENDOR_DEFINED|" ++ Text.hex (code - vendorDefined).toNat) := by
  unfold describe
  rw [hname, UInt64.toNat_sub_of_le _ _ hvendor]
  simp only [hvendor, if_true, ← String.append_assoc]
  rfl

theorem resolveCode_describe (code : Mechanism) :
    resolveCode (describe code) =
      if (name? code).isSome ∨ code < vendorDefined then .ok code
      else .error (.unknownMechanism (describe code)) := by
  cases hname : name? code with
  | some name =>
    have hdescribe : describe code = name := by
      unfold describe
      rw [hname]
    rw [hdescribe, resolveCode_of_ok (resolve_name hname)]
    simp
  | none =>
    by_cases hvendor : vendorDefined ≤ code
    · have hbar : '|' ∈ ("VENDOR_DEFINED|" ++ Text.hex (code - vendorDefined).toNat).toList := by
        simp
      have hplace : ¬code < vendorDefined := by simpa using hvendor
      rw [describe_vendor hname hvendor, resolveCode_of_error (resolve_barred hbar)]
      simp [hplace]
    · have hplace : code < vendorDefined := by simpa using hvendor
      have hdescribe : describe code = Text.hex code.toNat := by
        unfold describe
        rw [hname]
        simp only [hvendor, if_false]
      rw [hdescribe, resolveCode_of_ok resolve_hex]
      simp [hplace]

theorem hex_injective {code other : Mechanism}
    (h : Text.hex code.toNat = Text.hex other.toNat) : code = other := by
  have hcode : resolve (Text.hex code.toNat) = .ok (.code other) := by rw [h, resolve_hex]
  rw [resolve_hex] at hcode
  exact Selector.code.inj (Except.ok.inj hcode)

theorem describe_vendor_injective {code other : Mechanism} (hname : name? code = none)
    (hvendor : vendorDefined ≤ code) (hname' : name? other = none)
    (hvendor' : vendorDefined ≤ other) (h : describe code = describe other) : code = other := by
  rw [describe_vendor hname hvendor, describe_vendor hname' hvendor', String.append_right_inj,
    String.append_right_inj] at h
  have hoffset := hex_injective h
  calc code = code - vendorDefined + vendorDefined := (UInt64.sub_add_cancel _ _).symm
    _ = other - vendorDefined + vendorDefined := by rw [hoffset]
    _ = other := UInt64.sub_add_cancel _ _

theorem describe_injective {code other : Mechanism} (h : describe code = describe other) :
    code = other := by
  have hcode := resolveCode_describe code
  have hother := resolveCode_describe other
  rw [h, hother] at hcode
  by_cases hread : (name? code).isSome ∨ code < vendorDefined
  · rw [if_pos hread] at hcode
    split at hcode
    · exact (Except.ok.inj hcode).symm
    · cases hcode
  · rw [if_neg hread] at hcode
    by_cases hread' : (name? other).isSome ∨ other < vendorDefined
    · rw [if_pos hread'] at hcode
      cases hcode
    · have hunread {mechanism : Mechanism}
          (hnot : ¬((name? mechanism).isSome ∨ mechanism < vendorDefined)) :
          name? mechanism = none ∧ vendorDefined ≤ mechanism := by simpa using hnot
      obtain ⟨hname, hvendor⟩ := hunread hread
      obtain ⟨hname', hvendor'⟩ := hunread hread'
      exact describe_vendor_injective hname hvendor hname' hvendor' h

theorem descriptions_told_apart :
    Function.Injective describe ∧
    ∀ code : Mechanism, resolveCode (describe code) =
      if (name? code).isSome ∨ code < vendorDefined then .ok code
      else .error (.unknownMechanism (describe code)) :=
  ⟨fun _ _ => describe_injective, resolveCode_describe⟩

example : describe 0x7777 = "0x7777" ∧
    describe (vendorDefined + 2) = "CKM_VENDOR_DEFINED|0x2" := by
  decide +kernel

end TokenSigner.Mechanism
