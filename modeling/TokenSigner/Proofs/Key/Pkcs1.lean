import TokenSigner.Proofs.Digest.Info
import TokenSigner.Proofs.Emsa.Pkcs1
import TokenSigner.Proofs.Key.Size

namespace TokenSigner

theorem ManagedSlot.supports_answers {δ ς : Type} (device : Device δ ς) (config : ModuleConfig)
    (mechanism : Mechanism) (x : ManagedSlot ς × Site δ ς) :
    ∃ supported y, (supports device config mechanism).run x = (.ok supported, y) := by
  rcases supports_cases device config mechanism x.1 x.2 with
    hrun | ⟨-, ⟨answer, after, -, hrun⟩ | ⟨e, after, -, hrun⟩⟩
  · exact ⟨_, _, hrun⟩
  · exact ⟨_, _, hrun⟩
  · exact ⟨_, _, hrun⟩

theorem ManagedSlot.supports_unsigned {δ ς : Type} {device : Device δ ς} {config : ModuleConfig}
    {mechanism : Mechanism} {supported : Bool} {x y : ManagedSlot ς × Site δ ς}
    (h : (supports device config mechanism).run x = (.ok supported, y)) :
    ∃ calls, y.2.events = x.2.events ++ calls ∧
      ∀ event ∈ calls, event.call.signing? = none := by
  rcases supports_cases device config mechanism x.1 x.2 with
    hrun | ⟨-, ⟨answer, after, hcall, hrun⟩ | ⟨e, after, hcall, hrun⟩⟩
  · rw [hrun] at h
    cases h
    exact ⟨[], (List.append_nil _).symm, by simp⟩
  · rw [hrun] at h
    cases h
    exact ⟨_, events_of_call hcall, by simp [Call.signing?]⟩
  · rw [hrun] at h
    cases h
    have hevents := events_of_call hcall
    exact ⟨_, hevents, by simp [Call.signing?]⟩

namespace KeyHandle

variable {δ ς : Type} {device : Device δ ς} {config : ModuleConfig} {handle : KeyHandle}
  {digest : Digest} {hash modulus exponent : Bytes} {x x' y : ManagedSlot ς × Site δ ς}

theorem rsa_of_classify
    (h : (PublicKey.rsa modulus exponent).classify = .ok (handle.algorithm, handle.bits)) :
    handle.algorithm = .rsa ∧ handle.bits = modulus.bitLength := by
  have hpair := Except.ok.inj h
  exact ⟨(congrArg Prod.fst hpair).symm, (congrArg Prod.snd hpair).symm⟩

theorem pow_le_modulus (hbits : handle.bits = modulus.bitLength) (hpos : 0 < handle.length) :
    256 ^ (handle.length - 1) ≤ modulus.toNat := by
  rw [← Bytes.size_toNat] at hbits
  by_contra hbelow
  have hless : handle.length ≤ handle.length - 1 :=
    (length_le_iff hbits).mpr (Nat.lt_of_not_le hbelow)
  omega

theorem run_signPkcs1 (hrsa : handle.algorithm = .rsa) (hhash : hash.length = digest.length)
    {supported : Bool}
    (hsupports : (ManagedSlot.supports device config .rsaPkcs).run x = (.ok supported, x')) :
    (handle.signPkcs1 device config digest hash).run x =
      if supported then (handle.sign device config .rsaPkcs none (digest.info hash)).run x'
      else (Action.ofExcept (Emsa.Pkcs1.encode (digest.info hash) handle.length) >>=
        handle.sign device config .rsaRaw none).run x' := by
  have hrequire : handle.require .rsa = .ok () := by simp [require, hrsa]
  have hcheck : checkHash digest hash = .ok () := by simp [checkHash, hhash]
  have hok : (Action.ofExcept (.ok ()) : ManagedSlot.Work δ ς Unit).run x = (.ok (), x) := rfl
  unfold signPkcs1
  rw [hrequire, hcheck, Action.run_bind_ok hok, Action.run_bind_ok hok,
    Action.run_bind_ok hsupports]
  cases supported with
  | true => rfl
  | false => rfl

def Signs (raw : Bytes → Bytes) (length : Nat) (mechanism : Mechanism) (data signature : Bytes) :
    Prop :=
  (mechanism = .rsaRaw → signature = raw data) ∧
  (mechanism = .rsaPkcs → ∃ block, Emsa.Pkcs1.encode data length = .ok block ∧
    signature = raw block)

structure Honest (device : Device δ ς) (slot : SlotIdentifier) (handle : KeyHandle)
    (raw : Bytes → Bytes) : Prop where
  whole : ∀ session mechanism parameters data state signature,
    (device.ask slot (.sign session handle.object mechanism parameters data) state).result =
      .ok signature → Signs raw handle.length mechanism data signature
  parts : ∀ session mechanism parameters parts state signature,
    (device.ask slot (.signParts session handle.object mechanism parameters parts) state).result =
      .ok signature → Signs raw handle.length mechanism parts.flatten signature

theorem Honest.signs {raw : Bytes → Bytes} {mechanism : Mechanism}
    {parameters : Option MechanismParameters} {data signature : Bytes}
    (h : Honest device x.1.slot handle raw)
    (hsize : ModuleConfig.leastMessageSize ≤ config.maxMessageSize)
    (hsign : (handle.sign device config mechanism parameters data).run x = (.ok signature, y)) :
    Signs raw handle.length mechanism data signature := by
  have hpositive : config.maxMessageSize ≠ 0 := by
    simp only [ModuleConfig.leastMessageSize] at hsize
    omega
  obtain ⟨session, state, ⟨-, hasked⟩ | ⟨-, hasked⟩⟩ := ManagedSlot.asked_of_sign hsign
  · have hsigned := h.parts _ _ _ _ _ _ hasked
    rw [Bytes.flatten_parts hpositive] at hsigned
    exact hsigned
  · exact h.whole _ _ _ _ _ _ hasked

theorem Honest.signPkcs1_eq {raw : Bytes → Bytes} {signature : Bytes}
    (h : Honest device x.1.slot handle raw)
    (hsize : ModuleConfig.leastMessageSize ≤ config.maxMessageSize)
    (hrsa : handle.algorithm = .rsa) (hhash : hash.length = digest.length)
    (hsign : (handle.signPkcs1 device config digest hash).run x = (.ok signature, y)) :
    ∃ block, Emsa.Pkcs1.encode (digest.info hash) handle.length = .ok block ∧
      signature = raw block := by
  obtain ⟨supported, x', hsupports⟩ := ManagedSlot.supports_answers device config .rsaPkcs x
  have hslot := (ManagedSlot.does_supports _).slot_eq hsupports
  rw [run_signPkcs1 hrsa hhash hsupports] at hsign
  rw [← hslot] at h
  cases supported with
  | true => exact (h.signs hsize hsign).2 rfl
  | false =>
    rw [if_neg Bool.false_ne_true] at hsign
    obtain ⟨block, hblock, hraw⟩ := Action.run_ofExcept_bind_eq_ok.mp hsign
    exact ⟨block, hblock, (h.signs hsize hraw).1 rfl⟩

structure Pads (digest : Digest) (hash : Bytes) (length modulus : Nat) (block : Bytes) : Prop where
  length_eq : block.length = length
  below : block.toNat < modulus
  filled : 8 ≤ ((block.drop 2).takeWhile (· == 0xff)).length
  decoded : Emsa.Pkcs1.decode block = some (digest.info hash)
  wellFormed : digest.info hash =
    Der.sequence [Der.sequence [digest.algorithm], Der.tagged 0x04 hash]
  read : Digest.ofInfo? (digest.info hash) = some (digest, hash)

theorem pads_encode {block : Bytes} (hbits : handle.bits = modulus.bitLength)
    (hhash : hash.length = digest.length)
    (h : Emsa.Pkcs1.encode (digest.info hash) handle.length = .ok block) :
    Pads digest hash handle.length modulus.toNat block := by
  obtain ⟨hfits, rfl⟩ := Emsa.Pkcs1.encode_eq_ok.mp h
  have hlength := Emsa.Pkcs1.length_fill (handle.length - (digest.info hash).length - 3)
    (digest.info hash)
  refine ⟨by omega, ?_, ?_, Emsa.Pkcs1.decode_encode h, Digest.info_eq hhash,
    Digest.ofInfo?_info hhash⟩
  · have hlt := Emsa.Pkcs1.toNat_fill_lt (handle.length - (digest.info hash).length - 3)
      (digest.info hash)
    have hexponent : handle.length - (digest.info hash).length - 3 + (digest.info hash).length + 2 =
        handle.length - 1 := by omega
    rw [hexponent] at hlt
    exact hlt.trans_le (pow_le_modulus hbits (by omega))
  · simp only [Emsa.Pkcs1.fill, List.drop_succ_cons, List.drop_zero]
    simp
    omega

theorem signPkcs1_pads (hhash : hash.length = digest.length)
    (hkey : (PublicKey.rsa modulus exponent).classify = .ok (handle.algorithm, handle.bits)) :
    ((digest.info hash).length + 11 ≤ handle.length → ∃ block,
      Pads digest hash handle.length modulus.toNat block ∧
      ∀ (δ ς : Type) (device : Device δ ς) (config : ModuleConfig)
        (x x' : ManagedSlot ς × Site δ ς),
        (ManagedSlot.supports device config .rsaPkcs).run x = (.ok false, x') →
        (handle.signPkcs1 device config digest hash).run x =
          (handle.sign device config .rsaRaw none block).run x') ∧
    (∀ (digest' : Digest) (hash' block block' : Bytes), hash'.length = digest'.length →
      Emsa.Pkcs1.encode (digest.info hash) handle.length = .ok block →
      Emsa.Pkcs1.encode (digest'.info hash') handle.length = .ok block' →
      (digest, hash) ≠ (digest', hash') → block ≠ block') ∧
    (handle.length < (digest.info hash).length + 11 →
      ∀ (δ ς : Type) (device : Device δ ς) (config : ModuleConfig)
        (x x' : ManagedSlot ς × Site δ ς),
        (ManagedSlot.supports device config .rsaPkcs).run x = (.ok false, x') →
        (handle.signPkcs1 device config digest hash).run x = (.error .blockTooShort, x') ∧
        Error.blockTooShort.kind = .invalidKey ∧
        ∃ calls, x'.2.events = x.2.events ++ calls ∧
          ∀ event ∈ calls, event.call.signing? = none) ∧
    ∀ (δ ς δ' ς' : Type) (device : Device δ ς) (device' : Device δ' ς')
      (config config' : ModuleConfig) (x y : ManagedSlot ς × Site δ ς)
      (x' y' : ManagedSlot ς' × Site δ' ς') (raw : Bytes → Bytes) (signature signature' : Bytes),
      ModuleConfig.leastMessageSize ≤ config.maxMessageSize →
      ModuleConfig.leastMessageSize ≤ config'.maxMessageSize →
      Honest device x.1.slot handle raw → Honest device' x'.1.slot handle raw →
      (handle.signPkcs1 device config digest hash).run x = (.ok signature, y) →
      (handle.signPkcs1 device' config' digest hash).run x' = (.ok signature', y') →
      signature = signature' := by
  obtain ⟨hrsa, hbits⟩ := rsa_of_classify hkey
  refine ⟨?_, ?_, ?_, ?_⟩
  · intro hfits
    have hblock := Emsa.Pkcs1.encode_eq_ok.mpr ⟨hfits, rfl⟩
    refine ⟨_, pads_encode hbits hhash hblock, ?_⟩
    intro δ ς device config x x' hsupports
    rw [run_signPkcs1 hrsa hhash hsupports, if_neg Bool.false_ne_true, hblock]
    rfl
  · intro digest' hash' block block' hhash' hblock hblock' hdiffers hsame
    have hdecoded := Emsa.Pkcs1.decode_encode hblock
    rw [hsame, Emsa.Pkcs1.decode_encode hblock'] at hdecoded
    have hread := Digest.ofInfo?_info hhash
    rw [← Option.some.inj hdecoded, Digest.ofInfo?_info hhash'] at hread
    exact hdiffers (Option.some.inj hread).symm
  · intro hshort δ ς device config x x' hsupports
    refine ⟨?_, rfl, ManagedSlot.supports_unsigned hsupports⟩
    rw [run_signPkcs1 hrsa hhash hsupports, if_neg Bool.false_ne_true,
      Emsa.Pkcs1.encode_eq_error.mpr ⟨hshort, rfl⟩]
    rfl
  · intro δ ς δ' ς' device device' config config' x y x' y' raw signature signature' hsize hsize'
      hhonest hhonest' hsign hsign'
    obtain ⟨block, hblock, rfl⟩ := hhonest.signPkcs1_eq hsize hrsa hhash hsign
    obtain ⟨block', hblock', rfl⟩ := hhonest'.signPkcs1_eq hsize' hrsa hhash hsign'
    rw [hblock] at hblock'
    cases hblock'
    rfl

theorem honest_signer {mechanisms : List Mechanism} {n : Bytes} {d : Nat} {slot : SlotIdentifier}
    (hlength : n.length = handle.length) :
    Honest (Rehearsal.signer mechanisms n d) slot handle (Rehearsal.raw n d) := by
  have hsigns {mechanism : Mechanism} {data signature : Bytes}
      (h : Rehearsal.signature n d mechanism data = .ok signature) :
      Signs (Rehearsal.raw n d) handle.length mechanism data signature := by
    unfold Rehearsal.signature at h
    constructor
    · rintro rfl
      rw [if_neg (by decide), if_pos rfl] at h
      exact (Except.ok.inj h).symm
    · rintro rfl
      rw [if_pos rfl, hlength] at h
      cases hblock : Emsa.Pkcs1.encode data handle.length with
      | error e =>
        rw [hblock] at h
        cases h
      | ok block =>
        rw [hblock] at h
        exact ⟨block, rfl, (Except.ok.inj h).symm⟩
  exact ⟨fun _ _ _ _ _ _ h => hsigns h, fun _ _ _ _ _ _ h => hsigns h⟩

theorem signPkcs1_pads_with_and_without_token :
    let n : Bytes := 0xc5 :: List.replicate 129 0x0f
    let hash : Bytes := List.replicate 20 0xab
    let handle : KeyHandle := ⟨⟨0, 7⟩, .label "signing", 1, .rsa, 1040⟩
    let config : ModuleConfig := { Rehearsal.config with mechanisms := [⟨[], .all⟩] }
    let slot : ManagedSlot Nat := ⟨⟨0, 7⟩, .start 1, none, .empty, none, ⟨fun _ => .ok 0, 0⟩⟩
    let site : Site Unit Nat := ⟨(), [], []⟩
    let padding := Rehearsal.signer [.rsaPkcs, .rsaRaw] n 3
    let bare := Rehearsal.signer [.rsaRaw] n 3
    let done := (handle.signPkcs1 padding config .sha1 hash).run (slot, site)
    let done' := (handle.signPkcs1 bare config .sha1 hash).run (slot, site)
    hash.length = Digest.sha1.length ∧
    (PublicKey.rsa n [3]).classify = .ok (handle.algorithm, handle.bits) ∧
    done.2.2.events.map (·.call.signing?) = [none, none, some .rsaPkcs] ∧
    done'.2.2.events.map (·.call.signing?) = [none, none, some .rsaRaw] ∧
    ∃ signature, done.1 = .ok signature ∧ done'.1 = .ok signature := by
  intro n hash handle config slot site padding bare done done'
  have hhash : hash.length = Digest.sha1.length := rfl
  have hkey : (PublicKey.rsa n [3]).classify = .ok (handle.algorithm, handle.bits) := by
    decide +kernel
  have hlength : n.length = handle.length := by decide +kernel
  have hsigned : done.1.isOk = true := by decide +kernel
  have hsigned' : done'.1.isOk = true := by decide +kernel
  refine ⟨hhash, hkey, by decide +kernel, by decide +kernel, ?_⟩
  obtain ⟨-, -, -, hagree⟩ := signPkcs1_pads hhash hkey
  rcases hrun : done with ⟨e | signature, y⟩
  · rw [hrun] at hsigned
    cases hsigned
  · rcases hrun' : done' with ⟨e | signature', y'⟩
    · rw [hrun'] at hsigned'
      cases hsigned'
    · have hsame := hagree _ _ _ _ padding bare config config (slot, site) y (slot, site) y'
        (Rehearsal.raw n 3) signature signature' (by decide) (by decide) (honest_signer hlength)
        (honest_signer hlength) hrun hrun'
      exact ⟨signature, rfl, by rw [hsame]⟩

end KeyHandle

end TokenSigner
