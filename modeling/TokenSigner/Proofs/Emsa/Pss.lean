import Mathlib.Algebra.Order.Floor.Div
import Mathlib.Data.Nat.Size
import Mathlib.GroupTheory.GroupAction.Ring
import TokenSigner.Key.Handle
import TokenSigner.Proofs.Bytes
import TokenSigner.Proofs.Digest
import TokenSigner.Proofs.Emsa.Mask

namespace TokenSigner.Emsa

namespace Pss

@[simp] theorem length_clearTop (count : Nat) (bytes : Bytes) :
    (clearTop count bytes).length = bytes.length := by
  cases bytes <;> rfl

theorem toNat_cleared (count : Nat) (b : UInt8) :
    (UInt8.ofNat (b.toNat % (1 <<< (8 - count)))).toNat = b.toNat % 2 ^ (8 - count) := by
  rw [Nat.one_shiftLeft, UInt8.toNat_ofNat']
  exact Nat.mod_eq_of_lt (Nat.lt_of_le_of_lt (Nat.mod_le _ _) b.toNat_lt)

theorem clearTop_clearTop (count : Nat) (bytes : Bytes) :
    clearTop count (clearTop count bytes) = clearTop count bytes := by
  cases bytes with
  | nil => rfl
  | cons b rest =>
    rw [clearTop, clearTop, toNat_cleared, Nat.one_shiftLeft, Nat.mod_mod]

theorem clearTop_xor_clearTop (count : Nat) (xs ys : Bytes) :
    clearTop count (Bytes.xor (clearTop count xs) ys) = clearTop count (Bytes.xor xs ys) := by
  cases xs with
  | nil => rfl
  | cons x xs =>
    cases ys with
    | nil => rfl
    | cons y ys =>
      simp only [clearTop, Bytes.xor, List.zipWith_cons_cons, UInt8.toNat_xor, toNat_cleared]
      rw [Nat.one_shiftLeft, Nat.xor_mod_two_pow, Nat.mod_mod, ← Nat.xor_mod_two_pow]

theorem toNat_clearTop_lt {count : Nat} (hcount : count ≤ 8) {bytes : Bytes} (hne : bytes ≠ []) :
    (clearTop count bytes).toNat < 2 ^ (8 * bytes.length - count) := by
  cases bytes with
  | nil => exact absurd rfl hne
  | cons b rest =>
    have hfirst : Bytes.toNat [UInt8.ofNat (b.toNat % (1 <<< (8 - count)))] < 2 ^ (8 - count) := by
      rw [Bytes.toNat_cons, toNat_cleared]
      simpa using Nat.mod_lt _ (Nat.two_pow_pos _)
    have hbits : 8 * (b :: rest).length - count = 8 - count + 8 * rest.length := by
      rw [List.length_cons]
      omega
    rw [hbits, Nat.pow_add, Nat.pow_mul]
    exact Bytes.toNat_append_lt hfirst (Bytes.toNat_lt rest)

theorem length_dataBlock {length : Nat} {salt : Bytes} (h : salt.length + 1 ≤ length) :
    (dataBlock length salt).length = length := by
  simp only [dataBlock, List.length_append, List.length_replicate, List.length_cons]
  omega

theorem clearTop_dataBlock {count : Nat} (hcount : count < 8) (length : Nat) (salt : Bytes) :
    clearTop count (dataBlock length salt) = dataBlock length salt := by
  unfold dataBlock
  cases length - salt.length - 1 with
  | zero =>
    have hone : 1 < 2 ^ (8 - count) := Nat.one_lt_two_pow (by omega)
    rw [List.replicate_zero, List.nil_append, clearTop, Nat.one_shiftLeft]
    have hmod : (1 : UInt8).toNat % 2 ^ (8 - count) = 1 := Nat.mod_eq_of_lt hone
    rw [hmod]
    rfl
  | succ filling =>
    rw [List.replicate_succ, List.cons_append, clearTop]
    have hmod : (0 : UInt8).toNat % (1 <<< (8 - count)) = 0 := Nat.zero_mod _
    rw [hmod]
    rfl

theorem take_dataBlock {filling : Nat} {salt : Bytes} :
    (dataBlock (filling + 1 + salt.length) salt).take (filling + 1) =
      List.replicate filling 0 ++ [0x01] := by
  have hf : filling + 1 + salt.length - salt.length - 1 = filling := by omega
  rw [dataBlock, hf, List.take_append, List.length_replicate]
  simp

theorem drop_dataBlock {filling : Nat} {salt : Bytes} :
    (dataBlock (filling + 1 + salt.length) salt).drop (filling + 1) = salt := by
  have hf : filling + 1 + salt.length - salt.length - 1 = filling := by omega
  rw [dataBlock, hf, List.drop_append, List.length_replicate]
  simp

theorem check_eq_ok {parameters : PssParameters} {bits hashLength saltLength : Nat} :
    check parameters bits hashLength saltLength = .ok () ↔
      hashLength = parameters.digest.length ∧ saltLength = parameters.saltLength ∧
        parameters.digest.length + parameters.saltLength + 2 ≤ emLength bits := by
  by_cases hh : hashLength = parameters.digest.length
  · by_cases hs : saltLength = parameters.saltLength
    · subst hh hs
      by_cases hm : emLength bits < parameters.digest.length + parameters.saltLength + 2
      · simp [check, hm]
      · simp [check, hm, Nat.le_of_not_lt hm]
    · simp [check, hh, hs]
  · simp [check, hh]

theorem kind_of_check {parameters : PssParameters} {bits hashLength saltLength : Nat} {e : Error}
    (h : check parameters bits hashLength saltLength = .error e) : e.kind = .invalidParameter := by
  simp only [check] at h
  by_cases hh : hashLength = parameters.digest.length
  · rw [if_neg (not_not.mpr hh)] at h
    by_cases hs : saltLength = parameters.saltLength
    · rw [if_neg (not_not.mpr hs)] at h
      split at h <;> cases h
      rfl
    · rw [if_pos hs] at h
      cases h
      rfl
  · rw [if_pos hh] at h
    cases h
    rfl

theorem emLength_split {bits hashLength saltLength : Nat}
    (fits : hashLength + saltLength + 2 ≤ emLength bits) :
    ∃ filling unused, emLength bits = filling + 1 + saltLength + hashLength + 1 ∧
      8 * emLength bits = emBits bits + unused ∧ unused < 8 := by
  refine ⟨emLength bits - (hashLength + saltLength + 2), 8 * emLength bits - emBits bits,
    ?_, ?_, ?_⟩
  · omega
  · unfold emLength
    omega
  · unfold emLength
    omega

section Assembled

variable {hash maskHash : Bytes → Bytes} {hashLength maskLength bits : Nat}
  {messageHash salt : Bytes}

def maskedBlock (hash maskHash : Bytes → Bytes) (hashLength bits : Nat)
    (messageHash salt : Bytes) : Bytes :=
  clearTop (8 * emLength bits - emBits bits)
    (Bytes.xor (dataBlock (emLength bits - hashLength - 1) salt)
      (mgf1 maskHash (saltedHash hash messageHash salt) (emLength bits - hashLength - 1)))

theorem length_saltedHash (fixed : ∀ m, (hash m).length = hashLength) (messageHash salt : Bytes) :
    (saltedHash hash messageHash salt).length = hashLength := fixed _

theorem bytes_assemble (fixed : ∀ m, (hash m).length = hashLength) :
    (assemble hash maskHash bits messageHash salt).bytes =
      maskedBlock hash maskHash hashLength bits messageHash salt ++
        (saltedHash hash messageHash salt ++ [0xbc]) := by
  simp only [assemble, maskedBlock, length_saltedHash fixed _ _, List.append_assoc]

theorem length_maskedBlock (hash : Bytes → Bytes) (messageHash : Bytes)
    (maskFixed : ∀ m, (maskHash m).length = maskLength) (hpos : 0 < maskLength)
    (fits : hashLength + salt.length + 2 ≤ emLength bits) :
    (maskedBlock hash maskHash hashLength bits messageHash salt).length =
      emLength bits - hashLength - 1 := by
  rw [maskedBlock, length_clearTop, Bytes.length_xor, length_mgf1 maskFixed hpos,
    length_dataBlock (by omega), Nat.min_self]

theorem length_assemble (messageHash : Bytes) (fixed : ∀ m, (hash m).length = hashLength)
    (maskFixed : ∀ m, (maskHash m).length = maskLength) (hpos : 0 < maskLength)
    (fits : hashLength + salt.length + 2 ≤ emLength bits) :
    (assemble hash maskHash bits messageHash salt).bytes.length = emLength bits := by
  rw [bytes_assemble fixed, List.length_append, length_maskedBlock _ _ maskFixed hpos fits,
    List.length_append, length_saltedHash fixed _ _, List.length_singleton]
  omega

theorem unmask_maskedBlock (hash : Bytes → Bytes) (messageHash : Bytes)
    (maskFixed : ∀ m, (maskHash m).length = maskLength)
    (hpos : 0 < maskLength) (fits : hashLength + salt.length + 2 ≤ emLength bits) :
    clearTop (8 * emLength bits - emBits bits)
      (Bytes.xor (maskedBlock hash maskHash hashLength bits messageHash salt)
        (mgf1 maskHash (saltedHash hash messageHash salt) (emLength bits - hashLength - 1))) =
      dataBlock (emLength bits - hashLength - 1) salt := by
  obtain ⟨filling, unused, hsplit, hbits, hunused⟩ := emLength_split fits
  have hblock : (dataBlock (emLength bits - hashLength - 1) salt).length =
      emLength bits - hashLength - 1 := length_dataBlock (by omega)
  rw [maskedBlock, clearTop_xor_clearTop, Bytes.xor_xor_cancel]
  · exact clearTop_dataBlock (by omega) _ _
  · rw [hblock, length_mgf1 maskFixed hpos]

theorem recover_assemble (fixed : ∀ m, (hash m).length = hashLength)
    (maskFixed : ∀ m, (maskHash m).length = maskLength) (hpos : 0 < maskLength)
    (fits : hashLength + salt.length + 2 ≤ emLength bits) :
    recover hash maskHash hashLength salt.length (emBits bits) messageHash
      (assemble hash maskHash bits messageHash salt).bytes = some salt := by
  obtain ⟨filling, unused, hsplit, hbits, hunused⟩ := emLength_split fits
  have hl := length_saltedHash fixed messageHash salt
  have hmasked := length_maskedBlock hash messageHash maskFixed hpos fits
  have hlength := length_assemble messageHash fixed maskFixed hpos fits
  have hends := (assemble hash maskHash bits messageHash salt).ends
  have hunmask := unmask_maskedBlock hash messageHash maskFixed hpos fits
  have hB : emLength bits - hashLength - 1 = filling + 1 + salt.length := by omega
  have hF : emLength bits - hashLength - 1 - salt.length - 1 = filling := by omega
  have htake : (assemble hash maskHash bits messageHash salt).bytes.take
      (emLength bits - hashLength - 1) =
      maskedBlock hash maskHash hashLength bits messageHash salt := by
    rw [bytes_assemble fixed, ← hmasked, List.take_left]
  have hdrop : ((assemble hash maskHash bits messageHash salt).bytes.drop
      (emLength bits - hashLength - 1)).take hashLength = saltedHash hash messageHash salt := by
    rw [bytes_assemble fixed, ← hmasked, List.drop_left, ← hl, List.take_left]
  have hem : (emBits bits + 7) / 8 = emLength bits := rfl
  simp only [recover, hem, htake, hdrop, hunmask]
  rw [hF, hB, take_dataBlock, drop_dataBlock]
  refine if_pos ⟨hlength, by omega, hends, ?_, rfl, rfl⟩
  exact clearTop_clearTop _ _

theorem toNat_assemble_lt (messageHash : Bytes) (fixed : ∀ m, (hash m).length = hashLength)
    (maskFixed : ∀ m, (maskHash m).length = maskLength) (hpos : 0 < maskLength)
    (fits : hashLength + salt.length + 2 ≤ emLength bits) :
    (assemble hash maskHash bits messageHash salt).bytes.toNat < 2 ^ emBits bits := by
  obtain ⟨filling, unused, hsplit, hbits, hunused⟩ := emLength_split fits
  have htop : 8 * emLength bits - emBits bits = unused := by omega
  have hlength := length_maskedBlock hash messageHash maskFixed hpos fits
  rw [maskedBlock, length_clearTop] at hlength
  have hne := List.ne_nil_of_length_pos (hlength ▸ (by omega : 0 < emLength bits - hashLength - 1))
  have hhigh := toNat_clearTop_lt (by omega : 8 * emLength bits - emBits bits ≤ 8) hne
  have hrest : (saltedHash hash messageHash salt ++ [0xbc]).length = hashLength + 1 := by
    rw [List.length_append, length_saltedHash fixed _ _, List.length_singleton]
  have hsum : emBits bits =
      8 * (emLength bits - hashLength - 1) - unused + 8 * (hashLength + 1) := by omega
  have h := Bytes.toNat_append_lt hhigh
    (Bytes.toNat_lt (saltedHash hash messageHash salt ++ [0xbc]))
  rw [hlength, htop, hrest] at h
  rw [bytes_assemble fixed, maskedBlock, htop, hsum, Nat.pow_add, Nat.pow_mul 2 8 (hashLength + 1)]
  exact h

end Assembled

variable {δ ς : Type}

theorem signPssEncoded_eq (device : Device δ ς) (config : ModuleConfig) {handle : KeyHandle}
    {message : PssMessage} (halg : handle.algorithm = .rsa)
    (hlen : message.bytes.length ≤ handle.length) :
    handle.signPssEncoded device config message =
      handle.sign device config .rsaRaw none (message.bytes.padLeft handle.length) := by
  have hreq : handle.require .rsa = .ok () := if_pos halg
  funext s
  simp only [KeyHandle.signPssEncoded, hreq, if_neg (Nat.not_lt.mpr hlen)]
  rfl

theorem emLength_le (handle : KeyHandle) : emLength handle.bits ≤ handle.length := by
  simp only [emLength, emBits, KeyHandle.length]
  omega

theorem encodeOver_eq_ok {hash : Digest → Bytes → Bytes} {parameters : PssParameters} {bits : Nat}
    {messageHash salt : Bytes} {message : PssMessage} :
    encodeOver hash parameters bits messageHash salt = .ok message ↔
      check parameters bits messageHash.length salt.length = .ok () ∧
        assemble (hash parameters.digest) (hash parameters.maskDigest) bits messageHash salt =
          message := by
  unfold encodeOver
  cases check parameters bits messageHash.length salt.length with
  | error e => simp [Except.map]
  | ok u => simp [Except.map]

theorem encodeOver_eq_error {hash : Digest → Bytes → Bytes} {parameters : PssParameters}
    {bits : Nat} {messageHash salt : Bytes} {e : Error} :
    encodeOver hash parameters bits messageHash salt = .error e ↔
      check parameters bits messageHash.length salt.length = .error e := by
  unfold encodeOver
  cases check parameters bits messageHash.length salt.length with
  | error e => simp [Except.map]
  | ok u => simp [Except.map]

theorem recover_of_encode {hash : Digest → Bytes → Bytes} {parameters : PssParameters} {bits : Nat}
    {messageHash salt : Bytes} {message : PssMessage}
    (fixed : ∀ digest m, (hash digest m).length = digest.length)
    (h : encodeOver hash parameters bits messageHash salt = .ok message) :
    recover (hash parameters.digest) (hash parameters.maskDigest) parameters.digest.length
      parameters.saltLength (bits - 1) messageHash message.bytes = some salt := by
  obtain ⟨hcheck, rfl⟩ := encodeOver_eq_ok.mp h
  obtain ⟨-, hsalt, hfits⟩ := check_eq_ok.mp hcheck
  rw [← hsalt] at hfits ⊢
  exact recover_assemble (fixed _) (fixed _) (Digest.length_pos parameters.maskDigest) hfits

theorem encodeOver_recoverable (hash : Digest → Bytes → Bytes)
    (fixed : ∀ digest m, (hash digest m).length = digest.length) (parameters : PssParameters)
    (bits : Nat) (messageHash salt : Bytes) :
    ((∃ message, encodeOver hash parameters bits messageHash salt = .ok message) ↔
      messageHash.length = parameters.digest.length ∧ salt.length = parameters.saltLength ∧
        parameters.digest.length + parameters.saltLength + 2 ≤ (bits - 1) ⌈/⌉ 8) ∧
    (∀ e, encodeOver hash parameters bits messageHash salt = .error e →
      e.kind = .invalidParameter) ∧
    ∀ message, encodeOver hash parameters bits messageHash salt = .ok message →
      message.bytes.length = (bits - 1) ⌈/⌉ 8 ∧
      (∃ filling unused,
        emLength bits = filling + 1 + salt.length + parameters.digest.length + 1 ∧
        8 * emLength bits = emBits bits + unused ∧ unused < 8) ∧
      recover (hash parameters.digest) (hash parameters.maskDigest) parameters.digest.length
        parameters.saltLength (bits - 1) messageHash message.bytes = some salt ∧
      ∀ (n : Nat) (handle : KeyHandle), n.size = bits → handle.algorithm = .rsa →
        handle.bits = bits →
        ((message.bytes.padLeft handle.length).length = handle.length ∧
          (message.bytes.padLeft handle.length).toNat = message.bytes.toNat ∧
          message.bytes.toNat < n) ∧
        ∀ (δ ς : Type) (device : Device δ ς) (config : ModuleConfig),
          handle.signPssEncoded device config message =
            handle.sign device config .rsaRaw none (message.bytes.padLeft handle.length) := by
  refine ⟨?_, fun e he => kind_of_check (encodeOver_eq_error.mp he), ?_⟩
  · constructor
    · rintro ⟨message, hm⟩
      exact check_eq_ok.mp (encodeOver_eq_ok.mp hm).1
    · intro hfits
      exact ⟨_, encodeOver_eq_ok.mpr ⟨check_eq_ok.mpr hfits, rfl⟩⟩
  · intro message hm
    obtain ⟨hcheck, rfl⟩ := encodeOver_eq_ok.mp hm
    obtain ⟨hhash, hsalt, hfits⟩ := check_eq_ok.mp hcheck
    rw [← hsalt] at hfits ⊢
    have hpos := Digest.length_pos parameters.maskDigest
    have hlength := length_assemble messageHash (fixed parameters.digest)
      (fixed parameters.maskDigest) hpos hfits
    refine ⟨hlength, emLength_split hfits, ?_, ?_⟩
    · rw [hsalt]
      exact recover_of_encode fixed hm
    · intro n handle hn halg hbits
      have hle : emLength bits ≤ handle.length := hbits ▸ emLength_le handle
      have hroom := hlength.trans_le hle
      have hlt := toNat_assemble_lt messageHash (fixed parameters.digest)
        (fixed parameters.maskDigest) hpos hfits
      have hbig : 2 ^ emBits bits ≤ n := by
        apply Nat.lt_size.mp
        have hsome : 0 < bits := by
          simp only [emLength, emBits] at hfits
          omega
        rw [hn, emBits]
        omega
      refine ⟨⟨Bytes.length_padLeft hroom, Bytes.toNat_padLeft _ _, hlt.trans_le hbig⟩, ?_⟩
      intro δ ς device config
      exact signPssEncoded_eq device config halg hroom

theorem encodeOver_recoverable_257 :
    (∀ digest m, (Digest.hash digest m).length = digest.length) ∧
    ∃ message, encode ⟨.sha1, .sha1, 10, 1⟩ 257 (List.replicate 20 0xab) (List.replicate 10 7) =
        .ok message ∧
      message.bytes.length = 32 ∧
      recover Digest.sha1.hash Digest.sha1.hash 20 10 256 (List.replicate 20 0xab)
        message.bytes = some (List.replicate 10 7) ∧
      (message.bytes.padLeft 33).length = 33 ∧ message.bytes.toNat < 2 ^ 256 := by
  obtain ⟨possible, _, result⟩ := encodeOver_recoverable Digest.hash Digest.length_hash
    ⟨.sha1, .sha1, 10, 1⟩ 257 (List.replicate 20 0xab) (List.replicate 10 7)
  obtain ⟨message, hm⟩ := possible.mpr ⟨rfl, rfl, by decide⟩
  obtain ⟨hlength, _, hrecover, hblock⟩ := result message hm
  obtain ⟨⟨hpadded, _, hlt⟩, _⟩ :=
    hblock (2 ^ 256) ⟨⟨0, 0⟩, .label "key", 1, .rsa, 257⟩ Nat.size_pow rfl rfl
  exact ⟨Digest.length_hash, message, hm, hlength, hrecover, hpadded, hlt⟩

end Pss

end TokenSigner.Emsa
