import TokenSigner.Client.Request
import TokenSigner.Proofs.Action
import TokenSigner.Proofs.Emsa.Pss

namespace TokenSigner

variable {e : Error}

theorem PublicKey.kind_of_classify {key : PublicKey} (h : key.classify = .error e) :
    e.kind = .unsupportedKeyType := by
  unfold classify at h
  cases key with
  | rsa modulus exponent => cases h
  | dsa prime => cases h
  | ec parameters =>
    dsimp only at h
    split at h
    · cases h
      rfl
    · split at h
      · cases h
        rfl
      · cases h
  | other keyType =>
    cases h
    rfl

theorem KeyHandle.kind_of_require {handle : KeyHandle} {algorithm : KeyAlgorithm}
    (h : handle.require algorithm = .error e) : e.kind = .invalidKey := by
  unfold require at h
  split at h
  · cases h
  · cases h
    rfl

theorem KeyHandle.kind_of_checkHash {digest : Digest} {hash : Bytes}
    (h : checkHash digest hash = .error e) : e.kind = .invalidParameter := by
  unfold checkHash at h
  split at h
  · cases h
  · cases h
    rfl

theorem Emsa.Pkcs1.kind_of_encode {content : Bytes} {length : Nat}
    (h : encode content length = .error e) : e.kind = .invalidKey := by
  unfold encode at h
  split at h
  · cases h
    rfl
  · cases h

theorem Entropy.kind_of_draw {count : Nat} {salts : Entropy}
    (h : ((draw count).run salts).1 = .error e) : e.kind = .general := by
  rw [run_draw] at h
  obtain ⟨report, -, rfl⟩ := mapError_eq_error.mp h
  rfl

theorem Emsa.Pss.kind_of_encode {parameters : PssParameters} {bits : Nat} {hash salt : Bytes}
    (h : encode parameters bits hash salt = .error e) : e.kind = .invalidParameter :=
  kind_of_check (map_eq_error.mp h)

theorem Emsa.Pss.kind_of_encodeFresh {parameters : PssParameters} {bits : Nat} {hash : Bytes}
    {salts : Entropy} (h : ((encodeFresh parameters bits hash).run salts).1 = .error e) :
    e.kind ≠ .sessionTimeout := by
  unfold encodeFresh at h
  by_cases hlong : Bytes.largest < parameters.saltLength
  · rw [if_pos hlong] at h
    cases h
    exact ErrorKind.noConfusion
  · rw [if_neg hlong] at h
    rcases hdraw : (Entropy.draw parameters.saltLength).run salts with ⟨e' | salt, after⟩
    · rw [Action.run_bind_error hdraw] at h
      cases h
      rw [Entropy.kind_of_draw (congrArg Prod.fst hdraw)]
      exact ErrorKind.noConfusion
    · rw [Action.run_bind_ok hdraw, Action.run_ofExcept] at h
      rw [kind_of_encode h]
      exact ErrorKind.noConfusion

theorem Ecdsa.kind_of_component {fieldLength : Nat} {value : Bytes}
    (h : component fieldLength value = .error e) : e.kind = .token := by
  unfold component at h
  dsimp only at h
  split at h
  · cases h
    rfl
  · cases h

theorem Ecdsa.kind_of_encode {write : Writer} {encoding : Encoding} {fieldLength : Nat}
    {raw : Bytes} (h : encode write encoding fieldLength raw = .error e) :
    e.kind ≠ .sessionTimeout := by
  unfold encode at h
  split at h
  · cases h
    exact ErrorKind.noConfusion
  · cases encoding with
    | der =>
      dsimp only at h
      split at h
      · cases h
        exact ErrorKind.noConfusion
      · obtain ⟨report, -, rfl⟩ := mapError_eq_error.mp h
        exact ErrorKind.noConfusion
    | plain =>
      have hkind : e.kind = .token := by
        rcases bind_eq_error.mp h with hr | ⟨r, -, h⟩
        · exact kind_of_component hr
        · rcases bind_eq_error.mp h with hs | ⟨s, -, h⟩
          · exact kind_of_component hs
          · cases h
      rw [hkind]
      exact ErrorKind.noConfusion

theorem Digest.kind_of_named {name : String} (h : Digest.named name = .error e) :
    e.kind = .invalidParameter := by
  unfold named at h
  split at h
  · cases h
  · cases h
    rfl

theorem PssParameters.kind_of_of {digest maskDigest : Digest} {saltLength : Nat} {trailer : UInt32}
    (h : PssParameters.of digest maskDigest saltLength trailer = .error e) :
    e.kind = .invalidParameter ∨ e.kind = .unsupportedTrailer := by
  unfold PssParameters.of at h
  split at h
  · cases h
    exact Or.inl rfl
  · split at h
    · cases h
      exact Or.inr rfl
    · cases h

theorem PssDescription.kind_of_read {description : PssDescription}
    (h : description.read = .error e) :
    e.kind = .invalidParameter ∨ e.kind = .unsupportedTrailer := by
  cases description with
  | standard => cases h
  | ofDigest digest =>
    have hread : (Digest.named digest).map PssParameters.ofDigest = .error e := h
    exact Or.inl (Digest.kind_of_named (map_eq_error.mp hread))
  | explicit digest maskDigest saltLength trailer =>
    rcases bind_eq_error.mp h with hname | ⟨digest, -, h⟩
    · exact Or.inl (Digest.kind_of_named hname)
    · rcases bind_eq_error.mp h with hmask | ⟨maskDigest, -, h⟩
      · exact Or.inl (Digest.kind_of_named hmask)
      · exact PssParameters.kind_of_of h

end TokenSigner
