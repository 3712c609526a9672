import TokenSigner.Emsa.Pkcs1
import TokenSigner.Proofs.Bytes

namespace TokenSigner.Emsa.Pkcs1

def fill (count : Nat) (content : Bytes) : Bytes :=
  0x00 :: 0x01 :: (List.replicate count 0xff ++ 0x00 :: content)

theorem length_fill (count : Nat) (content : Bytes) :
    (fill count content).length = count + content.length + 3 := by
  simp [fill]
  omega

theorem encode_eq_ok {content block : Bytes} {length : Nat} :
    encode content length = .ok block ↔
      content.length + 11 ≤ length ∧ block = fill (length - content.length - 3) content := by
  unfold encode
  by_cases hshort : length < content.length + 11
  · simp [hshort]
  · simp only [hshort, if_false, Except.ok.injEq]
    constructor
    · rintro rfl
      exact ⟨by omega, by simp [fill]⟩
    · rintro ⟨-, rfl⟩
      simp [fill]

theorem encode_eq_error {content : Bytes} {length : Nat} {e : Error} :
    encode content length = .error e ↔ length < content.length + 11 ∧ e = .blockTooShort := by
  unfold encode
  by_cases hshort : length < content.length + 11
  · simp [hshort, eq_comm]
  · simp [hshort]

theorem toNat_fill_lt (count : Nat) (content : Bytes) :
    (fill count content).toNat < 256 ^ (count + content.length + 2) := by
  have hlt := Bytes.toNat_lt (0x01 :: (List.replicate count 0xff ++ 0x00 :: content))
  rw [fill, Bytes.toNat_cons]
  simpa [Nat.add_assoc] using hlt

theorem decode_fill {count : Nat} (h : 8 ≤ count) (content : Bytes) :
    decode (fill count content) = some content := by
  simp [fill, decode, h]

theorem decode_encode {content block : Bytes} {length : Nat}
    (h : encode content length = .ok block) :
    decode block = some content := by
  obtain ⟨hfits, rfl⟩ := encode_eq_ok.mp h
  exact decode_fill (by omega) content

end TokenSigner.Emsa.Pkcs1
