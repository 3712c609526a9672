import TokenSigner.Ecdsa
import TokenSigner.Proofs.Action
import TokenSigner.Proofs.Der

namespace TokenSigner.Ecdsa

def firstHalf (raw : Bytes) : Nat :=
  Bytes.toNat (raw.take (raw.length / 2))

def secondHalf (raw : Bytes) : Nat :=
  Bytes.toNat (raw.drop (raw.length / 2))

def widened (zeros : Nat) (raw : Bytes) : Bytes :=
  (List.replicate zeros 0 ++ raw.take (raw.length / 2)) ++
    (List.replicate zeros 0 ++ raw.drop (raw.length / 2))

theorem exists_halves {raw : Bytes} (hfilled : raw.length ≠ 0) (heven : raw.length % 2 = 0) :
    ∃ r s : Bytes, raw = r ++ s ∧ r.length = s.length ∧ 0 < r.length := by
  refine ⟨raw.take (raw.length / 2), raw.drop (raw.length / 2),
    (List.take_append_drop _ _).symm, ?_, ?_⟩
  · rw [List.length_take, List.length_drop]
    omega
  · rw [List.length_take]
    omega

variable {fieldLength : Nat} {r s : Bytes}

theorem half_length (h : r.length = s.length) : (r ++ s).length / 2 = r.length := by
  rw [List.length_append]
  omega

theorem even_length (h : r.length = s.length) (hfilled : 0 < r.length) :
    ¬((r ++ s).length = 0 ∨ (r ++ s).length % 2 ≠ 0) := by
  rw [List.length_append]
  omega

theorem firstHalf_append (h : r.length = s.length) : firstHalf (r ++ s) = r.toNat := by
  rw [firstHalf, half_length h, List.take_left]

theorem secondHalf_append (h : r.length = s.length) : secondHalf (r ++ s) = s.toNat := by
  rw [secondHalf, half_length h, List.drop_left]

theorem widened_append (h : r.length = s.length) (zeros : Nat) :
    widened zeros (r ++ s) = (List.replicate zeros 0 ++ r) ++ (List.replicate zeros 0 ++ s) := by
  rw [widened, half_length h, List.take_left, List.drop_left]

theorem inDer_eq_of_toNat_eq {r r' s s' : Bytes} (hr : r.toNat = r'.toNat)
    (hs : s.toNat = s'.toNat) : inDer r s = inDer r' s' := by
  simp only [inDer, Der.integer, Der.magnitude_eq_of_toNat_eq hr, Der.magnitude_eq_of_toNat_eq hs]

def Writer.Encodes (write : Writer) : Prop :=
  ∀ r s : Bytes, r.length < 2 ^ 30 → s.length < 2 ^ 30 →
    write r s = .ok (inDer r s)

variable {write : Writer}

theorem encode_der_append (hwrite : write.Encodes) (h : r.length = s.length)
    (hfilled : 0 < r.length) (hlength : r.length < 2 ^ 30) :
    encode write .der fieldLength (r ++ s) = .ok (inDer r s) := by
  have hhalf : ¬longestHalf < r.length := by
    rw [longestHalf]
    omega
  have hstripped {value : Bytes} (hvalue : value.length < 2 ^ 30) :
      value.stripZeros.length < 2 ^ 30 :=
    (List.dropWhile_sublist _).length_le.trans_lt hvalue
  have hsame : inDer r.stripZeros s.stripZeros = inDer r s :=
    inDer_eq_of_toNat_eq (Bytes.toNat_stripZeros r) (Bytes.toNat_stripZeros s)
  have hwritten := hwrite r.stripZeros s.stripZeros (hstripped hlength) (hstripped (h ▸ hlength))
  simp only [encode, if_neg (even_length h hfilled), half_length h, List.take_left,
    List.drop_left, if_neg hhalf, hwritten, hsame,
    mapError_ok]

theorem encode_plain_append (h : r.length = s.length) (hfilled : 0 < r.length) :
    encode write .plain fieldLength (r ++ s) = do
      let r ← component fieldLength r
      let s ← component fieldLength s
      return r ++ s := by
  simp only [encode, if_neg (even_length h hfilled), half_length h, List.take_left, List.drop_left]

theorem integerOctets_le {bytes : Bytes} (h : bytes.length < 2 ^ 30) :
    Der.integerOctets bytes.toNat ≤ 2 ^ 30 + 6 := by
  have hmagnitude := Der.magnitudeOctets_toNat_le bytes
  have hlength := @Der.lengthOctets_le_of_lt (Der.magnitudeOctets bytes.toNat) 4 (by omega)
  unfold Der.integerOctets
  omega

theorem ofDer?_sequence (hr : r.length < 2 ^ 30) (hs : s.length < 2 ^ 30) :
    ofDer? (inDer r s) = some (r.toNat, s.toNat) := by
  have hmagnitude {bytes : Bytes} (h : bytes.length < 2 ^ 30) :
      (Der.magnitude bytes).length < Der.lengthBound := by
    have hle := Der.magnitudeOctets_toNat_le bytes
    refine Der.lt_lengthBound ?_
    rw [Der.length_magnitude]
    omega
  have hitems :
      (Der.tagged 0x02 (Der.magnitude r) ++ Der.tagged 0x02 (Der.magnitude s)).length <
        Der.lengthBound := by
    have hfirst := integerOctets_le hr
    have hsecond := integerOctets_le hs
    refine Der.lt_lengthBound ?_
    rw [← Der.integer, ← Der.integer, List.length_append, Der.length_integer, Der.length_integer]
    omega
  have hsequence : inDer r s =
      Der.tagged 0x30 (Der.tagged 0x02 (Der.magnitude r) ++ Der.tagged 0x02 (Der.magnitude s)) := by
    simp [inDer, Der.sequence, Der.integer]
  simp [hsequence, ofDer?, Der.tagged?_tagged_nil hitems, Der.tagged?_tagged (hmagnitude hr),
    Der.tagged?_tagged_nil (hmagnitude hs), Der.natural?_magnitude, guard]

theorem eq_sequence_of_ofDer? {signature : Bytes}
    (h : ofDer? signature = some (r.toNat, s.toNat)) :
    signature = inDer r s := by
  simp only [ofDer?, Option.bind_eq_bind, Option.bind_eq_some_iff, Prod.exists, guard,
    Option.pure_def, Option.some.injEq, Prod.mk.injEq] at h
  obtain ⟨items, after, houter, first, rest, hfirst, second, last, hsecond, _, hends, n, hn, m, hm,
    rfl, rfl⟩ := h
  have hnothing : after = [] ∧ last = [] := by
    by_contra hmore
    rw [if_neg hmore] at hends
    cases hends
  obtain ⟨rfl, rfl⟩ := hnothing
  have hitems := Der.eq_tagged_of_tagged? hfirst
  have hrest := Der.eq_tagged_of_tagged? hsecond
  rw [Der.natural?_eq_some_iff.mp hn] at hitems
  rw [Der.natural?_eq_some_iff.mp hm] at hrest
  rw [Der.eq_tagged_of_tagged? houter, hitems, hrest]
  simp [inDer, Der.sequence, Der.integer]

structure InDer (r s : Nat) (signature : Bytes) : Prop where
  read : ofDer? signature = some (r, s)
  only : ∀ other, ofDer? other = some (r, s) → other = signature

theorem inDer_sequence (hr : r.length < 2 ^ 30) (hs : s.length < 2 ^ 30) :
    InDer r.toNat s.toNat (inDer r s) :=
  ⟨ofDer?_sequence hr hs, fun _ => eq_sequence_of_ofDer?⟩

theorem component_cases (fieldLength : Nat) (value : Bytes) :
    (value.toNat < 256 ^ fieldLength ∧ ∃ padded, component fieldLength value = .ok padded ∧
      padded.length = fieldLength ∧ padded.toNat = value.toNat) ∨
    (¬value.toNat < 256 ^ fieldLength ∧
      component fieldLength value = .error (.ecdsaComponentTooLarge fieldLength)) := by
  rw [← Bytes.length_stripZeros_le_iff, component]
  by_cases hfits : (Bytes.stripZeros value).length ≤ fieldLength
  · refine Or.inl ⟨hfits, _, if_neg (Nat.not_lt.mpr hfits), Bytes.length_padLeft hfits, ?_⟩
    rw [Bytes.toNat_padLeft, Bytes.toNat_stripZeros]
  · exact Or.inr ⟨hfits, if_pos (Nat.lt_of_not_le hfits)⟩

inductive InPlain (fieldLength r s : Nat) : Except Error Bytes → Prop
  | encoded {signature : Bytes} :
    r < 256 ^ fieldLength → s < 256 ^ fieldLength →
    signature.length = 2 * fieldLength → firstHalf signature = r → secondHalf signature = s →
    InPlain fieldLength r s (.ok signature)
  | tooLarge :
    ¬(r < 256 ^ fieldLength ∧ s < 256 ^ fieldLength) →
    InPlain fieldLength r s (.error (.ecdsaComponentTooLarge fieldLength))

theorem inPlain_encode (h : r.length = s.length) (hfilled : 0 < r.length) :
    InPlain fieldLength r.toNat s.toNat (encode write .plain fieldLength (r ++ s)) := by
  rw [encode_plain_append h hfilled]
  rcases component_cases fieldLength r with ⟨hr, xs, hxs, hxlen, hxval⟩ | ⟨hr, hxs⟩
  · rcases component_cases fieldLength s with ⟨hs, ys, hys, hylen, hyval⟩ | ⟨hs, hys⟩
    · have hsame : xs.length = ys.length := hxlen.trans hylen.symm
      rw [hxs, hys]
      refine .encoded hr hs ?_ ?_ ?_
      · rw [List.length_append]
        omega
      · rw [firstHalf_append hsame, hxval]
      · rw [secondHalf_append hsame, hyval]
    · rw [hxs, hys]
      exact .tooLarge fun hboth => hs hboth.2
  · rw [hxs]
    exact .tooLarge fun hboth => hr hboth.1

theorem component_zeros (zeros : Nat) (value : Bytes) :
    component fieldLength (List.replicate zeros 0 ++ value) = component fieldLength value := by
  rw [component, component, Bytes.stripZeros_zeros_append]

theorem encode_widened (hwrite : write.Encodes) (h : r.length = s.length) (hfilled : 0 < r.length)
    (zeros : Nat) (encoding : Encoding)
    (hlength : encoding = .plain ∨ (widened zeros (r ++ s)).length < 2 ^ 31) :
    encode write encoding fieldLength (widened zeros (r ++ s)) =
      encode write encoding fieldLength (r ++ s) := by
  have hwide : (List.replicate zeros 0 ++ r).length = (List.replicate zeros 0 ++ s).length := by
    simp [h]
  have hfilled' : 0 < (List.replicate zeros 0 ++ r).length := by
    rw [List.length_append]
    omega
  rw [widened_append h] at hlength ⊢
  cases encoding with
  | der =>
    have hshort := hlength.resolve_left Encoding.noConfusion
    simp only [List.length_append, List.length_replicate] at hshort
    rw [encode_der_append hwrite hwide hfilled' (by simp; omega),
      encode_der_append hwrite h hfilled (by omega)]
    exact congrArg _ (inDer_eq_of_toNat_eq (Bytes.toNat_zeros_append zeros r)
      (Bytes.toNat_zeros_append zeros s))
  | plain =>
    rw [encode_plain_append hwide hfilled', encode_plain_append h hfilled]
    simp only [component_zeros]

theorem encode_unpaired {raw : Bytes} (h : raw.length = 0 ∨ raw.length % 2 ≠ 0)
    (encoding : Encoding) :
    encode write encoding fieldLength raw = .error (.oddEcdsaSignature raw.length) :=
  if_pos h

theorem encode_denotes (write : Writer) (hwrite : write.Encodes) (fieldLength : Nat) (raw : Bytes)
    (hlength : raw.length < 2 ^ 31) :
    (raw.length = 0 ∨ raw.length % 2 ≠ 0 →
      ∀ encoding, ∃ e, encode write encoding fieldLength raw = .error e ∧ e.kind = .token) ∧
    (raw.length ≠ 0 → raw.length % 2 = 0 →
      (∃ signature, encode write .der fieldLength raw = .ok signature ∧
        InDer (firstHalf raw) (secondHalf raw) signature) ∧
      InPlain fieldLength (firstHalf raw) (secondHalf raw) (encode write .plain fieldLength raw) ∧
      (∀ signature plain, encode write .der fieldLength raw = .ok signature →
        encode write .plain fieldLength raw = .ok plain →
        ofDer? signature = some (firstHalf plain, secondHalf plain)) ∧
      ∀ zeros encoding, encoding = .plain ∨ (widened zeros raw).length < 2 ^ 31 →
        encode write encoding fieldLength (widened zeros raw) =
          encode write encoding fieldLength raw) := by
  constructor
  · intro hunpaired encoding
    exact ⟨_, encode_unpaired hunpaired encoding, rfl⟩
  · intro hfilled heven
    obtain ⟨r, s, rfl, hsame, hpos⟩ := exists_halves hfilled heven
    rw [List.length_append] at hlength
    have hr : r.length < 2 ^ 30 := by omega
    have hder := @encode_der_append fieldLength r s write hwrite hsame hpos hr
    have hread := inDer_sequence hr (hsame ▸ hr)
    have hplain := @inPlain_encode fieldLength r s write hsame hpos
    rw [firstHalf_append hsame, secondHalf_append hsame]
    refine ⟨⟨_, hder, hread⟩, hplain, ?_, encode_widened hwrite hsame hpos⟩
    intro signature plain hsignature hfield
    cases hder.symm.trans hsignature
    rw [hfield] at hplain
    cases hplain with
    | encoded _ _ _ hfirst hsecond => rw [hread.read, hfirst, hsecond]

theorem encodes_inDer : Writer.Encodes fun r s => .ok (inDer r s) :=
  fun _ _ _ _ => rfl

theorem encode_denotes_of_eight_bytes :
    let write : Writer := fun r s => .ok (inDer r s)
    let raw : Bytes := [0, 1, 2, 3, 0x80, 0, 0, 1]
    write.Encodes ∧ raw.length < 2 ^ 31 ∧
    encode write .der 4 raw = .ok [0x30, 12, 2, 3, 1, 2, 3, 2, 5, 0, 0x80, 0, 0, 1] ∧
    InDer (firstHalf raw) (secondHalf raw) [0x30, 12, 2, 3, 1, 2, 3, 2, 5, 0, 0x80, 0, 0, 1] ∧
    InPlain 4 (firstHalf raw) (secondHalf raw) (.ok raw) ∧
    InPlain 3 (firstHalf raw) (secondHalf raw) (.error (.ecdsaComponentTooLarge 3)) := by
  intro write raw
  have hshort : raw.length < 2 ^ 31 := by decide
  have hencoded : encode write .der 4 raw =
      .ok [0x30, 12, 2, 3, 1, 2, 3, 2, 5, 0, 0x80, 0, 0, 1] := by decide
  obtain ⟨⟨signature, hsignature, hread⟩, hfits, -⟩ :=
    (encode_denotes write encodes_inDer 4 raw hshort).2 (by decide) (by decide)
  obtain ⟨-, hexceeds, -⟩ :=
    (encode_denotes write encodes_inDer 3 raw hshort).2 (by decide) (by decide)
  cases hencoded.symm.trans hsignature
  have hplain : encode write .plain 4 raw = .ok raw := by decide
  have hnarrow : encode write .plain 3 raw = .error (.ecdsaComponentTooLarge 3) := by decide
  rw [hplain] at hfits
  rw [hnarrow] at hexceeds
  exact ⟨encodes_inDer, hshort, hencoded, hread, hfits, hexceeds⟩

end TokenSigner.Ecdsa
