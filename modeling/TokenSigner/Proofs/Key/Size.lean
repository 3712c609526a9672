import Mathlib.Order.Bounds.Defs
import TokenSigner.Proofs.ManagedSlot.LookUps

namespace TokenSigner

variable {δ ς : Type} {device : Device δ ς} {config : ModuleConfig} {key : KeyIdentifier}
  {x y z : ManagedSlot ς × Site δ ς}

theorem ManagedSlot.answered_of_publicKey {object : UInt64} {answer : PublicKey}
    (h : (publicKey device config object key).run x = (.ok answer, y)) :
    ∃ session, y.2.events.getLast? =
      some ⟨x.1.slot, .publicKey session object key, .ok answer⟩ := by
  unfold publicKey withSession at h
  obtain ⟨session, taken, hborrow, hused⟩ := Action.run_bind_eq_ok.mp h
  have hslot := slot_borrow device config x
  rw [hborrow] at hslot
  obtain ⟨result, asked, hasked, hgiven⟩ := Action.run_bind_eq_ok.mp hused
  rcases hcall : (device.call taken.1.slot (.publicKey session object key)).run taken.2 with
    ⟨told, after⟩
  rw [Action.run_outcome_eq_ok, run_ask hcall] at hasked
  cases hasked
  cases hgiven
  refine ⟨session, ?_⟩
  rw [events_of_call hcall, ← hslot]
  exact List.getLast?_concat

namespace KeyHandle

variable {handle : KeyHandle} {n width : Nat}

theorem classify_eq_rsa {publicKey : PublicKey} {bits : Nat} :
    publicKey.classify = .ok (.rsa, bits) ↔
      ∃ modulus exponent, publicKey = .rsa modulus exponent ∧ bits = modulus.bitLength := by
  constructor
  · intro h
    cases publicKey with
    | rsa modulus exponent =>
      cases h
      exact ⟨modulus, exponent, rfl, rfl⟩
    | dsa prime => cases h
    | ec parameters =>
      unfold PublicKey.classify at h
      dsimp only at h
      split at h
      · cases h
      · split at h <;> cases h
    | other keyType => cases h
  · rintro ⟨modulus, exponent, rfl, rfl⟩
    rfl

structure Measures (handle : KeyHandle) (n : Nat) : Prop where
  lower : 2 ^ (handle.bits - 1) ≤ n
  upper : n < 2 ^ handle.bits
  least : IsLeast {width | ∃ bytes : Bytes, bytes.length = width ∧ bytes.toNat = n} handle.length

theorem length_le_iff (hbits : handle.bits = n.size) :
    handle.length ≤ width ↔ n < 256 ^ width := by
  rw [← Bytes.size_le_iff, ← hbits, length]
  omega

theorem measures_of_bits (hbits : handle.bits = n.size) (hpos : 0 < n) : Measures handle n where
  lower := by
    have hdigits : 0 < n.size := Nat.size_pos.mpr hpos
    exact Nat.lt_size.mp (by omega)
  upper := hbits ▸ Nat.lt_size_self n
  least := by
    constructor
    · exact Bytes.exists_toNat_eq_iff.mpr ((length_le_iff hbits).mp (Nat.le_refl _))
    · intro width hfits
      exact (length_le_iff hbits).mpr (Bytes.exists_toNat_eq_iff.mp hfits)

theorem sized_by_modulus (device : Device δ ς) (config : ModuleConfig) (key : KeyIdentifier) :
    (∀ bytes : Bytes, bytes.bitLength = (Nat.digits 2 bytes.toNat).length ∧
      (bytes.bitLength = 0 ↔ bytes.toNat = 0) ∧
      ∀ count, Bytes.bitLength (List.replicate count 0 ++ bytes) = bytes.bitLength) ∧
    (∀ x y z object modulus exponent,
      (ManagedSlot.findKey device config key).run x = (.ok object, y) →
      (ManagedSlot.publicKey device config object key).run y =
        (.ok (.rsa modulus exponent), z) →
      ∃ handle, (find device config key).run x = (.ok handle, z) ∧
        handle.object = object ∧ handle.algorithm = .rsa) ∧
    ∀ x z handle, (find device config key).run x = (.ok handle, z) → handle.algorithm = .rsa →
      ∃ session modulus exponent,
        z.2.events.getLast? = some
          ⟨x.1.slot, .publicKey session handle.object key, .ok (.rsa modulus exponent)⟩ ∧
        (0 < modulus.toNat → Measures handle modulus.toNat) := by
  refine ⟨?_, ?_, ?_⟩
  · intro bytes
    exact ⟨(Bytes.length_digits_toNat bytes).symm, Bytes.bitLength_eq_zero,
      fun count => Bytes.bitLength_zeros_append count bytes⟩
  · intro x y z object modulus exponent hobject hread
    exact ⟨⟨x.1.slot, key, object, .rsa, modulus.bitLength⟩,
      ManagedSlot.run_find_eq_ok.mpr ⟨y, _, hobject, hread, rfl, rfl, rfl⟩, rfl, rfl⟩
  · intro x z handle hfind hrsa
    obtain ⟨y, publicKey, hobject, hread, hclassify, -, -⟩ := ManagedSlot.run_find_eq_ok.mp hfind
    rw [hrsa] at hclassify
    obtain ⟨modulus, exponent, rfl, hbits⟩ := classify_eq_rsa.mp hclassify
    have hslot := (ManagedSlot.does_findKey key).slot_eq hobject
    obtain ⟨session, hlast⟩ := ManagedSlot.answered_of_publicKey hread
    refine ⟨session, modulus, exponent, hslot ▸ hlast, ?_⟩
    rw [← Bytes.size_toNat] at hbits
    exact measures_of_bits hbits

theorem sized_by_modulus_of_nine_digits :
    let modulus : Bytes := [0, 1, 0]
    let token := { Rehearsal.token with keys := [⟨"signing", [1], .rsa modulus [3], none⟩] }
    let fresh : ManagedSlot Nat × Site (List Rehearsal.Token) Nat :=
      (⟨⟨0, 7⟩, .start 1, none, .empty, none, ⟨fun _ => .ok 0, 0⟩⟩, ⟨[token], [], []⟩)
    let key : KeyIdentifier := .label "signing"
    let handle : KeyHandle := ⟨⟨0, 7⟩, key, 1, .rsa, 9⟩
    let found := (ManagedSlot.findKey Rehearsal.device Rehearsal.config key).run fresh
    let read := (ManagedSlot.publicKey Rehearsal.device Rehearsal.config 1 key).run found.2
    let made := (find Rehearsal.device Rehearsal.config key).run fresh
    found.1 = .ok 1 ∧ read.1 = .ok (.rsa modulus [3]) ∧ made = (.ok handle, read.2) ∧
    handle.algorithm = .rsa ∧ modulus.toNat = 256 ∧ 0 < modulus.toNat ∧ handle.length = 2 ∧
    modulus.bitLength = (Nat.digits 2 256).length ∧ Measures handle 256 := by
  intro modulus token fresh key handle found read made
  have hfound : found.1 = .ok 1 := by decide +kernel
  have hread : read.1 = .ok (.rsa modulus [3]) := by decide +kernel
  have hpos : 0 < modulus.toNat := by decide
  obtain ⟨hdigits, hmakes, hmeasures⟩ := sized_by_modulus Rehearsal.device Rehearsal.config key
  obtain ⟨handle', hrun, -, -⟩ := hmakes fresh found.2 read.2 1 modulus [3]
    (Prod.ext hfound rfl) (Prod.ext hread rfl)
  have hhandle : made.1 = .ok handle := by decide +kernel
  have hafter : made.2 = read.2 := congrArg Prod.snd hrun
  have hmade : made = (.ok handle, read.2) := Prod.ext hhandle hafter
  refine ⟨hfound, hread, hmade, rfl, rfl, hpos, by decide, (hdigits modulus).1, ?_⟩
  obtain ⟨session, told, exponent, hlast, hmeasured⟩ := hmeasures fresh read.2 handle hmade rfl
  have hevent : read.2.2.events.getLast? =
      some ⟨⟨0, 7⟩, .publicKey 1 1 key, .ok (.rsa modulus [3])⟩ := rfl
  rw [hevent] at hlast
  cases hlast
  exact hmeasured hpos

end KeyHandle

end TokenSigner
