import TokenSigner.Emsa.Description
import TokenSigner.Proofs.Action
import TokenSigner.Proofs.Digest
import TokenSigner.Proofs.Engine.History

namespace TokenSigner

namespace PssParameters

inductive Obtained : PssParameters → Prop
  | standard : Obtained .standard
  | ofDigest (digest : Digest) : Obtained (.ofDigest digest)
  | of {digest maskDigest : Digest} {saltLength : Nat} {trailer : UInt32}
    {parameters : PssParameters}
    (h : PssParameters.of digest maskDigest saltLength trailer = .ok parameters) :
    Obtained parameters

variable {parameters : PssParameters}

structure Sound (parameters : PssParameters) : Prop where
  maskDigest_eq : parameters.maskDigest = parameters.digest
  trailer_eq : parameters.trailer = 1

theorem Obtained.sound (h : parameters.Obtained) : parameters.Sound := by
  cases h with
  | standard => exact ⟨rfl, rfl⟩
  | ofDigest digest => exact ⟨rfl, rfl⟩
  | @of digest maskDigest saltLength trailer _ h =>
    unfold PssParameters.of at h
    by_cases hmask : maskDigest = digest
    · by_cases htrailer : trailer = 1
      · rw [if_neg (not_not_intro hmask), if_neg (not_not_intro htrailer)] at h
        cases h
        exact ⟨hmask, htrailer⟩
      · rw [if_neg (not_not_intro hmask), if_pos htrailer] at h
        cases h
    · rw [if_pos hmask] at h
      cases h

end PssParameters

namespace Engine

open PssParameters (Obtained Sound)

structure Coupled (engine : Engine) : Prop where
  running_iff : engine.running.isSome = true ↔
    engine.stage = .initialized ∨ engine.stage = .accumulating
  bound : ∀ running ∈ engine.running,
    ∃ key, engine.key = some key ∧ key.algorithm = engine.scheme.algorithm
  parameters_iff : engine.parameters.isSome = true ↔ ∃ fixed, engine.scheme = .pss fixed
  sound : ∀ parameters ∈ engine.parameters, parameters.Sound
  fixed : ∀ digest, engine.scheme = .pss (some digest) →
    ∀ parameters ∈ engine.parameters, parameters.digest = digest

variable {engine : Engine}

theorem Coupled.active (h : engine.Coupled)
    (hstage : engine.stage = .initialized ∨ engine.stage = .accumulating) :
    ∃ running key, engine.running = some running ∧ engine.key = some key ∧
      key.algorithm = engine.scheme.algorithm := by
  obtain ⟨running, hrunning⟩ := Option.isSome_iff_exists.mp (h.running_iff.mpr hstage)
  obtain ⟨key, hkey, halgorithm⟩ := h.bound running hrunning
  exact ⟨running, key, hrunning, hkey, halgorithm⟩

theorem Coupled.idle (h : engine.Coupled)
    (hstage : ¬(engine.stage = .initialized ∨ engine.stage = .accumulating)) :
    engine.running = none := by
  cases hrunning : engine.running with
  | none => rfl
  | some running => exact absurd (h.running_iff.mp (by rw [hrunning]; rfl)) hstage

theorem Coupled.initSign (h : engine.Coupled) {key : KeyHandle}
    (hkey : key.algorithm = engine.scheme.algorithm) :
    Coupled { engine with
      running := some ⟨engine.digest, []⟩, key := some key, stage := .initialized } where
  running_iff := by simp
  bound _ _ := ⟨key, rfl, hkey⟩
  parameters_iff := h.parameters_iff
  sound := h.sound
  fixed := h.fixed

section Replacing

variable {fixed : Option Digest} {parameters : PssParameters} (hscheme : engine.scheme = .pss fixed)
  (hdigest : ∀ digest ∈ fixed, parameters.digest = digest) (hsound : parameters.Sound)
include hscheme hdigest hsound

theorem Coupled.halfway (h : engine.Coupled) :
    Coupled { engine with parameters := some parameters } where
  running_iff := h.running_iff
  bound := h.bound
  parameters_iff := by simp [hscheme]
  sound := by
    rintro _ hparameters
    cases hparameters
    exact hsound
  fixed := by
    rintro digest hfixed _ hparameters
    cases hparameters
    exact hdigest digest (SignatureScheme.pss.inj (hscheme.symm.trans hfixed))

theorem Coupled.setParameters (h : engine.Coupled) :
    Coupled { engine with
      parameters := some parameters
      running := if engine.stage = .initialized then some ⟨parameters.digest, []⟩
        else engine.running } := by
  have hreplaced := h.halfway hscheme hdigest hsound
  by_cases hinitialized : engine.stage = .initialized
  · obtain ⟨-, key, -, hkey, halgorithm⟩ := h.active (Or.inl hinitialized)
    rw [if_pos hinitialized]
    exact { hreplaced with
      running_iff := by simp [hinitialized]
      bound := fun _ _ => ⟨key, hkey, halgorithm⟩ }
  · rw [if_neg hinitialized]
    exact hreplaced

end Replacing

theorem Coupled.update (h : engine.Coupled) {running : Digest.Running} (data : Bytes)
    (hrunning : engine.running = some running) :
    Coupled { engine with
      running := some { running with fed := running.fed ++ data }, stage := .accumulating } where
  running_iff := by simp
  bound _ _ := h.bound running hrunning
  parameters_iff := h.parameters_iff
  sound := h.sound
  fixed := h.fixed

theorem Coupled.ended (h : engine.Coupled) : engine.ended.Coupled where
  running_iff := by simp [Engine.ended]
  bound := by simp [Engine.ended]
  parameters_iff := h.parameters_iff
  sound := h.sound
  fixed := h.fixed

variable {δ ς : Type} {device : Device δ ς} {config : ModuleConfig} {scheme : SignatureScheme}
  {past : History}

def missing : List Error := [.noRunningDigest, .noKeyBound, .noPssParameters]

def InStep (engine : Engine) : Prop := ∀ running ∈ engine.running, running.digest = engine.digest

theorem InStep.length_hash (h : engine.InStep) {running : Digest.Running}
    (hrunning : engine.running = some running) :
    (running.digest.hash running.fed).length = engine.digest.length := by
  rw [Digest.length_hash, h running hrunning]

end Engine

end TokenSigner
