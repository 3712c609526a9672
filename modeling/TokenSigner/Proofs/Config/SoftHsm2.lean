import TokenSigner.Config.SoftHsm2
import TokenSigner.Proofs.Config.Meaning
import TokenSigner.Proofs.Literal
import TokenSigner.Proofs.Policy.Password

namespace TokenSigner.SoftHsm2

open ModuleConfig (Accepted ofDescriptor readGrant readPasswordRule readSets readSlots)

def mechanisms : List Mechanism := [.rsaPkcs, .rsaRaw, .rsaPss, .ecdsa]

def filters (slot : Option UInt64) : List SlotFilter :=
  (slot.map fun id => ⟨none, some id, rfl⟩).toList

def config (path : String) (slot : Option UInt64) (passwordSource : String) : ModuleConfig where
  name := "softhsm2"
  library := path
  readOnly := false
  userType := 1
  maxMessageSize := 16384
  maxSessions := 8
  waitLimit := none
  includeSlots := filters slot
  excludeSlots := []
  mechanisms := [⟨[], .only mechanisms⟩]
  passwords := [⟨filters slot, [passwordSource]⟩]

variable (path : String) (slot : Option UInt64) (passwordSource : String)

theorem parseId_hex (id : UInt64) : SlotIdentifier.parseId (Text.hex id.toNat) = .ok id := by
  rw [Literal.parseId_eq_ok_iff, Literal.parse?_eq_some_iff]
  exact ⟨[], by decide, Literal.spelled_hex id⟩

theorem readSlots_given :
    readSlots (descriptor path slot passwordSource).includeSlots = .ok (filters slot) := by
  refine mapM_eq_ok.mpr ?_
  cases slot with
  | none => exact .nil
  | some id =>
    refine .cons ?_ .nil
    simp only [ModuleConfig.readSlot, Option.mapM_some, parseId_hex]
    rfl

theorem readPasswordRule_given :
    (descriptor path slot passwordSource).passwordSets.mapM readPasswordRule =
      .ok [⟨filters slot, [passwordSource]⟩] := by
  refine mapM_eq_ok.mpr (.cons ?_ .nil)
  exact bind_eq_ok.mpr ⟨_, readSlots_given path slot passwordSource, rfl⟩

theorem run_readSets (warnings : List Warning) :
    (readSets (descriptor path slot passwordSource).mechanismSets []).run warnings =
      (.ok [("signing", .only mechanisms)], warnings) := by
  have hall : some .all ∉ signingMechanisms.map Mechanism.select? := by decide +kernel
  have hcodes : ModuleConfig.codes signingMechanisms = mechanisms := by decide +kernel
  have hskipped : ModuleConfig.skipped "signing" signingMechanisms = [] := by decide +kernel
  have hgrant : (readGrant "signing" signingMechanisms []).run warnings =
      (.ok (.only mechanisms), warnings) := by
    rw [ModuleConfig.run_readGrant, if_neg hall, hcodes, hskipped, List.append_nil,
      List.nil_append]
  exact ModuleConfig.run_readSets_cons.mpr ⟨rfl, _, _, hgrant, rfl⟩

theorem accepted (system : String) (warnings : List Warning) :
    Accepted (descriptor path slot passwordSource) system (config path slot passwordSource)
      warnings warnings where
  name := by
    change ModuleConfig.checkName "softhsm2" = .ok "softhsm2"
    decide +kernel
  userType := by
    change ModuleConfig.readUserType "CKU_USER" = .ok 1
    decide +kernel
  messageSize := Nat.le_of_ble_eq_true rfl
  sessions := Nat.succ_ne_zero 7
  mechanisms := ⟨_, run_readSets path slot passwordSource warnings, rfl⟩
  passwords := readPasswordRule_given path slot passwordSource
  includeSlots := readSlots_given path slot passwordSource
  excludeSlots := rfl
  library := rfl
  readOnly_eq := rfl
  maxMessageSize_eq := rfl
  maxSessions_eq := rfl
  waitLimit_eq := rfl

theorem cover_filters (place : SlotIdentifier) :
    SlotFilters.cover (filters slot) place = true ↔ ∀ id ∈ slot, place.id = id := by
  cases slot with
  | none => simp [filters, SlotFilters.cover]
  | some id =>
    simp [filters, SlotFilters.cover, SlotFilters.coverSome, SlotFilter.covers, @eq_comm _ id]

theorem includes_config (place : SlotIdentifier) :
    (config path slot passwordSource).includes place = SlotFilters.cover (filters slot) place := by
  simp [config, ModuleConfig.includes, SlotFilters.coverSome]

theorem read_config (resolver : PasswordResolver) (place : SlotIdentifier) :
    (config path slot passwordSource).passwords.read resolver place =
      if SlotFilters.cover (filters slot) place then
        ⟨[passwordSource], (resolver passwordSource).map fun password => some [password]⟩
      else ⟨[], .ok none⟩ := by
  cases hcover : SlotFilters.cover (filters slot) place with
  | false =>
    refine PasswordPolicy.read_of_unconcerned fun rule hrule => ?_
    rw [← PasswordRule.cover_eq_true_iff, List.mem_singleton.mp hrule, hcover]
    decide
  | true =>
    have hconcerns : PasswordRule.Concerns ⟨_, [passwordSource]⟩ place :=
      PasswordRule.cover_eq_true_iff.mp hcover
    refine (@PasswordPolicy.read_of_first _ _ [] [] _ (by simp) hconcerns).trans ?_
    simp only [PasswordPolicy.readAll]
    cases resolver passwordSource <;> rfl

theorem allows_config (place : SlotIdentifier) (mechanism : Mechanism) :
    (config path slot passwordSource).allows place mechanism = true ↔ mechanism ∈ mechanisms := by
  simp [config, ModuleConfig.allows, MechanismPolicy.allows, SlotFilters.cover, Grant.contains]

theorem descriptor_accepted (system : String) (warnings : List Warning) :
    ∃ config, (ofDescriptor (descriptor path slot passwordSource) system).run warnings =
        (.ok config, warnings) ∧
      config.library = path ∧
      (∀ place, config.includes place = true ↔ ∀ id ∈ slot, place.id = id) ∧
      (∀ place, (∃ rule ∈ config.passwords, rule.Concerns place) ↔
        config.includes place = true) ∧
      (∀ rule ∈ config.passwords, rule.sources = [passwordSource]) ∧
      (∀ resolver place, config.passwords.read resolver place =
        if config.includes place then
          ⟨[passwordSource], (resolver passwordSource).map fun password => some [password]⟩
        else ⟨[], .ok none⟩) ∧
      ∀ place mechanism, config.allows place mechanism = true ↔
        mechanism ∈ [Mechanism.rsaPkcs, .rsaRaw, .rsaPss, .ecdsa] := by
  refine ⟨config path slot passwordSource,
    ModuleConfig.accepted_iff.mpr (accepted path slot passwordSource system warnings), rfl,
    ?_, ?_, ?_, ?_, allows_config path slot passwordSource⟩
  · intro place
    rw [includes_config, cover_filters]
  · intro place
    rw [includes_config]
    simp [config, ← PasswordRule.cover_eq_true_iff]
  · simp [config]
  · intro resolver place
    rw [includes_config, read_config]

end TokenSigner.SoftHsm2
