import TokenSigner.Config
import TokenSigner.Proofs.Action

namespace TokenSigner.ModuleConfig

structure Accepted (d : ModuleDescriptor) (system : String) (config : ModuleConfig)
    (warnings after : List Warning) : Prop where
  name : checkName d.name = .ok config.name
  userType : readUserType d.user = .ok config.userType
  messageSize : leastMessageSize ≤ d.maxMessageSize
  sessions : d.maxSessions ≠ 0
  mechanisms : ∃ sets, (readSets d.mechanismSets []).run warnings = (.ok sets, after) ∧
    d.mechanismFilters.mapM (readMechanismRule sets) = .ok config.mechanisms
  passwords : d.passwordSets.mapM readPasswordRule = .ok config.passwords
  includeSlots : readSlots d.includeSlots = .ok config.includeSlots
  excludeSlots : readSlots d.excludeSlots = .ok config.excludeSlots
  library : selectLibrary d.libraries system = .ok config.library
  readOnly_eq : config.readOnly = d.readOnly
  maxMessageSize_eq : config.maxMessageSize = d.maxMessageSize
  maxSessions_eq : config.maxSessions = d.maxSessions
  waitLimit_eq : config.waitLimit = d.waitLimit

theorem accepted_iff {d : ModuleDescriptor} {system : String} {config : ModuleConfig}
    {warnings after : List Warning} :
    (ofDescriptor d system).run warnings = (.ok config, after) ↔
      Accepted d system config warnings after := by
  unfold ofDescriptor
  simp only [Action.run_ofExcept_bind_eq_ok, Action.run_guard_eq_ok,
    Action.run_bind_eq_ok (a := readSets d.mechanismSets [])]
  constructor
  · rintro ⟨name, hname, userType, huser, hsize, hsessions, sets, told, hsets, mechanisms,
      hmechanisms, passwords, hpasswords, included, hincluded, excluded, hexcluded, library,
      hlibrary, hconfig⟩
    cases hconfig
    exact ⟨hname, huser, Nat.le_of_not_lt hsize, hsessions, ⟨sets, hsets, hmechanisms⟩,
      hpasswords, hincluded, hexcluded, hlibrary, rfl, rfl, rfl, rfl⟩
  · intro h
    obtain ⟨sets, hsets, hmechanisms⟩ := h.mechanisms
    refine ⟨_, h.name, _, h.userType, Nat.not_lt.mpr h.messageSize, h.sessions, sets, after, hsets,
      _, hmechanisms, _, h.passwords, _, h.includeSlots, _, h.excludeSlots, _, h.library, ?_⟩
    rw [← h.readOnly_eq, ← h.maxMessageSize_eq, ← h.maxSessions_eq, ← h.waitLimit_eq]
    rfl

end TokenSigner.ModuleConfig
