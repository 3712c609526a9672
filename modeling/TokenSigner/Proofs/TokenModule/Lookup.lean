import TokenSigner.Proofs.TokenModule.Failure
import TokenSigner.Proofs.TokenModule.Parties

namespace TokenSigner.TokenModule

variable {δ ς : Type} {config : ModuleConfig} {ids : List UInt64} {m : TokenModule ς}
  {slot : SlotIdentifier} {wanted : SlotIdentifier → Bool}

theorem mem_identifiers : slot ∈ identifiers ids ↔ ids[slot.index]? = some slot.id := by
  unfold identifiers
  rw [List.mem_map]
  constructor
  · rintro ⟨⟨id, index⟩, hmem, rfl⟩
    exact List.mk_mem_zipIdx_iff_getElem?.mp hmem
  · intro h
    exact ⟨(slot.id, slot.index), List.mk_mem_zipIdx_iff_getElem?.mpr h, rfl⟩

theorem pairwise_identifiers (ids : List UInt64) :
    (identifiers ids).Pairwise fun slot later => slot.index < later.index := by
  have hincreasing : (List.range' 0 ids.length).Pairwise (· < ·) := List.pairwise_lt_range'
  rw [← map_index_identifiers] at hincreasing
  exact List.pairwise_map.mp hincreasing

def dividing (config : ModuleConfig) (ids : List UInt64) : Layout where
  config := config
  slots := (identifiers ids).filter config.includes
  excluded := (identifiers ids).filter (!config.includes ·)

theorem layout_build {device : Device δ ς} {resolver : PasswordResolver}
    {salts : SlotIdentifier → Entropy} {site after : Site δ ς}
    (h : (build device config resolver salts ids).run site = (.ok m, after)) :
    m.layout = dividing config ids := by
  unfold build at h
  rcases takeSlots_cases device config resolver salts (identifiers ids) [] [] site with
    ⟨taken, logs, built, hrun, hslots, -⟩ | ⟨_, _, _, _, _, _, _, _, _, _, hrun, _⟩
  · rw [hrun] at h
    cases h
    simp [layout, dividing, slots, hslots]
  · rw [hrun] at h
    cases h

def Singles (ids : List UInt64) (wanted : SlotIdentifier → Bool) (slot : SlotIdentifier) : Prop :=
  ∀ other ∈ identifiers ids, wanted other = (other == slot)

theorem singles_self (ids : List UInt64) (slot : SlotIdentifier) : Singles ids (· == slot) slot :=
  fun _ _ => rfl

theorem singles_index (hslot : slot ∈ identifiers ids) :
    Singles ids (·.index == slot.index) slot := by
  intro other hother
  rw [Bool.eq_iff_iff, beq_iff_eq, beq_iff_eq]
  constructor
  · intro hindex
    have hid := mem_identifiers.mp hother
    rw [hindex, mem_identifiers.mp hslot] at hid
    cases other
    cases slot
    cases hid
    cases hindex
    rfl
  · rintro rfl
    rfl

theorem singles_id (hids : ids.Nodup) (hslot : slot ∈ identifiers ids) :
    Singles ids (·.id == slot.id) slot := by
  intro other hother
  rw [Bool.eq_iff_iff, beq_iff_eq, beq_iff_eq]
  constructor
  · intro hid
    have hplace := mem_identifiers.mp hslot
    obtain ⟨hbound, -⟩ := List.getElem?_eq_some_iff.mp (mem_identifiers.mp hother)
    have hindex : other.index = slot.index := by
      apply (List.getElem?_inj hbound hids).mp
      rw [mem_identifiers.mp hother, hplace, hid]
    cases other
    cases slot
    cases hid
    cases hindex
    rfl
  · rintro rfl
    rfl

section Find

variable (hm : m.layout = dividing config ids)

include hm

theorem slots_of_layout : m.slots = (identifiers ids).filter config.includes :=
  congrArg Layout.slots hm

theorem excluded_of_layout : m.excluded = (identifiers ids).filter (!config.includes ·) :=
  congrArg Layout.excluded hm

theorem find_included (hslot : slot ∈ identifiers ids) (hincluded : config.includes slot = true) :
    ∃ managed ∈ m.managed, managed.slot = slot ∧
      ∀ wanted missing, Singles ids wanted slot → m.find wanted missing = .ok managed := by
  have hmem : slot ∈ m.slots := by
    rw [slots_of_layout hm]
    exact List.mem_filter.mpr ⟨hslot, hincluded⟩
  obtain ⟨managed, hmanaged⟩ : ∃ managed, m.managed? slot = some managed := by
    rw [← Option.isSome_iff_exists]
    obtain ⟨managed, hmanaged, rfl⟩ := List.mem_map.mp hmem
    exact List.find?_isSome.mpr ⟨managed, hmanaged, beq_self_eq_true _⟩
  refine ⟨managed, List.mem_of_find?_eq_some hmanaged, slot_of_managed? hmanaged, ?_⟩
  intro wanted missing hwanted
  have hout : m.excluded.find? wanted = none := by
    rw [excluded_of_layout hm, List.find?_eq_none]
    intro other hother hfound
    obtain ⟨hmem, hexcluded⟩ := List.mem_filter.mp hother
    rw [hwanted other hmem, beq_iff_eq] at hfound
    rw [hfound, hincluded] at hexcluded
    cases hexcluded
  have hfound : m.slots.find? wanted = some slot := by
    have hsome : (m.slots.find? wanted).isSome = true :=
      List.find?_isSome.mpr ⟨slot, hmem, by rw [hwanted slot hslot, beq_self_eq_true]⟩
    obtain ⟨other, hother⟩ := Option.isSome_iff_exists.mp hsome
    have hothermem := List.mem_of_find?_eq_some hother
    rw [slots_of_layout hm] at hothermem
    have hsame := List.find?_some hother
    rw [hwanted other (List.mem_filter.mp hothermem).1, beq_iff_eq] at hsame
    rw [hother, hsame]
  rw [find_eq, hout, hfound, Option.bind_some, hmanaged]

theorem find_excluded (hslot : slot ∈ identifiers ids) (hexcluded : config.includes slot = false)
    (hwanted : Singles ids wanted slot) (missing : Error) :
    m.find wanted missing = .error (.slotExcluded slot) := by
  have hsome : (m.excluded.find? wanted).isSome = true := by
    rw [excluded_of_layout hm, List.find?_isSome]
    refine ⟨slot, List.mem_filter.mpr ⟨hslot, by rw [hexcluded]; rfl⟩, ?_⟩
    rw [hwanted slot hslot, beq_self_eq_true]
  obtain ⟨other, hother⟩ := Option.isSome_iff_exists.mp hsome
  have hmem := List.mem_of_find?_eq_some hother
  rw [excluded_of_layout hm] at hmem
  have hsame := List.find?_some hother
  rw [hwanted other (List.mem_filter.mp hmem).1, beq_iff_eq] at hsame
  rw [find_eq, hother, hsame]

theorem find_missing (hwanted : ∀ other ∈ identifiers ids, wanted other = false)
    (missing : Error) : m.find wanted missing = .error missing := by
  have hnone (slots : List SlotIdentifier) (hslots : slots ⊆ identifiers ids) :
      slots.find? wanted = none := by
    rw [List.find?_eq_none]
    intro other hother
    rw [hwanted other (hslots hother)]
    exact Bool.false_ne_true
  rw [find_eq, excluded_of_layout hm, hnone _ List.filter_sublist.subset, slots_of_layout hm,
    hnone _ List.filter_sublist.subset]
  rfl

end Find

structure Directory (config : ModuleConfig) (ids : List UInt64) (m : TokenModule ς) : Prop where
  mem_slots : ∀ slot, slot ∈ m.slots ↔
    ids[slot.index]? = some slot.id ∧ config.includes slot = true
  mem_excluded : ∀ slot, slot ∈ m.excluded ↔
    ids[slot.index]? = some slot.id ∧ config.includes slot = false
  slots_ordered : m.slots.Pairwise fun slot later => slot.index < later.index
  excluded_ordered : m.excluded.Pairwise fun slot later => slot.index < later.index
  found : ∀ slot ∈ m.slots, ∃ managed ∈ m.managed, managed.slot = slot ∧
    m.slot slot = .ok managed ∧ m.slotByIndex slot.index = .ok managed ∧
    (ids.Nodup → m.slotById slot.id = .ok managed)
  refused : ∀ slot ∈ m.excluded, m.slot slot = .error (.slotExcluded slot) ∧
    m.slotByIndex slot.index = .error (.slotExcluded slot) ∧
    (ids.Nodup → m.slotById slot.id = .error (.slotExcluded slot))
  unknown : ∀ slot, ids[slot.index]? ≠ some slot.id →
    ∃ e, m.slot slot = .error e ∧ e.kind = .invalidParameter
  beyond : ∀ index, ids.length ≤ index →
    ∃ e, m.slotByIndex index = .error e ∧ e.kind = .invalidParameter
  absent : ∀ id, id ∉ ids → ∃ e, m.slotById id = .error e ∧ e.kind = .invalidParameter

theorem directory_of_layout (hm : m.layout = dividing config ids) : Directory config ids m where
  mem_slots slot := by
    rw [slots_of_layout hm, List.mem_filter, mem_identifiers]
  mem_excluded slot := by
    rw [excluded_of_layout hm, List.mem_filter, mem_identifiers, Bool.not_eq_true']
  slots_ordered := by
    rw [slots_of_layout hm]
    exact (pairwise_identifiers ids).filter _
  excluded_ordered := by
    rw [excluded_of_layout hm]
    exact (pairwise_identifiers ids).filter _
  found slot hslot := by
    rw [slots_of_layout hm] at hslot
    obtain ⟨hmem, hincluded⟩ := List.mem_filter.mp hslot
    obtain ⟨managed, hmanaged, hsame, hfind⟩ := find_included hm hmem hincluded
    refine ⟨managed, hmanaged, hsame, hfind _ _ (singles_self ids slot), ?_, fun hids => ?_⟩
    · exact hfind _ _ (singles_index hmem)
    · exact hfind _ _ (singles_id hids hmem)
  refused slot hslot := by
    rw [excluded_of_layout hm] at hslot
    obtain ⟨hmem, hexcluded⟩ := List.mem_filter.mp hslot
    rw [Bool.not_eq_true'] at hexcluded
    refine ⟨find_excluded hm hmem hexcluded (singles_self ids slot) _, ?_, fun hids => ?_⟩
    · exact find_excluded hm hmem hexcluded (singles_index hmem) _
    · exact find_excluded hm hmem hexcluded (singles_id hids hmem) _
  unknown slot hslot := by
    refine ⟨.unknownSlot slot, find_missing hm ?_ _, rfl⟩
    intro other hother
    rw [beq_eq_false_iff_ne]
    rintro rfl
    exact hslot (mem_identifiers.mp hother)
  beyond index hindex := by
    refine ⟨.noSlotWithIndex index, find_missing hm ?_ _, rfl⟩
    intro other hother
    obtain ⟨hbound, -⟩ := List.getElem?_eq_some_iff.mp (mem_identifiers.mp hother)
    rw [beq_eq_false_iff_ne]
    exact Nat.ne_of_lt (Nat.lt_of_lt_of_le hbound hindex)
  absent id hid := by
    refine ⟨.noSlotWithId id, find_missing hm ?_ _, rfl⟩
    intro other hother
    rw [beq_eq_false_iff_ne]
    rintro rfl
    exact hid (List.mem_of_getElem? (mem_identifiers.mp hother))

theorem lookups_agree {device : Device δ ς} {resolver : PasswordResolver}
    {salts : SlotIdentifier → Entropy} {tokens : δ} {site : Site δ ς}
    (hbuild : (build device config resolver salts ids).run ⟨tokens, [], []⟩ = (.ok m, site))
    (requests : List Client.Request) :
    Directory config ids (Client.after device ⟨m, site, [], [], []⟩ requests).tokens := by
  have hlayout := Client.layout_after device ⟨m, site, [], [], []⟩ requests
  exact directory_of_layout (hlayout.trans (layout_build hbuild))

theorem lookups_agree_of_three :
    let salts : SlotIdentifier → Entropy := fun _ => ⟨fun _ => .ok 0, 0⟩
    let unused (slot : SlotIdentifier) : ManagedSlot Nat :=
      ⟨slot, .start 1, none, .empty, none, salts slot⟩
    let m : TokenModule Nat := ⟨Rehearsal.config, [unused ⟨0, 7⟩, unused ⟨2, 9⟩], [⟨1, 8⟩]⟩
    let site : Site (List Rehearsal.Token) Nat :=
      ⟨[Rehearsal.token, Rehearsal.token, Rehearsal.token], [], []⟩
    let tokens := (Client.after Rehearsal.device ⟨m, site, [], [], []⟩
      [.onSlot 2 (.findKey (.label "signing"))]).tokens
    (build Rehearsal.device Rehearsal.config (.ofTable []) salts [7, 8, 9]).run site =
      (.ok m, site) ∧
    ((tokens.slotById 9).map (·.slot)).toOption = some ⟨2, 9⟩ ∧
    error? (tokens.slotByIndex 1) = some (.slotExcluded ⟨1, 8⟩) ∧
    error? (tokens.slot ⟨0, 9⟩) = some (.unknownSlot ⟨0, 9⟩) ∧
    Directory Rehearsal.config [7, 8, 9] tokens := by
  intro salts unused m site tokens
  have hbuild : (build Rehearsal.device Rehearsal.config (.ofTable []) salts [7, 8, 9]).run site =
      (.ok m, site) := rfl
  refine ⟨hbuild, by decide +kernel, by decide +kernel, by decide +kernel, ?_⟩
  exact lookups_agree hbuild _

end TokenSigner.TokenModule
