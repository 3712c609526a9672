import Mathlib.Data.List.Forall2
import Mathlib.Data.List.Nodup
import TokenSigner.Proofs.Config.Acceptance
import TokenSigner.Rehearsal.Setting

namespace TokenSigner

open Mechanism (select?)

def SlotDescriptor.Designates (d : SlotDescriptor) (slot : SlotIdentifier) : Prop :=
  (∀ index ∈ d.index, index = slot.index) ∧
    ∀ literal ∈ d.id, SlotIdentifier.parseId literal = .ok slot.id

def SlotDescriptors.Cover (ds : List SlotDescriptor) (slot : SlotIdentifier) : Prop :=
  ds = [] ∨ ∃ d ∈ ds, d.Designates slot

def MechanismSetDescriptor.Grants (set : MechanismSetDescriptor) (mechanism : Mechanism) : Prop :=
  ∃ token ∈ set.tokens, select? token = some .all ∨ select? token = some (.code mechanism)

def MechanismSetDescriptor.known (set : MechanismSetDescriptor) : MechanismSetDescriptor :=
  { set with tokens := set.tokens.filter fun token => (select? token).isSome }

def ModuleDescriptor.known (d : ModuleDescriptor) : ModuleDescriptor :=
  { d with mechanismSets := d.mechanismSets.map (·.known) }

theorem mapM_eq_ok {α β : Type} {f : α → Except Error β} {xs : List α} {ys : List β} :
    xs.mapM f = .ok ys ↔ List.Forall₂ (fun x y => f x = .ok y) xs ys := by
  induction xs generalizing ys with
  | nil => simp [pure, Except.pure, eq_comm]
  | cons x xs ih =>
    rw [List.mapM_cons]
    cases hx : f x with
    | error e => simp [bind, Except.bind, hx, List.forall₂_cons_left_iff]
    | ok y =>
      cases hxs : xs.mapM f with
      | error e => simp [bind, Except.bind, hx, hxs, List.forall₂_cons_left_iff, ← ih]
      | ok zs =>
        simp [bind, Except.bind, pure, Except.pure, hx, hxs, List.forall₂_cons_left_iff, ← ih,
          eq_comm]

section Rules

variable {α β : Type} {R : α → β → Prop} {p : α → Prop} {q : β → Bool} {xs : List α} {ys : List β}

theorem any_eq_true_of_forall₂ (h : List.Forall₂ R xs ys)
    (hpq : ∀ x y, R x y → (q y = true ↔ p x)) :
    ys.any q = true ↔ ∃ x ∈ xs, p x := by
  induction h with
  | nil => simp
  | cons hxy _ ih => simp [ih, hpq _ _ hxy]

theorem find?_eq_none_of_forall₂ (h : List.Forall₂ R xs ys)
    (hpq : ∀ x y, R x y → (q y = true ↔ p x)) (hnone : ∀ x ∈ xs, ¬p x) : ys.find? q = none := by
  induction h with
  | nil => rfl
  | cons hxy _ ih =>
    have hfirst := mt (hpq _ _ hxy).mp (hnone _ (by simp))
    rw [List.find?_cons_of_neg hfirst]
    exact ih fun x hx => hnone x (by simp [hx])

theorem find?_eq_some_of_forall₂ {before after : List α} {x : α}
    (h : List.Forall₂ R (before ++ x :: after) ys) (hpq : ∀ x y, R x y → (q y = true ↔ p x))
    (hx : p x) (hbefore : ∀ other ∈ before, ¬p other) : ∃ y, ys.find? q = some y ∧ R x y := by
  induction before generalizing ys with
  | nil =>
    obtain ⟨y, rest, hxy, -, rfl⟩ := List.forall₂_cons_left_iff.mp h
    exact ⟨y, List.find?_cons_of_pos ((hpq _ _ hxy).mpr hx), hxy⟩
  | cons other before ih =>
    obtain ⟨y, rest, hother, hrest, rfl⟩ := List.forall₂_cons_left_iff.mp h
    have hfirst := mt (hpq _ _ hother).mp (hbefore _ (by simp))
    rw [List.find?_cons_of_neg hfirst]
    exact ih hrest fun other hother => hbefore other (by simp [hother])

end Rules

namespace ModuleConfig

theorem of_eq_ok {index : Option Nat} {id : Option UInt64} {filter : SlotFilter}
    (h : SlotFilter.of index id = .ok filter) : filter.index = index ∧ filter.id = id := by
  unfold SlotFilter.of at h
  split at h
  · cases h
    exact ⟨rfl, rfl⟩
  · cases h

theorem covers_iff {d : SlotDescriptor} {filter : SlotFilter} (h : readSlot d = .ok filter)
    (slot : SlotIdentifier) : filter.covers slot = true ↔ d.Designates slot := by
  obtain ⟨index, id⟩ := d
  unfold SlotFilter.covers SlotDescriptor.Designates
  cases id with
  | none =>
    obtain ⟨hindex, hid⟩ := of_eq_ok h
    cases index <;> simp [hindex, hid]
  | some literal =>
    cases hparse : SlotIdentifier.parseId literal with
    | error e =>
      simp only [readSlot, Option.mapM_some, hparse] at h
      cases h
    | ok id =>
      simp only [readSlot, Option.mapM_some, hparse] at h
      obtain ⟨hindex, hid⟩ := of_eq_ok h
      cases index <;> simp [hindex, hid, hparse]

variable {ds : List SlotDescriptor} {filters : List SlotFilter}

theorem coverSome_iff (h : readSlots ds = .ok filters) (slot : SlotIdentifier) :
    SlotFilters.coverSome filters slot = true ↔ ∃ d ∈ ds, d.Designates slot :=
  any_eq_true_of_forall₂ (mapM_eq_ok.mp h) fun _ _ hread => covers_iff hread slot

theorem cover_iff (h : readSlots ds = .ok filters) (slot : SlotIdentifier) :
    SlotFilters.cover filters slot = true ↔ SlotDescriptors.Cover ds slot := by
  have hempty : filters.isEmpty = true ↔ ds = [] := by
    rw [List.isEmpty_iff, ← List.length_eq_zero_iff, ← List.length_eq_zero_iff,
      (mapM_eq_ok.mp h).length_eq]
  rw [SlotFilters.cover, Bool.or_eq_true, hempty, coverSome_iff h]
  rfl

def codes (tokens : List String) : List Mechanism :=
  tokens.filterMap fun token => match select? token with
    | some (.code mechanism) => some mechanism
    | _ => none

def skipped (set : String) (tokens : List String) : List Warning :=
  ((tokens.takeWhile fun token => select? token ≠ some .all).filter fun token =>
    select? token = none).map fun token => .skippedMechanism token set

theorem mem_codes {tokens : List String} {mechanism : Mechanism} :
    mechanism ∈ codes tokens ↔ ∃ token ∈ tokens, select? token = some (.code mechanism) := by
  simp only [codes, List.mem_filterMap]
  refine exists_congr fun token => and_congr_right fun _ => ?_
  match select? token with
  | some (.code _) => simp
  | some .all => simp
  | none => simp

theorem run_readGrant (set : String) (tokens : List String) (granted : List Mechanism)
    (warnings : List Warning) :
    (readGrant set tokens granted).run warnings =
      (.ok (if some .all ∈ tokens.map select? then .all else .only (granted ++ codes tokens)),
        warnings ++ skipped set tokens) := by
  induction tokens generalizing granted warnings with
  | nil => simp [readGrant, codes, skipped]
  | cons token rest ih =>
    unfold readGrant
    cases hselect : select? token with
    | none => simp [Action.run_bind, warn, ih, skipped, codes, hselect]
    | some selector =>
      cases selector with
      | all => simp [skipped, hselect]
      | code mechanism => simp [ih, skipped, codes, hselect]

theorem all_mem_known (tokens : List String) :
    some .all ∈ (tokens.filter fun token => (select? token).isSome).map select? ↔
      some .all ∈ tokens.map select? := by
  simp only [List.mem_map, List.mem_filter]
  constructor
  · rintro ⟨token, ⟨htoken, -⟩, hselect⟩
    exact ⟨token, htoken, hselect⟩
  · rintro ⟨token, htoken, hselect⟩
    exact ⟨token, ⟨htoken, by rw [hselect]; rfl⟩, hselect⟩

theorem codes_known (tokens : List String) :
    codes (tokens.filter fun token => (select? token).isSome) = codes tokens := by
  induction tokens with
  | nil => rfl
  | cons token rest ih =>
    unfold codes at ih ⊢
    cases hselect : select? token with
    | none => simp [hselect, ih]
    | some selector => simp [hselect, ih, List.filterMap_cons]

theorem skipped_known (set : String) (tokens : List String) :
    skipped set (tokens.filter fun token => (select? token).isSome) = [] := by
  rw [skipped, List.map_eq_nil_iff, List.filter_eq_nil_iff]
  intro token htoken
  have hknown := (List.mem_filter.mp ((List.takeWhile_sublist _).subset htoken)).2
  simp [Option.isSome_iff_ne_none.mp hknown]

theorem run_readGrant_known {set : MechanismSetDescriptor} {grant : Grant}
    {warnings after : List Warning}
    (h : (readGrant set.name set.tokens []).run warnings = (.ok grant, after))
    (others : List Warning) :
    (readGrant set.name set.known.tokens []).run others = (.ok grant, others) := by
  rw [run_readGrant] at h ⊢
  cases h
  simp only [MechanismSetDescriptor.known, all_mem_known, codes_known, skipped_known,
    List.append_nil]

theorem contains_readGrant {set : MechanismSetDescriptor} {grant : Grant}
    {warnings after : List Warning}
    (h : (readGrant set.name set.tokens []).run warnings = (.ok grant, after))
    (mechanism : Mechanism) : grant.contains mechanism = true ↔ set.Grants mechanism := by
  rw [run_readGrant] at h
  cases h
  split
  · next hall =>
    obtain ⟨token, htoken, hselect⟩ := List.mem_map.mp hall
    simp only [Grant.contains, true_iff]
    exact ⟨token, htoken, Or.inl hselect⟩
  · next hall =>
    rw [Grant.contains, List.nil_append, List.elem_eq_mem, decide_eq_true_eq, mem_codes]
    refine exists_congr fun token => and_congr_right fun htoken => (or_iff_right ?_).symm
    intro hselect
    exact hall (List.mem_map.mpr ⟨token, htoken, hselect⟩)

theorem run_readSets_cons {set : MechanismSetDescriptor} {rest : List MechanismSetDescriptor}
    {sets all : List (String × Grant)} {warnings after : List Warning} :
    (readSets (set :: rest) sets).run warnings = (.ok all, after) ↔
      (sets.any (·.1 == set.name)) = false ∧ ∃ grant told,
        (readGrant set.name set.tokens []).run warnings = (.ok grant, told) ∧
        (readSets rest (sets ++ [(set.name, grant)])).run told = (.ok all, after) := by
  rw [readSets, Action.run_ite]
  split
  · next hknown => simp [hknown]
  · next hnew =>
    simp only [Action.run_bind_eq_ok]
    simp [hnew]

theorem readSets_names {rest : List MechanismSetDescriptor} {sets all : List (String × Grant)}
    {warnings after : List Warning}
    (h : (readSets rest sets).run warnings = (.ok all, after)) :
    (rest.map (·.name)).Nodup ∧ ∀ set ∈ rest, set.name ∉ sets.map (·.1) := by
  induction rest generalizing sets warnings with
  | nil => simp
  | cons set rest ih =>
    obtain ⟨hnew, grant, told, -, hrest⟩ := run_readSets_cons.mp h
    obtain ⟨hnodup, hapart⟩ := ih hrest
    have hset : set.name ∉ sets.map (·.1) := by
      intro hmem
      obtain ⟨entry, hentry, hname⟩ := List.mem_map.mp hmem
      simpa [hname] using List.any_eq_false.mp hnew entry hentry
    refine ⟨List.nodup_cons.mpr ⟨?_, hnodup⟩, ?_⟩
    · intro hmem
      obtain ⟨other, hother, hname⟩ := List.mem_map.mp hmem
      exact hapart other hother (by simp [hname])
    · intro other hother
      rcases List.mem_cons.mp hother with rfl | hrest
      · exact hset
      · exact fun hmem => hapart other hrest (by simp [List.mem_map.mp hmem])

theorem readSets_lookup {rest : List MechanismSetDescriptor} {sets all : List (String × Grant)}
    {warnings after : List Warning}
    (h : (readSets rest sets).run warnings = (.ok all, after)) {name : String} {grant : Grant}
    (hlookup : all.lookup name = some grant) :
    sets.lookup name = some grant ∨ ∃ set ∈ rest, set.name = name ∧
      ∀ mechanism, grant.contains mechanism = true ↔ set.Grants mechanism := by
  induction rest generalizing sets warnings with
  | nil =>
    cases h
    exact Or.inl hlookup
  | cons set rest ih =>
    obtain ⟨hnew, granted, told, hgrant, hrest⟩ := run_readSets_cons.mp h
    rcases ih hrest with hhere | ⟨other, hother, hname, hgrants⟩
    · rw [List.lookup_append, Option.or_eq_some_iff] at hhere
      rcases hhere with hsets | ⟨-, hset⟩
      · exact Or.inl hsets
      · rw [List.lookup_cons] at hset
        split at hset
        · next hname =>
          cases hset
          refine Or.inr ⟨set, by simp, ?_, contains_readGrant hgrant⟩
          exact (beq_iff_eq.mp hname).symm
        · cases hset
    · exact Or.inr ⟨other, by simp [hother], hname, hgrants⟩

theorem readSets_warnings {rest : List MechanismSetDescriptor} {sets all : List (String × Grant)}
    {warnings after : List Warning}
    (h : (readSets rest sets).run warnings = (.ok all, after)) :
    after = warnings ++ rest.flatMap fun set => skipped set.name set.tokens := by
  induction rest generalizing sets warnings with
  | nil =>
    cases h
    simp
  | cons set rest ih =>
    obtain ⟨-, grant, told, hgrant, hrest⟩ := run_readSets_cons.mp h
    rw [run_readGrant] at hgrant
    cases hgrant
    rw [ih hrest, List.flatMap_cons, List.append_assoc]

theorem readSets_known {rest : List MechanismSetDescriptor} {sets all : List (String × Grant)}
    {warnings after : List Warning}
    (h : (readSets rest sets).run warnings = (.ok all, after)) (others : List Warning) :
    (readSets (rest.map (·.known)) sets).run others = (.ok all, others) := by
  induction rest generalizing sets warnings with
  | nil =>
    cases h
    rfl
  | cons set rest ih =>
    obtain ⟨hnew, grant, told, hgrant, hrest⟩ := run_readSets_cons.mp h
    refine run_readSets_cons.mpr ⟨hnew, grant, others, ?_, ih hrest⟩
    exact run_readGrant_known hgrant others

theorem readMechanismRule_ok {sets : List (String × Grant)} {filter : MechanismFilterDescriptor}
    {rule : MechanismRule} (h : readMechanismRule sets filter = .ok rule) :
    readSlots filter.slots = .ok rule.slots ∧ sets.lookup filter.set = some rule.grant := by
  obtain ⟨slots, hslots, h⟩ := bind_eq_ok.mp h
  cases hgrant : sets.lookup filter.set with
  | none =>
    rw [hgrant] at h
    cases h
  | some grant =>
    rw [hgrant] at h
    cases h
    exact ⟨hslots, rfl⟩

theorem allows_rules_iff {d : ModuleDescriptor} {sets : List (String × Grant)}
    {warnings after : List Warning} {policy : MechanismPolicy}
    (hsets : (readSets d.mechanismSets []).run warnings = (.ok sets, after))
    (hpolicy : d.mechanismFilters.mapM (readMechanismRule sets) = .ok policy)
    (slot : SlotIdentifier) (mechanism : Mechanism) :
    policy.allows slot mechanism = true ↔ ∃ filter ∈ d.mechanismFilters,
      SlotDescriptors.Cover filter.slots slot ∧
        ∃ set ∈ d.mechanismSets, set.name = filter.set ∧ set.Grants mechanism := by
  refine any_eq_true_of_forall₂ (mapM_eq_ok.mp hpolicy) fun filter rule hrule => ?_
  obtain ⟨hslots, hlookup⟩ := readMechanismRule_ok hrule
  obtain hempty | ⟨set, hset, hname, hgrants⟩ := readSets_lookup hsets hlookup
  · cases hempty
  · rw [Bool.and_eq_true, cover_iff hslots, hgrants]
    refine and_congr_right fun _ => ?_
    constructor
    · intro hset'
      exact ⟨set, hset, hname, hset'⟩
    · rintro ⟨other, hother, hname', hother'⟩
      have hsame : other = set := List.inj_on_of_nodup_map (readSets_names hsets).1 hother hset
        (hname'.trans hname.symm)
      exact hsame ▸ hother'

theorem readPasswordRule_ok {set : PasswordSetDescriptor} {rule : PasswordRule}
    (h : readPasswordRule set = .ok rule) :
    readSlots set.slots = .ok rule.slots ∧ rule.sources = set.sources := by
  obtain ⟨slots, hslots, h⟩ := bind_eq_ok.mp h
  cases h
  exact ⟨hslots, rfl⟩

theorem covers_passwordRule_iff (slot : SlotIdentifier) (set : PasswordSetDescriptor)
    (rule : PasswordRule) (h : readPasswordRule set = .ok rule) :
    SlotFilters.cover rule.slots slot = true ↔ SlotDescriptors.Cover set.slots slot :=
  cover_iff (readPasswordRule_ok h).1 slot

theorem read_eq_none {sets : List PasswordSetDescriptor} {policy : PasswordPolicy}
    (h : sets.mapM readPasswordRule = .ok policy) (resolver : PasswordResolver)
    {slot : SlotIdentifier} (hnone : ∀ set ∈ sets, ¬SlotDescriptors.Cover set.slots slot) :
    policy.read resolver slot = ⟨[], .ok none⟩ := by
  have hfind : policy.find? (fun rule => SlotFilters.cover rule.slots slot) = none :=
    find?_eq_none_of_forall₂ (mapM_eq_ok.mp h) (covers_passwordRule_iff slot) hnone
  simp only [PasswordPolicy.read, hfind]

theorem read_eq_some {before after : List PasswordSetDescriptor} {set : PasswordSetDescriptor}
    {policy : PasswordPolicy} (h : (before ++ set :: after).mapM readPasswordRule = .ok policy)
    (resolver : PasswordResolver) {slot : SlotIdentifier}
    (hset : SlotDescriptors.Cover set.slots slot)
    (hbefore : ∀ other ∈ before, ¬SlotDescriptors.Cover other.slots slot) :
    policy.read resolver slot =
      let reading := PasswordPolicy.readAll resolver set.sources
      ⟨reading.asked, reading.result.map some⟩ := by
  obtain ⟨rule, hfind, hrule⟩ :=
    find?_eq_some_of_forall₂ (mapM_eq_ok.mp h) (covers_passwordRule_iff slot) hset hbefore
  simp only [PasswordPolicy.read, hfind, (readPasswordRule_ok hrule).2]

theorem Accepted.known {d : ModuleDescriptor} {system : String} {config : ModuleConfig}
    {warnings after : List Warning} (h : Accepted d system config warnings after) :
    Accepted d.known system config warnings warnings := by
  obtain ⟨sets, hsets, hmechanisms⟩ := h.mechanisms
  exact { h with mechanisms := ⟨sets, readSets_known hsets warnings, hmechanisms⟩ }

theorem answers_as_described {d : ModuleDescriptor} {system : String} {config : ModuleConfig}
    {warnings after : List Warning}
    (h : (ofDescriptor d system).run warnings = (.ok config, after)) :
    (∀ slot mechanism, config.allows slot mechanism = true ↔ ∃ filter ∈ d.mechanismFilters,
      SlotDescriptors.Cover filter.slots slot ∧
        ∃ set ∈ d.mechanismSets, set.name = filter.set ∧ set.Grants mechanism) ∧
    (∀ slot, config.includes slot = true ↔
      SlotDescriptors.Cover d.includeSlots slot ∧ ¬∃ e ∈ d.excludeSlots, e.Designates slot) ∧
    (∀ resolver slot,
      ((∀ set ∈ d.passwordSets, ¬SlotDescriptors.Cover set.slots slot) →
        config.passwords.read resolver slot = ⟨[], .ok none⟩) ∧
      ∀ before set rest, d.passwordSets = before ++ set :: rest →
        SlotDescriptors.Cover set.slots slot →
        (∀ other ∈ before, ¬SlotDescriptors.Cover other.slots slot) →
        config.passwords.read resolver slot =
          let reading := PasswordPolicy.readAll resolver set.sources
          ⟨reading.asked, reading.result.map some⟩) ∧
    (after = warnings ++ d.mechanismSets.flatMap fun set => skipped set.name set.tokens) ∧
    (ofDescriptor d.known system).run warnings = (.ok config, warnings) := by
  have hd := accepted_iff.mp h
  obtain ⟨sets, hsets, hmechanisms⟩ := hd.mechanisms
  refine ⟨allows_rules_iff hsets hmechanisms, ?_, ?_, readSets_warnings hsets,
    accepted_iff.mpr hd.known⟩
  · intro slot
    rw [includes, Bool.and_eq_true, cover_iff hd.includeSlots, Bool.not_eq_true',
      ← Bool.not_eq_true, coverSome_iff hd.excludeSlots]
  · intro resolver slot
    refine ⟨read_eq_none hd.passwords resolver, ?_⟩
    rintro before set rest hsplit hset hbefore
    have hpasswords := hd.passwords
    rw [hsplit] at hpasswords
    exact read_eq_some hpasswords resolver hset hbefore

theorem answers_as_described_of_two_sets :
    ∃ config, (ofDescriptor Rehearsal.description "linux").run [] =
        (.ok config, [.skippedMechanism "CKM_NONE" "any"]) ∧
      config.allows ⟨1, 7⟩ .rsaPss = true ∧ config.includes ⟨1, 17⟩ = false ∧
      config.passwords.read (fun _ => .error .noSessions) ⟨2, 17⟩ =
        ⟨["1234"], .error .noSessions⟩ ∧
      (ofDescriptor Rehearsal.description.known "linux").run [] = (.ok config, []) := by
  obtain ⟨config, h⟩ : ∃ config, (ofDescriptor Rehearsal.description "linux").run [] =
      (.ok config, [.skippedMechanism "CKM_NONE" "any"]) := ⟨_, rfl⟩
  obtain ⟨hallows, hincludes, hpasswords, -, hknown⟩ := answers_as_described h
  refine ⟨config, h, ?_, ?_, ?_, hknown⟩
  · refine (hallows _ _).mpr ⟨_, List.mem_cons_self, Or.inr ⟨_, List.mem_cons_self, ?_⟩, ?_⟩
    · exact ⟨by simp, by simp⟩
    · exact ⟨_, List.mem_cons_self, rfl, "all", by decide, Or.inl rfl⟩
  · rw [← Bool.not_eq_true, hincludes]
    rintro ⟨-, hfree⟩
    exact hfree ⟨_, List.mem_cons_self, by simp, by simp; rfl⟩
  · refine (hpasswords _ _).2 [] _ _ rfl (Or.inr ⟨_, List.mem_cons_self, ?_⟩) (by simp)
    exact ⟨by simp, by simp; rfl⟩

end ModuleConfig

end TokenSigner
