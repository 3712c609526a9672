import Mathlib.Data.List.Forall2
import TokenSigner.Policy.Password

namespace TokenSigner

def SlotFilter.Designates (filter : SlotFilter) (slot : SlotIdentifier) : Prop :=
  (∀ index ∈ filter.index, index = slot.index) ∧ ∀ id ∈ filter.id, id = slot.id

def PasswordRule.Concerns (rule : PasswordRule) (slot : SlotIdentifier) : Prop :=
  rule.slots = [] ∨ ∃ filter ∈ rule.slots, filter.Designates slot

theorem SlotFilter.covers_eq_true_iff {filter : SlotFilter} {slot : SlotIdentifier} :
    filter.covers slot = true ↔ filter.Designates slot := by
  simp [covers, Designates, Option.all_eq_true]

theorem PasswordRule.cover_eq_true_iff {rule : PasswordRule} {slot : SlotIdentifier} :
    SlotFilters.cover rule.slots slot = true ↔ rule.Concerns slot := by
  simp [SlotFilters.cover, SlotFilters.coverSome, Concerns, SlotFilter.covers_eq_true_iff]

namespace PasswordPolicy

inductive Reads (resolver : PasswordResolver) :
    List String → PasswordReading (List Bytes) → Prop
  | all {sources : List String} {secrets : List Bytes}
    (h : List.Forall₂ (fun source secret => resolver source = .ok secret) sources secrets) :
    Reads resolver sources ⟨sources, .ok secrets⟩
  | failed {before after : List String} {source : String} {e : Error}
    (hbefore : ∀ other ∈ before, ∃ secret, resolver other = .ok secret)
    (hsource : resolver source = .error e) :
    Reads resolver (before ++ source :: after) ⟨before ++ [source], .error e⟩

variable {policy : PasswordPolicy} {resolver other : PasswordResolver} {slot : SlotIdentifier}
  {sources : List String}

theorem Reads.cons {source : String} {secret : Bytes} {reading : PasswordReading (List Bytes)}
    (hsource : resolver source = .ok secret) (h : Reads resolver sources reading) :
    Reads resolver (source :: sources)
      ⟨source :: reading.asked, reading.result.map (secret :: ·)⟩ := by
  cases h with
  | all h => exact .all (.cons hsource h)
  | failed hbefore hfailed =>
    refine @failed _ (source :: _) _ _ _ (fun earlier hearlier => ?_) hfailed
    rcases List.mem_cons.mp hearlier with rfl | hlater
    · exact ⟨secret, hsource⟩
    · exact hbefore earlier hlater

theorem reads_readAll (resolver : PasswordResolver) (sources : List String) :
    Reads resolver sources (readAll resolver sources) := by
  induction sources with
  | nil => exact .all .nil
  | cons source rest ih =>
    unfold readAll
    split
    · next e hsource => exact @Reads.failed _ [] _ _ _ (by simp) hsource
    · next secret hsource => exact ih.cons hsource

theorem readAll_congr
    (h : ∀ source ∈ (readAll resolver sources).asked, other source = resolver source) :
    readAll other sources = readAll resolver sources := by
  induction sources with
  | nil => rfl
  | cons source rest ih =>
    unfold readAll at h ⊢
    cases hsource : resolver source with
    | error e =>
      simp only [hsource, List.mem_singleton, forall_eq] at h
      rw [h]
    | ok secret =>
      simp only [hsource, List.forall_mem_cons] at h
      rw [h.1]
      simp only [ih h.2]

theorem read_of_unconcerned (h : ∀ rule ∈ policy, ¬rule.Concerns slot) :
    policy.read resolver slot = ⟨[], .ok none⟩ := by
  have hfind : policy.find? (fun rule => SlotFilters.cover rule.slots slot) = none := by
    rw [List.find?_eq_none]
    intro rule hrule
    rw [PasswordRule.cover_eq_true_iff]
    exact h rule hrule
  simp only [read, hfind]

theorem read_of_first {before after : PasswordPolicy} {rule : PasswordRule}
    (hbefore : ∀ other ∈ before, ¬other.Concerns slot) (hrule : rule.Concerns slot) :
    PasswordPolicy.read (before ++ rule :: after) resolver slot =
      let reading := readAll resolver rule.sources
      ⟨reading.asked, reading.result.map some⟩ := by
  have hfind : (before ++ rule :: after).find? (fun rule => SlotFilters.cover rule.slots slot) =
      some rule := by
    rw [List.find?_eq_some_iff_append]
    refine ⟨PasswordRule.cover_eq_true_iff.mpr hrule, before, after, rfl, fun other hother => ?_⟩
    rw [Bool.not_eq_true', ← Bool.not_eq_true, PasswordRule.cover_eq_true_iff]
    exact hbefore other hother
  simp only [read, hfind]

theorem read_append (h : ∃ rule ∈ policy, rule.Concerns slot) (later : PasswordPolicy) :
    PasswordPolicy.read (policy ++ later) resolver slot = policy.read resolver slot := by
  have hfind : (policy.find? fun rule => SlotFilters.cover rule.slots slot).isSome := by
    rw [List.find?_isSome]
    obtain ⟨rule, hrule, hconcerns⟩ := h
    exact ⟨rule, hrule, PasswordRule.cover_eq_true_iff.mpr hconcerns⟩
  unfold read
  rw [List.find?_append, Option.or_of_isSome hfind]

theorem read_congr
    (h : ∀ source ∈ (policy.read resolver slot).asked, other source = resolver source) :
    policy.read other slot = policy.read resolver slot := by
  unfold read at h ⊢
  cases hfind : policy.find? fun rule => SlotFilters.cover rule.slots slot with
  | none => rfl
  | some rule =>
    simp only [hfind] at h
    simp only [readAll_congr h]

theorem first_rule_read (policy : PasswordPolicy) (resolver : PasswordResolver)
    (slot : SlotIdentifier) :
    ((∀ rule ∈ policy, ¬rule.Concerns slot) → policy.read resolver slot = ⟨[], .ok none⟩) ∧
    (∀ before rule after, policy = before ++ rule :: after →
      (∀ other ∈ before, ¬other.Concerns slot) → rule.Concerns slot →
      ∃ reading, Reads resolver rule.sources reading ∧
        policy.read resolver slot = ⟨reading.asked, reading.result.map some⟩) ∧
    ((∃ rule ∈ policy, rule.Concerns slot) → ∀ later : PasswordPolicy,
      PasswordPolicy.read (policy ++ later) resolver slot = policy.read resolver slot) ∧
    ∀ other : PasswordResolver,
      (∀ source ∈ (policy.read resolver slot).asked, other source = resolver source) →
      policy.read other slot = policy.read resolver slot := by
  refine ⟨read_of_unconcerned, ?_, read_append, fun other => read_congr⟩
  rintro before rule after rfl hbefore hrule
  exact ⟨_, reads_readAll resolver rule.sources, read_of_first hbefore hrule⟩

theorem first_rule_read_of_two :
    let policy : PasswordPolicy :=
      [⟨[⟨some 0, none, rfl⟩], ["other"]⟩, ⟨[⟨none, some 7, rfl⟩], ["first", "gone", "third"]⟩]
    let resolver : PasswordResolver := .ofTable [("first", "1"), ("third", "3"), ("last", "4")]
    (∃ reading, Reads resolver ["first", "gone", "third"] reading ∧
      policy.read resolver ⟨1, 7⟩ = ⟨reading.asked, reading.result.map some⟩) ∧
    PasswordPolicy.read (policy ++ [⟨[], ["last"]⟩]) resolver ⟨1, 7⟩ =
      ⟨["first", "gone"], .error (.unknownSource "gone")⟩ := by
  intro policy resolver
  obtain ⟨-, hfirst, hlater, -⟩ := first_rule_read policy resolver ⟨1, 7⟩
  have hconcerns : PasswordRule.Concerns ⟨[⟨none, some 7, rfl⟩], ["first", "gone", "third"]⟩
      ⟨1, 7⟩ := Or.inr ⟨_, List.mem_cons_self, by simp [SlotFilter.Designates]⟩
  refine ⟨hfirst [_] _ [] rfl ?_ hconcerns, ?_⟩
  · simp [PasswordRule.Concerns, SlotFilter.Designates]
  · rw [hlater ⟨_, by simp [policy], hconcerns⟩]
    rfl

end PasswordPolicy

end TokenSigner
