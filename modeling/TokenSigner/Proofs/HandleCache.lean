import Mathlib.Data.List.Nodup
import TokenSigner.HandleCache
import TokenSigner.Key.Identifier
import TokenSigner.Proofs.Splits

namespace TokenSigner

theorem Text.utf8_injective : Function.Injective Text.utf8 := by
  intro text other hsame
  have hdata : text.toUTF8.data = other.toUTF8.data := Array.toList_inj.mp hsame
  exact String.toByteArray_inj.mp (ByteArray.ext hdata)

theorem KeyIdentifier.cacheKey_injective : Function.Injective KeyIdentifier.cacheKey := by
  intro key other hsame
  cases key with
  | label text =>
    cases other with
    | label text' => rw [Text.utf8_injective (List.tail_eq_of_cons_eq hsame)]
    | id bytes => exact absurd (List.head_eq_of_cons_eq hsame) (by decide)
  | id bytes =>
    cases other with
    | label text => exact absurd (List.head_eq_of_cons_eq hsame) (by decide)
    | id bytes' => rw [List.tail_eq_of_cons_eq hsame]

namespace HandleCache

def keys (cache : HandleCache) : List Bytes := cache.entries.map Prod.fst

variable {cache : HandleCache} {handle : UInt64}

theorem lookup_isSome_iff {key : Bytes} : (cache.entries.lookup key).isSome ↔ key ∈ cache.keys := by
  rw [List.lookup_isSome_iff, keys, List.mem_map]
  simp only [beq_iff_eq]
  exact exists_congr fun entry => and_congr_right fun _ => eq_comm

theorem mem_entries_of_lookup {key : Bytes} (h : cache.entries.lookup key = some handle) :
    (key, handle) ∈ cache.entries := by
  obtain ⟨before, after, hsplit, -⟩ := List.lookup_eq_some_iff.mp h
  rw [hsplit]
  exact List.mem_append_right _ List.mem_cons_self

theorem mem_entries_insert {key : Bytes} {entry : Bytes × UInt64}
    (h : entry ∈ (cache.insert key handle).entries) :
    entry = (key, handle) ∨ entry ∈ cache.entries := by
  rcases List.mem_cons.mp (List.mem_of_mem_take h) with hnew | hold
  · exact Or.inl hnew
  · exact Or.inr (List.mem_of_mem_filter hold)

theorem keys_remove (key : Bytes) : (cache.remove key).keys = cache.keys.filter (· != key) := by
  simp only [keys, remove, List.filter_map]
  rfl

theorem keys_insert (key : Bytes) :
    (cache.insert key handle).keys = (key :: cache.keys.filter (· != key)).take capacity := by
  rw [← keys_remove]
  simp only [keys, insert, List.map_take, List.map_cons]

theorem get_eq_insert {key : Bytes} (hroom : cache.keys.length ≤ capacity)
    (hfound : cache.entries.lookup key = some handle) :
    cache.get key = (some handle, cache.insert key handle) := by
  have hshorter : (cache.remove key).entries.length < cache.entries.length :=
    List.length_filter_lt_length_iff_exists.mpr ⟨_, mem_entries_of_lookup hfound, by simp⟩
  rw [keys, List.length_map] at hroom
  have hwhole : ((key, handle) :: (cache.remove key).entries).take capacity =
      (key, handle) :: (cache.remove key).entries :=
    List.take_of_length_le (by rw [List.length_cons]; omega)
  unfold get insert
  rw [hfound, hwhole]

theorem get_of_unknown {key : Bytes} (h : cache.entries.lookup key = none) :
    cache.get key = (none, cache) := by
  unfold get
  rw [h]

end HandleCache

inductive LookUp where
  | find (key : KeyIdentifier)
  | evict (key : KeyIdentifier)

structure Visit where
  lookUp : LookUp
  answer : Option UInt64
  left : HandleCache

def Visit.Uses (visit : Visit) (key : KeyIdentifier) : Prop :=
  visit.lookUp = .find key ∧ visit.answer.isSome

@[simp] theorem Visit.uses_found_iff {key other : KeyIdentifier} {handle : UInt64}
    {left : HandleCache} : (⟨.find key, some handle, left⟩ : Visit).Uses other ↔ key = other := by
  simp [Uses]

@[simp] theorem Visit.not_uses_of_no_answer {lookUp : LookUp} {other : KeyIdentifier}
    {left : HandleCache} : ¬(⟨lookUp, none, left⟩ : Visit).Uses other := by
  simp [Uses]

-- as many other keys were used since as the cache has room for
def Outnumbered (key : KeyIdentifier) (visits : List Visit) (cache : HandleCache) : Prop :=
  ∃ others : List KeyIdentifier, others.Nodup ∧ others.length = HandleCache.capacity ∧
    ∀ other ∈ others, other ≠ key ∧ other.cacheKey ∈ cache.keys ∧ ∃ visit ∈ visits, visit.Uses other

structure Spares (key : KeyIdentifier) (since : List Visit) (visit : Visit) : Prop where
  unused : ¬visit.Uses key
  kept : visit.lookUp ≠ .evict key
  roomy : ¬Outnumbered key (since ++ [visit]) visit.left

def Lasts (key : KeyIdentifier) (visits : List Visit) : Prop :=
  ∃ before use since, visits = before ++ use :: since ∧ use.Uses key ∧
    ∀ earlier visit later, since = earlier ++ visit :: later → Spares key earlier visit

def UsedAfter (visits : List Visit) (key other : KeyIdentifier) : Prop :=
  ∀ before use since, visits = before ++ use :: since → use.Uses other →
    ∃ visit ∈ since, visit.Uses key

inductive Turn (cache : HandleCache) : Visit → Prop where
  | used (key : KeyIdentifier) (handle : UInt64) :
      Turn cache ⟨.find key, some handle, cache.insert key.cacheKey handle⟩
  | failed (key : KeyIdentifier) : Turn cache ⟨.find key, none, cache⟩
  | evicted (key : KeyIdentifier) : Turn cache ⟨.evict key, none, cache.remove key.cacheKey⟩

variable {visits since : List Visit} {visit : Visit} {key other : KeyIdentifier}

theorem UsedAfter.snoc (h : UsedAfter visits key other) (hunused : ¬visit.Uses other) :
    UsedAfter (visits ++ [visit]) key other := by
  intro before use since hsplit huse
  rcases snoc_eq_split_iff.mp hsplit with ⟨-, rfl, -⟩ | ⟨rest, hvisits, rfl⟩
  · exact absurd huse hunused
  · obtain ⟨again, hmem, hagain⟩ := h before use rest hvisits huse
    exact ⟨again, List.mem_append_left _ hmem, hagain⟩

theorem usedAfter_of_uses (huse : visit.Uses key) (hunused : ¬visit.Uses other) :
    UsedAfter (visits ++ [visit]) key other := by
  intro before use since hsplit hother
  rcases snoc_eq_split_iff.mp hsplit with ⟨-, rfl, -⟩ | ⟨rest, -, rfl⟩
  · exact absurd hother hunused
  · exact ⟨visit, by simp, huse⟩

theorem lasts_snoc_of_uses (huse : visit.Uses key) : Lasts key (visits ++ [visit]) := by
  refine ⟨visits, visit, [], rfl, huse, ?_⟩
  intro earlier other later hsplit
  simp at hsplit

theorem lasts_snoc_iff (hunused : ¬visit.Uses key) :
    Lasts key (visits ++ [visit]) ↔
      ∃ before use since, visits = before ++ use :: since ∧ use.Uses key ∧
        (∀ earlier visit later, since = earlier ++ visit :: later → Spares key earlier visit) ∧
        Spares key since visit := by
  constructor
  · rintro ⟨before, use, since, hsplit, huse, hspares⟩
    rcases snoc_eq_split_iff.mp hsplit with ⟨-, rfl, -⟩ | ⟨rest, hvisits, rfl⟩
    · exact absurd huse hunused
    · refine ⟨before, use, rest, hvisits, huse, ?_, hspares rest visit [] rfl⟩
      intro earlier other later hrest
      refine hspares earlier other (later ++ [visit]) ?_
      rw [hrest, List.append_assoc, List.cons_append]
  · rintro ⟨before, use, since, rfl, huse, hspares, hspared⟩
    exact ⟨before, use, since ++ [visit], by simp, huse, forall_split_snoc hspares hspared⟩

structure Recalls (visits : List Visit) (cache : HandleCache) (recent : List KeyIdentifier) :
    Prop where
  keys : cache.keys = recent.map KeyIdentifier.cacheKey
  nodup : recent.Nodup
  room : recent.length ≤ HandleCache.capacity
  ordered : recent.Pairwise (UsedAfter visits)
  lasts (key : KeyIdentifier) : key ∈ recent ↔ Lasts key visits

variable {cache : HandleCache} {recent after : List KeyIdentifier}

theorem mem_keys_iff (hkeys : cache.keys = recent.map KeyIdentifier.cacheKey) :
    key.cacheKey ∈ cache.keys ↔ key ∈ recent := by
  rw [hkeys]
  exact List.mem_map_of_injective KeyIdentifier.cacheKey_injective

theorem not_outnumbered (hkeys : cache.keys = recent.map KeyIdentifier.cacheKey)
    (hroom : recent.length ≤ HandleCache.capacity) (hmem : key ∈ recent) :
    ¬Outnumbered key since cache := by
  rintro ⟨others, hnodup, hlength, hothers⟩
  have hall : (key :: others).Nodup := by
    refine List.nodup_cons.mpr ⟨?_, hnodup⟩
    intro hkey
    exact (hothers key hkey).1 rfl
  have hsubset : key :: others ⊆ recent := by
    intro other hother
    rcases List.mem_cons.mp hother with rfl | hother
    · exact hmem
    · exact (mem_keys_iff hkeys).mp (hothers other hother).2.1
  have hle := hall.length_le_of_subset hsubset
  rw [List.length_cons, hlength] at hle
  omega

theorem outnumbered_of_full {before : List Visit} {use : Visit}
    (hkeys : cache.keys = recent.map KeyIdentifier.cacheKey) (hnodup : recent.Nodup)
    (hfull : recent.length = HandleCache.capacity) (hgone : key ∉ recent)
    (hlater : ∀ other ∈ recent, UsedAfter visits other key)
    (hsplit : visits = before ++ use :: since) (huse : use.Uses key) :
    Outnumbered key since cache := by
  refine ⟨recent, hnodup, hfull, ?_⟩
  intro other hother
  refine ⟨?_, (mem_keys_iff hkeys).mpr hother, hlater other hother before use since hsplit huse⟩
  rintro rfl
  exact hgone hother

theorem Recalls.snoc (h : Recalls visits cache recent)
    (hkeys : visit.left.keys = after.map KeyIdentifier.cacheKey) (hnodup : after.Nodup)
    (hroom : after.length ≤ HandleCache.capacity)
    (hordered : after.Pairwise (UsedAfter (visits ++ [visit])))
    (huses : ∀ key, visit.Uses key → key ∈ after)
    (hstays : ∀ key, ¬visit.Uses key → key ∈ after → key ∈ recent ∧ visit.lookUp ≠ .evict key)
    (hdrops : ∀ key, ¬visit.Uses key → visit.lookUp ≠ .evict key → key ∈ recent → key ∉ after →
      after.length = HandleCache.capacity ∧
        ∀ other ∈ after, UsedAfter (visits ++ [visit]) other key) :
    Recalls (visits ++ [visit]) visit.left after := by
  refine ⟨hkeys, hnodup, hroom, hordered, ?_⟩
  intro key
  by_cases huse : visit.Uses key
  · exact iff_of_true (huses key huse) (lasts_snoc_of_uses huse)
  · rw [lasts_snoc_iff huse]
    constructor
    · intro hmem
      obtain ⟨hold, hkept⟩ := hstays key huse hmem
      obtain ⟨before, use, since, hsplit, hused, hspares⟩ := (h.lasts key).mp hold
      exact ⟨before, use, since, hsplit, hused, hspares, huse, hkept,
        not_outnumbered hkeys hroom hmem⟩
    · rintro ⟨before, use, since, hsplit, hused, hspares, hspared⟩
      have hold : key ∈ recent := (h.lasts key).mpr ⟨before, use, since, hsplit, hused, hspares⟩
      by_contra hgone
      obtain ⟨hfull, hlater⟩ := hdrops key huse hspared.kept hold hgone
      have hsplits : visits ++ [visit] = before ++ use :: (since ++ [visit]) := by
        rw [hsplit, List.append_assoc, List.cons_append]
      exact hspared.roomy (outnumbered_of_full hkeys hnodup hfull hgone hlater hsplits hused)

theorem filter_map_cacheKey (key : KeyIdentifier) (recent : List KeyIdentifier) :
    (recent.map KeyIdentifier.cacheKey).filter (· != key.cacheKey) =
      (recent.filter (· != key)).map KeyIdentifier.cacheKey := by
  rw [List.filter_map]
  congr 1
  refine List.filter_congr fun other _ => ?_
  rw [Bool.eq_iff_iff]
  simp [KeyIdentifier.cacheKey_injective.eq_iff]

theorem mem_filter_ne {key other : KeyIdentifier} :
    other ∈ recent.filter (· != key) ↔ other ∈ recent ∧ other ≠ key := by
  simp

theorem pairwise_usedAfter_cons (hordered : recent.Pairwise (UsedAfter visits))
    (huse : ∀ other, visit.Uses other ↔ key = other) :
    (key :: recent.filter (· != key)).Pairwise (UsedAfter (visits ++ [visit])) := by
  refine List.pairwise_cons.mpr ⟨?_, ?_⟩
  · intro other hother
    exact usedAfter_of_uses ((huse key).mpr rfl) fun h =>
      (mem_filter_ne.mp hother).2 ((huse other).mp h).symm
  · refine (hordered.filter _).imp_of_mem ?_
    intro later earlier _ hearlier hlater
    exact hlater.snoc fun h => (mem_filter_ne.mp hearlier).2 ((huse earlier).mp h).symm

theorem Recalls.used (h : Recalls visits cache recent) (key : KeyIdentifier) (handle : UInt64) :
    Recalls (visits ++ [⟨.find key, some handle, cache.insert key.cacheKey handle⟩])
      (cache.insert key.cacheKey handle)
      ((key :: recent.filter (· != key)).take HandleCache.capacity) := by
  have hnodup : (key :: recent.filter (· != key)).Nodup :=
    List.nodup_cons.mpr ⟨by simp, h.nodup.filter _⟩
  have hordered : (key :: recent.filter (· != key)).Pairwise
      (UsedAfter (visits ++ [⟨.find key, some handle, cache.insert key.cacheKey handle⟩])) :=
    pairwise_usedAfter_cons h.ordered fun _ => Visit.uses_found_iff
  refine h.snoc ?_ (hnodup.sublist (List.take_sublist _ _)) (List.length_take_le _ _) hordered.take
    ?_ ?_ ?_
  · rw [HandleCache.keys_insert, h.keys, filter_map_cacheKey, List.map_take, List.map_cons]
  · intro other huse
    rw [← Visit.uses_found_iff.mp huse]
    simp [HandleCache.capacity]
  · intro other hother hmem
    rw [Visit.uses_found_iff] at hother
    rcases List.mem_cons.mp (List.mem_of_mem_take hmem) with rfl | hmem
    · exact absurd rfl hother
    · exact ⟨(mem_filter_ne.mp hmem).1, by simp⟩
  · intro other hother _ hold hgone
    rw [Visit.uses_found_iff] at hother
    have hmem : other ∈ key :: recent.filter (· != key) :=
      List.mem_cons_of_mem _ (mem_filter_ne.mpr ⟨hold, Ne.symm hother⟩)
    -- What no longer fits was used before all that fits.
    have hdropped := mem_drop_of_not_mem_take hmem hgone
    exact ⟨length_take_of_mem_drop hdropped, fun kept hkept =>
      hordered.rel_of_mem_take_of_mem_drop hkept hdropped⟩

theorem Recalls.failed (h : Recalls visits cache recent) (key : KeyIdentifier) :
    Recalls (visits ++ [⟨.find key, none, cache⟩]) cache recent := by
  refine h.snoc h.keys h.nodup h.room ?_ ?_ ?_ ?_
  · exact h.ordered.imp fun hlater => hlater.snoc Visit.not_uses_of_no_answer
  · intro other huse
    exact absurd huse Visit.not_uses_of_no_answer
  · intro other _ hmem
    exact ⟨hmem, by simp⟩
  · intro other _ _ hmem hgone
    exact absurd hmem hgone

theorem Recalls.evicted (h : Recalls visits cache recent) (key : KeyIdentifier) :
    Recalls (visits ++ [⟨.evict key, none, cache.remove key.cacheKey⟩])
      (cache.remove key.cacheKey) (recent.filter (· != key)) := by
  have hroom := Nat.le_trans (List.length_filter_le (· != key) recent) h.room
  refine h.snoc ?_ (h.nodup.filter _) hroom ?_ ?_ ?_ ?_
  · rw [HandleCache.keys_remove, h.keys, filter_map_cacheKey]
  · exact (h.ordered.filter _).imp fun hlater => hlater.snoc Visit.not_uses_of_no_answer
  · intro other huse
    exact absurd huse Visit.not_uses_of_no_answer
  · intro other _ hmem
    obtain ⟨hold, hne⟩ := mem_filter_ne.mp hmem
    refine ⟨hold, ?_⟩
    intro hevicts
    cases hevicts
    exact hne rfl
  · intro other _ hkept hold hgone
    refine absurd (mem_filter_ne.mpr ⟨hold, ?_⟩) hgone
    rintro rfl
    exact hkept rfl

theorem recalls_empty : Recalls [] .empty [] where
  keys := rfl
  nodup := .nil
  room := Nat.zero_le _
  ordered := .nil
  lasts key := by simp [Lasts]

theorem recalls_turn (h : Recalls visits cache recent) (hturn : Turn cache visit) :
    ∃ after, Recalls (visits ++ [visit]) visit.left after := by
  cases hturn with
  | used key handle => exact ⟨_, h.used key handle⟩
  | failed key => exact ⟨_, h.failed key⟩
  | evicted key => exact ⟨_, h.evicted key⟩

end TokenSigner
