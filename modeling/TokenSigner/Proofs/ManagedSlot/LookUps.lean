import TokenSigner.Proofs.HandleCache
import TokenSigner.Proofs.ManagedSlot.Operations
import TokenSigner.Rehearsal.Setting

namespace TokenSigner.ManagedSlot

variable {δ ς : Type} {device : Device δ ς} {config : ModuleConfig}
  {x y : ManagedSlot ς × Site δ ς} {key : KeyIdentifier} {handle : UInt64}

def lookedUp (slot : SlotIdentifier) (key : KeyIdentifier) :
    Except Error (Option UInt64) → Except Error UInt64
  | .ok (some handle) => .ok handle
  | .ok none => .error (.noPrivateKey key slot)
  | .error e => .error e

def remembered (handles : HandleCache) (key : KeyIdentifier) :
    Except Error (Option UInt64) → HandleCache
  | .ok (some handle) => handles.insert key.cacheKey handle
  | .ok none | .error _ => handles

def search (device : Device δ ς) (slot : SlotIdentifier) (key : KeyIdentifier) (session : ς) :
    Work δ ς UInt64 := do
  match ← ask device (.findKey session key) with
  | none => throw (.noPrivateKey key slot)
  | some handle => do
    update fun managed => { managed with handles := managed.handles.insert key.cacheKey handle }
    return handle

theorem run_search {slot : SlotIdentifier} {session : ς} {answer : Except Error (Option UInt64)}
    {after : Site δ ς}
    (hcall : (device.call x.1.slot (.findKey session key)).run x.2 = (answer, after)) :
    (search device slot key session).run x = (lookedUp slot key answer,
      { x.1 with handles := remembered x.1.handles key answer }, after) := by
  unfold search
  rcases answer with e | _ | handle
  · rw [Action.run_bind_error (run_ask hcall)]
    rfl
  · rw [Action.run_bind_ok (run_ask hcall)]
    rfl
  · rw [Action.run_bind_ok (run_ask hcall)]
    rfl

theorem handles_borrow (device : Device δ ς) (config : ModuleConfig)
    (x : ManagedSlot ς × Site δ ς) :
    ((borrow device config).run x).2.1.handles = x.1.handles := rfl

theorem slot_borrow (device : Device δ ς) (config : ModuleConfig)
    (x : ManagedSlot ς × Site δ ς) :
    ((borrow device config).run x).2.1.slot = x.1.slot := rfl

theorem events_borrow (device : Device δ ς) (config : ModuleConfig)
    (x : ManagedSlot ς × Site δ ς) :
    ∃ opening : List (Event ς),
      ((borrow device config).run x).2.2.events = x.2.events ++ opening ∧
      ∀ event ∈ opening, event.call = .openSession !config.readOnly := by
  obtain ⟨managed, site⟩ := x
  rcases borrow_cases device config managed site with
    ⟨session, idle, -, hrun⟩ |
    ⟨-, -, ⟨session, after, hcall, hrun⟩ | ⟨e, after, hcall, hrun⟩⟩ | ⟨-, hrun⟩
  · rw [hrun]
    exact ⟨[], (List.append_nil _).symm, fun _ h => absurd h List.not_mem_nil⟩
  · rw [hrun]
    exact ⟨_, events_of_call hcall, fun _ h => by rw [List.mem_singleton.mp h]⟩
  · rw [hrun]
    exact ⟨_, events_of_call hcall, fun _ h => by rw [List.mem_singleton.mp h]⟩
  · rw [hrun]
    exact ⟨[], (List.append_nil _).symm, fun _ h => absurd h List.not_mem_nil⟩

theorem run_findKey_known (hroom : x.1.handles.keys.length ≤ HandleCache.capacity)
    (hknown : x.1.handles.entries.lookup key.cacheKey = some handle) :
    (findKey device config key).run x =
      (.ok handle, { x.1 with handles := x.1.handles.insert key.cacheKey handle }, x.2) := by
  obtain ⟨managed, site⟩ := x
  unfold findKey
  rw [run_identifier_bind, Action.run_bind, Action.run_modifyGet]
  dsimp only
  rw [HandleCache.get_eq_insert hroom hknown]
  rfl

section Unknown

variable (hunknown : x.1.handles.entries.lookup key.cacheKey = none)

include hunknown

theorem run_findKey_unknown : (findKey device config key).run x =
    (withSession device config (search device x.1.slot key)).run x := by
  obtain ⟨managed, site⟩ := x
  unfold findKey
  rw [run_identifier_bind, Action.run_bind, Action.run_modifyGet]
  dsimp only
  rw [HandleCache.get_of_unknown hunknown]
  rfl

theorem run_findKey_unserved {e : Error} (hborrow : (borrow device config).run x = (.error e, y)) :
    (findKey device config key).run x = (.error e, y) := by
  rw [run_findKey_unknown hunknown]
  unfold withSession
  rw [Action.run_bind_error hborrow]

theorem run_findKey_asked {session : ς} {answer : Except Error (Option UInt64)} {after : Site δ ς}
    (hborrow : (borrow device config).run x = (.ok session, y))
    (hcall : (device.call y.1.slot (.findKey session key)).run y.2 = (answer, after)) :
    (findKey device config key).run x = (lookedUp x.1.slot key answer,
      { y.1 with
        pool := y.1.pool.giveBack session
        handles := remembered y.1.handles key answer },
      after) := by
  rw [run_findKey_unknown hunknown]
  unfold withSession
  rw [Action.run_bind_ok hborrow, Action.run_bind, Action.run_outcome, run_search hcall]
  rfl

end Unknown

theorem findKey_cases (device : Device δ ς) (config : ModuleConfig) (key : KeyIdentifier)
    (hroom : x.1.handles.keys.length ≤ HandleCache.capacity) :
    (∃ handle, x.1.handles.entries.lookup key.cacheKey = some handle ∧
      (findKey device config key).run x =
        (.ok handle, { x.1 with handles := x.1.handles.insert key.cacheKey handle }, x.2)) ∨
    (x.1.handles.entries.lookup key.cacheKey = none ∧
      ((∃ e y, (borrow device config).run x = (.error e, y) ∧
        (findKey device config key).run x = (.error e, y)) ∨
      ∃ session y answer after, (borrow device config).run x = (.ok session, y) ∧
        after.events = y.2.events ++ [⟨x.1.slot, .findKey session key, answer⟩] ∧
        (findKey device config key).run x = (lookedUp x.1.slot key answer,
          { y.1 with
            pool := y.1.pool.giveBack session
            handles := remembered x.1.handles key answer },
          after))) := by
  cases hlookup : x.1.handles.entries.lookup key.cacheKey with
  | some handle => exact Or.inl ⟨handle, rfl, run_findKey_known hroom hlookup⟩
  | none =>
    refine Or.inr ⟨rfl, ?_⟩
    have hslot := slot_borrow device config x
    have hhandles := handles_borrow device config x
    rcases hborrow : (borrow device config).run x with ⟨e | session, y⟩
    · exact Or.inl ⟨e, y, rfl, run_findKey_unserved hlookup hborrow⟩
    · rw [hborrow] at hslot hhandles
      rcases hcall : (device.call y.1.slot (.findKey session key)).run y.2 with ⟨answer, after⟩
      refine Or.inr ⟨session, y, answer, after, rfl, ?_, ?_⟩
      · rw [← hslot]
        exact events_of_call hcall
      · rw [← hhandles]
        exact run_findKey_asked hlookup hborrow hcall

inductive Visited (device : Device δ ς) (config : ModuleConfig) :
    List Visit → ManagedSlot ς × Site δ ς → Prop where
  | fresh {x : ManagedSlot ς × Site δ ς} (hempty : x.1.handles = .empty) :
      Visited device config [] x
  | find {visits : List Visit} {x y : ManagedSlot ς × Site δ ς} {result : Except Error UInt64}
      (key : KeyIdentifier) (hvisited : Visited device config visits x)
      (hrun : (findKey device config key).run x = (result, y)) :
      Visited device config (visits ++ [⟨.find key, result.toOption, y.1.handles⟩]) y
  | evict {visits : List Visit} {x y : ManagedSlot ς × Site δ ς} {result : Except Error Unit}
      (key : KeyIdentifier) (hvisited : Visited device config visits x)
      (hrun : (ManagedSlot.evict key : Work δ ς Unit).run x = (result, y)) :
      Visited device config (visits ++ [⟨.evict key, none, y.1.handles⟩]) y
  | meanwhile {visits : List Visit} {x y : ManagedSlot ς × Site δ ς}
      (hvisited : Visited device config visits x) (hslot : y.1.slot = x.1.slot)
      (hhandles : y.1.handles = x.1.handles) (hevents : x.2.events ⊆ y.2.events) :
      Visited device config visits y

def Sourced (x : ManagedSlot ς × Site δ ς) : Prop :=
  ∀ entry ∈ x.1.handles.entries, ∃ session key, key.cacheKey = entry.1 ∧
    (⟨x.1.slot, .findKey session key, .ok (some entry.2)⟩ : Event ς) ∈ x.2.events

theorem Sourced.mono (h : Sourced x) (hslot : y.1.slot = x.1.slot)
    (hentries : y.1.handles.entries ⊆ x.1.handles.entries) (hevents : x.2.events ⊆ y.2.events) :
    Sourced y := by
  intro entry hentry
  obtain ⟨session, key, hkey, hevent⟩ := h entry (hentries hentry)
  exact ⟨session, key, hkey, hslot ▸ hevents hevent⟩

structure Found (x : ManagedSlot ς × Site δ ς) (key : KeyIdentifier) (result : Except Error UInt64)
    (y : ManagedSlot ς × Site δ ς) : Prop where
  slot_eq : y.1.slot = x.1.slot
  turn : Turn x.1.handles ⟨.find key, result.toOption, y.1.handles⟩
  recorded : x.2.events ⊆ y.2.events
  sourced : Sourced x → Sourced y

theorem found_known (hknown : x.1.handles.entries.lookup key.cacheKey = some handle) :
    Found x key (.ok handle)
      ({ x.1 with handles := x.1.handles.insert key.cacheKey handle }, x.2) where
  slot_eq := rfl
  turn := .used key handle
  recorded := List.Subset.refl _
  sourced hsourced := by
    intro entry hentry
    rcases HandleCache.mem_entries_insert hentry with rfl | hold
    · exact hsourced _ (HandleCache.mem_entries_of_lookup hknown)
    · exact hsourced entry hold

theorem found_unserved {e : Error} (hborrow : (borrow device config).run x = (.error e, y)) :
    Found x key (.error e) y := by
  have hslot := slot_borrow device config x
  have hhandles := handles_borrow device config x
  obtain ⟨opening, hevents, -⟩ := events_borrow device config x
  rw [hborrow] at hslot hhandles hevents
  have hrecorded : x.2.events ⊆ y.2.events := hevents ▸ List.subset_append_left _ _
  refine ⟨hslot, ?_, hrecorded, ?_⟩
  · rw [hhandles]
    exact .failed key
  · intro hsourced
    exact hsourced.mono hslot (fun _ hentry => hhandles ▸ hentry) hrecorded

theorem found_asked {session : ς} {answer : Except Error (Option UInt64)} {pool : Pool ς}
    {after : Site δ ς} (hborrow : (borrow device config).run x = (.ok session, y))
    (hevents : after.events = y.2.events ++ [⟨x.1.slot, .findKey session key, answer⟩]) :
    Found x key (lookedUp x.1.slot key answer)
      ({ y.1 with pool, handles := remembered x.1.handles key answer }, after) := by
  have hslot := slot_borrow device config x
  obtain ⟨opening, hopening, -⟩ := events_borrow device config x
  rw [hborrow] at hslot hopening
  have hrecorded : x.2.events ⊆ after.events := by
    rw [hevents, hopening, List.append_assoc]
    exact List.subset_append_left _ _
  refine ⟨hslot, ?_, hrecorded, ?_⟩
  · rcases answer with e | _ | handle
    · exact .failed key
    · exact .failed key
    · exact .used key handle
  · intro hsourced
    rcases answer with e | _ | handle
    · exact hsourced.mono hslot (List.Subset.refl _) hrecorded
    · exact hsourced.mono hslot (List.Subset.refl _) hrecorded
    · intro entry hentry
      rcases HandleCache.mem_entries_insert hentry with rfl | hold
      · refine ⟨session, key, rfl, ?_⟩
        rw [hslot, hevents]
        exact List.mem_append_right _ (List.mem_singleton_self _)
      · obtain ⟨before, other, hkey, hevent⟩ := hsourced entry hold
        refine ⟨before, other, hkey, ?_⟩
        rw [hslot]
        exact hrecorded hevent

theorem found_of_run {result : Except Error UInt64}
    (hroom : x.1.handles.keys.length ≤ HandleCache.capacity)
    (hrun : (findKey device config key).run x = (result, y)) : Found x key result y := by
  rcases findKey_cases device config key hroom with
    ⟨handle, hknown, hanswer⟩ |
    ⟨-, ⟨e, after, hborrow, hanswer⟩ |
      ⟨session, borrowed, answer, after, hborrow, hevents, hanswer⟩⟩
  · rw [hrun] at hanswer
    cases hanswer
    exact found_known hknown
  · rw [hrun] at hanswer
    cases hanswer
    exact found_unserved hborrow
  · rw [hrun] at hanswer
    cases hanswer
    exact found_asked hborrow hevents

structure Remembers (visits : List Visit) (x : ManagedSlot ς × Site δ ς) : Prop where
  recalls : ∃ recent, Recalls visits x.1.handles recent
  sourced : Sourced x

namespace Remembers

variable {visits : List Visit}

theorem room (h : Remembers visits x) : x.1.handles.keys.length ≤ HandleCache.capacity := by
  obtain ⟨recent, hrecalls⟩ := h.recalls
  rw [hrecalls.keys, List.length_map]
  exact hrecalls.room

theorem known_iff (h : Remembers visits x) :
    (x.1.handles.entries.lookup key.cacheKey).isSome ↔ Lasts key visits := by
  obtain ⟨recent, hrecalls⟩ := h.recalls
  rw [HandleCache.lookup_isSome_iff, mem_keys_iff hrecalls.keys, hrecalls.lasts]

theorem run_lasting (h : Remembers visits x) (hlasts : Lasts key visits) :
    ∃ handle, (findKey device config key).run x =
      (.ok handle, { x.1 with handles := x.1.handles.insert key.cacheKey handle }, x.2) := by
  obtain ⟨handle, hlookup⟩ := Option.isSome_iff_exists.mp (h.known_iff.mpr hlasts)
  exact ⟨handle, run_findKey_known h.room hlookup⟩

theorem unknown (h : Remembers visits x) (hgone : ¬Lasts key visits) :
    x.1.handles.entries.lookup key.cacheKey = none :=
  Option.not_isSome_iff_eq_none.mp (mt h.known_iff.mp hgone)

theorem find {result : Except Error UInt64} (h : Remembers visits x)
    (hfound : Found x key result y) :
    Remembers (visits ++ [⟨.find key, result.toOption, y.1.handles⟩]) y where
  recalls := h.recalls.elim fun _ hrecalls => recalls_turn hrecalls hfound.turn
  sourced := hfound.sourced h.sourced

theorem evict {result : Except Error Unit} (h : Remembers visits x)
    (hrun : (ManagedSlot.evict key : Work δ ς Unit).run x = (result, y)) :
    Remembers (visits ++ [⟨.evict key, none, y.1.handles⟩]) y := by
  have hy : y = ({ x.1 with handles := x.1.handles.remove key.cacheKey }, x.2) :=
    (congrArg Prod.snd hrun).symm
  subst hy
  obtain ⟨recent, hrecalls⟩ := h.recalls
  refine ⟨recalls_turn hrecalls (.evicted key), ?_⟩
  exact h.sourced.mono rfl (List.filter_subset_self _) (List.Subset.refl _)

end Remembers

theorem remembers_of_visited {visits : List Visit} (h : Visited device config visits x) :
    Remembers visits x := by
  induction h with
  | fresh hempty =>
    refine ⟨⟨[], hempty ▸ recalls_empty⟩, ?_⟩
    intro entry hentry
    rw [hempty] at hentry
    cases hentry
  | find key _ hrun ih => exact ih.find (found_of_run ih.room hrun)
  | evict key _ hrun ih => exact ih.evict hrun
  | meanwhile _ hslot hhandles hevents ih =>
    refine ⟨hhandles ▸ ih.recalls, ih.sourced.mono hslot ?_ hevents⟩
    rw [hhandles]
    exact List.Subset.refl _

def Constant (slot : SlotIdentifier) (designates : KeyIdentifier → Option UInt64)
    (events : List (Event ς)) : Prop :=
  ∀ session key answer, (⟨slot, .findKey session key, .ok answer⟩ : Event ς) ∈ events →
    answer = designates key

structure Finds (device : Device δ ς) (config : ModuleConfig)
    (designates : KeyIdentifier → Option UInt64) (visits : List Visit)
    (x : ManagedSlot ς × Site δ ς) (key : KeyIdentifier) : Prop where
  known_iff : (x.1.handles.get key.cacheKey).1.isSome ↔ Lasts key visits
  known (hlasts : Lasts key visits) : ∃ handle, (findKey device config key).run x =
    (.ok handle, { x.1 with handles := x.1.handles.insert key.cacheKey handle }, x.2)
  session : ∃ opening : List (Event ς),
    ((borrow device config).run x).2.2.events = x.2.events ++ opening ∧
    ∀ event ∈ opening, event.call = .openSession !config.readOnly
  unserved {e : Error} {y : ManagedSlot ς × Site δ ς} (hgone : ¬Lasts key visits)
    (hborrow : (borrow device config).run x = (.error e, y)) :
    (findKey device config key).run x = (.error e, y)
  asked {session : ς} {y : ManagedSlot ς × Site δ ς} (hgone : ¬Lasts key visits)
    (hborrow : (borrow device config).run x = (.ok session, y)) :
    ∃ answer, ((findKey device config key).run x).1 = lookedUp x.1.slot key answer ∧
      ((findKey device config key).run x).2.2.events =
        y.2.events ++ [⟨x.1.slot, .findKey session key, answer⟩]
  designated {handle : UInt64} (hfound : ((findKey device config key).run x).1 = .ok handle) :
    designates key = some handle
  missing (hmissing : designates key = none) : ¬Lasts key visits
  failed {e : Error} (hfailed : ((findKey device config key).run x).1 = .error e) :
    ((findKey device config key).run x).2.1.handles = x.1.handles

theorem designated_of_sourced {designates : KeyIdentifier → Option UInt64} (hsourced : Sourced x)
    (hconstant : Constant x.1.slot designates x.2.events)
    (hentry : (key.cacheKey, handle) ∈ x.1.handles.entries) : designates key = some handle := by
  obtain ⟨session, other, hkey, hevent⟩ := hsourced _ hentry
  rw [← KeyIdentifier.cacheKey_injective hkey]
  exact (hconstant session other _ hevent).symm

theorem Found.entered (h : Found x key (.ok handle) y) :
    (key.cacheKey, handle) ∈ y.1.handles.entries := by
  have hturn := h.turn
  generalize hleft : y.1.handles = left at hturn
  cases hturn
  exact HandleCache.mem_entries_of_lookup (HandleCache.lookup_insert _ _ _)

theorem Found.unchanged {e : Error} (h : Found x key (.error e) y) :
    y.1.handles = x.1.handles := by
  have hturn := h.turn
  generalize hleft : y.1.handles = left at hturn
  cases hturn
  rfl

theorem finds_designated {visits : List Visit} {designates : KeyIdentifier → Option UInt64}
    (hvisited : Visited device config visits x) (key : KeyIdentifier)
    (hconstant : Constant x.1.slot designates ((findKey device config key).run x).2.2.events) :
    Finds device config designates visits x key := by
  have hremembers := remembers_of_visited hvisited
  rcases hrun : (findKey device config key).run x with ⟨result, y⟩
  have hfound := found_of_run hremembers.room hrun
  rw [hrun, ← hfound.slot_eq] at hconstant
  have hdesignated (handle : UInt64) (hanswer : result = .ok handle) :
      designates key = some handle := by
    subst hanswer
    exact designated_of_sourced (hfound.sourced hremembers.sourced) hconstant hfound.entered
  refine ⟨?_, hremembers.run_lasting, events_borrow device config x, ?_, ?_, ?_, ?_, ?_⟩
  · rw [HandleCache.get_fst, hremembers.known_iff]
  · intro e z hgone hborrow
    exact run_findKey_unserved (hremembers.unknown hgone) hborrow
  · intro session z hgone hborrow
    rcases hcall : (device.call z.1.slot (.findKey session key)).run z.2 with ⟨answer, after⟩
    have hslot := slot_borrow device config x
    rw [hborrow] at hslot
    rw [run_findKey_asked (hremembers.unknown hgone) hborrow hcall, ← hslot]
    exact ⟨answer, rfl, events_of_call hcall⟩
  · intro handle hanswer
    rw [hrun] at hanswer
    exact hdesignated handle hanswer
  · intro hmissing hlasts
    obtain ⟨handle, hanswer⟩ : ∃ handle, (findKey device config key).run x = (.ok handle, _) :=
      hremembers.run_lasting hlasts
    rw [hrun] at hanswer
    rw [hdesignated handle (congrArg Prod.fst hanswer)] at hmissing
    cases hmissing
  · intro e hfailed
    rw [hrun] at hfailed ⊢
    cases hfailed
    exact hfound.unchanged

theorem finds_designated_after_an_eviction :
    let token := { Rehearsal.token with keys :=
      [⟨"A", [0x42], .rsa [0xc5, 0x0f] [3], none⟩, ⟨"B", [0x41], .rsa [0xc5, 0x0f] [3], none⟩] }
    let find (key : KeyIdentifier) (x : ManagedSlot Nat × Site (List Rehearsal.Token) Nat) :=
      (findKey Rehearsal.device Rehearsal.config key).run x
    let designates (key : KeyIdentifier) : Option UInt64 :=
      if key = .label "A" then some 1 else if key = .id [0x41] then some 2 else none
    let fresh : ManagedSlot Nat × Site (List Rehearsal.Token) Nat :=
      (⟨⟨0, 7⟩, .start 1, none, .empty, none, ⟨fun _ => .ok 0, 0⟩⟩, ⟨[token], [], []⟩)
    let first := find (.label "A") fresh
    let second := find (.id [0x41]) first.2
    let third := find (.label "Z") second.2
    let evicted := (evict (.id [0x41])).run third.2
    let visits : List Visit := [⟨.find (.label "A"), first.1.toOption, first.2.1.handles⟩,
      ⟨.find (.id [0x41]), second.1.toOption, second.2.1.handles⟩,
      ⟨.find (.label "Z"), third.1.toOption, third.2.1.handles⟩,
      ⟨.evict (.id [0x41]), none, evicted.2.1.handles⟩]
    let again := find (.label "A") evicted.2
    let anew := find (.id [0x41]) evicted.2
    [first.1.toOption, second.1.toOption, third.1.toOption, again.1.toOption, anew.1.toOption] =
      [some 1, some 2, none, some 1, some 2] ∧
    again.2.2.events.length = 4 ∧ anew.2.2.events.length = 5 ∧
    Visited Rehearsal.device Rehearsal.config visits evicted.2 ∧
    Constant ⟨0, 7⟩ designates again.2.2.events ∧
    Finds Rehearsal.device Rehearsal.config designates visits evicted.2 (.label "A") := by
  intro token find designates fresh first second third evicted visits again anew
  have hvisited : Visited Rehearsal.device Rehearsal.config visits evicted.2 := by
    have hfresh : Visited Rehearsal.device Rehearsal.config [] fresh := .fresh rfl
    have hfinds {visits : List Visit} {x : ManagedSlot Nat × Site (List Rehearsal.Token) Nat}
        (key : KeyIdentifier) (h : Visited Rehearsal.device Rehearsal.config visits x) :
        Visited Rehearsal.device Rehearsal.config
          (visits ++ [⟨.find key, (find key x).1.toOption, (find key x).2.1.handles⟩])
          (find key x).2 := .find key h rfl
    have hthird := hfinds (.label "Z") (hfinds (.id [0x41]) (hfinds (.label "A") hfresh))
    exact .evict (.id [0x41]) hthird rfl
  have hconstant : Constant ⟨0, 7⟩ designates again.2.2.events := by
    intro session key answer hevent
    have hevents : again.2.2.events = [⟨⟨0, 7⟩, .openSession false, .ok 1⟩,
        ⟨⟨0, 7⟩, .findKey 1 (.label "A"), .ok (some 1)⟩,
        ⟨⟨0, 7⟩, .findKey 1 (.id [0x41]), .ok (some 2)⟩,
        ⟨⟨0, 7⟩, .findKey 1 (.label "Z"), .ok none⟩] := rfl
    rw [hevents] at hevent
    simp only [List.mem_cons, List.not_mem_nil, or_false] at hevent
    rcases hevent with hevent | hevent | hevent | hevent <;> cases hevent <;> rfl
  refine ⟨by decide +kernel, by decide +kernel, by decide +kernel, hvisited, hconstant, ?_⟩
  exact finds_designated hvisited _ hconstant

end TokenSigner.ManagedSlot
