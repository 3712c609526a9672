import TokenSigner.Proofs.Client.Throughout
import TokenSigner.Proofs.ManagedSlot.Gates
import TokenSigner.Rehearsal.Setting

namespace TokenSigner

open ManagedSlot (Scene Move Moves Decided Undecided)

variable {δ ς : Type} {device : Device δ ς} {config : ModuleConfig}

def Event.told? : Event ς → Option (List Mechanism)
  | ⟨_, .mechanisms, .ok told⟩ => some told
  | _ => none

def tellings (slot : SlotIdentifier) (events : List (Event ς)) : List (List Mechanism) :=
  (events.filter (·.slot == slot)).filterMap Event.told?

theorem mem_tellings {slot : SlotIdentifier} {events : List (Event ς)} {told : List Mechanism} :
    told ∈ tellings slot events ↔ ⟨slot, .mechanisms, .ok told⟩ ∈ events := by
  simp only [tellings, List.mem_filterMap, List.mem_filter, beq_iff_eq]
  constructor
  · rintro ⟨⟨slot', call, result⟩, ⟨hmem, rfl⟩, htold⟩
    cases call with
    | mechanisms =>
      cases result with
      | ok answer =>
        cases htold
        exact hmem
      | error e => cases htold
    | _ => cases htold
  · intro hmem
    exact ⟨_, ⟨hmem, rfl⟩, rfl⟩

theorem tellings_snoc_same (slot : SlotIdentifier) (events : List (Event ς))
    (told : List Mechanism) :
    tellings slot (events ++ [⟨slot, .mechanisms, .ok told⟩]) = tellings slot events ++ [told] := by
  simp [tellings, Event.told?]

theorem tellings_snoc_other {slot : SlotIdentifier} {event : Event ς} (h : event.slot ≠ slot)
    (events : List (Event ς)) : tellings slot (events ++ [event]) = tellings slot events := by
  simp [tellings, h]

theorem tellings_snoc_untold {event : Event ς} (h : event.told? = none) (slot : SlotIdentifier)
    (events : List (Event ς)) : tellings slot (events ++ [event]) = tellings slot events := by
  simp only [tellings, List.filter_append, List.filterMap_append]
  by_cases hslot : event.slot = slot
  · simp [hslot, h]
  · simp [hslot]

theorem told?_eq_none {slot : SlotIdentifier} {call : Call ς} (h : call ≠ .mechanisms)
    (result : Except Error call.Answer) : Event.told? ⟨slot, call, result⟩ = none := by
  cases call with
  | mechanisms => exact (h rfl).elim
  | _ => rfl

theorem tellings_of_call {site after : Site δ ς} {slot : SlotIdentifier} {call : Call ς}
    {result : Except Error call.Answer}
    (hcall : (device.call slot call).run site = (result, after))
    (huntold : Event.told? ⟨slot, call, result⟩ = none) (other : SlotIdentifier) :
    tellings other after.events = tellings other site.events := by
  rw [ManagedSlot.events_of_call hcall, tellings_snoc_untold huntold]

theorem ManagedSlot.Move.tellings_cases {x y : Scene δ ς} (h : Move device config x y) :
    (y.state.1.mechanisms = x.state.1.mechanisms ∧
      ∀ slot, tellings slot y.state.2.events = tellings slot x.state.2.events) ∨
    ∃ told, x.state.1.mechanisms = none ∧
      y.state.1.mechanisms = some (Mechanism.sorted told) ∧
      y.state.2.events = x.state.2.events ++ [⟨x.state.1.slot, .mechanisms, .ok told⟩] := by
  cases h with
  | lend | giveBack | handles | salts | warn => exact Or.inl ⟨rfl, fun _ => rfl⟩
  | told hunknown hcall => exact Or.inr ⟨_, hunknown, rfl, ManagedSlot.events_of_call hcall⟩
  | opened _ _ hcall | notOpened _ _ hcall | untold _ hcall =>
    exact Or.inl ⟨rfl, tellings_of_call hcall rfl⟩
  | discard | findKey | publicKey => exact Or.inl ⟨rfl, tellings_of_call rfl rfl⟩
  | sign call hsession hsigning =>
    refine Or.inl ⟨rfl, tellings_of_call rfl (told?_eq_none ?_ _)⟩
    rintro rfl
    cases hsigning

def ToldOnce (events : List (Event ς)) : Prop :=
  ∀ slot, (tellings slot events).length ≤ 1

def Remembers (scene : Scene δ ς) : Prop :=
  (tellings scene.state.1.slot scene.state.2.events).map Mechanism.sorted =
    scene.state.1.mechanisms.toList

theorem steady_remembers (device : Device δ ς) (config : ModuleConfig) :
    Steady device config (fun site => ToldOnce site.events) Remembers where
  site {x y} hmove hx hsite := by
    intro slot
    rcases hmove.tellings_cases with ⟨-, hsame⟩ | ⟨told, hunknown, -, hevents⟩
    · rw [hsame]
      exact hsite slot
    · rw [Remembers, hunknown] at hx
      have hnone : tellings x.state.1.slot x.state.2.events = [] := List.map_eq_nil_iff.mp hx
      rw [hevents]
      by_cases hslot : x.state.1.slot = slot
      · subst hslot
        rw [tellings_snoc_same, hnone]
        rfl
      · rw [tellings_snoc_other hslot]
        exact hsite slot
  move {x y} hmove hx := by
    have hslot : y.state.1.slot = x.state.1.slot := Moves.slot_eq (.single hmove)
    unfold Remembers at hx ⊢
    rw [hslot]
    rcases hmove.tellings_cases with ⟨hmechanisms, hsame⟩ | ⟨told, hunknown, htold, hevents⟩
    · rw [hsame, hmechanisms]
      exact hx
    · rw [hevents, tellings_snoc_same, List.map_append, hx, hunknown, htold]
      rfl
  beside {x y other lent} hmove _ hother hP := by
    unfold Remembers at hP ⊢
    rcases hmove.tellings_cases with ⟨-, hsame⟩ | ⟨told, -, -, hevents⟩
    · rw [hsame]
      exact hP
    · simp only [hevents]
      rw [tellings_snoc_other hother.symm]
      exact hP
  perm _ hP := hP

theorem keeps_toldOnce {slot : SlotIdentifier} {call : Call ς} (hcall : call ≠ .mechanisms) :
    Action.Keeps (fun site => ToldOnce site.events) (device.call slot call) := by
  intro site hsite other
  rcases hrun : (device.call slot call).run site with ⟨result, after⟩
  have hsame := tellings_of_call hrun (told?_eq_none hcall result) other
  exact hsame ▸ hsite other

theorem keeps_untold {slot : SlotIdentifier} {call : Call ς} (hcall : call ≠ .mechanisms) :
    Action.Keeps (fun site => ∀ slot, tellings slot site.events = []) (device.call slot call) := by
  intro site hsite other
  rcases hrun : (device.call slot call).run site with ⟨result, after⟩
  have hsame := tellings_of_call hrun (told?_eq_none hcall result) other
  exact hsame ▸ hsite other

theorem admits_untold (device : Device δ ς) (slot : SlotIdentifier) :
    ManagedSlot.Admits device slot (fun site => ∀ slot, tellings slot site.events = [])
      fun _ _ => True where
  opens readWrite _ hsite := by
    have hopening : Call.openSession readWrite ≠ (.mechanisms : Call ς) := by simp
    exact ⟨keeps_untold hopening _ hsite, fun _ _ => trivial⟩
  logsIn session user pin := by
    intro site hsite
    have hlogin : Call.login session user pin ≠ .mechanisms := by simp
    exact ⟨keeps_untold hlogin _ hsite.1, trivial⟩
  closes _ := keeps_untold (by simp)

namespace Client

variable {resolver : PasswordResolver} {salts : SlotIdentifier → Entropy} {ids : List UInt64}

theorem remembers_build {m : TokenModule ς} {tokens : δ} {site : Site δ ς}
    (hbuild : (TokenModule.build device config resolver salts ids).run ⟨tokens, [], []⟩ =
      (.ok m, site)) :
    Throughout config (fun site => ToldOnce site.events) Remembers ⟨m, site, [], [], []⟩ := by
  have hfresh := TokenModule.fresh_takeSlots (TokenModule.fresh_start config) hbuild
  have hquiet : ∀ slot, tellings slot
      ((TokenModule.build device config resolver salts ids).run ⟨tokens, [], []⟩).2.events = [] :=
    TokenModule.keeps_takeSlots (fun slot _ => admits_untold device slot) _
      (TokenModule.fresh_start config) ⟨tokens, [], []⟩ fun _ => rfl
  rw [hbuild] at hquiet
  refine ⟨List.nodup_nil, hfresh.config_eq, ?_, hfresh.apart, ?_⟩
  · intro slot
    rw [hquiet slot]
    exact Nat.zero_le 1
  · intro managed hmanaged
    simp only [Remembers, hquiet, hfresh.unasked managed hmanaged]
    rfl

structure Gated (device : Device δ ς) (config : ModuleConfig) (x : ManagedSlot ς × Site δ ς) :
    Prop where
  known (told : List Mechanism) (htold : ⟨x.1.slot, .mechanisms, .ok told⟩ ∈ x.2.events) :
    Decided device config told x
  unknown (huntold : ∀ told, ⟨x.1.slot, .mechanisms, .ok told⟩ ∉ x.2.events) :
    Undecided device config x
  denied (mechanism : Mechanism) (hdenied : config.allows x.1.slot mechanism = false) :
    (ManagedSlot.supports device config mechanism).run x = (.ok false, x) ∧
    ∀ object parameters data,
      (ManagedSlot.sign device config object mechanism parameters data).run x =
        (.error (.mechanismNotPermitted x.1.slot mechanism), x)

theorem gated_of_remembers {x : ManagedSlot ς × Site δ ς} {lent : List ς}
    (honce : ToldOnce x.2.events) (hx : Remembers ⟨x, lent⟩) : Gated device config x := by
  unfold Remembers at hx
  refine ⟨?_, ?_, ?_⟩
  · intro told htold
    have hmem : told ∈ tellings x.1.slot x.2.events := mem_tellings.mpr htold
    have hone : tellings x.1.slot x.2.events = [told] := by
      obtain ⟨only, honly⟩ := List.length_eq_one_iff.mp
        ((honce x.1.slot).antisymm (List.length_pos_of_mem hmem))
      rw [honly] at hmem ⊢
      rw [List.mem_singleton.mp hmem]
    refine ManagedSlot.decided_of_known (Option.mem_toList.mp ?_)
    rw [← hx, hone]
    exact List.mem_singleton_self _
  · intro huntold
    have hnone : tellings x.1.slot x.2.events = [] :=
      List.eq_nil_iff_forall_not_mem.mpr fun told hmem => huntold told (mem_tellings.mp hmem)
    refine ManagedSlot.undecided_of_unknown ?_
    rw [hnone] at hx
    exact Option.toList_eq_nil_iff.mp hx.symm
  · intro mechanism hdenied
    refine ⟨ManagedSlot.run_supports_denied hdenied, ?_⟩
    intro object parameters data
    exact ManagedSlot.run_sign_denied hdenied

structure ByTellings (device : Device δ ς) (config : ModuleConfig) (client : Client δ ς) :
    Prop where
  once : ToldOnce client.site.events
  closed : ToldOnce ((close device).run client).2.site.events
  gated : ∀ managed ∈ client.tokens.managed, Gated device config (managed, client.site)

theorem goes_by_tellings {m : TokenModule ς} {tokens : δ} {site : Site δ ς}
    (hbuild : (TokenModule.build device config resolver salts ids).run ⟨tokens, [], []⟩ =
      (.ok m, site)) (requests : List Request) :
    ByTellings device config (after device ⟨m, site, [], [], []⟩ requests) := by
  have hlasting := (steady_remembers device config).lasting
  have hafter := throughout_after hlasting requests (remembers_build hbuild)
  refine ⟨hafter.slots.device, ?_, ?_⟩
  · exact site_close hlasting (fun _ session => keeps_toldOnce (by simp)) hafter
  · intro managed hmanaged
    exact gated_of_remembers hafter.slots.device (hafter.slots.each managed hmanaged)

theorem goes_by_tellings_after_a_failure :
    let salts : SlotIdentifier → Entropy := fun _ => ⟨fun _ => .ok 0, 0⟩
    let busy : Error := .reported .token "busy"
    let token : Rehearsal.Token := { Rehearsal.token with faults := [⟨.mechanisms, some 1, busy⟩] }
    let m : TokenModule Nat :=
      ⟨Rehearsal.config, [⟨⟨0, 7⟩, .start 1, none, .empty, none, salts ⟨0, 7⟩⟩], [⟨1, 8⟩]⟩
    let site : Site (List Rehearsal.Token) Nat := ⟨[token, Rehearsal.token], [], []⟩
    let requests : List Request := [.onSlot 0 (.supports .rsaRaw), .onSlot 0 (.supports .rsaPkcs),
      .onSlot 0 (.sign 1 .rsaPkcs none [1]), .onSlot 0 (.sign 1 .rsaPss none [1]),
      .onSlot 0 (.supports .rsaPkcs)]
    let client := after Rehearsal.device ⟨m, site, [], [], []⟩ requests
    (TokenModule.build Rehearsal.device Rehearsal.config (.ofTable []) salts [7, 8]).run site =
      (.ok m, site) ∧
    (client.site.events.map fun event => (event.call.signing?, error? event.result)) =
      [(none, some busy), (none, none), (none, none), (some .rsaPkcs, none)] ∧
    tellings ⟨0, 7⟩ client.site.events = [[.rsaPkcs, .rsaRaw]] ∧
    ByTellings Rehearsal.device Rehearsal.config client := by
  intro salts busy token m site requests client
  have hbuild : (TokenModule.build Rehearsal.device Rehearsal.config (.ofTable []) salts
      [7, 8]).run site = (.ok m, site) := rfl
  refine ⟨hbuild, ?_, ?_, goes_by_tellings hbuild requests⟩
  · decide +kernel
  · decide +kernel

end Client

end TokenSigner
