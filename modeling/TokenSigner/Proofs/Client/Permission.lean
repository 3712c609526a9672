import TokenSigner.Proofs.Client.Throughout
import TokenSigner.Proofs.TokenModule.Construction
import TokenSigner.Rehearsal.Setting

namespace TokenSigner

open ManagedSlot (Scene Move)

variable {δ ς : Type} {device : Device δ ς} {config : ModuleConfig}

structure Grants (config : ModuleConfig) (before : List (Event ς)) (event : Event ς) : Prop where
  included : config.includes event.slot = true
  signing : ∀ mechanism, event.call.signing? = some mechanism →
    config.allows event.slot mechanism = true ∧
    ∃ told, (⟨event.slot, .mechanisms, .ok told⟩ : Event ς) ∈ before ∧ mechanism ∈ told

def Permitted (config : ModuleConfig) (events : List (Event ς)) : Prop :=
  ∀ before event after, events = before ++ event :: after → Grants config before event

theorem permitted_nil (config : ModuleConfig) : Permitted config ([] : List (Event ς)) := by
  intro before event after hsplit
  simp at hsplit

theorem Permitted.append {events : List (Event ς)} (h : Permitted config events)
    {event : Event ς} (hevent : Grants config events event) :
    Permitted config (events ++ [event]) :=
  forall_split_snoc h hevent

structure Guarded (config : ModuleConfig) (scene : Scene δ ς) : Prop where
  included : config.includes scene.state.1.slot = true
  told : ∀ known, scene.state.1.mechanisms = some known →
    ∃ answer, known = Mechanism.sorted answer ∧
      ⟨scene.state.1.slot, .mechanisms, .ok answer⟩ ∈ scene.state.2.events

theorem Move.events_subset {x y : Scene δ ς} (hmove : Move device config x y) :
    x.state.2.events ⊆ y.state.2.events := by
  rcases hmove.events_cases with hsame | ⟨event, hevents, -⟩
  · rw [hsame]
    exact List.Subset.refl _
  · rw [hevents]
    exact List.subset_append_left _ _

theorem steady_guarded (device : Device δ ς) (config : ModuleConfig) :
    Steady device config (fun site => Permitted config site.events) (Guarded config) where
  site {x y} hmove hx hsite := by
    rcases hmove.events_cases with hsame | ⟨event, hevents, hslot, hsigning⟩
    · rw [hsame]
      exact hsite
    · rw [hevents]
      refine hsite.append ⟨hslot ▸ hx.included, ?_⟩
      intro mechanism hmechanism
      obtain ⟨hallowed, known, hknown, hmem⟩ := hsigning mechanism hmechanism
      obtain ⟨answer, rfl, htold⟩ := hx.told known hknown
      rw [hslot]
      exact ⟨hallowed, answer, htold, Mechanism.mem_sorted.mp hmem⟩
  move {x y} hmove hx := by
    have hslot : y.state.1.slot = x.state.1.slot := ManagedSlot.Moves.slot_eq (.single hmove)
    refine ⟨hslot ▸ hx.included, ?_⟩
    intro known hknown
    rw [hslot]
    rcases hmove.mechanisms_cases with hsame | ⟨answer, htold, hevent⟩
    · obtain ⟨answer, hsorted, hevent⟩ := hx.told known (hsame ▸ hknown)
      exact ⟨answer, hsorted, Move.events_subset hmove hevent⟩
    · rw [htold] at hknown
      cases hknown
      exact ⟨answer, rfl, hevent⟩
  beside hmove _ _ hP := by
    refine ⟨hP.included, ?_⟩
    intro known hknown
    obtain ⟨answer, hsorted, hevent⟩ := hP.told known hknown
    exact ⟨answer, hsorted, Move.events_subset hmove hevent⟩
  perm _ hP := ⟨hP.included, hP.told⟩

theorem lasting_guarded (device : Device δ ς) (config : ModuleConfig) :
    Lasting device config (fun site => Permitted config site.events) (Guarded config) :=
  (steady_guarded device config).lasting

theorem keeps_permitted_call {slot : SlotIdentifier} (hincluded : config.includes slot = true)
    (call : Call ς) (hcall : call.signing? = none) :
    Action.Keeps (fun site => Permitted config site.events) (device.call slot call) := by
  intro site hsite
  refine Permitted.append hsite ⟨hincluded, ?_⟩
  intro mechanism hsigning
  rw [hcall] at hsigning
  cases hsigning

namespace Client

variable {resolver : PasswordResolver} {salts : SlotIdentifier → Entropy} {ids : List UInt64}

theorem keeps_permitted_build :
    Action.Keeps (fun site => Permitted config site.events)
      (TokenModule.build device config resolver salts ids) :=
  TokenModule.keeps_takeSlots
    (fun _ hincluded => ManagedSlot.admits_of_keeps (keeps_permitted_call hincluded)) _
    (TokenModule.fresh_start config)

theorem throughout_build {m : TokenModule ς} {tokens : δ} {site : Site δ ς}
    (hbuild : (TokenModule.build device config resolver salts ids).run ⟨tokens, [], []⟩ =
      (.ok m, site)) :
    Throughout config (fun site => Permitted config site.events) (Guarded config)
      ⟨m, site, [], [], []⟩ := by
  have hfresh := TokenModule.fresh_takeSlots (TokenModule.fresh_start config) hbuild
  have hpermitted : Permitted config
      ((TokenModule.build device config resolver salts ids).run ⟨tokens, [], []⟩).2.events :=
    keeps_permitted_build ⟨tokens, [], []⟩ (permitted_nil config)
  rw [hbuild] at hpermitted
  refine ⟨List.nodup_nil, hfresh.config_eq, hpermitted, hfresh.apart, ?_⟩
  intro managed hmanaged
  refine ⟨hfresh.included managed hmanaged, ?_⟩
  intro known hknown
  rw [hfresh.unasked managed hmanaged] at hknown
  cases hknown

theorem permitted_close {client : Client δ ς}
    (hclient : Throughout config (fun site => Permitted config site.events) (Guarded config)
      client) : Permitted config ((close device).run client).2.site.events := by
  refine site_close (lasting_guarded device config) (fun hP session => ?_) hclient
  exact keeps_permitted_call hP.included (.close session) rfl

theorem calls_permitted {m : TokenModule ς} {tokens : δ} {site : Site δ ς}
    (hbuild : (TokenModule.build device config resolver salts ids).run ⟨tokens, [], []⟩ =
      (.ok m, site)) (requests : List Request) :
    Permitted config (after device ⟨m, site, [], [], []⟩ requests).site.events ∧
    Permitted config
      ((close device).run (after device ⟨m, site, [], [], []⟩ requests)).2.site.events := by
  have hclient := throughout_build hbuild
  have hafter := throughout_after (lasting_guarded device config) requests hclient
  exact ⟨hafter.slots.device, permitted_close hafter⟩

theorem calls_permitted_in_a_run :
    let salts : SlotIdentifier → Entropy := fun _ => ⟨fun _ => .ok 0, 0⟩
    let m : TokenModule Nat :=
      ⟨Rehearsal.config, [⟨⟨0, 7⟩, .start 1, none, .empty, none, salts ⟨0, 7⟩⟩], [⟨1, 8⟩]⟩
    let site : Site (List Rehearsal.Token) Nat := ⟨[Rehearsal.token, Rehearsal.token], [], []⟩
    let requests : List Request := [.openKey "signing" ⟨0, 7⟩ (.label "signing"),
      .onKey "signing" (.sign .rsaPkcs none [1]), .onKey "signing" (.sign .rsaRaw none [1])]
    let events := (after Rehearsal.device ⟨m, site, [], [], []⟩ requests).site.events
    (TokenModule.build Rehearsal.device Rehearsal.config (.ofTable []) salts [7, 8]).run site =
      (.ok m, site) ∧
    (events.map fun event => (event.slot.index, event.call.signing?)) =
      [(0, none), (0, none), (0, none), (0, none), (0, some .rsaPkcs)] ∧
    Permitted Rehearsal.config events := by
  intro salts m site requests events
  have hbuild : (TokenModule.build Rehearsal.device Rehearsal.config (.ofTable []) salts
      [7, 8]).run site = (.ok m, site) := rfl
  refine ⟨hbuild, ?_, (calls_permitted hbuild requests).1⟩
  decide +kernel

end Client

end TokenSigner
