import TokenSigner.Proofs.ManagedSlot.Books
import TokenSigner.Proofs.ManagedSlot.Mirrored

namespace TokenSigner

open TokenSigner.Action (Mirrors)

variable {δ ς τ α : Type}

structure Device.Independent (device : Device δ ς) (part : SlotIdentifier → δ → τ)
    (slots : List SlotIdentifier) : Prop where
  here {slot : SlotIdentifier} (hslot : slot ∈ slots) (call : Call ς) {before before' : δ}
    (hpart : part slot before = part slot before') :
    (device.ask slot call before).result = (device.ask slot call before').result ∧
      part slot (device.ask slot call before).device =
        part slot (device.ask slot call before').device
  beside {slot other : SlotIdentifier} (hslot : slot ∈ slots) (hmember : other ∈ slots)
    (hother : other ≠ slot) (call : Call ς) (before : δ) :
    part other (device.ask slot call before).device = part other before

namespace ManagedSlot

structure Alike (part : SlotIdentifier → δ → τ) (x y : ManagedSlot ς × Site δ ς) : Prop where
  managed : x.1 = y.1
  token : part x.1.slot x.2.device = part x.1.slot y.2.device
  calls : Event.on x.1.slot x.2.events = Event.on x.1.slot y.2.events

structure Spares (part : SlotIdentifier → δ → τ) (slots : List SlotIdentifier)
    (x y : ManagedSlot ς × Site δ ς) : Prop where
  slot_eq : y.1.slot = x.1.slot
  token : ∀ other ∈ slots, other ≠ x.1.slot → part other y.2.device = part other x.2.device
  calls : ∀ other, other ≠ x.1.slot → Event.on other y.2.events = Event.on other x.2.events

def pact (part : SlotIdentifier → δ → τ) (slots : List SlotIdentifier) :
    Pact (ManagedSlot ς × Site δ ς) where
  fits x := x.1.slot ∈ slots
  alike := Alike part
  spares := Spares part slots
  refl _ := ⟨rfl, fun _ _ _ => rfl, fun _ _ => rfl⟩
  trans {s t u} hfirst hnext := by
    refine ⟨hnext.slot_eq.trans hfirst.slot_eq, ?_, ?_⟩
    · intro other hmember hother
      have hlater : other ≠ t.1.slot := by rwa [hfirst.slot_eq]
      exact (hnext.token other hmember hlater).trans (hfirst.token other hmember hother)
    · intro other hother
      have hlater : other ≠ t.1.slot := by rwa [hfirst.slot_eq]
      exact (hnext.calls other hlater).trans (hfirst.calls other hother)

abbrev Local (part : SlotIdentifier → δ → τ) (slots : List SlotIdentifier) (work : Work δ ς α) :
    Prop :=
  Mirrors (pact part slots) work

variable {device : Device δ ς} {part : SlotIdentifier → δ → τ} {slots : List SlotIdentifier}
  {managed next : ManagedSlot ς} {site site' last last' : Site δ ς}

theorem kept_quiet (hmem : managed.slot ∈ slots)
    (halike : Alike part (managed, site) (managed, site')) (answer : Except Error α)
    (hslot : next.slot = managed.slot)
    (hlast : last.device = site.device ∧ last.events = site.events)
    (hlast' : last'.device = site'.device ∧ last'.events = site'.events) :
    (pact part slots).Kept (managed, site) (managed, site') (answer, next, last)
      (answer, next, last') := by
  obtain ⟨-, htoken, hcalls⟩ := halike
  have hnext : next.slot ∈ slots := hslot ▸ hmem
  refine ⟨rfl, hnext, ⟨rfl, ?_, ?_⟩, ⟨hslot, ?_, ?_⟩, ⟨hslot, ?_, ?_⟩⟩
  · simpa only [hslot, hlast.1, hlast'.1] using htoken
  · simpa only [hslot, hlast.2, hlast'.2] using hcalls
  · simp [hlast.1]
  · simp [hlast.2]
  · simp [hlast'.1]
  · simp [hlast'.2]

theorem spares_call (hdevice : device.Independent part slots) (hmem : managed.slot ∈ slots)
    (call : Call ς) :
    Spares part slots (managed, site) (managed, ((device.call managed.slot call).run site).2) where
  slot_eq := rfl
  token other hmember hother := hdevice.beside hmem hmember hother call site.device
  calls other hother := by
    have hevents := events_of_call (Prod.eta ((device.call managed.slot call).run site)).symm
    have hapart : Event.on other [(⟨managed.slot, call,
        ((device.call managed.slot call).run site).1⟩ : Event ς)] = [] := by
      apply Event.on_eq_nil _ hother
      simp
    rw [hevents, Event.on_append, hapart, List.append_nil]

theorem kept_call (hdevice : device.Independent part slots) (hmem : managed.slot ∈ slots)
    (call : Call ς) (halike : Alike part (managed, site) (managed, site')) :
    (pact part slots).Kept (managed, site) (managed, site')
      ((ask device call).run (managed, site)) ((ask device call).run (managed, site')) := by
  obtain ⟨-, htoken, hcalls⟩ := halike
  obtain ⟨hresult, hpart⟩ := hdevice.here hmem call htoken
  have hsame : ((device.call managed.slot call).run site).1 =
      ((device.call managed.slot call).run site').1 := hresult
  refine ⟨hsame, hmem, ⟨rfl, hpart, ?_⟩, spares_call hdevice hmem call,
    spares_call hdevice hmem call⟩
  have hevents := events_of_call (Prod.eta ((device.call managed.slot call).run site)).symm
  have hevents' := events_of_call (Prod.eta ((device.call managed.slot call).run site')).symm
  dsimp only [ask, Action.run] at hcalls hevents hevents' ⊢
  rw [hevents, hevents', Event.on_append, Event.on_append, hcalls]
  exact congrArg (fun result => _ ++ Event.on managed.slot [⟨managed.slot, call, result⟩]) hsame

theorem honored_of_independent (hdevice : device.Independent part slots) :
    Honored device (pact part slots) where
  managed halike := halike.managed
  update {f} hslot := by
    rintro ⟨managed, site⟩ ⟨managed', site'⟩ hmem halike
    obtain rfl : managed = managed' := halike.managed
    exact kept_quiet hmem halike (.ok ()) (hslot managed) ⟨rfl, rfl⟩ ⟨rfl, rfl⟩
  ask call _ := by
    rintro ⟨managed, site⟩ ⟨managed', site'⟩ hmem halike
    obtain rfl : managed = managed' := halike.managed
    exact kept_call hdevice hmem call halike
  warn _ := by
    rintro ⟨managed, site⟩ ⟨managed', site'⟩ hmem halike
    obtain rfl : managed = managed' := halike.managed
    exact kept_quiet hmem halike (.ok ()) rfl ⟨rfl, rfl⟩ ⟨rfl, rfl⟩

end ManagedSlot

end TokenSigner
