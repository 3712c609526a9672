import TokenSigner.Proofs.Client.Layout
import TokenSigner.Proofs.ManagedSlot.Local

namespace TokenSigner

open TokenSigner.Action (Mirrors)
open ManagedSlot (Local Work)

variable {δ ς τ ι α : Type}

def Layout.designated (layout : Layout) (wanted : SlotIdentifier → Bool) : Option SlotIdentifier :=
  match layout.excluded.find? wanted with
  | some _ => none
  | none => layout.slots.find? wanted

namespace TokenModule

def managed? (m : TokenModule ς) (slot : SlotIdentifier) : Option (ManagedSlot ς) :=
  m.managed.find? (·.slot == slot)

theorem find?_of_slots (slots : List (ManagedSlot ς)) (wanted : SlotIdentifier → Bool) :
    slots.find? (wanted ·.slot) =
      ((slots.map (·.slot)).find? wanted).bind fun slot => slots.find? (·.slot == slot) := by
  induction slots with
  | nil => rfl
  | cons first rest ih =>
    cases hfirst : wanted first.slot with
    | true => simp [hfirst]
    | false =>
      rw [List.find?_cons_of_neg (by simp [hfirst]), ih, List.map_cons,
        List.find?_cons_of_neg (by simp [hfirst])]
      cases hrest : (rest.map (·.slot)).find? wanted with
      | none => rfl
      | some slot =>
        have hwanted : wanted slot = true := List.find?_some hrest
        have hne : (first.slot == slot) = false := by
          rw [beq_eq_false_iff_ne]
          rintro rfl
          rw [hfirst] at hwanted
          cases hwanted
        simp [hne]

theorem find_eq (m : TokenModule ς) (wanted : SlotIdentifier → Bool) (missing : Error) :
    m.find wanted missing = match m.excluded.find? wanted with
      | some slot => .error (.slotExcluded slot)
      | none => match (m.slots.find? wanted).bind m.managed? with
        | some managed => .ok managed
        | none => .error missing := by
  unfold find
  rw [find?_of_slots]
  rfl

theorem designated_of_included {m : TokenModule ς} {wanted : SlotIdentifier → Bool}
    (h : m.excluded.find? wanted = none) :
    m.layout.designated wanted = m.slots.find? wanted := by
  unfold Layout.designated layout
  dsimp only
  rw [h]

theorem designated_of_find {m : TokenModule ς} {wanted : SlotIdentifier → Bool} {missing : Error}
    {managed : ManagedSlot ς} (h : m.find wanted missing = .ok managed) :
    m.layout.designated wanted = some managed.slot := by
  unfold find at h
  split at h
  · cases h
  · next hexcluded =>
    rw [designated_of_included hexcluded]
    split at h
    · next found hfound =>
      cases h
      unfold slots
      rw [List.find?_map, Function.comp_def, hfound]
      rfl
    · cases h

theorem managed?_replace (m : TokenModule ς) (managed : ManagedSlot ς) (slot : SlotIdentifier) :
    (m.replace managed).managed? slot =
      (m.managed? slot).map fun other => if other.slot = managed.slot then managed else other := by
  have hslots : (fun other : ManagedSlot ς =>
      (if other.slot = managed.slot then managed else other).slot == slot) =
        fun other => other.slot == slot := by
    funext other
    by_cases hsame : other.slot = managed.slot
    · simp [hsame]
    · simp [hsame]
  unfold managed? replace
  rw [List.find?_map]
  exact congrArg (fun wanted => (m.managed.find? wanted).map _) hslots

theorem slot_of_managed? {m : TokenModule ς} {slot : SlotIdentifier} {managed : ManagedSlot ς}
    (h : m.managed? slot = some managed) : managed.slot = slot := by
  simpa using List.find?_some h

structure SameTo (owner : SlotIdentifier → ι) (part : SlotIdentifier → δ → τ) (party : ι)
    (x y : TokenModule ς × Site δ ς) : Prop where
  layout : x.1.layout = y.1.layout
  managed : ∀ slot, owner slot = party → x.1.managed? slot = y.1.managed? slot
  token : ∀ slot ∈ x.1.slots, owner slot = party → part slot x.2.device = part slot y.2.device
  calls : ∀ slot, owner slot = party → Event.on slot x.2.events = Event.on slot y.2.events

variable {owner : SlotIdentifier → ι} {part : SlotIdentifier → δ → τ} {party : ι}
  {x y z : TokenModule ς × Site δ ς}

theorem SameTo.slots (h : SameTo owner part party x y) : x.1.slots = y.1.slots :=
  congrArg Layout.slots h.layout

theorem SameTo.refl (x : TokenModule ς × Site δ ς) : SameTo owner part party x x :=
  ⟨rfl, fun _ _ => rfl, fun _ _ _ => rfl, fun _ _ => rfl⟩

theorem SameTo.trans (h : SameTo owner part party x y) (h' : SameTo owner part party y z) :
    SameTo owner part party x z where
  layout := h.layout.trans h'.layout
  managed slot howner := (h.managed slot howner).trans (h'.managed slot howner)
  token slot hmem howner :=
    (h.token slot hmem howner).trans (h'.token slot (h.slots ▸ hmem) howner)
  calls slot howner := (h.calls slot howner).trans (h'.calls slot howner)

theorem SameTo.symm (h : SameTo owner part party x y) : SameTo owner part party y x where
  layout := h.layout.symm
  managed slot howner := (h.managed slot howner).symm
  token slot hmem howner := (h.token slot (h.slots.symm ▸ hmem) howner).symm
  calls slot howner := (h.calls slot howner).symm

theorem SameTo.find_eq (h : SameTo owner part party x y) {wanted : SlotIdentifier → Bool}
    (hown : ∀ slot, x.1.layout.designated wanted = some slot → owner slot = party)
    (missing : Error) : x.1.find wanted missing = y.1.find wanted missing := by
  have hexcluded : x.1.excluded = y.1.excluded := congrArg Layout.excluded h.layout
  rw [TokenModule.find_eq, TokenModule.find_eq, ← hexcluded, ← h.slots]
  cases hout : x.1.excluded.find? wanted with
  | some slot => rfl
  | none =>
    dsimp only
    cases hslot : x.1.slots.find? wanted with
    | none => rfl
    | some slot =>
      have hdesignated := (designated_of_included hout).trans hslot
      rw [Option.bind_some, Option.bind_some, h.managed slot (hown slot hdesignated)]

def pact (owner : SlotIdentifier → ι) (part : SlotIdentifier → δ → τ) (layout : Layout)
    (party : ι) : Pact (TokenModule ς × Site δ ς) where
  fits x := x.1.layout = layout
  alike := SameTo owner part party
  spares x y := ∀ other, other ≠ party → SameTo owner part other x y
  refl x _ _ := .refl x
  trans hfirst hnext other hother := (hfirst other hother).trans (hnext other hother)

theorem mem_slots_of_find {m : TokenModule ς} {wanted : SlotIdentifier → Bool} {missing : Error}
    {managed : ManagedSlot ς} (h : m.find wanted missing = .ok managed) : managed.slot ∈ m.slots :=
  mem_slots (mem_of_find h).1

section On

variable {layout : Layout} {wanted : SlotIdentifier → Bool} {missing : Error}
  {work : Work δ ς α}

theorem SameTo.replace (h : SameTo owner part party x y) {managed after after' : ManagedSlot ς}
    {site site' : Site δ ς}
    (halike : ManagedSlot.Alike part (after, site) (after', site'))
    (hspares : ManagedSlot.Spares part x.1.slots (managed, x.2) (after, site))
    (hspares' : ManagedSlot.Spares part y.1.slots (managed, y.2) (after', site')) :
    SameTo owner part party (x.1.replace after, site) (y.1.replace after', site') := by
  obtain rfl : after = after' := halike.managed
  have hslot : after.slot = managed.slot := hspares.slot_eq
  constructor
  · rw [layout_replace, layout_replace]
    exact h.layout
  · intro slot howner
    rw [managed?_replace, managed?_replace, h.managed slot howner]
  · intro slot hmem howner
    rw [slots_replace] at hmem
    by_cases hhere : slot = managed.slot
    · rw [hhere, ← hslot]
      exact halike.token
    · have hmem' : slot ∈ y.1.slots := h.slots ▸ hmem
      exact (hspares.token slot hmem hhere).trans
        ((h.token slot hmem howner).trans (hspares'.token slot hmem' hhere).symm)
  · intro slot howner
    by_cases hhere : slot = managed.slot
    · rw [hhere, ← hslot]
      exact halike.calls
    · exact (hspares.calls slot hhere).trans
        ((h.calls slot howner).trans (hspares'.calls slot hhere).symm)

theorem sameTo_replace {managed after : ManagedSlot ς} {site : Site δ ς} {other : ι}
    (hown : owner managed.slot ≠ other)
    (hspares : ManagedSlot.Spares part x.1.slots (managed, x.2) (after, site)) :
    SameTo owner part other x (x.1.replace after, site) := by
  have hslot : after.slot = managed.slot := hspares.slot_eq
  have hapart {slot : SlotIdentifier} (howner : owner slot = other) : slot ≠ managed.slot := by
    rintro rfl
    exact hown howner
  constructor
  · exact (layout_replace _ _).symm
  · intro slot howner
    rw [managed?_replace]
    cases hfound : x.1.managed? slot with
    | none => rfl
    | some found =>
      have hne : found.slot ≠ after.slot := by
        rw [slot_of_managed? hfound, hslot]
        exact hapart howner
      simp [hne]
  · intro slot hmem howner
    exact (hspares.token slot hmem (hapart howner)).symm
  · intro slot howner
    exact (hspares.calls slot (hapart howner)).symm

theorem mirrors_on (hwork : Local part layout.slots work)
    (hown : ∀ slot, layout.designated wanted = some slot → owner slot = party) :
    Mirrors (pact owner part layout party) (on (·.find wanted missing) work) := by
  rintro ⟨m, site⟩ ⟨m', site'⟩ hlayout hsame
  obtain rfl : m.layout = layout := hlayout
  have hslots : m.slots = m'.slots := hsame.slots
  have hfind := hsame.find_eq hown missing
  cases hfound : m.find wanted missing with
  | error e =>
    have hfound' : m'.find wanted missing = .error e := hfind.symm.trans hfound
    rw [run_on_error hfound, run_on_error hfound']
    exact ⟨rfl, rfl, hsame, fun _ _ => .refl _, fun _ _ => .refl _⟩
  | ok managed =>
    have hfound' : m'.find wanted missing = .ok managed := hfind.symm.trans hfound
    have howner := hown managed.slot (designated_of_find hfound)
    have hmem := mem_slots_of_find hfound
    have halike : ManagedSlot.Alike part (managed, site) (managed, site') :=
      ⟨rfl, hsame.token _ hmem howner, hsame.calls _ howner⟩
    have hkept := hwork (managed, site) (managed, site') hmem halike
    have hspares' : ManagedSlot.Spares part m'.slots (managed, site')
        (work.run (managed, site')).2 := hslots ▸ hkept.spares'
    rw [run_on_ok hfound, run_on_ok hfound']
    refine ⟨hkept.result, layout_replace _ _, ?_, ?_, ?_⟩
    · exact hsame.replace hkept.alike hkept.spares hspares'
    · intro other hother
      exact sameTo_replace (howner ▸ hother.symm) hkept.spares
    · intro other hother
      exact sameTo_replace (howner ▸ hother.symm) hspares'

end On

structure Honored (device : Device δ ς) (owner : SlotIdentifier → ι) (layout : Layout) (party : ι)
    (P : Pact (ManagedSlot ς × Site δ ς)) (W : Pact (TokenModule ς × Site δ ς)) : Prop where
  slots : ManagedSlot.Honored device P
  fits {x : TokenModule ς × Site δ ς} : W.fits x → x.1.layout = layout
  alike {x y : TokenModule ς × Site δ ς} : W.alike x y → x.1.layout = y.1.layout
  find_eq {x y : TokenModule ς × Site δ ς} {wanted : SlotIdentifier → Bool} : W.alike x y →
    (∀ slot, x.1.layout.designated wanted = some slot → owner slot = party) → ∀ missing,
    x.1.find wanted missing = y.1.find wanted missing
  on {α : Type} {work : Work δ ς α} {wanted : SlotIdentifier → Bool} {missing : Error} :
    Mirrors P work → (∀ slot, layout.designated wanted = some slot → owner slot = party) →
    Mirrors W (on (·.find wanted missing) work)

theorem honored_of_independent {device : Device δ ς} {layout : Layout}
    (hdevice : device.Independent part layout.slots) :
    Honored device owner layout party (ManagedSlot.pact part layout.slots)
      (pact owner part layout party) where
  slots := ManagedSlot.honored_of_independent hdevice
  fits hfits := hfits
  alike hsame := hsame.layout
  find_eq hsame hown missing := hsame.find_eq hown missing
  on hwork hown := mirrors_on hwork hown

end TokenModule

end TokenSigner
