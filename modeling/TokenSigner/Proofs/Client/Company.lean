import TokenSigner.Proofs.Client.Parties
import TokenSigner.Rehearsal.Setting

namespace TokenSigner.Client

open TokenModule (SameTo)

variable {δ ς τ ι α : Type} {device : Device δ ς} {owner : SlotIdentifier → ι}
  {part : SlotIdentifier → δ → τ} {layout : Layout} {party : ι}

structure Alike (owner : SlotIdentifier → ι) (part : SlotIdentifier → δ → τ) (party : ι)
    (x y : Client δ ς) : Prop where
  world : SameTo owner part party (x.tokens, x.site) (y.tokens, y.site)
  held : x.holdings = y.holdings

structure Company (ι δ ς : Type) where
  world : TokenModule ς × Site δ ς
  held : ι → Holdings ς

def answers (device : Device δ ς) (client : Client δ ς) :
    List Request → List (Except Error Response)
  | [] => []
  | request :: rest =>
    let (answer, client) := (perform device request).run client
    answer :: answers device client rest

namespace Company

def client (company : Company ι δ ς) (party : ι) : Client δ ς :=
  holding company.world (company.held party)

variable [DecidableEq ι]

def settle (party : ι) (client : Client δ ς) (company : Company ι δ ς) : Company ι δ ς :=
  ⟨(client.tokens, client.site), Function.update company.held party client.holdings⟩

def serve (device : Device δ ς) (party : ι) (request : Request) :
    Action (Company ι δ ς) Response :=
  (perform device request).on (·.client party) (settle party)

def play (device : Device δ ς) (company : Company ι δ ς) :
    List (ι × Request) → List (ι × Except Error Response) × Company ι δ ς
  | [] => ([], company)
  | (party, request) :: rest =>
    let (answer, company) := (serve device party request).run company
    let (answers, company) := play device company rest
    ((party, answer) :: answers, company)

def share (party : ι) (turns : List (ι × α)) : List α :=
  (turns.filter (·.1 = party)).map (·.2)

@[simp] theorem share_nil (party : ι) : share party ([] : List (ι × α)) = [] := rfl

theorem share_cons_self (party : ι) (x : α) (turns : List (ι × α)) :
    share party ((party, x) :: turns) = x :: share party turns := by
  simp [share]

theorem share_cons_of_ne {party other : ι} (h : other ≠ party) (x : α) (turns : List (ι × α)) :
    share party ((other, x) :: turns) = share party turns := by
  simp [share, h]

structure Stands (owner : SlotIdentifier → ι) (part : SlotIdentifier → δ → τ) (layout : Layout)
    (company : Company ι δ ς) (alone : ι → Client δ ς) : Prop where
  layout_eq : company.world.1.layout = layout
  held : ∀ party, (company.held party).Of owner party
  alike : ∀ party, Alike owner part party (company.client party) (alone party)

variable {company : Company ι δ ς} {alone : ι → Client δ ς}

theorem stands_serve (hdevice : device.Independent part layout.slots) {request : Request}
    (hown : request.Of owner layout party) (h : Stands owner part layout company alone) :
    ((serve device party request).run company).1 =
        ((perform device request).run (alone party)).1 ∧
      Stands owner part layout ((serve device party request).run company).2
        (Function.update alone party ((perform device request).run (alone party)).2) := by
  have hbefore := h.alike party
  have hkept := private_perform (TokenModule.honored_of_independent hdevice) hown
    (company.client party) (alone party) ⟨h.layout_eq, h.held party⟩ ⟨hbefore.world, hbefore.held⟩
  rcases hserve : (perform device request).run (company.client party) with ⟨answer, client⟩
  rcases halone : (perform device request).run (alone party) with ⟨answer', client'⟩
  have hrun : (serve device party request).run company = (answer, settle party client company) := by
    unfold serve
    rw [Action.run_on, hserve]
  rw [hserve, halone] at hkept
  rw [hrun]
  obtain ⟨hresult, ⟨hlayout, hheld⟩, halike, hspares, -⟩ := hkept
  refine ⟨hresult, hlayout, ?_, ?_⟩
  · intro other
    by_cases hother : other = party
    · subst hother
      simpa [settle] using hheld
    · simpa [settle, hother] using h.held other
  · intro other
    by_cases hother : other = party
    · subst hother
      -- The party that is served holds what its own run has left it with.
      have hclient : (settle other client company).client other = client := by
        simp [settle, Company.client, holding, holdings]
      rw [hclient, Function.update_self]
      exact ⟨halike.1, halike.2⟩
    · -- All others hold what they held, at a module that still looks the same to them.
      have hclient : (settle party client company).client other =
          holding (client.tokens, client.site) (company.held other) := by
        simp [settle, Company.client, hother]
      rw [hclient, Function.update_of_ne hother]
      have hbefore := h.alike other
      exact ⟨(hspares other hother).symm.trans hbefore.world, hbefore.held⟩

theorem stands_play (hdevice : device.Independent part layout.slots)
    (turns : List (ι × Request)) (hown : ∀ turn ∈ turns, turn.2.Of owner layout turn.1)
    (h : Stands owner part layout company alone) (party : ι) :
    share party (play device company turns).1 =
        answers device (alone party) (share party turns) ∧
      Alike owner part party ((play device company turns).2.client party)
        (after device (alone party) (share party turns)) := by
  induction turns generalizing company alone with
  | nil => exact ⟨rfl, h.alike party⟩
  | cons turn rest ih =>
    obtain ⟨who, request⟩ := turn
    obtain ⟨hanswer, hnext⟩ := stands_serve hdevice (hown (who, request) (by simp)) h
    obtain ⟨hanswers, halike⟩ := ih (fun turn hturn => hown turn (by simp [hturn])) hnext
    -- A turn of another party is none of its own, alone or in company.
    by_cases hparty : who = party
    · subst hparty
      rw [Function.update_self] at hanswers halike
      unfold play
      rw [share_cons_self, share_cons_self, hanswers, hanswer]
      exact ⟨rfl, halike⟩
    · rw [Function.update_of_ne (Ne.symm hparty)] at hanswers halike
      unfold play
      rw [share_cons_of_ne hparty, share_cons_of_ne hparty]
      exact ⟨hanswers, halike⟩

theorem play_apart {m : TokenModule ς} {site : Site δ ς}
    (hdevice : device.Independent part m.slots) (turns : List (ι × Request))
    (hown : ∀ turn ∈ turns, turn.2.Of owner m.layout turn.1) (party : ι) :
    share party (play device ⟨(m, site), fun _ => {}⟩ turns).1 =
        answers device ⟨m, site, [], [], []⟩ (share party turns) ∧
      Alike owner part party ((play device ⟨(m, site), fun _ => {}⟩ turns).2.client party)
        (after device ⟨m, site, [], [], []⟩ (share party turns)) := by
  have hstart : Stands owner part m.layout (⟨(m, site), fun _ => {}⟩ : Company ι δ ς)
      fun _ => ⟨m, site, [], [], []⟩ :=
    ⟨rfl, holdings_of_nothing owner, fun _ => ⟨.refl _, rfl⟩⟩
  exact stands_play hdevice turns hown hstart party

theorem independent_rehearsal {slots : List SlotIdentifier}
    (hslots : ∀ slot ∈ slots, ∀ other ∈ slots, slot.index = other.index → slot = other) :
    Rehearsal.device.Independent (fun slot tokens => tokens[slot.index]?) slots where
  here {slot} _ call before before' hpart := by
    unfold Rehearsal.device
    dsimp only at hpart ⊢
    rw [← hpart]
    cases htoken : before[slot.index]? with
    | none => exact ⟨rfl, by rw [htoken, ← hpart, htoken]⟩
    | some token =>
      have hbound : slot.index < before.length := (List.getElem?_eq_some_iff.mp htoken).1
      have hbound' : slot.index < before'.length :=
        (List.getElem?_eq_some_iff.mp (hpart.symm.trans htoken)).1
      refine ⟨rfl, ?_⟩
      simp [hbound, hbound']
  beside {slot other} hslot hmember hother call before := by
    have hindex : slot.index ≠ other.index := by
      intro hsame
      exact hother (hslots slot hslot other hmember hsame).symm
    unfold Rehearsal.device
    dsimp only
    cases htoken : before[slot.index]? with
    | none => rfl
    | some token => exact List.getElem?_set_ne hindex

theorem play_apart_of_two :
    let salts : Entropy := ⟨fun _ => .ok 0, 0⟩
    let config : ModuleConfig := { Rehearsal.config with excludeSlots := [] }
    let m : TokenModule Nat := ⟨config, [⟨⟨0, 7⟩, .start 1, none, .empty, none, salts⟩,
      ⟨⟨1, 8⟩, .start 1, none, .empty, none, salts⟩], []⟩
    let site : Site (List Rehearsal.Token) Nat := ⟨[Rehearsal.token, Rehearsal.token], [], []⟩
    let turns : List (Bool × Request) :=
      [(false, .openKey "signing" ⟨0, 7⟩ (.label "signing")), (true, .borrow "only" 1),
        (false, .onKey "signing" (.sign .rsaPkcs none [1])),
        (true, .openKey "signing" ⟨1, 8⟩ (.label "signing"))]
    ((play Rehearsal.device ⟨(m, site), fun _ => {}⟩ turns).1.map
      fun turn => (turn.1, turn.2.isOk)) =
        [(false, true), (true, true), (false, true), (true, false)] ∧
    ∀ party, share party (play Rehearsal.device ⟨(m, site), fun _ => {}⟩ turns).1 =
      answers Rehearsal.device ⟨m, site, [], [], []⟩ (share party turns) := by
  intro salts config m site turns
  have hdevice : Rehearsal.device.Independent (fun slot tokens => tokens[slot.index]?) m.slots := by
    apply independent_rehearsal
    decide
  have hown : ∀ turn ∈ turns, turn.2.Of (fun slot => slot.index == 1) m.layout turn.1 := by
    simp only [turns, List.forall_mem_cons, List.not_mem_nil, false_imp_iff, implies_true, and_true]
    refine ⟨?_, ?_, ?_, ?_⟩
    · rintro slot hslot
      cases hslot
      rfl
    · rintro slot hslot
      cases hslot
      rfl
    · rintro slot hslot
      cases hslot
    · rintro slot hslot
      cases hslot
      rfl
  refine ⟨by decide +kernel, fun party => ?_⟩
  exact (play_apart hdevice turns hown party).1

end Company

end TokenSigner.Client
