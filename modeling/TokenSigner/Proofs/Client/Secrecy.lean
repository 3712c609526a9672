import TokenSigner.Proofs.Client.Company
import TokenSigner.Proofs.TokenModule.Secrecy

namespace TokenSigner

open TokenSigner.Action (Mirrors)

variable {δ ς ι α : Type} {device : Device δ ς} {same : δ → δ → Prop}
  {pins : SlotIdentifier → Bytes → Bytes → Prop}

namespace ManagedSlot

def secrecy (same : δ → δ → Prop) : Pact (ManagedSlot ς × Site δ ς) :=
  .ofAlike fun x y => x.1 = y.1 ∧ x.2.Akin same y.2

theorem honored_of_discreet (hdevice : device.Discreet pins same) :
    Honored device (secrecy same) where
  managed halike := halike.1
  update {f} _ := by
    rintro ⟨managed, site⟩ ⟨managed', site'⟩ _ ⟨hmanaged, hsite⟩
    exact ⟨rfl, trivial, ⟨congrArg f hmanaged, hsite⟩, trivial, trivial⟩
  ask call hlogin := by
    rintro ⟨managed, site⟩ ⟨managed', site'⟩ _ ⟨hmanaged, hsite⟩
    obtain rfl : managed = managed' := hmanaged
    have hcall := mirrors_call hdevice managed.slot hlogin site site' trivial hsite
    exact ⟨hcall.result, trivial, ⟨rfl, hcall.alike⟩, trivial, trivial⟩
  warn warning := by
    rintro ⟨managed, site⟩ ⟨managed', site'⟩ _ ⟨hmanaged, hsite⟩
    refine ⟨rfl, trivial, ⟨hmanaged, hsite.device, hsite.events, ?_⟩, trivial, trivial⟩
    exact congrArg (· ++ [warning]) hsite.warnings

end ManagedSlot

namespace TokenModule

def secrecy (same : δ → δ → Prop) (layout : Layout) : Pact (TokenModule ς × Site δ ς) where
  fits x := x.1.layout = layout
  alike x y := x.1 = y.1 ∧ x.2.Akin same y.2
  spares _ _ := True
  refl _ := trivial
  trans _ _ := trivial

theorem honored_of_discreet (hdevice : device.Discreet pins same) (owner : SlotIdentifier → ι)
    (layout : Layout) (party : ι) :
    Honored device owner layout party (ManagedSlot.secrecy same) (secrecy same layout) where
  slots := ManagedSlot.honored_of_discreet hdevice
  fits hfits := hfits
  alike halike := congrArg TokenModule.layout halike.1
  find_eq {_ _ wanted} halike _ missing := congrArg (·.find wanted missing) halike.1
  on {_ work wanted missing} hwork _ := by
    rintro ⟨m, site⟩ ⟨m', site'⟩ hlayout ⟨hmodule, hsite⟩
    obtain rfl : m = m' := hmodule
    cases hfound : m.find wanted missing with
    | error e =>
      rw [run_on_error hfound, run_on_error hfound]
      exact ⟨rfl, hlayout, ⟨rfl, hsite⟩, trivial, trivial⟩
    | ok managed =>
      have hkept := hwork (managed, site) (managed, site') trivial ⟨rfl, hsite⟩
      rw [run_on_ok hfound, run_on_ok hfound]
      exact ⟨hkept.result, (layout_replace _ _).trans hlayout,
        ⟨congrArg m.replace hkept.alike.1, hkept.alike.2⟩, trivial, trivial⟩

end TokenModule

namespace Rehearsal

variable {f : Bytes → Bytes}

def replacePins (f : Bytes → Bytes) (token : Token) : Token :=
  { token with pins := token.pins.map f }

def record (token : Token) (call : Call Nat) : Token :=
  { token with made := token.made ++ [.of call] }

theorem answer_eq (token : Token) (call : Call Nat) :
    token.answer call = (((record token call).fault? (.of call)).elim
      ((record token call).serve call) .error, record token call) := by
  unfold Token.answer record
  dsimp only
  cases Token.fault? { token with made := token.made ++ [.of call] } (.of call) with
  | some e => rfl
  | none => rfl

theorem answer_login (hf : Function.Injective f) (token : Token) (session : Nat) (user : UInt64)
    (pin : Bytes) : (replacePins f token).answer (.login session user (f pin)) =
      ((token.answer (.login session user pin)).1,
        replacePins f (token.answer (.login session user pin)).2) := by
  have hserve : (record (replacePins f token) (.login session user (f pin))).serve
      (.login session user (f pin)) =
        (record token (.login session user pin)).serve (.login session user pin) := by
    simp [Token.serve, record, replacePins, hf.eq_iff]
  rw [answer_eq, answer_eq, hserve]
  rfl

theorem answer_other (token : Token) {call : Call Nat}
    (hlogin : ∀ session user pin, call ≠ .login session user pin) :
    (replacePins f token).answer call =
      ((token.answer call).1, replacePins f (token.answer call).2) := by
  have hserve : (record (replacePins f token) call).serve call =
      (record token call).serve call := by
    cases call with
    | login session user pin => exact absurd rfl (hlogin session user pin)
    | _ => rfl
  rw [answer_eq, answer_eq, hserve]
  rfl

theorem discreet_device (hf : Function.Injective f) :
    Rehearsal.device.Discreet (fun _ pin pin' => pin' = f pin)
      fun tokens tokens' => tokens' = tokens.map (replacePins f) where
  login {slot pin pin'} hpin session user before before' hsame := by
    subst hpin hsame
    unfold Rehearsal.device
    dsimp only
    rw [List.getElem?_map]
    cases before[slot.index]? with
    | none => exact ⟨rfl, rfl, rfl⟩
    | some token =>
      dsimp only [Option.map_some]
      rw [answer_login hf]
      exact ⟨rfl, List.map_set.symm, rfl⟩
  other slot call hlogin before before' hsame := by
    subst hsame
    unfold Rehearsal.device
    dsimp only
    rw [List.getElem?_map]
    cases before[slot.index]? with
    | none => exact ⟨rfl, rfl, rfl⟩
    | some token =>
      dsimp only [Option.map_some]
      rw [answer_other token hlogin]
      exact ⟨rfl, List.map_set.symm, rfl⟩

end Rehearsal

namespace Client

theorem answers_of_private {owner : SlotIdentifier → ι} {party : ι}
    {W : Pact (TokenModule ς × Site δ ς)} {requests : List Request}
    (hprivate : ∀ request ∈ requests, Private owner party W (perform device request))
    {x y : Client δ ς} (hfits : (pact owner party W).fits x)
    (halike : (pact owner party W).alike x y) :
    answers device x requests = answers device y requests ∧
      (pact owner party W).fits (after device x requests) ∧
      (pact owner party W).alike (after device x requests) (after device y requests) := by
  induction requests generalizing x y with
  | nil => exact ⟨rfl, hfits, halike⟩
  | cons request rest ih =>
    have hkept := hprivate request List.mem_cons_self x y hfits halike
    obtain ⟨hanswers, hafter⟩ := ih (fun request hrequest =>
      hprivate request (List.mem_cons_of_mem _ hrequest)) hkept.fits hkept.alike
    exact ⟨congrArg₂ List.cons hkept.result hanswers, hafter⟩

variable {layout : Layout}

abbrev Secret (same : δ → δ → Prop) (layout : Layout) (a : Action (Client δ ς) α) : Prop :=
  Private (fun _ => ()) () (TokenModule.secrecy same layout) a

theorem secret_perform (hdevice : device.Discreet pins same) (request : Request) :
    Secret same layout (perform device request) :=
  private_perform (TokenModule.honored_of_discreet hdevice _ _ _) fun _ _ => rfl

theorem secret_returnAll (hdevice : device.Discreet pins same) (loans : List (Borrowed ς)) :
    Secret same layout (returnAll loans : Action (Client δ ς) Unit) := by
  have honored := TokenModule.honored_of_discreet hdevice (fun _ => ()) layout ()
  induction loans with
  | nil => exact .pure _
  | cons loan _ ih =>
    refine .bind (private_onSlot honored ?_ fun _ _ => rfl) fun _ => ih
    exact ManagedSlot.mirrors_giveBack honored.slots loan.session

theorem secret_close (hdevice : device.Discreet pins same) :
    Secret same layout (close device) := by
  refine .get_bind ?_ fun client _ => .bind (secret_returnAll hdevice _) fun _ =>
    private_onModule ?_
  · intro x y _ halike
    rw [borrowed_of_alike halike]
  · rintro ⟨m, site⟩ ⟨m', site'⟩ hlayout ⟨hmodule, hsite⟩
    obtain rfl : m = m' := hmodule
    have hclosed := TokenModule.mirrors_close hdevice m.managed site site' trivial hsite
    exact ⟨hclosed.result, hlayout, ⟨rfl, hclosed.alike⟩, trivial, trivial⟩

theorem passwords_concealed {config : ModuleConfig} {resolver resolver' : PasswordResolver}
    {site site' : Site δ ς} (hdevice : device.Discreet pins same)
    (hread : config.passwords.ReadAlike pins resolver resolver') (hsite : site.Akin same site')
    (salts : SlotIdentifier → Entropy) (ids : List UInt64) (requests : List Request) :
    let built := (TokenModule.build device config resolver salts ids).run site
    let built' := (TokenModule.build device config resolver' salts ids).run site'
    (∀ slot, (config.passwords.read resolver slot).asked =
      (config.passwords.read resolver' slot).asked) ∧
    built.1 = built'.1 ∧ built.2.Akin same built'.2 ∧
    ∀ m, built.1 = .ok m →
      let client : Client δ ς := ⟨m, built.2, [], [], []⟩
      let client' : Client δ ς := ⟨m, built'.2, [], [], []⟩
      let closed := (close device).run (after device client requests)
      let closed' := (close device).run (after device client' requests)
      answers device client requests = answers device client' requests ∧
      (after device client requests).site.Akin same (after device client' requests).site ∧
      closed.1 = closed'.1 ∧ closed.2.site.Akin same closed'.2.site := by
  intro built built'
  have hbuilt := TokenModule.agree_build hdevice hread salts ids site site' trivial hsite
  refine ⟨fun slot => (PasswordPolicy.read_paired hread slot).1, hbuilt.result, hbuilt.alike, ?_⟩
  intro m hm client client' closed closed'
  have hprivate : ∀ request ∈ requests, Secret same m.layout (perform device request) :=
    fun request _ => secret_perform hdevice request
  have hfresh : (pact (fun _ => ()) () (TokenModule.secrecy same m.layout)).fits client :=
    ⟨rfl, holdings_of_nothing _ _⟩
  have halike : (pact (fun _ => ()) () (TokenModule.secrecy same m.layout)).alike client client' :=
    ⟨⟨rfl, hbuilt.alike⟩, rfl⟩
  obtain ⟨hanswers, hfits, hafter⟩ := answers_of_private hprivate hfresh halike
  have hclosed := secret_close hdevice _ _ hfits hafter
  exact ⟨hanswers, hafter.1.2, hclosed.result, hclosed.alike.1.2⟩

theorem passwords_concealed_of_two :
    let same : List Rehearsal.Token → List Rehearsal.Token → Prop := fun tokens tokens' =>
      tokens' = tokens.map (Rehearsal.replacePins List.reverse)
    let config : ModuleConfig := { Rehearsal.config with passwords := [⟨[], ["signing"]⟩] }
    let resolver := PasswordResolver.ofTable [("signing", "1234")]
    let resolver' := PasswordResolver.ofTable [("signing", "4321")]
    let token := { Rehearsal.token with pins := [Text.utf8 "1234"] }
    let token' := { Rehearsal.token with pins := [Text.utf8 "4321"] }
    let site : Site (List Rehearsal.Token) Nat := ⟨[token], [], []⟩
    let site' : Site (List Rehearsal.Token) Nat := ⟨[token'], [], []⟩
    let salts : Entropy := ⟨fun _ => .ok 0, 0⟩
    let built := (TokenModule.build Rehearsal.device config resolver (fun _ => salts) [7]).run site
    let built' :=
      (TokenModule.build Rehearsal.device config resolver' (fun _ => salts) [7]).run site'
    let m : TokenModule Nat := ⟨config, [⟨⟨0, 7⟩, .start 1, none, .empty, some 1, salts⟩], []⟩
    let client : Client (List Rehearsal.Token) Nat := ⟨m, built.2, [], [], []⟩
    let client' : Client (List Rehearsal.Token) Nat := ⟨m, built'.2, [], [], []⟩
    let requests : List Request :=
      [.openKey "signing" ⟨0, 7⟩ (.label "signing"), .onKey "signing" (.sign .rsaPkcs none [1])]
    built.2.events.map (·.call) = [.openSession false, .login 1 1 (Text.utf8 "1234")] ∧
    built'.2.events.map (·.call) = [.openSession false, .login 1 1 (Text.utf8 "4321")] ∧
    built.1 = .ok m ∧ built'.1 = .ok m ∧
    (answers Rehearsal.device client requests).map (·.isOk) = [true, true] ∧
    answers Rehearsal.device client requests = answers Rehearsal.device client' requests ∧
    (after Rehearsal.device client requests).site.Akin same
      (after Rehearsal.device client' requests).site := by
  intro same config resolver resolver' token token' site site' salts built built' m client client'
    requests
  have hread : config.passwords.ReadAlike (fun _ pin pin' => pin' = pin.reverse) resolver
      resolver' := by
    intro slot rule hrule source hsource
    cases hrule
    obtain rfl := List.mem_singleton.mp hsource
    exact .ok rfl
  have hsite : site.Akin same site' := ⟨rfl, rfl, rfl⟩
  obtain ⟨-, hresult, -, hrun⟩ := passwords_concealed
    (Rehearsal.discreet_device List.reverse_injective) hread hsite (fun _ => salts) [7] requests
  have hbuilt : built.1 = .ok m := rfl
  obtain ⟨hanswers, hafter, -⟩ := hrun m hbuilt
  exact ⟨rfl, rfl, hbuilt, hresult.symm.trans hbuilt, by decide +kernel, hanswers, hafter⟩

end Client

end TokenSigner
