import TokenSigner.Proofs.Cryptoki.Loading
import TokenSigner.Rehearsal.Library
import TokenSigner.Rehearsal.Setting

namespace TokenSigner.Cryptoki

open TokenSigner.Action (Keeps)
open ManagedSlot (Hand Worker Scene Step Steps Deal)

variable {ℓ : Type} {library : Library ℓ} {patience : Nat} {config : ModuleConfig}
  {slot : SlotIdentifier} {site after : Site (Application ℓ) Session}

section Calls

variable {call : Call Session} {result : Except Error call.Answer}
  (hcall : ((device library patience).call slot call).run site = (result, after))

include hcall

theorem within_call (hlogin : ∀ session user pin, call ≠ .login session user pin) :
    Within site.device.loggedIn site.device.sessions after.device := by
  obtain ⟨application, hserve, hafter⟩ := run_of_call hcall
  have hserved : Within site.device.loggedIn site.device.sessions
      ((serve library patience slot call).run { site.device with warnings := [] }).2 :=
    within_serve hlogin _ ⟨List.Subset.refl _, Nat.le_refl _⟩
  rw [hserve] at hserved
  rw [hafter]
  exact ⟨hserved.loggedIn, hserved.sessions⟩

theorem signed_call (hsigning : call.signing? = none)
    (hsite : Signed site.device.exchanges) : Signed after.device.exchanges := by
  obtain ⟨application, hserve, hafter⟩ := run_of_call hcall
  have hserved : Signed
      ((serve library patience slot call).run { site.device with warnings := [] }).2.exchanges :=
    (steadfast_signed library patience).serve hsigning _ hsite
  rw [hserve] at hserved
  rw [hafter]
  exact hserved

theorem attempts_call {session : Session} (hsession : call.session? = some session)
    (hsigning : call.signing?.isSome = true) (hsite : Signed site.device.exchanges) :
    (∀ answer, result = .ok answer → Signed after.device.exchanges) ∧
    ∀ e, result = .error e → Pending session.handle after.device.exchanges ∧
      (e.kind ≠ .token → Signed after.device.exchanges) := by
  obtain ⟨application, hserve, hafter⟩ := run_of_call hcall
  have hattempts : Attempts session.handle Signed (serve library patience slot call)
      Signed := attempts_serve hsession hsigning
  obtain ⟨hanswer, hfailure⟩ := hattempts { site.device with warnings := [] } hsite
  rw [hafter]
  refine ⟨?_, ?_⟩
  · rintro answer rfl
    exact hanswer answer application hserve
  · rintro e rfl
    exact hfailure e application hserve

theorem signed_spared {session : Session} (hsession : call.session? = some session)
    (hsigning : call.signing?.isSome = true) (hsite : Signed site.device.exchanges)
    (hspared : ∀ e, result = .error e → e.kind ≠ .token) : Signed after.device.exchanges := by
  obtain ⟨hanswer, hfailure⟩ := attempts_call hcall hsession hsigning hsite
  cases hresult : result with
  | ok answer => exact hanswer answer hresult
  | error e => exact (hfailure e hresult).2 (hspared e hresult)

end Calls

theorem number_of_opened {readWrite : Bool} {session : Session}
    (hcall : ((device library patience).call slot (.openSession readWrite)).run site =
      (.ok session, after)) :
    session.number = site.device.sessions ∧ after.device.sessions = site.device.sessions + 1 := by
  obtain ⟨application, hserve, hafter⟩ := run_of_call hcall
  obtain ⟨hnumber, hsessions⟩ := run_start_ok hserve
  exact ⟨hnumber, hafter ▸ hsessions⟩

theorem signed_closed {session : Session} (hnumber : session.number ∉ site.device.loggedIn)
    (hsite : Pending session.handle site.device.exchanges) :
    Signed (((device library patience).call slot
      (.close session)).run site).2.device.exchanges := by
  obtain ⟨outcome, state, hclose⟩ :=
    run_close library { site.device with warnings := [] } hnumber
  have hconcludes : Exchange.concludes session.handle
      (.closeSession session.handle, outcome) = true := by
    simp [Exchange.concludes]
  have hsigned := hsite.conclude (Or.inl hconcludes)
  have hexchanges := congrArg (·.2.exchanges) hclose
  dsimp only at hexchanges
  change Signed ((session.close library).run { site.device with warnings := [] }).2.exchanges
  rw [hexchanges]
  exact hsigned

def Leaves : Hand Session → List Exchange → Prop
  | .spoilt session, exchanges => Pending session.handle exchanges
  | _, exchanges => Signed exchanges

structure Sound (lent : List Session) (worker : Worker (Application ℓ) Session) : Prop where
  signing : Leaves worker.hand worker.state.2.device.exchanges
  numbered : Numbered worker.state.2.device
  unnamed : ∀ session ∈ worker.state.1.pool.idle ++ (worker.hand.sessions ++ lent),
    session.number ∉ worker.state.2.device.loggedIn

theorem within_refl (application : Application ℓ) :
    Within application.loggedIn application.sessions application :=
  ⟨List.Subset.refl _, Nat.le_refl _⟩

theorem within_step {x y : Worker (Application ℓ) Session}
    (h : Step (device library patience) config x y) :
    Within x.state.2.device.loggedIn x.state.2.device.sessions y.state.2.device := by
  cases h with
  | lend | giveBack | free | handles | salts | warn => exact within_refl _
  | opened _ _ hcall | notOpened _ _ hcall => exact within_call hcall (by simp)
  | told _ hcall | untold _ hcall => exact within_call hcall (by simp)
  | findKey | publicKey | close => exact within_call rfl (by simp)
  | sign _ hsigning _ _ _ hcall | spoil _ hsigning _ _ _ hcall =>
    refine within_call hcall ?_
    rintro session user pin rfl
    cases hsigning

variable {lent : List Session}

theorem Sound.step_of_subset {x y : Worker (Application ℓ) Session} (h : Sound lent x)
    (hstep : Step (device library patience) config x y)
    (hsigning : Leaves y.hand y.state.2.device.exchanges)
    (hsubset : y.state.1.pool.idle ++ (y.hand.sessions ++ lent) ⊆
      x.state.1.pool.idle ++ (x.hand.sessions ++ lent)) : Sound lent y := by
  have hwithin := within_step hstep
  refine ⟨hsigning, hwithin.numbered h.numbered, fun session hsession hnumber => ?_⟩
  exact h.unnamed session (hsubset hsession) (hwithin.loggedIn hnumber)

theorem Sound.step {x y : Worker (Application ℓ) Session} (h : Sound lent x)
    (hstep : Step (device library patience) config x y) : Sound lent y := by
  have hsame := h.step_of_subset hstep
  have hsigning := h.signing
  cases hstep with
  | lend hidle =>
    refine hsame hsigning ?_
    simp [hidle, Hand.sessions]
  | opened hidle hroom hcall =>
    have hwithin := within_call hcall (by simp)
    refine ⟨signed_call hcall rfl hsigning, hwithin.numbered h.numbered, ?_⟩
    intro session hsession hnumber
    have hbefore := hwithin.loggedIn hnumber
    simp only [hidle, Hand.sessions, List.nil_append, List.singleton_append] at hsession
    rcases List.mem_cons.mp hsession with rfl | hlent
    · -- what logged in has a smaller number than a session that is opened after it
      have hbelow := h.numbered _ hbefore
      rw [(number_of_opened hcall).1] at hbelow
      exact Nat.lt_irrefl _ hbelow
    · exact h.unnamed session (by simp [hlent]) hbefore
  | notOpened _ _ hcall | told _ hcall | untold _ hcall =>
    exact hsame (signed_call hcall rfl hsigning) (List.Subset.refl _)
  | findKey | publicKey => exact hsame (signed_call rfl rfl hsigning) (List.Subset.refl _)
  | sign hsession hmechanism hallowed hknown hmem hcall hspared =>
    have hsome := Option.isSome_of_eq_some hmechanism
    exact hsame (signed_spared hcall hsession hsome hsigning hspared) (List.Subset.refl _)
  | spoil hsession hmechanism hallowed hknown hmem hcall hkind =>
    have hsome := Option.isSome_of_eq_some hmechanism
    exact hsame ((attempts_call hcall hsession hsome hsigning).2 _ rfl).1 (List.Subset.refl _)
  | giveBack =>
    refine hsame hsigning ?_
    simp [Pool.giveBack, Hand.sessions]
  | @close managed site session =>
    have hnumber := h.unnamed session (by simp [Hand.sessions])
    refine hsame (signed_closed hnumber hsigning) ?_
    simp [Hand.sessions]
  | free | handles | salts | warn => exact hsame hsigning (List.Subset.refl _)

theorem Sound.steps {x y : Worker (Application ℓ) Session} (h : Sound lent x)
    (hsteps : Steps (device library patience) config x y) : Sound lent y := by
  induction hsteps with
  | refl => exact h
  | tail _ hstep ih => exact ih.step hstep

theorem within_steps {x y : Worker (Application ℓ) Session}
    (h : Steps (device library patience) config x y) :
    Within x.state.2.device.loggedIn x.state.2.device.sessions y.state.2.device := by
  induction h with
  | refl => exact within_refl _
  | tail _ hstep ih =>
    have hwithin := within_step hstep
    exact ⟨List.Subset.trans hwithin.loggedIn ih.loggedIn,
      Nat.le_trans ih.sessions hwithin.sessions⟩

def Settled (scene : Scene (Application ℓ) Session) : Prop :=
  Sound scene.lent ⟨scene.state, .empty⟩

theorem Sound.taken {state : ManagedSlot Session × Site (Application ℓ) Session}
    {session : Session} (h : Sound lent ⟨state, .holding session⟩) :
    Settled ⟨state, session :: lent⟩ :=
  ⟨h.signing, h.numbered, h.unnamed⟩

theorem settled_deal {x y : Scene (Application ℓ) Session} (hx : Settled x)
    (hdeal : Deal (device library patience) config x y) : Settled y := by
  cases hdeal with
  | work lent hsteps => exact hx.steps hsteps
  | take hstep => exact (hx.step hstep).taken
  | @giveBack state lent session =>
    have hheld : Sound lent ⟨state, .holding session⟩ := ⟨hx.signing, hx.numbered, hx.unnamed⟩
    have hgiven : Step (device library patience) config ⟨state, .holding session⟩ ⟨_, .empty⟩ :=
      .giveBack
    exact hheld.step hgiven
  | @discard state lent session =>
    have hspoilt : Sound lent ⟨state, .spoilt session⟩ :=
      ⟨hx.signing.pending session.handle, hx.numbered, hx.unnamed⟩
    have hclosed : Steps (device library patience) config ⟨state, .spoilt session⟩ ⟨_, .empty⟩ :=
      (Relation.ReflTransGen.single .close).tail .free
    exact hspoilt.steps hclosed

theorem within_deal {x y : Scene (Application ℓ) Session}
    (h : Deal (device library patience) config x y) :
    Within x.state.2.device.loggedIn x.state.2.device.sessions y.state.2.device := by
  obtain ⟨start, next, lent, hsteps, rfl, rfl, -, -⟩ := h.steps
  exact within_steps hsteps

theorem lasting_settled (library : Library ℓ) (patience : Nat) (config : ModuleConfig) :
    Lasting (device library patience) config (fun site => Signed site.device.exchanges)
      Settled where
  site hdeal hx _ := (settled_deal hx hdeal).signing
  deal hdeal hx := settled_deal hx hdeal
  beside {x y other lent} hdeal hx _ hP := by
    have hy := settled_deal hx hdeal
    refine ⟨hy.signing, hy.numbered, fun session hsession hnumber => ?_⟩
    exact hP.unnamed session hsession ((within_deal hdeal).loggedIn hnumber)
  perm hperm hP := by
    refine ⟨hP.signing, hP.numbered, fun session hsession => hP.unnamed session ?_⟩
    exact ((hperm.append_left _).mem_iff).mpr hsession

structure Quiet (application : Application ℓ) : Prop where
  signed : Signed application.exchanges
  numbered : Numbered application

theorem steadfast_quiet (library : Library ℓ) (patience : Nat) :
    Steadfast library patience Quiet where
  exchange _ hrequest application happlication :=
    ⟨signed_exchange (fun _ => Exchange.begun?_of_begins hrequest) application
      happlication.signed, happlication.numbered⟩
  findObjects := keeps_findObjects (fun _ hrequest application happlication =>
    ⟨signed_exchange hrequest application happlication.signed, happlication.numbered⟩)
    patience
  warnings _ h := ⟨h.signed, h.numbered⟩

theorem quiet_call {call : Call Session} {result : Except Error call.Answer}
    (hcall : ((device library patience).call slot call).run site = (result, after))
    (hsigning : call.signing? = none) (hlogin : ∀ session user pin, call ≠ .login session user pin)
    (hsite : Quiet site.device) : Quiet after.device :=
  ⟨signed_call hcall hsigning hsite.signed,
    (within_call hcall hlogin).numbered hsite.numbered⟩

theorem quiet_login (session : Session) (user : UInt64) (pin : Bytes) :
    Keeps (fun application => Quiet application ∧ session.number < application.sessions)
      (session.login library user pin) := by
  intro application happlication
  have hnumbered : Keeps _ (session.login library user pin) := numbered_login session user pin
  obtain ⟨hafter, hnumber⟩ := hnumbered application ⟨happlication.1.numbered, happlication.2⟩
  have hsigned := (steadfast_signed library 0).login session user pin application
    happlication.1.signed
  exact ⟨⟨hsigned, hafter⟩, hnumber⟩

theorem admits_quiet (library : Library ℓ) (patience : Nat) (slot : SlotIdentifier) :
    ManagedSlot.Admits (device library patience) slot (fun site => Quiet site.device)
      fun session site => session.number < site.device.sessions where
  opens readWrite {site} hsite := by
    refine ⟨quiet_call rfl rfl (by simp) hsite, fun session hanswer => ?_⟩
    obtain ⟨hnumber, hsessions⟩ := number_of_opened (Prod.ext hanswer rfl)
    rw [hnumber, hsessions]
    exact Nat.lt_succ_self _
  logsIn session user pin :=
    keeps_call (fun application => Quiet application ∧ session.number < application.sessions)
      (fun _ _ h => ⟨⟨h.1.signed, h.1.numbered⟩, h.2⟩) (quiet_login session user pin)
  closes session := by
    intro site hsite
    exact quiet_call rfl rfl (by simp) hsite

variable {installed : Installed} {resolver : PasswordResolver} {salts : SlotIdentifier → Entropy}

theorem settled_load {m : TokenModule Session} {state : ℓ}
    (hload : (load library installed patience config resolver salts).run
      ⟨⟨state, [], [], 0, []⟩, [], []⟩ = (.ok m, site)) :
    Client.Throughout config (fun site => Signed site.device.exchanges) Settled
      ⟨m, site, [], [], []⟩ := by
  have hfresh := fresh_load hload
  have hquiet : Quiet site.device := by
    have hkept : Keeps _ (load library installed patience config resolver salts) :=
      (steadfast_quiet library patience).load fun slot => admits_quiet library patience slot
    have hafter := hkept ⟨⟨state, [], [], 0, []⟩, [], []⟩
      ⟨signed_of_begun (by simp), by simp [Numbered]⟩
    rw [hload] at hafter
    exact hafter
  refine ⟨List.nodup_nil, hfresh.config_eq, hquiet.signed, hfresh.apart, ?_⟩
  intro managed hmanaged
  refine ⟨hquiet.signed, hquiet.numbered, ?_⟩
  simp [hfresh.unused managed hmanaged, Pool.start, Hand.sessions, lentOn]

theorem signed_unload {client : Client (Application ℓ) Session}
    (hclient : Client.Throughout config (fun site => Signed site.device.exchanges) Settled
      client) :
    Signed ((unload library patience).run client).2.site.device.exchanges :=
  (steadfast_signed library patience).unload (lasting_settled library patience config)
    (fun _ _ _ hsite => signed_call rfl rfl hsite) hclient

theorem signatures_concluded_unless_overlong {m : TokenModule Session} {state : ℓ}
    (hload : (load library installed patience config resolver salts).run
      ⟨⟨state, [], [], 0, []⟩, [], []⟩ = (.ok m, site)) (requests : List Client.Request) :
    let left := Client.after (device library patience) ⟨m, site, [], [], []⟩ requests
    let unloaded := ((unload library patience).run left).2
    Signed left.site.device.exchanges ∧
    (Bounded left.site.device.exchanges → Concluding left.site.device.exchanges ∧
      ∀ session, ¬Unfinished session left.site.device.exchanges) ∧
    Signed unloaded.site.device.exchanges ∧
    (Bounded unloaded.site.device.exchanges → Concluding unloaded.site.device.exchanges) := by
  intro left unloaded
  have hclient := Client.throughout_after (lasting_settled library patience config) requests
    (settled_load hload)
  have hsigned : Signed left.site.device.exchanges := hclient.slots.device
  have hreleased : Signed unloaded.site.device.exchanges := signed_unload hclient
  refine ⟨hsigned, fun hbounded => ?_, hreleased, hreleased.concluding⟩
  have hconcluding := hsigned.concluding hbounded
  exact ⟨hconcluding, hconcluding.not_unfinished⟩

theorem signatures_concluded_after_a_failure :
    let script : Rehearsal.Script := {
      slots := [⟨7, [.rsaPkcs], 0, [⟨1, [], some [0xab], none⟩], []⟩], extraSlots := 0
      announcedHandles := none, faults := [⟨"C_Sign", some 4, 5⟩] }
    let installed : Installed := fun _ => some requiredFunctions
    let salts : SlotIdentifier → Entropy := fun _ => ⟨fun _ => .ok 0, 0⟩
    let m : TokenModule Session :=
      ⟨Rehearsal.config, [⟨⟨0, 7⟩, .start 1, none, .empty, none, salts ⟨0, 7⟩⟩], []⟩
    let site := ((load Rehearsal.library installed 1 Rehearsal.config (.ofTable []) salts).run
      ⟨⟨{ script }, [], [], 0, []⟩, [], []⟩).2
    let requests : List Client.Request := [.onSlot 0 (.sign 1 .rsaPkcs none [1]),
      .onSlot 0 (.sign 1 .rsaPkcs none [2]),
      .onSlot 0 (.sign 1 .rsaPkcs none (List.replicate 129 3))]
    let exchanges := (Client.after (device Rehearsal.library 1) ⟨m, site, [], [], []⟩
      requests).site.device.exchanges
    (load Rehearsal.library installed 1 Rehearsal.config (.ofTable []) salts).run
      ⟨⟨{ script }, [], [], 0, []⟩, [], []⟩ = (.ok m, site) ∧
    (exchanges.drop 6).map (fun exchange => (exchange.1.function, exchange.2.code)) =
      [("C_SignInit", 0), ("C_Sign", 0), ("C_Sign", 0), ("C_SignInit", 0), ("C_Sign", 0),
        ("C_Sign", 5), ("C_CloseSession", 0), ("C_OpenSession", 0), ("C_SignInit", 0),
        ("C_SignUpdate", 0), ("C_SignUpdate", 0), ("C_SignFinal", 0), ("C_SignFinal", 0)] ∧
    Bounded exchanges ∧ Concluding exchanges := by
  intro script installed salts m site requests exchanges
  have hload : (load Rehearsal.library installed 1 Rehearsal.config (.ofTable []) salts).run
      ⟨⟨{ script }, [], [], 0, []⟩, [], []⟩ = (.ok m, site) := by
    have hbuilt : ((load Rehearsal.library installed 1 Rehearsal.config (.ofTable []) salts).run
      ⟨⟨{ script }, [], [], 0, []⟩, [], []⟩).1 = .ok m := rfl
    rw [← hbuilt]
  have hbounded : Bounded exchanges := by
    have hlengths : ∀ exchange ∈ exchanges, exchange.2.announced ≤ Bytes.largest := by
      decide +kernel
    intro exchange hmem session
    exact Exchange.not_overlong (hlengths exchange hmem)
  obtain ⟨hconcluding, -⟩ := (signatures_concluded_unless_overlong hload requests).2.1 hbounded
  exact ⟨hload, by decide +kernel, hbounded, hconcluding⟩

theorem signature_left_open :
    let script : Rehearsal.Script := {
      slots := [⟨7, [.rsaPkcs], 0, [⟨1, [], none, some 0x8000000000000000⟩], []⟩], extraSlots := 0
      announcedHandles := none, faults := [] }
    let slot : ManagedSlot Session :=
      ⟨⟨0, 7⟩, .start 1, some [.rsaPkcs], .empty, none, ⟨fun _ => .ok 0, 0⟩⟩
    let client : Client (Application Rehearsal.LibraryState) Session :=
      ⟨⟨Rehearsal.config, [slot], []⟩, ⟨⟨{ script }, [], [], 0, []⟩, [], []⟩, [], [], []⟩
    let request : Client.Request := .onSlot 0 (.sign 1 .rsaPkcs none [1])
    let once := Client.after (device Rehearsal.library 4) client [request]
    let twice := Client.after (device Rehearsal.library 4) client [request, request]
    once.tokens.managed.map (·.pool.idle) = [[⟨1, 0⟩]] ∧
    Unfinished 1 once.site.device.exchanges ∧
    twice.site.device.exchanges = [(.openSession 7 4, ⟨0, some 1, [], []⟩),
      (.startSignature 1 1 .rsaPkcs none, ⟨0, none, [], []⟩),
      (.sign 1 [1] none, ⟨0, some 0x8000000000000000, [], []⟩),
      (.startSignature 1 1 .rsaPkcs none, ⟨0x90, none, [], []⟩),
      (.closeSession 1, ⟨0, none, [], []⟩)] ∧
    ¬Concluding twice.site.device.exchanges := by
  intro script slot client request once twice
  have honce : once.site.device.exchanges = [(.openSession 7 4, ⟨0, some 1, [], []⟩),
      (.startSignature 1 1 .rsaPkcs none, ⟨0, none, [], []⟩),
      (.sign 1 [1] none, ⟨0, some 0x8000000000000000, [], []⟩)] := by decide +kernel
  have htwice : twice.site.device.exchanges = [(.openSession 7 4, ⟨0, some 1, [], []⟩),
      (.startSignature 1 1 .rsaPkcs none, ⟨0, none, [], []⟩),
      (.sign 1 [1] none, ⟨0, some 0x8000000000000000, [], []⟩),
      (.startSignature 1 1 .rsaPkcs none, ⟨0x90, none, [], []⟩),
      (.closeSession 1, ⟨0, none, [], []⟩)] := by decide +kernel
  refine ⟨by decide +kernel, ?_, htwice, ?_⟩
  · rw [honce]
    exact ⟨[_], _, [_], rfl, rfl, by simp [Exchange.concludes]⟩
  · rw [htwice]
    exact @not_concluding 1 [_] [_] [_] _ _ rfl (by simp [Exchange.concludes]) ⟨rfl, rfl⟩

end TokenSigner.Cryptoki
