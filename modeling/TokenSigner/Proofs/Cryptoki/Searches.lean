import TokenSigner.Proofs.Cryptoki.Loading
import TokenSigner.Rehearsal.Library
import TokenSigner.Rehearsal.Setting

namespace TokenSigner.Cryptoki

open TokenSigner.Action (Keeps)

variable {ℓ : Type} {library : Library ℓ} {session : Session}

inductive Collected (patience : Nat) (handle : UInt64) :
    Except Error (List UInt64) → List Exchange → Prop
  | all {handles : List UInt64} {during : List Exchange} (hduring : Fine handle during) :
    Collected patience handle (.ok handles) during
  | broken {e : Error} {during : List Exchange} {failed : Exchange} (hduring : Fine handle during)
    (hsearches : failed.searches handle = true) (hbreaks : failed.breaks = true) :
    Collected patience handle (.error e) (during ++ [failed])
  | endless {e : Error} {during : List Exchange} (hpatience : during.length = patience)
    (hduring : Fine handle during) : Collected patience handle (.error e) during

theorem Collected.cons {patience : Nat} {handle : UInt64} {result : Except Error (List UInt64)}
    {exchanges : List Exchange} {exchange : Exchange}
    (h : Collected patience handle result exchanges)
    (hsearches : exchange.searches handle = true) (hbreaks : exchange.breaks = false)
    (f : List UInt64 → List UInt64) :
    Collected (patience + 1) handle (result.map f) (exchange :: exchanges) := by
  cases h with
  | all hduring => exact .all (fine_cons hsearches hbreaks hduring)
  | broken hduring hfailed hfailure =>
    exact .broken (fine_cons hsearches hbreaks hduring) hfailed hfailure
  | endless hpatience hduring =>
    exact .endless (congrArg (· + 1) hpatience) (fine_cons hsearches hbreaks hduring)

theorem breaks_eq {request : Request} {outcome : Outcome} {count : UInt64}
    (hcode : outcome.code = ReturnCode.ok) (hcount : count.toNat ≤ Session.batch) :
    Exchange.breaks (request, outcome) =
      decide (Session.batch < (outcome.count.getD count).toNat) := by
  cases hgiven : outcome.count with
  | none => simp [Exchange.breaks, hcode, hgiven, hcount]
  | some given => simp [Exchange.breaks, hcode, hgiven]

theorem collected (patience : Nat) {buffer : List UInt64} {count : UInt64}
    (hcount : count.toNat ≤ Session.batch) (application : Application ℓ) :
    ∃ exchanges, ((session.collect library patience buffer count).run application).2.exchanges =
        application.exchanges ++ exchanges ∧
      Collected patience session.handle
        ((session.collect library patience buffer count).run application).1 exchanges := by
  induction patience generalizing buffer count application with
  | zero => exact ⟨[], (List.append_nil _).symm, .endless rfl fine_nil⟩
  | succ patience ih =>
    obtain ⟨outcome, state, hrun⟩ := run_require library .search
      (.search session.handle Session.batch) application
    have hsearches : Exchange.searches session.handle
        (.search session.handle Session.batch, outcome) = true := by
      simp [Exchange.searches]
    unfold Session.collect
    by_cases hcode : outcome.code = ReturnCode.ok
    · have hbreaks := @breaks_eq (.search session.handle Session.batch) _ _ hcode hcount
      rw [if_pos hcode] at hrun
      rw [Action.run_bind_ok hrun]
      dsimp only
      by_cases hempty : outcome.count.getD count = 0
      · rw [if_pos hempty]
        rw [hempty] at hbreaks
        exact ⟨_, rfl, .all (fine_cons hsearches hbreaks fine_nil)⟩
      · rw [if_neg hempty]
        by_cases hmany : Session.batch < (outcome.count.getD count).toNat
        · rw [if_pos hmany]
          rw [decide_eq_true hmany] at hbreaks
          exact ⟨_, rfl, .broken fine_nil hsearches hbreaks⟩
        · rw [if_neg hmany, bind_pure_comp, Action.run_map]
          rw [decide_eq_false hmany] at hbreaks
          obtain ⟨exchanges, hrecorded, hcollected⟩ := ih (Nat.le_of_not_lt hmany) _
          refine ⟨_ :: exchanges, ?_, hcollected.cons hsearches hbreaks _⟩
          rw [hrecorded, List.append_assoc]
          rfl
    · rw [if_neg hcode] at hrun
      rw [Action.run_bind_error hrun]
      refine ⟨_, rfl, .broken fine_nil hsearches ?_⟩
      simp [Exchange.breaks, hcode]

theorem Fine.unsought {handle : UInt64} {during : List Exchange} (h : Fine handle during) :
    ∀ exchange ∈ during, exchange.sought? = none :=
  fun exchange hexchange => Exchange.sought?_of_searches (h exchange hexchange).1

theorem Collected.unsought {patience : Nat} {handle : UInt64}
    {result : Except Error (List UInt64)} {exchanges : List Exchange}
    (h : Collected patience handle result exchanges) :
    ∀ exchange ∈ exchanges, exchange.sought? = none := by
  cases h with
  | all hduring => exact hduring.unsought
  | broken hduring hsearches =>
    intro exchange hexchange
    rcases List.mem_append.mp hexchange with hearlier | hlast
    · exact hduring.unsought exchange hearlier
    · rw [List.mem_singleton.mp hlast]
      exact Exchange.sought?_of_searches hsearches
  | endless hpatience hduring => exact hduring.unsought

theorem Collected.search {patience : Nat} {handle : UInt64} {e : Error}
    {exchanges : List Exchange} (h : Collected patience handle (.error e) exchanges) :
    Search patience handle exchanges := by
  cases h with
  | broken hduring hsearches hbreaks => exact .broken hduring ⟨hsearches, hbreaks⟩
  | endless hpatience hduring =>
    rw [← List.append_nil exchanges]
    exact .endless hpatience hduring

theorem Collected.fine {patience : Nat} {handle : UInt64} {handles : List UInt64}
    {exchanges : List Exchange} (h : Collected patience handle (.ok handles) exchanges) :
    Fine handle exchanges := by
  cases h with
  | all hduring => exact hduring

theorem searched_findObjects (patience : Nat) (session : Session)
    (template : List (UInt64 × Bytes)) :
    Keeps (fun application => Searched patience application.exchanges)
      (session.findObjects library patience template) := by
  intro application happlication
  obtain ⟨outcome, state, hstart⟩ := run_require library .startSearch
    (.startSearch session.handle template) application
  unfold Session.findObjects
  by_cases hcode : outcome.code = ReturnCode.ok
  · rw [if_pos hcode] at hstart
    rw [Action.run_bind_ok hstart]
    generalize hbegun : ({ application with
      library := state
      exchanges := application.exchanges ++ [(.startSearch session.handle template, outcome)] } :
        Application ℓ) = begun
    have hexchanges := congrArg Application.exchanges hbegun
    dsimp only at hexchanges
    obtain ⟨batches, hrecorded, hcollected⟩ := @collected ℓ library session patience
      (List.replicate Session.batch 0) 0 (by decide) begun
    rw [← hexchanges, List.append_assoc, List.singleton_append] at hrecorded
    rcases hrun : (session.collect library patience (List.replicate Session.batch 0) 0).run begun
      with ⟨e | handles, searched⟩
    · rw [hrun] at hrecorded hcollected
      rw [Action.run_bind_error hrun]
      dsimp only at hrecorded ⊢
      rw [hrecorded]
      exact happlication.begin hcollected.search hcollected.unsought
    · rw [hrun] at hrecorded hcollected
      rw [Action.run_bind_ok hrun, Action.run_bind_pure_snd]
      obtain ⟨ended, state', hfinish⟩ := run_require library .finishSearch
        (.finishSearch session.handle) searched
      rw [hfinish]
      dsimp only at hrecorded ⊢
      rw [hrecorded, List.append_assoc, List.cons_append]
      refine happlication.begin (.finalized hcollected.fine ?_) ?_
      · simp [Exchange.finalizes]
      · intro exchange hexchange
        rcases List.mem_append.mp hexchange with hbatch | hlast
        · exact hcollected.unsought exchange hbatch
        · rw [List.mem_singleton.mp hlast]
          rfl
  · rw [if_neg hcode] at hstart
    rw [Action.run_bind_error hstart]
    refine happlication.append (eachBegun_of_none ?_)
    simp [Exchange.sought?, hcode]

theorem searched_of_sought {exchanges : List Exchange} {patience : Nat}
    (h : ∀ exchange ∈ exchanges, exchange.sought? = none) : Searched patience exchanges :=
  eachBegun_of_none h

theorem searched_exchange {patience : Nat} {request : Request}
    (hrequest : ∀ outcome, Exchange.sought? (request, outcome) = none) :
    Keeps (fun application => Searched patience application.exchanges)
      (library.exchange request) := by
  intro application happlication
  exact happlication.append (searched_of_sought (by simpa using hrequest _))

theorem steadfast_searched (library : Library ℓ) (patience : Nat) :
    Steadfast library patience fun application => Searched patience application.exchanges where
  exchange _ hrequest := searched_exchange fun _ => Exchange.sought?_of_begins hrequest
  findObjects := searched_findObjects patience
  warnings _ h := h

structure Unbroken (patience : Nat) (exchanges : List Exchange) : Prop where
  whole : ∀ handle, ∀ exchange ∈ exchanges, exchange.searches handle = true →
    exchange.breaks = false
  ends : ∀ handle before during after, exchanges = before ++ (during ++ after) →
    Fine handle during → during.length ≠ patience

theorem Searched.finalized {patience : Nat} {exchanges : List Exchange}
    (h : Searched patience exchanges) (hunbroken : Unbroken patience exchanges) :
    Finalized exchanges := by
  rintro before start after handle rfl hsought
  have hsearch := h before start after handle rfl hsought
  cases hsearch with
  | finalized hduring hconclusion =>
    exact ⟨_, _, _, rfl, fun exchange hexchange => (hduring exchange hexchange).1, hconclusion⟩
  | broken hduring hfailed =>
    have hwhole := hunbroken.whole handle _ (by simp) hfailed.1
    rw [hfailed.2] at hwhole
    cases hwhole
  | @endless during rest hpatience hduring =>
    have hends := hunbroken.ends handle (before ++ [start]) during rest (by simp) hduring
    exact absurd hpatience hends

variable {patience : Nat} {config : ModuleConfig} {site : Site (Application ℓ) Session}

theorem searched_call (slot : SlotIdentifier) (call : Call Session) :
    Keeps (fun site => Searched patience site.device.exchanges)
      ((device library patience).call slot call) := by
  have hsearched := steadfast_searched library patience
  have hbegins (session key : UInt64) (mechanism : Mechanism) (parameters : Option Bytes) :
      Keeps (fun application => Searched patience application.exchanges)
        (library.exchange (.startSignature session key mechanism parameters)) :=
    searched_exchange fun _ => rfl
  refine keeps_call (fun application => Searched patience application.exchanges)
    (fun _ _ h => h) ?_
  cases call with
  | sign session object mechanism parameters data =>
    exact hsearched.sign hbegins session object mechanism parameters data
  | signParts session object mechanism parameters parts =>
    exact hsearched.signParts hbegins session object mechanism parameters parts
  | _ => exact hsearched.serve rfl

theorem lasting_searched (library : Library ℓ) (patience : Nat) (config : ModuleConfig) :
    Lasting (device library patience) config
      (fun site => Searched patience site.device.exchanges) fun _ => True :=
  (steady_of_calls searched_call fun _ _ h => h).lasting

variable {installed : Installed} {resolver : PasswordResolver} {salts : SlotIdentifier → Entropy}

theorem searches_finalized_unless_broken {m : TokenModule Session} {state : ℓ}
    (hload : (load library installed patience config resolver salts).run
      ⟨⟨state, [], [], 0, []⟩, [], []⟩ = (.ok m, site)) (requests : List Client.Request) :
    let client := Client.after (device library patience) ⟨m, site, [], [], []⟩ requests
    let closed := ((unload library patience).run client).2
    Searched patience client.site.device.exchanges ∧
    (Unbroken patience client.site.device.exchanges → Finalized client.site.device.exchanges) ∧
    Searched patience closed.site.device.exchanges ∧
    (Unbroken patience closed.site.device.exchanges → Finalized closed.site.device.exchanges) := by
  intro client closed
  have hsearched := steadfast_searched library patience
  have hlasting := lasting_searched library patience config
  have hfresh := fresh_load hload
  have hloaded : Searched patience site.device.exchanges := by
    have hkept : Keeps _ (load library installed patience config resolver salts) :=
      hsearched.load fun slot => ManagedSlot.admits_of_keeps fun call _ => searched_call slot call
    have hafter := hkept ⟨⟨state, [], [], 0, []⟩, [], []⟩ (searched_of_sought (by simp))
    rw [hload] at hafter
    exact hafter
  have hclient : Client.Throughout config (fun site => Searched patience site.device.exchanges)
      (fun _ => True) ⟨m, site, [], [], []⟩ :=
    ⟨List.nodup_nil, hfresh.config_eq, hloaded, hfresh.apart, fun _ _ => trivial⟩
  have hafter := Client.throughout_after hlasting requests hclient
  have hbefore : Searched patience client.site.device.exchanges := hafter.slots.device
  have hclosed : Searched patience closed.site.device.exchanges :=
    hsearched.unload hlasting (fun _ session => searched_call _ (.close session)) hafter
  exact ⟨hbefore, hbefore.finalized, hclosed, hclosed.finalized⟩

theorem searches_finalized_unless_broken_of_two :
    let key : Rehearsal.StoredObject := {
      handle := 1
      attributes := [(Attribute.objectClass, .value (Bytes.ofNatLittle 8 3)),
        (Attribute.id, .value [1])]
      signature := none, announced := none }
    let script : Rehearsal.Script := {
      slots := [⟨7, [.rsaPkcs], 0, [key], []⟩], extraSlots := 0, announcedHandles := none
      faults := [⟨"C_FindObjects", some 3, 5⟩] }
    let installed : Installed := fun _ => some requiredFunctions
    let salts : SlotIdentifier → Entropy := fun _ => ⟨fun _ => .ok 0, 0⟩
    let m : TokenModule Session :=
      ⟨Rehearsal.config, [⟨⟨0, 7⟩, .start 1, none, .empty, none, salts ⟨0, 7⟩⟩], []⟩
    let site := ((load Rehearsal.library installed 4 Rehearsal.config (.ofTable []) salts).run
      ⟨⟨{ script }, [], [], 0, []⟩, [], []⟩).2
    let requests : List Client.Request :=
      [.onSlot 0 (.findKey (.id [1])), .onSlot 0 (.findKey (.id [2]))]
    let exchanges := (Client.after (device Rehearsal.library 4) ⟨m, site, [], [], []⟩
      requests).site.device.exchanges
    (load Rehearsal.library installed 4 Rehearsal.config (.ofTable []) salts).run
      ⟨⟨{ script }, [], [], 0, []⟩, [], []⟩ = (.ok m, site) ∧
    (exchanges.drop 3).map (fun exchange => (exchange.1.function, exchange.2.code)) =
      [("C_OpenSession", 0), ("C_FindObjectsInit", 0), ("C_FindObjects", 0), ("C_FindObjects", 0),
        ("C_FindObjectsFinal", 0), ("C_FindObjectsInit", 0), ("C_FindObjects", 5)] ∧
    Searched 4 exchanges := by
  intro key script installed salts m site requests exchanges
  have hload : (load Rehearsal.library installed 4 Rehearsal.config (.ofTable []) salts).run
      ⟨⟨{ script }, [], [], 0, []⟩, [], []⟩ = (.ok m, site) := by
    have hbuilt : ((load Rehearsal.library installed 4 Rehearsal.config (.ofTable []) salts).run
      ⟨⟨{ script }, [], [], 0, []⟩, [], []⟩).1 = .ok m := rfl
    rw [← hbuilt]
  refine ⟨hload, ?_, (searches_finalized_unless_broken hload requests).1⟩
  decide +kernel

theorem not_finalized {before after : List Exchange} {start : Exchange} {handle : UInt64}
    (hsought : start.sought? = some handle)
    (hafter : ∀ exchange ∈ after, Exchange.finalizes handle exchange = false) :
    ¬Finalized (before ++ start :: after) := by
  intro hfinalized
  obtain ⟨during, conclusion, rest, rfl, -, hconclusion⟩ :=
    hfinalized before start after handle rfl hsought
  rw [hafter conclusion (by simp)] at hconclusion
  cases hconclusion

theorem search_left_open :
    let script : Rehearsal.Script := {
      slots := [⟨7, [.rsaPkcs], 0, [], []⟩], extraSlots := 0, announcedHandles := none
      faults := [⟨"C_FindObjects", some 1, 5⟩] }
    let slot : ManagedSlot Session := ⟨⟨0, 7⟩, .start 1, none, .empty, none, ⟨fun _ => .ok 0, 0⟩⟩
    let client : Client (Application Rehearsal.LibraryState) Session :=
      ⟨⟨Rehearsal.config, [slot], []⟩, ⟨⟨{ script }, [], [], 0, []⟩, [], []⟩, [], [], []⟩
    let request : Client.Request := .onSlot 0 (.findKey (.label "signing"))
    let once := Client.after (device Rehearsal.library 4) client [request]
    let twice := Client.after (device Rehearsal.library 4) client [request, request]
    let template := Session.template ObjectClass.privateKey (.label "signing")
    once.tokens.managed.map (·.pool.idle) = [[⟨1, 0⟩]] ∧
    twice.site.device.exchanges = [(.openSession 7 4, ⟨0, some 1, [], []⟩),
      (.startSearch 1 template, ⟨0, none, [], []⟩), (.search 1 16, ⟨5, none, [], []⟩),
      (.startSearch 1 template, ⟨0x90, none, [], []⟩)] ∧
    ¬Finalized twice.site.device.exchanges := by
  intro script slot client request once twice template
  have hexchanges : twice.site.device.exchanges = [(.openSession 7 4, ⟨0, some 1, [], []⟩),
      (.startSearch 1 template, ⟨0, none, [], []⟩), (.search 1 16, ⟨5, none, [], []⟩),
      (.startSearch 1 template, ⟨0x90, none, [], []⟩)] := by decide +kernel
  refine ⟨by decide +kernel, hexchanges, ?_⟩
  rw [hexchanges]
  refine @not_finalized [_] _ _ 1 rfl ?_
  simp [Exchange.finalizes]

end TokenSigner.Cryptoki
