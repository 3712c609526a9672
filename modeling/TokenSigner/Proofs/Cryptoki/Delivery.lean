import TokenSigner.Proofs.Cryptoki.Loading
import TokenSigner.Proofs.ManagedSlot.Signing
import TokenSigner.Rehearsal.Library
import TokenSigner.Rehearsal.Setting

namespace TokenSigner.Cryptoki

open ManagedSlot (Signature Signs Asks signature_sign signs_sign signs_signPkcs1 signs_signPss
  signs_signPssEncoded signs_signEcdsa)

variable {ℓ α β : Type} {library : Library ℓ} {session : Session}

inductive Followed : List Request → List Exchange → Option Error → Prop
  | done : Followed [] [] none
  | failed {request : Request} {rest : List Request} {outcome : Outcome} {task : Task}
    (hcode : outcome.code ≠ ReturnCode.ok) :
    Followed (request :: rest) [(request, outcome)] (some (.libraryCall task outcome.code))
  | overlong {request : Request} {rest : List Request} {outcome : Outcome}
    (hcode : outcome.code = ReturnCode.ok) (hlong : Bytes.largest < outcome.announced) :
    Followed (request :: rest) [(request, outcome)] (some (.oversized outcome.announced))
  | next {request : Request} {rest : List Request} {outcome : Outcome}
    {exchanges : List Exchange} {failure : Option Error} (hcode : outcome.code = ReturnCode.ok)
    (hrest : Followed rest exchanges failure) :
    Followed (request :: rest) ((request, outcome) :: exchanges) failure

namespace Followed

variable {requests more : List Request} {exchanges exchanges' : List Exchange}
  {failure : Option Error}

theorem fail {e : Error} (h : Followed requests exchanges (some e)) :
    Followed (requests ++ more) exchanges (some e) := by
  generalize hfailure : some e = failure at h
  induction h with
  | done => cases hfailure
  | failed hcode => exact .failed hcode
  | overlong hcode hlong => exact .overlong hcode hlong
  | next hcode hrest ih => exact .next hcode (ih hfailure)

theorem append (h : Followed requests exchanges none) (h' : Followed more exchanges' failure) :
    Followed (requests ++ more) (exchanges ++ exchanges') failure := by
  generalize hnone : none = answered at h
  induction h with
  | done => exact h'
  | failed | overlong => cases hnone
  | next hcode hrest ih => exact .next hcode (ih hnone)

theorem requests_prefix (h : Followed requests exchanges failure) :
    exchanges.map Prod.fst <+: requests := by
  induction h with
  | done => exact List.prefix_rfl
  | failed | overlong => exact ⟨_, rfl⟩
  | next hcode hrest ih => exact (List.prefix_cons_inj _).mpr ih

theorem requests_eq (h : Followed requests exchanges none) :
    exchanges.map Prod.fst = requests := by
  generalize hnone : none = answered at h
  induction h with
  | done => rfl
  | failed | overlong => cases hnone
  | next hcode hrest ih => rw [List.map_cons, ih hnone]

end Followed

def Makes (a : Action (Application ℓ) α) (application : Application ℓ)
    (requests : List Request) : Prop :=
  ∃ exchanges, (a.run application).2.exchanges = application.exchanges ++ exchanges ∧
    Followed requests exchanges (error? (a.run application).1)

namespace Makes

variable {application : Application ℓ} {requests more : List Request}

theorem pure (x : α) : Makes (Pure.pure x : Action (Application ℓ) α) application [] :=
  ⟨[], (List.append_nil _).symm, .done⟩

theorem bind {a : Action (Application ℓ) α} {f : α → Action (Application ℓ) β}
    (h : Makes a application requests)
    (hnext : ∀ x after, a.run application = (.ok x, after) → Makes (f x) after more) :
    Makes (a >>= f) application (requests ++ more) := by
  obtain ⟨exchanges, hrecorded, hfollowed⟩ := h
  rcases hrun : a.run application with ⟨e | x, after⟩
  · rw [hrun] at hrecorded hfollowed
    rw [Makes, Action.run_bind_error hrun]
    exact ⟨exchanges, hrecorded, hfollowed.fail⟩
  · rw [hrun] at hrecorded hfollowed
    obtain ⟨others, hothers, hrest⟩ := hnext x after hrun
    rw [Makes, Action.run_bind_ok hrun]
    refine ⟨exchanges ++ others, ?_, hfollowed.append hrest⟩
    rw [hothers, hrecorded, List.append_assoc]

theorem require (task : Task) (request : Request) :
    Makes (library.require task request) application [request] := by
  obtain ⟨outcome, state, hrun⟩ := run_require library task request application
  rw [Makes, hrun]
  refine ⟨[(request, outcome)], rfl, ?_⟩
  by_cases hcode : outcome.code = ReturnCode.ok
  · rw [if_pos hcode]
    exact .next hcode .done
  · rw [if_neg hcode]
    exact .failed hcode

theorem require_bind_pure (task : Task) (request : Request) (f : Outcome → α) :
    Makes (do return f (← library.require task request)) application [request] :=
  (require task request).bind fun _ _ _ => .pure _

end Makes

inductive Asked (room : Nat) : Call Session → List Request → Prop
  | whole {session : Session} {object : UInt64} {mechanism : Mechanism}
    {parameters : Option MechanismParameters} {data : Bytes} :
    Asked room (.sign session object mechanism parameters data)
      [.startSignature session.handle object mechanism (parameters.map Session.marshal),
        .sign session.handle data none, .sign session.handle data (some room)]
  | inParts {session : Session} {object : UInt64} {mechanism : Mechanism}
    {parameters : Option MechanismParameters} {parts : List Bytes} :
    Asked room (.signParts session object mechanism parameters parts)
      (.startSignature session.handle object mechanism (parameters.map Session.marshal) ::
        (parts.map (.feedSignature session.handle) ++
          [.finishSignature session.handle none, .finishSignature session.handle (some room)]))

def Request.handed : Request → Bytes
  | .feedSignature _ part => part
  | .sign _ data (some _) => data
  | _ => []

theorem handed_feeds (handle : UInt64) (parts : List Bytes) :
    (parts.map (Request.feedSignature handle)).flatMap Request.handed = parts.flatten := by
  induction parts with
  | nil => rfl
  | cons part rest ih =>
    rw [List.map_cons, List.flatMap_cons, ih, List.flatten_cons]
    rfl

theorem makes_startSignature (application : Application ℓ) (object : UInt64)
    (mechanism : Mechanism) (parameters : Option MechanismParameters) :
    Makes (session.startSignature library object mechanism parameters) application
      [.startSignature session.handle object mechanism (parameters.map Session.marshal)] :=
  .require_bind_pure _ _ _

theorem makes_feed (application : Application ℓ) (parts : List Bytes) :
    Makes (session.feed library parts) application
      (parts.map (.feedSignature session.handle)) := by
  induction parts generalizing application with
  | nil => exact .pure _
  | cons part rest ih => exact .bind (.require _ _) fun _ after _ => ih after

theorem makes_takeSignature (application : Application ℓ) (request : Option Nat → Request) :
    ∃ room, Makes (Session.takeSignature library request) application
      [request none, request (some room)] := by
  obtain ⟨measured, state, hmeasure⟩ :=
    run_require library .signatureLength (request none) application
  refine ⟨measured.announced, ?_⟩
  unfold Session.takeSignature
  by_cases hcode : measured.code = ReturnCode.ok
  · rw [if_pos hcode] at hmeasure
    by_cases hlong : Bytes.largest < measured.announced
    · rw [Makes, Action.run_bind_ok hmeasure]
      dsimp only
      rw [if_pos hlong]
      exact ⟨_, rfl, .overlong hcode hlong⟩
    · refine Makes.bind (.require _ _) fun x after hanswer => ?_
      cases hmeasure.symm.trans hanswer
      dsimp only
      rw [if_neg hlong]
      exact .require_bind_pure _ _ _
  · rw [if_neg hcode] at hmeasure
    rw [Makes, Action.run_bind_error hmeasure]
    exact ⟨_, rfl, .failed hcode⟩

theorem Makes.bind_takeSignature {application : Application ℓ} {first : List Request}
    {a : Action (Application ℓ) α} (h : Makes a application first)
    (request : Option Nat → Request) :
    ∃ room, Makes (a >>= fun _ => Session.takeSignature library request) application
      (first ++ [request none, request (some room)]) := by
  rcases hrun : a.run application with ⟨e | x, after⟩
  · refine ⟨0, h.bind fun x' after' hrun' => ?_⟩
    rw [hrun] at hrun'
    cases hrun'
  · obtain ⟨room, htake⟩ := @makes_takeSignature ℓ library after request
    refine ⟨room, h.bind fun x' after' hrun' => ?_⟩
    rw [hrun] at hrun'
    cases hrun'
    exact htake

variable {limit patience : Nat} {slot : SlotIdentifier} {object : UInt64} {mechanism : Mechanism}
  {parameters : Option MechanismParameters} {data : Bytes} {event : Event Session}
  {result : Except Error Bytes} {site after : Site (Application ℓ) Session}

theorem makes_serve (application : Application ℓ) (place : SlotIdentifier)
    (h : Asks limit slot session object mechanism parameters data event result) :
    ∃ room requests, Asked room event.call requests ∧ requests.flatMap Request.handed = data ∧
      Makes (serve library patience place event.call) application requests := by
  have hstart := @makes_startSignature ℓ library session application object mechanism parameters
  cases h with
  | whole hshort =>
    obtain ⟨room, hmakes⟩ := @Makes.bind_takeSignature _ _ library _ _ _ hstart
      (.sign session.handle data)
    exact ⟨room, _, .whole, by simp [Request.handed], hmakes⟩
  | @inParts parts result hlong hparts =>
    have hfed := hstart.bind fun _ started _ => @makes_feed ℓ library session started parts
    obtain ⟨room, hmakes⟩ := @Makes.bind_takeSignature _ _ library _ _ _ hfed
      (.finishSignature session.handle)
    rw [bind_assoc] at hmakes
    refine ⟨room, _, .inParts, ?_, ?_⟩
    · rw [List.flatMap_cons, List.flatMap_append, handed_feeds, hparts.joined]
      simp [Request.handed]
    · rw [List.singleton_append] at hmakes
      exact hmakes

theorem delivered_of_asks
    (hasks : Asks limit slot session object mechanism parameters data event result)
    (hcall : ((device library patience).call event.slot event.call).run site =
      (event.result, after)) :
    ∃ room requests exchanges, Asked room event.call requests ∧
      requests.flatMap Request.handed = data ∧
      after.device.exchanges = site.device.exchanges ++ exchanges ∧
      Followed requests exchanges (error? result) := by
  obtain ⟨application, hserve, hafter⟩ := run_of_call hcall
  obtain ⟨room, requests, hasked, hhanded, exchanges, hrecorded, hfollowed⟩ :=
    @makes_serve ℓ library session limit patience _ _ _ _ _ _ _
      { site.device with warnings := [] } event.slot hasks
  rw [hserve] at hrecorded hfollowed
  rw [hasks.error?_eq] at hfollowed
  refine ⟨room, requests, exchanges, hasked, hhanded, ?_, hfollowed⟩
  rw [hafter]
  exact hrecorded

theorem signature_asked_once {δ ς : Type} (device : Device δ ς) {config : ModuleConfig}
    (hsize : config.maxMessageSize ≠ 0) :
    (∀ object mechanism parameters data (x : ManagedSlot ς × Site δ ς),
      Signature device config object mechanism parameters data x
        ((ManagedSlot.sign device config object mechanism parameters data).run x).1
        ((ManagedSlot.sign device config object mechanism parameters data).run x).2) ∧
    (∀ object mechanism parameters data,
      Signs 1 (ManagedSlot.sign device config object mechanism parameters data)) ∧
    (∀ (handle : KeyHandle) digest hash, Signs 1 (handle.signPkcs1 device config digest hash)) ∧
    (∀ (handle : KeyHandle) parameters hash,
      Signs 1 (handle.signPss device config parameters hash)) ∧
    (∀ (handle : KeyHandle) message, Signs 1 (handle.signPssEncoded device config message)) ∧
    (∀ (handle : KeyHandle) hash encoding,
      Signs 1 (handle.signEcdsa device config hash encoding)) ∧
    ∀ (ℓ : Type) (library : Library ℓ) (patience : Nat) slot session object mechanism parameters
      data event result (site after : Site (Application ℓ) Session),
      Asks config.maxMessageSize slot session object mechanism parameters data event result →
      ((Cryptoki.device library patience).call event.slot event.call).run site =
        (event.result, after) →
      ∃ room requests exchanges, Asked room event.call requests ∧
        requests.flatMap Request.handed = data ∧
        after.device.exchanges = site.device.exchanges ++ exchanges ∧
        exchanges.map Prod.fst <+: requests ∧
        (∀ signature, result = .ok signature → exchanges.map Prod.fst = requests) ∧
        Followed requests exchanges (error? result) := by
  refine ⟨fun _ _ _ _ x => signature_sign hsize x, fun _ _ _ _ => signs_sign hsize,
    signs_signPkcs1 hsize, signs_signPss hsize, signs_signPssEncoded hsize, signs_signEcdsa hsize,
    ?_⟩
  intro ℓ library patience slot session object mechanism parameters data event result site after
    hasks hcall
  obtain ⟨room, requests, exchanges, hasked, hhanded, hrecorded, hfollowed⟩ :=
    delivered_of_asks hasks hcall
  refine ⟨room, requests, exchanges, hasked, hhanded, hrecorded, hfollowed.requests_prefix, ?_,
    hfollowed⟩
  rintro signature rfl
  exact hfollowed.requests_eq

theorem signature_asked_once_in_three_parts :
    let script : Rehearsal.Script := {
      slots := [⟨7, [.rsaPkcs], 0, [⟨1, [], some [0xab], none⟩], []⟩], extraSlots := 0
      announcedHandles := none, faults := [] }
    let slot : ManagedSlot Session := ⟨⟨0, 7⟩, .start 1, none, .empty, none, ⟨fun _ => .ok 0, 0⟩⟩
    let x : ManagedSlot Session × Site (Application Rehearsal.LibraryState) Session :=
      (slot, ⟨⟨{ script }, [], [], 0, []⟩, [], []⟩)
    let data : Bytes := List.replicate 300 0xcd
    let device := Cryptoki.device Rehearsal.library 1
    let done := (ManagedSlot.sign device Rehearsal.config 1 .rsaPkcs none data).run x
    Rehearsal.config.maxMessageSize ≠ 0 ∧
    Signature device Rehearsal.config 1 .rsaPkcs none data x done.1 done.2 ∧
    (done.2.2.device.exchanges.drop 3).map
        (fun exchange => (exchange.1.function, exchange.1.handed.length)) =
      [("C_SignInit", 0), ("C_SignUpdate", 128), ("C_SignUpdate", 128), ("C_SignUpdate", 44),
        ("C_SignFinal", 0), ("C_SignFinal", 0)] := by
  intro script slot x data device done
  have hsize : Rehearsal.config.maxMessageSize ≠ 0 := by decide
  exact ⟨hsize, (signature_asked_once device hsize).1 1 .rsaPkcs none data x, by decide +kernel⟩

end TokenSigner.Cryptoki
