import TokenSigner.Cryptoki.Loading
import TokenSigner.Proofs.Action
import TokenSigner.Proofs.Cryptoki.Exchanges

namespace TokenSigner.Cryptoki

open TokenSigner.Action (Keeps)

variable {ℓ α β : Type} {library : Library ℓ} {I : Application ℓ → Prop} {session : Session}

structure Steadfast (library : Library ℓ) (patience : Nat) (I : Application ℓ → Prop) :
    Prop where
  exchange (request : Request) (hrequest : request.begins = false) :
    Keeps I (library.exchange request)
  findObjects (session : Session) (template : List (UInt64 × Bytes)) :
    Keeps I (session.findObjects library patience template)
  warnings {application : Application ℓ} (warnings : List Warning) (h : I application) :
    I { application with warnings }

namespace Steadfast

variable {patience : Nat}

theorem require (h : Steadfast library patience I) {task : Task} {request : Request}
    (hrequest : request.begins = false) : Keeps I (library.require task request) :=
  .bind (h.exchange request hrequest) fun _ => .ite (fun _ => .throw _) fun _ => .pure _

theorem warn (h : Steadfast library patience I) (warning : Warning) :
    Keeps I (Library.warn warning) :=
  .modify fun _ happlication => h.warnings _ happlication

theorem slotList (h : Steadfast library patience I) : Keeps I (slotList library) :=
  .bind (h.require rfl) fun _ => .bind (h.require rfl) fun _ => .pure _

theorem mechanismList (h : Steadfast library patience I) (slot : UInt64) :
    Keeps I (mechanismList library slot) :=
  .bind (h.require rfl) fun _ => .bind (h.require rfl) fun _ => .pure _

theorem findKey (h : Steadfast library patience I) (session : Session) (objectClass : UInt64)
    (key : KeyIdentifier) :
    Keeps I (session.findKey library patience objectClass key) := by
  refine .bind (h.findObjects session _) fun handles => ?_
  exact .ite (fun _ => .bind (h.warn _) fun _ => .pure _) fun _ => .pure _

theorem askAttribute (h : Steadfast library patience I) (session : Session) (object code : UInt64)
    (room : Option Nat) : Keeps I (session.askAttribute library object code room) := by
  refine .bind (h.exchange _ rfl) fun outcome => ?_
  exact .ite (fun _ => .pure _) fun _ => .ite (fun _ => .throw _) fun _ => .pure _

theorem readAttribute (h : Steadfast library patience I) (session : Session)
    (object code : UInt64) :
    Keeps I (session.readAttribute library object code) := by
  refine .bind (h.askAttribute session object code none) fun measured => ?_
  cases measured with
  | none => exact .pure _
  | some measured => exact .bind (h.askAttribute session object code _) fun _ => .pure _

theorem keyType (h : Steadfast library patience I) (session : Session) (object : UInt64) :
    Keeps I (session.keyType library object) := by
  refine .bind (h.askAttribute session object _ _) fun told => ?_
  cases told with
  | none => exact .throw _
  | some outcome => exact .pure _

theorem pairAttribute (h : Steadfast library patience I) (session : Session)
    (publicObject : Option UInt64) (object code : UInt64) :
    Keeps I (session.pairAttribute library publicObject object code) := by
  cases publicObject
  case' none => refine .bind (.pure _) fun told => ?_
  case' some publicObject => refine .bind (h.readAttribute session publicObject code) fun told => ?_
  all_goals
    cases told with
    | some value => exact .pure _
    | none =>
      refine .bind (h.readAttribute session object code) fun told => ?_
      cases told with
      | some value => exact .pure _
      | none => exact .throw _

theorem publicKey (h : Steadfast library patience I) (session : Session) (object : UInt64)
    (key : KeyIdentifier) : Keeps I (session.publicKey library patience object key) := by
  refine .bind (h.findKey session _ key) fun publicObject => ?_
  refine .bind (h.keyType session object) fun keyType => ?_
  have hread (code : UInt64) := h.pairAttribute session publicObject object code
  refine .ite (fun _ => .bind (hread _) fun _ => .bind (hread _) fun _ => .pure _) fun _ => ?_
  refine .ite (fun _ => .bind (hread _) fun _ => .pure _) fun _ => ?_
  exact .ite (fun _ => .bind (hread _) fun _ => .pure _) fun _ => .pure _

end Steadfast

theorem keeps_call (I : Application ℓ → Prop) {patience : Nat} {slot : SlotIdentifier}
    {call : Call Session}
    (hwarnings : ∀ application warnings, I application → I { application with warnings })
    (h : Keeps I (serve library patience slot call)) :
    Keeps (fun site => I site.device) ((device library patience).call slot call) := by
  intro site hsite
  exact hwarnings _ _ (h _ (hwarnings _ _ hsite))

theorem run_exchange (library : Library ℓ) (request : Request) (application : Application ℓ) :
    ∃ outcome state, (library.exchange request).run application =
      (.ok outcome, { application with
        library := state, exchanges := application.exchanges ++ [(request, outcome)] }) :=
  ⟨_, _, rfl⟩

theorem run_exchange_of_serve {request : Request} {application : Application ℓ}
    {outcome : Outcome} {state : ℓ}
    (h : library.serve request application.library = (outcome, state)) :
    (library.exchange request).run application =
      (.ok outcome, { application with
        library := state, exchanges := application.exchanges ++ [(request, outcome)] }) := by
  unfold Library.exchange
  rw [Action.run_modifyGet, h]

theorem run_require_of_serve (task : Task) {request : Request} {application : Application ℓ}
    {outcome : Outcome} {state : ℓ}
    (h : library.serve request application.library = (outcome, state)) :
    (library.require task request).run application =
      (if outcome.code = ReturnCode.ok then .ok outcome
        else .error (.libraryCall task outcome.code),
        { application with
          library := state, exchanges := application.exchanges ++ [(request, outcome)] }) := by
  unfold Library.require
  rw [Action.run_bind_ok (run_exchange_of_serve h)]
  by_cases hok : outcome.code = ReturnCode.ok
  · rw [if_neg (not_not_intro hok), if_pos hok]
    rfl
  · rw [if_pos hok, if_neg hok]
    rfl

theorem run_require (library : Library ℓ) (task : Task) (request : Request)
    (application : Application ℓ) :
    ∃ outcome state, (library.require task request).run application =
      (if outcome.code = ReturnCode.ok then .ok outcome
        else .error (.libraryCall task outcome.code),
        { application with
          library := state, exchanges := application.exchanges ++ [(request, outcome)] }) :=
  ⟨_, _, run_require_of_serve _ rfl⟩

theorem keeps_findObjects (hexchange : ∀ request,
      (∀ outcome, Exchange.begun? (request, outcome) = none) → Keeps I (library.exchange request))
    (patience : Nat) (session : Session) (template : List (UInt64 × Bytes)) :
    Keeps I (session.findObjects library patience template) := by
  have hrequire {task : Task} {request : Request}
      (hrequest : ∀ outcome, Exchange.begun? (request, outcome) = none) :
      Keeps I (library.require task request) :=
    .bind (hexchange request hrequest) fun _ => .ite (fun _ => .throw _) fun _ => .pure _
  have hcollect (buffer : List UInt64) (count : UInt64) :
      Keeps I (session.collect library patience buffer count) := by
    induction patience generalizing buffer count with
    | zero => exact .throw _
    | succ patience ih =>
      refine .bind (hrequire fun _ => rfl) fun outcome => ?_
      refine .ite (fun _ => .pure _) fun _ => .ite (fun _ => .throw _) fun _ => ?_
      exact .bind (ih _ _) fun _ => .pure _
  refine .bind (hrequire fun _ => rfl) fun _ => .bind (hcollect _ _) fun _ => ?_
  exact .bind (hrequire fun _ => rfl) fun _ => .pure _

theorem signed_exchange {request : Request}
    (hrequest : ∀ outcome, Exchange.begun? (request, outcome) = none) :
    Keeps (fun application => Signed application.exchanges) (library.exchange request) := by
  intro application happlication
  exact happlication.snoc (hrequest _)

theorem steadfast_signed (library : Library ℓ) (patience : Nat) :
    Steadfast library patience fun application => Signed application.exchanges where
  exchange _ hrequest := signed_exchange fun _ => Exchange.begun?_of_begins hrequest
  findObjects := keeps_findObjects (fun _ => signed_exchange) patience
  warnings _ h := h

structure Within (loggedIn : List Nat) (sessions : Nat) (application : Application ℓ) : Prop where
  loggedIn : application.loggedIn ⊆ loggedIn
  sessions : sessions ≤ application.sessions

variable {loggedIn : List Nat} {sessions : Nat}

theorem within_exchange (request : Request) :
    Keeps (Within loggedIn sessions) (library.exchange request) := by
  intro application happlication
  exact ⟨happlication.loggedIn, happlication.sessions⟩

theorem steadfast_within (library : Library ℓ) (patience : Nat) (loggedIn : List Nat)
    (sessions : Nat) : Steadfast library patience (Within loggedIn sessions) where
  exchange request _ := within_exchange request
  findObjects := keeps_findObjects (fun request _ => within_exchange request) patience
  warnings _ h := ⟨h.loggedIn, h.sessions⟩

section Recorded

variable {C : List Exchange → Prop} {patience : Nat}
  (h : Steadfast library patience fun application => C application.exchanges)

include h

theorem Steadfast.start (slot : UInt64) (readWrite : Bool) :
    Keeps (fun application => C application.exchanges) (Session.start library slot readWrite) := by
  refine .bind (h.require rfl) fun outcome => ?_
  exact .get_bind fun _ _ => .bind (.modify fun _ h => h) fun _ => .pure _

theorem Steadfast.login (session : Session) (user : UInt64) (pin : Bytes) :
    Keeps (fun application => C application.exchanges) (session.login library user pin) := by
  refine .bind (h.exchange _ rfl) fun outcome => .ite (fun _ => h.warn _) fun _ => ?_
  exact .ite (fun _ => .throw _) fun _ => .modify fun _ h => h

theorem Steadfast.close (session : Session) :
    Keeps (fun application => C application.exchanges) (session.close library) := by
  have hclosed : Keeps (fun application => C application.exchanges)
      (do let _ ← library.exchange (.closeSession session.handle)) :=
    .bind (h.exchange _ rfl) fun _ => .pure _
  refine .get_bind fun application _ => .ite (fun _ => ?_) fun _ => hclosed
  refine .bind (.modify fun _ h => h) fun _ => ?_
  exact .bind (h.exchange _ rfl) fun _ => hclosed

end Recorded

theorem run_close (library : Library ℓ) (application : Application ℓ)
    (h : session.number ∉ application.loggedIn) :
    ∃ outcome state, (session.close library).run application = (.ok (), { application with
      library := state
      exchanges := application.exchanges ++ [(.closeSession session.handle, outcome)] }) := by
  have helem : ¬application.loggedIn.elem session.number = true := by simpa using h
  obtain ⟨outcome, state, hrun⟩ :=
    run_exchange library (.closeSession session.handle) application
  refine ⟨outcome, state, ?_⟩
  unfold Session.close
  rw [Action.run_get_bind]
  dsimp only
  rw [if_neg helem, Action.run_bind_ok hrun]
  rfl

theorem within_start (slot : UInt64) (readWrite : Bool) :
    Keeps (Within loggedIn sessions) (Session.start library slot readWrite) := by
  refine .bind ((steadfast_within library 0 _ _).require rfl) fun outcome => ?_
  refine .get_bind fun application happlication => ?_
  refine .bind (.modify fun _ h => ⟨h.loggedIn, ?_⟩) fun _ => .pure _
  exact Nat.le_succ_of_le happlication.sessions

theorem within_close (session : Session) :
    Keeps (Within loggedIn sessions) (session.close library) := by
  have hclosed : Keeps (Within loggedIn sessions)
      (do let _ ← library.exchange (.closeSession session.handle)) :=
    .bind (within_exchange _) fun _ => .pure _
  refine .get_bind fun application happlication => .ite (fun _ => ?_) fun _ => hclosed
  refine .bind (.modify fun _ h => ⟨?_, h.sessions⟩) fun _ => ?_
  · exact List.Subset.trans List.filter_sublist.subset h.loggedIn
  · exact .bind (within_exchange _) fun _ => hclosed

theorem run_start_ok {slot : UInt64} {readWrite : Bool} {application after : Application ℓ}
    (h : (Session.start library slot readWrite).run application = (.ok session, after)) :
    session.number = application.sessions ∧ after.sessions = application.sessions + 1 := by
  unfold Session.start at h
  obtain ⟨outcome, answered, hanswer, hrest⟩ := Action.run_bind_eq_ok.mp h
  have hsessions : answered.sessions = application.sessions := by
    obtain ⟨outcome', state, hrun⟩ := run_require library _ _ application
    exact congrArg (·.2.sessions) (hanswer.symm.trans hrun)
  cases hrest
  exact ⟨hsessions, congrArg (· + 1) hsessions⟩

def Numbered (application : Application ℓ) : Prop :=
  ∀ number ∈ application.loggedIn, number < application.sessions

theorem Within.numbered {application after : Application ℓ}
    (h : Within application.loggedIn application.sessions after)
    (hnumbered : Numbered application) : Numbered after := by
  intro number hnumber
  exact Nat.lt_of_lt_of_le (hnumbered number (h.loggedIn hnumber)) h.sessions

theorem numbered_login (session : Session) (user : UInt64) (pin : Bytes) :
    Keeps (fun application => Numbered application ∧ session.number < application.sessions)
      (session.login library user pin) := by
  refine .bind (fun _ h => h) fun outcome => .ite (fun _ => .modify fun _ h => h) fun _ => ?_
  refine .ite (fun _ => .throw _) fun _ => .modify fun application h => ⟨?_, h.2⟩
  intro number hnumber
  rcases List.mem_cons.mp hnumber with rfl | hnumber
  · exact h.2
  · exact h.1 number hnumber

def Attempts (session : UInt64) (before : List Exchange → Prop) (a : Action (Application ℓ) α)
    (after : List Exchange → Prop) : Prop :=
  ∀ application, before application.exchanges →
    (∀ x application', a.run application = (.ok x, application') → after application'.exchanges) ∧
    ∀ e application', a.run application = (.error e, application') →
      Pending session application'.exchanges ∧
        (e.kind ≠ .token → Signed application'.exchanges)

section Attempts

variable {handle : UInt64} {before between after : List Exchange → Prop}

theorem Attempts.pure (x : α) : Attempts handle before (Pure.pure x : Action (Application ℓ) α)
    before := by
  intro application happlication
  refine ⟨?_, ?_⟩
  · intro y application' hrun
    cases hrun
    exact happlication
  · intro e application' hrun
    cases hrun

theorem Attempts.bind {a : Action (Application ℓ) α} {f : α → Action (Application ℓ) β}
    (ha : Attempts handle before a between) (hf : ∀ x, Attempts handle between (f x) after) :
    Attempts handle before (a >>= f) after := by
  intro application happlication
  obtain ⟨hanswer, hfailure⟩ := ha application happlication
  refine ⟨?_, ?_⟩
  · intro y application' hrun
    obtain ⟨x, answered, hfirst, hrest⟩ := Action.run_bind_eq_ok.mp hrun
    exact (hf x answered (hanswer x answered hfirst)).1 y application' hrest
  · intro e application' hrun
    rcases Action.run_bind_eq_error.mp hrun with hfirst | ⟨x, answered, hfirst, hrest⟩
    · exact hfailure e application' hfirst
    · exact (hf x answered (hanswer x answered hfirst)).2 e application' hrest

theorem attempts_require {task : Task} {request : Request}
    (hok : ∀ exchanges outcome, before exchanges → outcome.code = ReturnCode.ok →
      after (exchanges ++ [(request, outcome)]))
    (hfailed : ∀ exchanges outcome, before exchanges →
      Pending handle (exchanges ++ [(request, outcome)])) :
    Attempts handle before (library.require task request) after := by
  intro application happlication
  obtain ⟨outcome, state, hrequire⟩ := run_require library task request application
  rw [hrequire]
  refine ⟨?_, ?_⟩
  · intro x application' hrun
    split at hrun
    · next hcode =>
      cases hrun
      exact hok _ _ happlication hcode
    · cases hrun
  · intro e application' hrun
    split at hrun
    · cases hrun
    · cases hrun
      exact ⟨hfailed _ _ happlication, fun hkind => absurd rfl hkind⟩

theorem attempts_startSignature (object : UInt64) (mechanism : Mechanism)
    (parameters : Option MechanismParameters) :
    Attempts session.handle Signed
      (session.startSignature library object mechanism parameters) (Pending session.handle) :=
  .bind (attempts_require (fun _ _ h _ => h.pending_start) fun _ _ h => h.pending_start)
    fun _ => .pure _

theorem attempts_feed (parts : List Bytes) :
    Attempts session.handle (Pending session.handle) (session.feed library parts)
      (Pending session.handle) := by
  induction parts with
  | nil => exact .pure _
  | cons part rest ih =>
    have hown (outcome : Outcome) :
        Exchange.continues session.handle (.feedSignature session.handle part, outcome) = true := by
      simp [Exchange.continues]
    exact .bind (attempts_require (fun _ _ h _ => h.snoc (hown _)) fun _ _ h => h.snoc (hown _))
      fun _ => ih

theorem attempts_takeSignature {request : Option Nat → Request}
    (hcontinues : ∀ room outcome, Exchange.continues handle (request room, outcome) = true)
    (hconcludes : ∀ room outcome, outcome.code = ReturnCode.ok →
      Exchange.concludes handle (request (some room), outcome) = true)
    (hoverlong : ∀ outcome, outcome.code = ReturnCode.ok → Bytes.largest < outcome.announced →
      Exchange.overlong handle (request none, outcome) = true) :
    Attempts handle (Pending handle) (Session.takeSignature library request) Signed := by
  intro application happlication
  obtain ⟨measured, state, hmeasure⟩ :=
    run_require library .signatureLength (request none) application
  have hmeasured := happlication.snoc (hcontinues none measured)
  unfold Session.takeSignature
  by_cases hcode : measured.code = ReturnCode.ok
  · rw [if_pos hcode] at hmeasure
    rw [Action.run_bind_ok hmeasure]
    dsimp only
    by_cases hlong : Bytes.largest < measured.announced
    · rw [if_pos hlong]
      have habandoned := happlication.conclude (.inr (hoverlong measured hcode hlong))
      refine ⟨fun _ _ hrun => ?_, fun _ _ hrun => ?_⟩
      · cases hrun
      · cases hrun
        exact ⟨habandoned.pending _, fun _ => habandoned⟩
    · rw [if_neg hlong]
      have htaken : Attempts handle (Pending handle)
          (library.require .sign (request (some measured.announced))) Signed :=
        attempts_require (fun _ _ h hcode => h.conclude (.inl (hconcludes _ _ hcode)))
          fun _ _ h => h.snoc (hcontinues _ _)
      exact (htaken.bind fun _ => .pure _) _ hmeasured
  · rw [if_neg hcode] at hmeasure
    rw [Action.run_bind_error hmeasure]
    refine ⟨fun _ _ hrun => ?_, fun _ _ hrun => ?_⟩
    · cases hrun
    · cases hrun
      exact ⟨hmeasured, fun hkind => absurd rfl hkind⟩

theorem attempts_sign (object : UInt64) (mechanism : Mechanism)
    (parameters : Option MechanismParameters) (data : Bytes) :
    Attempts session.handle Signed (session.sign library object mechanism parameters data)
      Signed := by
  refine .bind (attempts_startSignature object mechanism parameters) fun _ => ?_
  refine attempts_takeSignature (fun _ _ => ?_) (fun _ _ hcode => ?_) fun _ hcode hlong => ?_
  · simp [Exchange.continues]
  · simp [Exchange.concludes, hcode]
  · simp [Exchange.overlong, hcode, hlong]

theorem attempts_signParts (object : UInt64) (mechanism : Mechanism)
    (parameters : Option MechanismParameters) (parts : List Bytes) :
    Attempts session.handle Signed (session.signParts library object mechanism parameters parts)
      Signed := by
  refine .bind (attempts_startSignature object mechanism parameters) fun _ => ?_
  refine .bind (attempts_feed parts) fun _ => ?_
  refine attempts_takeSignature (fun _ _ => ?_) (fun _ _ hcode => ?_) fun _ hcode hlong => ?_
  · simp [Exchange.continues]
  · simp [Exchange.concludes, hcode]
  · simp [Exchange.overlong, hcode, hlong]

end Attempts

section Signing

theorem keeps_startSignature (hbegins : ∀ session key mechanism parameters,
    Keeps I (library.exchange (.startSignature session key mechanism parameters)))
    (session : Session) (object : UInt64) (mechanism : Mechanism)
    (parameters : Option MechanismParameters) :
    Keeps I (session.startSignature library object mechanism parameters) :=
  .bind (.bind (hbegins _ _ _ _) fun _ => .ite (fun _ => .throw _) fun _ => .pure _) fun _ =>
    .pure _

variable {patience : Nat} (h : Steadfast library patience I)

include h

theorem Steadfast.takeSignature {request : Option Nat → Request}
    (hrequest : ∀ room, (request room).begins = false) :
    Keeps I (Session.takeSignature library request) := by
  refine .bind (h.require (hrequest none)) fun measured => .ite (fun _ => .throw _) fun _ => ?_
  exact .bind (h.require (hrequest _)) fun _ => .pure _

theorem Steadfast.feed (session : Session) (parts : List Bytes) :
    Keeps I (session.feed library parts) := by
  induction parts with
  | nil => exact .pure _
  | cons part rest ih => exact .bind (h.require rfl) fun _ => ih

variable (hbegins : ∀ session key mechanism parameters,
  Keeps I (library.exchange (.startSignature session key mechanism parameters)))

include hbegins

theorem Steadfast.sign (session : Session) (object : UInt64) (mechanism : Mechanism)
    (parameters : Option MechanismParameters) (data : Bytes) :
    Keeps I (session.sign library object mechanism parameters data) :=
  .bind (keeps_startSignature hbegins session object mechanism parameters) fun _ =>
    h.takeSignature fun _ => rfl

theorem Steadfast.signParts (session : Session) (object : UInt64) (mechanism : Mechanism)
    (parameters : Option MechanismParameters) (parts : List Bytes) :
    Keeps I (session.signParts library object mechanism parameters parts) :=
  .bind (keeps_startSignature hbegins session object mechanism parameters) fun _ =>
    .bind (h.feed session parts) fun _ => h.takeSignature fun _ => rfl

end Signing

variable {patience : Nat} {slot : SlotIdentifier} {call : Call Session}

theorem Steadfast.serve {C : List Exchange → Prop}
    (h : Steadfast library patience fun application => C application.exchanges)
    (hsigning : call.signing? = none) :
    Keeps (fun application => C application.exchanges) (serve library patience slot call) := by
  cases call with
  | mechanisms => exact h.mechanismList slot.id
  | openSession readWrite => exact h.start slot.id readWrite
  | login session user pin => exact h.login session user pin
  | findKey session key => exact h.findKey session _ key
  | publicKey session object key => exact h.publicKey session object key
  | sign | signParts => cases hsigning
  | close session => exact h.close session

theorem within_serve (hlogin : ∀ session user pin, call ≠ .login session user pin) :
    Keeps (Within loggedIn sessions) (serve library patience slot call) := by
  have hwithin := steadfast_within library patience loggedIn sessions
  cases call with
  | mechanisms => exact hwithin.mechanismList slot.id
  | openSession readWrite => exact within_start slot.id readWrite
  | login session user pin => exact absurd rfl (hlogin session user pin)
  | findKey session key => exact hwithin.findKey session _ key
  | publicKey session object key => exact hwithin.publicKey session object key
  | sign session object mechanism parameters data =>
    exact hwithin.sign (fun _ _ _ _ => within_exchange _) session object mechanism parameters data
  | signParts session object mechanism parameters parts =>
    exact hwithin.signParts (fun _ _ _ _ => within_exchange _) session object mechanism parameters
      parts
  | close session => exact within_close session

theorem attempts_serve (hsession : call.session? = some session)
    (hsigning : call.signing?.isSome = true) :
    Attempts session.handle Signed (serve library patience slot call) Signed := by
  cases call with
  | sign session' object mechanism parameters data =>
    cases hsession
    exact attempts_sign object mechanism parameters data
  | signParts session' object mechanism parameters parts =>
    cases hsession
    exact attempts_signParts object mechanism parameters parts
  | _ => cases hsigning

end TokenSigner.Cryptoki
