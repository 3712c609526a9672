import TokenSigner.Proofs.Cryptoki.Loading
import TokenSigner.Proofs.Cryptoki.Requests
import TokenSigner.Rehearsal.Library

namespace TokenSigner.Cryptoki

open Request (Own)

variable {ℓ : Type} {library : Library ℓ} {patience : Nat} {slot : SlotIdentifier}
  {session : Session} {application after : Application ℓ}

structure Life where
  session : Session
  exchanges : List Exchange

namespace Life

def LoggedIn (handle : UInt64) (exchanges : List Exchange) : Prop :=
  ∃ user pin outcome, (.login handle user pin, outcome) ∈ exchanges ∧ outcome.code = ReturnCode.ok

structure Ordinary (handle : UInt64) (request : Request) : Prop where
  session : request.session? = some handle
  logout : request ≠ .logout handle
  close : request ≠ .closeSession handle

inductive Ended (handle : UInt64) : List Exchange → Prop
  | loggedOut {own : List Exchange} {logout closing : Outcome}
    (hown : ∀ exchange ∈ own, Ordinary handle exchange.1) (hlogin : LoggedIn handle own) :
    Ended handle (own ++ [(.logout handle, logout), (.closeSession handle, closing)])
  | closed {own : List Exchange} {closing : Outcome}
    (hown : ∀ exchange ∈ own, Ordinary handle exchange.1) (hlogin : ¬LoggedIn handle own) :
    Ended handle (own ++ [(.closeSession handle, closing)])

theorem ordinary_of_own {handle : UInt64} {request : Request} (h : Own handle request) :
    Ordinary handle request := by
  refine ⟨h.session, ?_, ?_⟩
  · rintro rfl
    cases h.works
  · rintro rfl
    cases h.works

theorem loggedIn_append {handle : UInt64} {exchanges more : List Exchange} :
    LoggedIn handle (exchanges ++ more) ↔ LoggedIn handle exchanges ∨ LoggedIn handle more := by
  simp only [LoggedIn, List.mem_append, or_and_right, exists_or]

end Life

open Life (LoggedIn Ordinary Ended loggedIn_append ordinary_of_own)

structure Works (session : Session) (application after : Application ℓ) (added : List Exchange) :
    Prop where
  recorded : after.exchanges = application.exchanges ++ added
  ordinary : ∀ exchange ∈ added, Ordinary session.handle exchange.1
  loggedIn : ∀ number, number ∈ after.loggedIn ↔
    number ∈ application.loggedIn ∨ number = session.number ∧ LoggedIn session.handle added
  sessions : after.sessions = application.sessions

theorem works_of_extends (h : Extends (Own session.handle) application after) :
    ∃ added, Works session application after added := by
  obtain ⟨added, hadded, hown⟩ := h.recorded
  refine ⟨added, hadded, fun exchange hmem => ordinary_of_own (hown exchange hmem), ?_, h.sessions⟩
  have hnone : ¬LoggedIn session.handle added := by
    rintro ⟨user, pin, outcome, hmem, -⟩
    cases (hown _ hmem).works
  simp [h.loggedIn, hnone]

theorem works_login (session : Session) (user : UInt64) (pin : Bytes)
    (application : Application ℓ) :
    ∃ outcome, Works session application ((session.login library user pin).run application).2
        [(.login session.handle user pin, outcome)] ∧
      (((session.login library user pin).run application).1 = .ok () ↔
        outcome.code = ReturnCode.ok ∨ outcome.code = ReturnCode.userAlreadyLoggedIn) := by
  obtain ⟨outcome, state, hrun⟩ :=
    run_exchange library (.login session.handle user pin) application
  have hordinary : ∀ exchange ∈ [((.login session.handle user pin, outcome) : Exchange)],
      Ordinary session.handle exchange.1 := by
    simp only [List.mem_singleton, forall_eq]
    exact ⟨rfl, by simp, by simp⟩
  have hlogin : LoggedIn session.handle [(.login session.handle user pin, outcome)] ↔
      outcome.code = ReturnCode.ok := by
    simp [LoggedIn]
  have hdistinct : ReturnCode.userAlreadyLoggedIn ≠ ReturnCode.ok := by decide
  refine ⟨outcome, ?_⟩
  unfold Session.login
  rw [Action.run_bind_ok hrun]
  by_cases halready : outcome.code = ReturnCode.userAlreadyLoggedIn
  · have hnone : outcome.code ≠ ReturnCode.ok := halready ▸ hdistinct
    rw [if_pos halready]
    refine ⟨⟨rfl, hordinary, ?_, rfl⟩, iff_of_true rfl (Or.inr halready)⟩
    simp [Library.warn, hlogin, hnone]
  · rw [if_neg halready]
    by_cases hok : outcome.code = ReturnCode.ok
    · rw [if_neg (not_not_intro hok)]
      refine ⟨⟨rfl, hordinary, ?_, rfl⟩, iff_of_true rfl (Or.inl hok)⟩
      simp [hlogin, hok, or_comm]
    · rw [if_pos hok]
      refine ⟨⟨rfl, hordinary, ?_, rfl⟩, ?_⟩
      · simp [hlogin, hok]
      · simp [hok, halready]

structure Ends (session : Session) (application after : Application ℓ) (added : List Exchange) :
    Prop where
  recorded : after.exchanges = application.exchanges ++ added
  last : (session.number ∈ application.loggedIn ∧ ∃ logout closing,
      added = [(.logout session.handle, logout), (.closeSession session.handle, closing)]) ∨
    (session.number ∉ application.loggedIn ∧ ∃ closing,
      added = [(.closeSession session.handle, closing)])
  loggedIn : ∀ number, number ∈ after.loggedIn ↔
    number ∈ application.loggedIn ∧ number ≠ session.number
  sessions : after.sessions = application.sessions

theorem run_close_loggedIn (library : Library ℓ) (application : Application ℓ)
    (h : session.number ∈ application.loggedIn) :
    ∃ logout closing state, (session.close library).run application = (.ok (), { application with
      library := state
      exchanges := application.exchanges ++
        [(.logout session.handle, logout), (.closeSession session.handle, closing)]
      loggedIn := application.loggedIn.filter (· != session.number) }) := by
  have helem : application.loggedIn.elem session.number = true := List.elem_eq_true_of_mem h
  obtain ⟨logout, between, hlogout⟩ := run_exchange library (.logout session.handle)
    { application with loggedIn := application.loggedIn.filter (· != session.number) }
  obtain ⟨closing, state, hclose⟩ := run_exchange library (.closeSession session.handle)
    { application with
      library := between
      exchanges := application.exchanges ++ [(.logout session.handle, logout)]
      loggedIn := application.loggedIn.filter (· != session.number) }
  refine ⟨logout, closing, state, ?_⟩
  unfold Session.close
  rw [Action.run_get_bind]
  dsimp only
  rw [if_pos helem, Action.run_bind_ok (Action.run_modify _ _), Action.run_bind_ok hlogout]
  refine (Action.run_bind_ok hclose _).trans ?_
  rw [Action.run_pure]
  simp

theorem ends_close (library : Library ℓ) (session : Session) (application : Application ℓ) :
    ∃ added, Ends session application ((session.close library).run application).2 added := by
  by_cases hmem : session.number ∈ application.loggedIn
  · obtain ⟨logout, closing, state, hrun⟩ := run_close_loggedIn library application hmem
    rw [hrun]
    refine ⟨_, rfl, Or.inl ⟨hmem, logout, closing, rfl⟩, fun number => ?_, rfl⟩
    simp
  · obtain ⟨closing, state, hrun⟩ := run_close library application hmem
    rw [hrun]
    refine ⟨_, rfl, Or.inr ⟨hmem, closing, rfl⟩, fun number => ?_, rfl⟩
    constructor
    · intro hnumber
      exact ⟨hnumber, fun hsame => hmem (hsame ▸ hnumber)⟩
    · exact And.left

theorem works_serve {call : Call Session} (hsession : call.session? = some session)
    (hclose : call ≠ .close session) (application : Application ℓ) :
    ∃ added, Works session application ((serve library patience slot call).run application).2
      added := by
  cases call with
  | mechanisms | openSession => cases hsession
  | login session' user pin =>
    cases hsession
    obtain ⟨outcome, hworks, -⟩ := works_login session user pin application
    exact ⟨_, hworks⟩
  | findKey session' key =>
    cases hsession
    exact works_of_extends (confined_findKey session _ key application)
  | publicKey session' object key =>
    cases hsession
    exact works_of_extends (confined_publicKey session object key application)
  | sign session' object mechanism parameters data =>
    cases hsession
    exact works_of_extends (confined_sign session object mechanism parameters data application)
  | signParts session' object mechanism parameters parts =>
    cases hsession
    exact works_of_extends
      (confined_signParts session object mechanism parameters parts application)
  | close session' =>
    cases hsession
    exact (hclose rfl).elim

section Calls

variable {site : Site (Application ℓ) Session} {done : Site (Application ℓ) Session}

theorem works_call {call : Call Session} {result : Except Error call.Answer}
    (hcall : ((device library patience).call slot call).run site = (result, done))
    (hsession : call.session? = some session) (hclose : call ≠ .close session) :
    ∃ added, Works session site.device done.device added := by
  obtain ⟨served, hserve, hdone⟩ := run_of_call hcall
  obtain ⟨added, hworks⟩ := @works_serve _ library patience slot session call hsession hclose
    { site.device with warnings := [] }
  rw [hserve] at hworks
  rw [hdone]
  exact ⟨added, hworks.recorded, hworks.ordinary, hworks.loggedIn, hworks.sessions⟩

theorem ends_call {result : Except Error Unit}
    (hcall : ((device library patience).call slot (.close session)).run site = (result, done)) :
    ∃ added, Ends session site.device done.device added := by
  obtain ⟨served, hserve, hdone⟩ := run_of_call hcall
  obtain ⟨added, hends⟩ := ends_close library session { site.device with warnings := [] }
  have hclosed : (session.close library).run { site.device with warnings := [] } =
    (result, served) := hserve
  rw [hclosed] at hends
  rw [hdone]
  exact ⟨added, hends.recorded, hends.last, hends.loggedIn, hends.sessions⟩

end Calls

def since (site done : Site (Application ℓ) Session) : List Exchange :=
  done.device.exchanges.drop site.device.exchanges.length

inductive Lived (library : Library ℓ) (patience : Nat) :
    List Life → List Life → Site (Application ℓ) Session → Prop
  | start {site : Site (Application ℓ) Session} (hnobody : site.device.loggedIn = []) :
    Lived library patience [] [] site
  | request {living ended : List Life} {site : Site (Application ℓ) Session} {request : Request}
    (hlived : Lived library patience living ended site) (hsession : request.session? = none) :
    Lived library patience living ended ((onApplication (library.exchange request)).run site).2
  | mechanisms {slot : SlotIdentifier} {living ended : List Life}
    {site done : Site (Application ℓ) Session} {result : Except Error (List Mechanism)}
    (hlived : Lived library patience living ended site)
    (hcall : ((device library patience).call slot .mechanisms).run site = (result, done)) :
    Lived library patience living ended done
  | opened {slot : SlotIdentifier} {living ended : List Life}
    {site done : Site (Application ℓ) Session} {readWrite : Bool} {session : Session}
    (hlived : Lived library patience living ended site)
    (hcall : ((device library patience).call slot (.openSession readWrite)).run site =
      (.ok session, done)) :
    Lived library patience (⟨session, []⟩ :: living) ended done
  | notOpened {slot : SlotIdentifier} {living ended : List Life}
    {site done : Site (Application ℓ) Session} {readWrite : Bool} {e : Error}
    (hlived : Lived library patience living ended site)
    (hcall : ((device library patience).call slot (.openSession readWrite)).run site =
      (.error e, done)) :
    Lived library patience living ended done
  | worked {slot : SlotIdentifier} {living rest ended : List Life}
    {site done : Site (Application ℓ) Session} {session : Session} {own : List Exchange}
    {call : Call Session} {result : Except Error call.Answer}
    (hlived : Lived library patience living ended site)
    (hliving : living.Perm (⟨session, own⟩ :: rest)) (hsession : call.session? = some session)
    (hclose : call ≠ .close session)
    (hcall : ((device library patience).call slot call).run site = (result, done)) :
    Lived library patience (⟨session, own ++ since site done⟩ :: rest) ended done
  | closed {slot : SlotIdentifier} {living rest ended : List Life}
    {site done : Site (Application ℓ) Session} {session : Session} {own : List Exchange}
    {result : Except Error Unit} (hlived : Lived library patience living ended site)
    (hliving : living.Perm (⟨session, own⟩ :: rest))
    (hcall : ((device library patience).call slot (.close session)).run site = (result, done)) :
    Lived library patience rest (⟨session, own ++ since site done⟩ :: ended) done

structure Standing (living ended : List Life) (application : Application ℓ) : Prop where
  numbered : Numbered application
  apart : (living.map (·.session.number)).Nodup
  given : ∀ life ∈ living, life.session.number < application.sessions
  flagged : ∀ life ∈ living, life.session.number ∈ application.loggedIn ↔
    LoggedIn life.session.handle life.exchanges
  ordinary : ∀ life ∈ living, ∀ exchange ∈ life.exchanges,
    Ordinary life.session.handle exchange.1
  recorded : ∀ life ∈ living ++ ended, life.exchanges.Sublist application.exchanges
  closed : ∀ life ∈ ended, Ended life.session.handle life.exchanges

namespace Standing

variable {living living' rest ended : List Life} {own added : List Exchange}

theorem start (hnobody : application.loggedIn = []) : Standing [] [] application := by
  refine ⟨?_, .nil, by simp, by simp, by simp, by simp, by simp⟩
  intro number hnumber
  rw [hnobody] at hnumber
  cases hnumber

theorem perm (h : Standing living ended application) (hperm : living.Perm living') :
    Standing living' ended application where
  numbered := h.numbered
  apart := (hperm.map _).nodup_iff.mp h.apart
  given life hlife := h.given life (hperm.mem_iff.mpr hlife)
  flagged life hlife := h.flagged life (hperm.mem_iff.mpr hlife)
  ordinary life hlife := h.ordinary life (hperm.mem_iff.mpr hlife)
  recorded life hlife := h.recorded life ((hperm.append_right ended).mem_iff.mpr hlife)
  closed := h.closed

theorem quiet {R : Request → Prop} (h : Standing living ended application)
    (hextends : Extends R application after) : Standing living ended after := by
  obtain ⟨⟨added, hadded, -⟩, hloggedIn, hsessions⟩ := hextends
  refine ⟨?_, h.apart, ?_, ?_, h.ordinary, ?_, h.closed⟩
  · rw [Numbered, hloggedIn, hsessions]
    exact h.numbered
  · rw [hsessions]
    exact h.given
  · rw [hloggedIn]
    exact h.flagged
  · rw [hadded]
    exact fun life hlife => List.sublist_append_of_sublist_left (h.recorded life hlife)

theorem opens (h : Standing living ended application)
    (hnumber : session.number = application.sessions)
    (hloggedIn : after.loggedIn = application.loggedIn)
    (hsessions : after.sessions = application.sessions + 1)
    (hadded : after.exchanges = application.exchanges ++ added) :
    Standing (⟨session, []⟩ :: living) ended after := by
  have hfresh : session.number ∉ application.loggedIn := by
    intro hmem
    exact Nat.lt_irrefl _ (hnumber ▸ h.numbered _ hmem)
  refine ⟨?_, ?_, ?_, ?_, ?_, ?_, h.closed⟩
  · intro number hmem
    rw [hsessions]
    exact Nat.lt_succ_of_lt (h.numbered number (hloggedIn ▸ hmem))
  · refine List.nodup_cons.mpr ⟨?_, h.apart⟩
    intro hmem
    obtain ⟨life, hlife, hsame⟩ := List.mem_map.mp hmem
    have hgiven := h.given life hlife
    rw [hsame, ← hnumber] at hgiven
    exact Nat.lt_irrefl _ hgiven
  · intro life hlife
    rw [hsessions]
    rcases List.mem_cons.mp hlife with rfl | hlife
    · exact hnumber.trans_lt (Nat.lt_succ_self _)
    · exact Nat.lt_succ_of_lt (h.given life hlife)
  · intro life hlife
    rw [hloggedIn]
    rcases List.mem_cons.mp hlife with rfl | hlife
    · simp [hfresh, LoggedIn]
    · exact h.flagged life hlife
  · intro life hlife
    rcases List.mem_cons.mp hlife with rfl | hlife
    · simp
    · exact h.ordinary life hlife
  · intro life hlife
    rw [hadded]
    rcases List.mem_cons.mp hlife with rfl | hlife
    · exact List.nil_sublist _
    · exact List.sublist_append_of_sublist_left (h.recorded life hlife)

theorem others (h : Standing (⟨session, own⟩ :: rest) ended application) :
    ∀ life ∈ rest, life.session.number ≠ session.number := by
  intro life hlife hsame
  refine (List.nodup_cons.mp h.apart).1 ?_
  exact List.mem_map.mpr ⟨life, hlife, hsame⟩

theorem works (h : Standing (⟨session, own⟩ :: rest) ended application)
    (hworks : Works session application after added) :
    Standing (⟨session, own ++ added⟩ :: rest) ended after := by
  refine ⟨?_, h.apart, ?_, ?_, ?_, ?_, h.closed⟩
  · intro number hmem
    rw [hworks.sessions]
    rcases (hworks.loggedIn number).mp hmem with hbefore | ⟨rfl, -⟩
    · exact h.numbered number hbefore
    · exact h.given _ List.mem_cons_self
  · intro life hlife
    rw [hworks.sessions]
    rcases List.mem_cons.mp hlife with rfl | hlife
    · exact h.given ⟨session, own⟩ List.mem_cons_self
    · exact h.given life (List.mem_cons_of_mem _ hlife)
  · intro life hlife
    rw [hworks.loggedIn]
    rcases List.mem_cons.mp hlife with rfl | hlife
    · have hbefore := h.flagged _ List.mem_cons_self
      simp [hbefore, loggedIn_append]
    · have hbefore := h.flagged life (List.mem_cons_of_mem _ hlife)
      simp [hbefore, h.others life hlife]
  · intro life hlife
    rcases List.mem_cons.mp hlife with rfl | hlife
    · intro exchange hexchange
      rcases List.mem_append.mp hexchange with hold | hnew
      · exact h.ordinary _ List.mem_cons_self exchange hold
      · exact hworks.ordinary exchange hnew
    · exact h.ordinary life (List.mem_cons_of_mem _ hlife)
  · intro life hlife
    rw [hworks.recorded]
    rcases List.mem_cons.mp hlife with rfl | hlife
    · exact (h.recorded _ List.mem_cons_self).append (List.Sublist.refl _)
    · exact List.sublist_append_of_sublist_left
        (h.recorded life (List.mem_cons_of_mem _ hlife))

theorem ends (h : Standing (⟨session, own⟩ :: rest) ended application)
    (hends : Ends session application after added) :
    Standing rest (⟨session, own ++ added⟩ :: ended) after := by
  have hown := h.ordinary _ List.mem_cons_self
  have hflagged := h.flagged _ List.mem_cons_self
  refine ⟨?_, (List.nodup_cons.mp h.apart).2, ?_, ?_, ?_, ?_, ?_⟩
  · intro number hmem
    rw [hends.sessions]
    exact h.numbered number ((hends.loggedIn number).mp hmem).1
  · intro life hlife
    rw [hends.sessions]
    exact h.given life (List.mem_cons_of_mem _ hlife)
  · intro life hlife
    have hbefore := h.flagged life (List.mem_cons_of_mem _ hlife)
    simp [hends.loggedIn, hbefore, h.others life hlife]
  · exact fun life hlife => h.ordinary life (List.mem_cons_of_mem _ hlife)
  · intro life hlife
    rw [hends.recorded]
    rcases List.mem_append.mp hlife with hliving | hended
    · exact List.sublist_append_of_sublist_left (h.recorded life (by simp [hliving]))
    · rcases List.mem_cons.mp hended with rfl | hended
      · exact (h.recorded ⟨session, own⟩ List.mem_cons_self).append (List.Sublist.refl _)
      · exact List.sublist_append_of_sublist_left (h.recorded life (by simp [hended]))
  · intro life hlife
    rcases List.mem_cons.mp hlife with rfl | hlife
    · rcases hends.last with ⟨hmem, logout, closing, rfl⟩ | ⟨hmem, closing, rfl⟩
      · exact .loggedOut hown (hflagged.mp hmem)
      · exact .closed hown fun hlogin => hmem (hflagged.mpr hlogin)
    · exact h.closed life hlife

end Standing

theorem run_start (library : Library ℓ) (slot : UInt64) (readWrite : Bool)
    (application : Application ℓ) :
    ∃ flags outcome state, (Session.start library slot readWrite).run application =
      if outcome.code = ReturnCode.ok then (.ok ⟨outcome.count.getD 0, application.sessions⟩,
        { application with
          library := state
          exchanges := application.exchanges ++ [(.openSession slot flags, outcome)]
          sessions := application.sessions + 1 })
      else (.error (.libraryCall (.openSession slot) outcome.code), { application with
        library := state
        exchanges := application.exchanges ++ [(.openSession slot flags, outcome)] }) := by
  let flags :=
    if readWrite then Flag.readWriteSession ||| Flag.serialSession else Flag.serialSession
  obtain ⟨outcome, state, hrun⟩ :=
    run_require library (.openSession slot) (.openSession slot flags) application
  refine ⟨flags, outcome, state, ?_⟩
  unfold Session.start
  by_cases hcode : outcome.code = ReturnCode.ok
  · rw [if_pos hcode] at hrun ⊢
    rw [Action.run_bind_ok hrun]
    rfl
  · rw [if_neg hcode] at hrun ⊢
    rw [Action.run_bind_error hrun]

theorem confined_mechanismList (library : Library ℓ) (slot : UInt64) :
    Confined (fun request => request.session? = none) (mechanismList library slot) :=
  .bind (.require _ rfl) fun _ => .bind (.require _ rfl) fun _ => .pure _

section Lived

variable {living living' ended : List Life} {site done : Site (Application ℓ) Session}

theorem Standing.warnings (h : Standing living ended application) (warnings : List Warning) :
    Standing living ended { application with warnings } :=
  ⟨h.numbered, h.apart, h.given, h.flagged, h.ordinary, h.recorded, h.closed⟩

theorem Standing.call {call : Call Session} {result : Except Error call.Answer}
    (h : Standing living ended site.device)
    (hcall : ((device library patience).call slot call).run site = (result, done))
    (hserve : ∀ application served, Standing living ended application →
      (serve library patience slot call).run application = (result, served) →
      Standing living' ended served) :
    Standing living' ended done.device := by
  obtain ⟨served, hserved, hdone⟩ := run_of_call hcall
  rw [hdone]
  exact (hserve _ served (h.warnings []) hserved).warnings _

theorem standing_of_lived (h : Lived library patience living ended site) :
    Standing living ended site.device := by
  induction h with
  | start hnobody => exact .start hnobody
  | @request _ _ site request hlived hsession ih =>
    have hexchange : Confined (fun request => request.session? = none)
        (library.exchange request) := .exchange hsession
    exact ih.quiet (hexchange site.device)
  | @mechanisms slot _ _ _ _ _ hlived hcall ih =>
    refine ih.call hcall fun application served happlication hserved => ?_
    have hlist : (mechanismList library slot.id).run application = _ := hserved
    have hextends := confined_mechanismList library slot.id application
    rw [hlist] at hextends
    exact happlication.quiet hextends
  | opened hlived hcall ih =>
    refine ih.call hcall fun application served happlication hserved => ?_
    obtain ⟨flags, outcome, state, hstart⟩ := run_start library _ _ application
    have hsame := hserved.symm.trans hstart
    split at hsame
    · cases hsame
      exact happlication.opens rfl rfl rfl rfl
    · cases hsame
  | notOpened hlived hcall ih =>
    refine ih.call hcall fun application served happlication hserved => ?_
    obtain ⟨flags, outcome, state, hstart⟩ := run_start library _ _ application
    have hsame := hserved.symm.trans hstart
    split at hsame
    · cases hsame
    · cases hsame
      refine happlication.quiet (?_ : Extends (fun _ => True) application _)
      exact ⟨⟨[_], rfl, fun _ _ => trivial⟩, rfl, rfl⟩
  | worked hlived hliving hsession hclose hcall ih =>
    obtain ⟨added, hworks⟩ := works_call hcall hsession hclose
    rw [since, hworks.recorded, List.drop_left]
    exact (ih.perm hliving).works hworks
  | closed hlived hliving hcall ih =>
    obtain ⟨added, hends⟩ := ends_call hcall
    rw [since, hends.recorded, List.drop_left]
    exact (ih.perm hliving).ends hends

theorem sessions_closed_once (h : Lived library patience living ended site) :
    (∀ life ∈ ended, life.exchanges.Sublist site.device.exchanges ∧
      Ended life.session.handle life.exchanges) ∧
    (∀ life ∈ living, life.exchanges.Sublist site.device.exchanges ∧
      ∀ exchange ∈ life.exchanges, Ordinary life.session.handle exchange.1) ∧
    ∀ slot session user pin,
      let tried := ((device library patience).call slot (.login session user pin)).run site
      ∃ outcome, since site tried.2 = [(.login session.handle user pin, outcome)] ∧
        (tried.1 = .ok () ↔
          outcome.code = ReturnCode.ok ∨ outcome.code = ReturnCode.userAlreadyLoggedIn) := by
  have hstanding := standing_of_lived h
  refine ⟨?_, ?_, ?_⟩
  · intro life hlife
    exact ⟨hstanding.recorded life (List.mem_append_right _ hlife), hstanding.closed life hlife⟩
  · intro life hlife
    exact ⟨hstanding.recorded life (List.mem_append_left _ hlife), hstanding.ordinary life hlife⟩
  · intro slot session user pin tried
    obtain ⟨outcome, hworks, hresult⟩ :=
      @works_login _ library session user pin { site.device with warnings := [] }
    have hrecorded : tried.2.device.exchanges = site.device.exchanges ++ _ := hworks.recorded
    refine ⟨outcome, ?_, hresult⟩
    rw [since, hrecorded, List.drop_left]

end Lived

theorem sessions_closed_once_of_two :
    let script : Rehearsal.Script := {
      slots := [⟨7, [], 0, [], []⟩], extraSlots := 0, announcedHandles := none
      faults := [⟨"C_Logout", none, 5⟩] }
    let first : Session := ⟨1, 0⟩
    let second : Session := ⟨2, 1⟩
    let call (site : Site (Application Rehearsal.LibraryState) Session) (call : Call Session) :=
      (((device Rehearsal.library 1).call ⟨0, 7⟩ call).run site).2
    let opened := call (call ⟨⟨{ script }, [], [], 0, []⟩, [], []⟩ (.openSession false))
      (.openSession false)
    let entered := call (call opened (.login first 1 [1])) (.login second 1 [1])
    let used := call entered (.findKey second (.label "signing"))
    let site := call (call used (.close second)) (.close first)
    ∃ lives, Lived Rehearsal.library 1 [] lives site ∧
      (lives.map fun life => life.exchanges.map fun exchange =>
        (exchange.1.function, exchange.2.code)) =
        [[("C_Login", 0), ("C_Logout", 5), ("C_CloseSession", 0)],
          [("C_Login", ReturnCode.userAlreadyLoggedIn), ("C_FindObjectsInit", 0),
            ("C_FindObjects", 0), ("C_FindObjectsFinal", 0), ("C_CloseSession", 0)]] ∧
      ∀ life ∈ lives, Ended life.session.handle life.exchanges := by
  intro script first second call opened entered used site
  have hcall (site : Site (Application Rehearsal.LibraryState) Session) (made : Call Session) :
      ((device Rehearsal.library 1).call ⟨0, 7⟩ made).run site =
        ((((device Rehearsal.library 1).call ⟨0, 7⟩ made).run site).1, call site made) := rfl
  have hstart : Lived Rehearsal.library 1 [] [] ⟨⟨{ script }, [], [], 0, []⟩, [], []⟩ := .start rfl
  have hfirst : Lived Rehearsal.library 1 [⟨first, []⟩] [] _ :=
    hstart.opened (hcall _ (.openSession false))
  have hopened : Lived Rehearsal.library 1 [⟨second, []⟩, ⟨first, []⟩] [] opened :=
    hfirst.opened (hcall _ (.openSession false))
  have hlogin := hopened.worked (.swap _ _ _) rfl (by simp) (hcall _ (.login first 1 [1]))
  have hentered := hlogin.worked (.swap _ _ _) rfl (by simp) (hcall _ (.login second 1 [1]))
  have hused := hentered.worked (.refl _) rfl (by simp)
    (hcall _ (.findKey second (.label "signing")))
  have hclosed := hused.closed (.refl _) (hcall _ (.close second))
  have hended : Lived Rehearsal.library 1 [] _ site :=
    hclosed.closed (.refl _) (hcall _ (.close first))
  have hover := (sessions_closed_once hended).1
  refine ⟨_, hended, ?_, fun life hlife => (hover life hlife).2⟩
  decide +kernel

end TokenSigner.Cryptoki
