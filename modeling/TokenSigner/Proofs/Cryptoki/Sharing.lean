import TokenSigner.Proofs.Client.Layout
import TokenSigner.Proofs.Cryptoki.Lives

namespace TokenSigner.Cryptoki

open TokenSigner.Action (Keeps)

variable {ℓ α : Type} {library : Library ℓ} {installed : Installed} {patience : Nat}
  {application after : Application ℓ}

abbrev Tenure := List Exchange

def Request.Inner : Request → Prop
  | .start _ | .finish => False
  | _ => True

theorem inner_of_session {request : Request} {handle : UInt64}
    (h : request.session? = some handle) : request.Inner := by
  cases request with
  | start | finish => cases h
  | _ => trivial

def Adds (R : Request → Prop) (application after : Application ℓ) : Prop :=
  ∃ added, after.exchanges = application.exchanges ++ added ∧ ∀ exchange ∈ added, R exchange.1

theorem adds_slotList (library : Library ℓ) (application : Application ℓ) :
    Adds Request.Inner application ((slotList library).run application).2 := by
  have hconfined : Confined Request.Inner (slotList library) :=
    .bind (.require _ trivial) fun _ => .bind (.require _ trivial) fun _ => .pure _
  exact (hconfined application).recorded

theorem adds_serve (library : Library ℓ) (patience : Nat) (slot : SlotIdentifier)
    (call : Call Session) (application : Application ℓ) :
    Adds Request.Inner application ((serve library patience slot call).run application).2 := by
  have hworks {session : Session} (hsession : call.session? = some session)
      (hclose : call ≠ .close session) :
      Adds Request.Inner application ((serve library patience slot call).run application).2 := by
    obtain ⟨added, hworks⟩ :=
      @works_serve _ library patience slot _ call hsession hclose application
    exact ⟨added, hworks.recorded, fun exchange hexchange =>
      inner_of_session (hworks.ordinary exchange hexchange).session⟩
  cases call with
  | mechanisms =>
    have hconfined : Confined Request.Inner (mechanismList library slot.id) :=
      .bind (.require _ trivial) fun _ => .bind (.require _ trivial) fun _ => .pure _
    exact (hconfined application).recorded
  | openSession readWrite =>
    obtain ⟨flags, outcome, state, hrun⟩ := run_start library slot.id readWrite application
    refine ⟨[(.openSession slot.id flags, outcome)], ?_, List.forall_mem_singleton.mpr trivial⟩
    rw [serve, hrun]
    split <;> rfl
  | close session =>
    obtain ⟨added, hends⟩ := ends_close library session application
    refine ⟨added, hends.recorded, ?_⟩
    rcases hends.last with ⟨-, logout, closing, rfl⟩ | ⟨-, closing, rfl⟩
    · exact List.forall_mem_cons.mpr ⟨trivial, List.forall_mem_singleton.mpr trivial⟩
    · exact List.forall_mem_singleton.mpr trivial
  | login | findKey | publicKey | sign | signParts => exact hworks rfl (by simp)

def Ready (started : Outcome) : Prop :=
  started.code = ReturnCode.ok ∨ started.code = ReturnCode.alreadyInitialized

inductive Holds : Tenure → Prop
  | intro {flags : UInt64} {started : Outcome} {own : Tenure} (hready : Ready started)
    (hown : ∀ exchange ∈ own, exchange.1.Inner) : Holds ((.start flags, started) :: own)

inductive GivenUp : Tenure → Prop
  | notLoaded : GivenUp []
  | notReady {flags : UInt64} {started finished : Outcome} (hready : ¬Ready started) :
    GivenUp [(.start flags, started), (.finish, finished)]
  | held {own : Tenure} {finished : Outcome} (hown : Holds own) :
    GivenUp (own ++ [(.finish, finished)])

def Exchange.ends (exchange : Exchange) : Bool := exchange.1 == .finish

def Rightful (own : Tenure) : Prop :=
  ∀ finished, (.finish, finished) ∈ own →
    ∃ flags started, (.start flags, started) ∈ own ∧ started.code = ReturnCode.ok

theorem ends_of_inner {exchange : Exchange} (h : exchange.1.Inner) : exchange.ends = false := by
  obtain ⟨request, outcome⟩ := exchange
  cases request with
  | finish => exact h.elim
  | _ => rfl

section Tenures

variable {own more : Tenure} {flags : UInt64} {started finished : Outcome}

theorem Holds.append (h : Holds own) (hmore : ∀ exchange ∈ more, exchange.1.Inner) :
    Holds (own ++ more) := by
  cases h with
  | intro hready hown => exact .intro hready (List.forall_mem_append.mpr ⟨hown, hmore⟩)

theorem Holds.countP_ends (h : Holds own) : own.countP Exchange.ends = 0 := by
  cases h with
  | intro hready hown =>
    refine List.countP_eq_zero.mpr fun exchange hexchange => ?_
    rcases List.mem_cons.mp hexchange with rfl | hlater
    · exact Bool.false_ne_true
    · rw [ends_of_inner (hown exchange hlater)]
      exact Bool.false_ne_true

theorem GivenUp.countP_ends (h : GivenUp own) :
    own.countP Exchange.ends = if own = [] then 0 else 1 := by
  cases h with
  | notLoaded => rfl
  | notReady => rfl
  | @held own finished hown =>
    have hnonempty : own ++ [((.finish, finished) : Exchange)] ≠ [] := by simp
    rw [List.countP_append, hown.countP_ends, if_neg hnonempty]
    rfl

theorem Holds.start_mem (h : Holds own) : ∃ flags started, Ready started ∧
    ∀ flags' started', (.start flags', started') ∈ own ↔ flags' = flags ∧ started' = started := by
  cases h with
  | @intro flags started own hready hown =>
    refine ⟨flags, started, hready, fun flags' started' => ?_⟩
    have hlater : ((.start flags', started') : Exchange) ∉ own := fun hmem => hown _ hmem
    simp [hlater]

theorem Holds.rightful (h : Holds own) : Rightful own := by
  intro finished hfinished
  have hnone := List.countP_eq_zero.mp h.countP_ends _ hfinished
  exact absurd rfl hnone

theorem rightful_iff_of_start (hfinished : (.finish, finished) ∈ own)
    (hstart : ∀ flags' started',
      (.start flags', started') ∈ own ↔ flags' = flags ∧ started' = started) :
    Rightful own ↔
      ∀ flags started, (.start flags, started) ∈ own → started.code = ReturnCode.ok := by
  constructor
  · intro hrightful flags' started' hmem
    obtain ⟨_, _, hstarted, hok⟩ := hrightful finished hfinished
    rw [((hstart _ _).mp hmem).2, ← ((hstart _ _).mp hstarted).2]
    exact hok
  · intro hok _ _
    have hmem := (hstart flags started).mpr ⟨rfl, rfl⟩
    exact ⟨flags, started, hmem, hok flags started hmem⟩

theorem GivenUp.rightful_iff (h : GivenUp own) :
    Rightful own ↔
      ∀ flags started, (.start flags, started) ∈ own → started.code = ReturnCode.ok := by
  cases h with
  | notLoaded => simp [Rightful]
  | @notReady flags started finished hready =>
    exact @rightful_iff_of_start _ flags started finished (by simp) (by simp)
  | @held own finished hown =>
    obtain ⟨flags, started, -, hstart⟩ := hown.start_mem
    refine @rightful_iff_of_start _ flags started finished (by simp) fun flags' started' => ?_
    rw [List.mem_append, hstart]
    simp

end Tenures

theorem run_finishLibrary (library : Library ℓ) (application : Application ℓ) :
    ∃ finished state, (finishLibrary library).run application = (.ok (), { application with
      library := state, exchanges := application.exchanges ++ [(.finish, finished)] }) :=
  ⟨_, _, rfl⟩

theorem run_startLibrary (library : Library ℓ) (application : Application ℓ) :
    ∃ started state result, (startLibrary library).run application = (result, { application with
        library := state
        exchanges := application.exchanges ++ [(.start Flag.osLocking, started)] }) ∧
      (result = .ok () ↔ Ready started) := by
  obtain ⟨started, state, hrun⟩ := run_exchange library (.start Flag.osLocking) application
  unfold startLibrary
  rw [Action.run_bind_ok hrun]
  by_cases hready : Ready started
  · rw [if_neg (by rintro ⟨hok, halready⟩; exact hready.elim hok halready)]
    exact ⟨started, state, .ok (), rfl, iff_of_true rfl hready⟩
  · rw [if_pos (not_or.mp hready)]
    exact ⟨started, state, .error (.libraryCall .start started.code), rfl,
      iff_of_false (by simp) hready⟩

section Instantiate

variable {path : String} {between : Application ℓ} {e : Error}

theorem run_instantiate_unloaded (hload : loadLibrary installed path = .error e) :
    (instantiate library installed path).run application = (.error e, application) := by
  unfold instantiate
  rw [hload]
  exact Action.run_bind_error (Action.run_ofExcept _ _) _

theorem run_instantiate_ready (hload : loadLibrary installed path = .ok ())
    (hstart : (startLibrary library).run application = (.ok (), after)) :
    (instantiate library installed path).run application = (.ok (), after) := by
  unfold instantiate
  rw [hload, Action.run_bind_ok (Action.run_ofExcept _ _),
    Action.run_bind_ok (Action.run_outcome_eq_ok.mpr hstart)]
  rfl

theorem run_instantiate_refused (hload : loadLibrary installed path = .ok ())
    (hstart : (startLibrary library).run application = (.error e, between))
    (hfinish : (finishLibrary library).run between = (.ok (), after)) :
    (instantiate library installed path).run application = (.error e, after) := by
  unfold instantiate
  rw [hload, Action.run_bind_ok (Action.run_ofExcept _ _),
    Action.run_bind_ok (Action.run_outcome_eq_ok.mpr hstart)]
  exact Action.run_bind_ok hfinish _

end Instantiate

theorem run_instantiate (library : Library ℓ) (installed : Installed) (path : String)
    (application : Application ℓ) :
    ∃ result after own, (instantiate library installed path).run application = (result, after) ∧
      after.exchanges = application.exchanges ++ own ∧
      (result = .ok () → Holds own) ∧ ∀ e, result = .error e → GivenUp own := by
  cases hload : loadLibrary installed path with
  | error e =>
    exact ⟨_, _, [], run_instantiate_unloaded hload, (List.append_nil _).symm, by simp,
      fun _ _ => .notLoaded⟩
  | ok =>
    obtain ⟨started, state, result, hstart, hready⟩ := run_startLibrary library application
    cases result with
    | ok =>
      exact ⟨_, _, _, run_instantiate_ready hload hstart, rfl,
        fun _ => .intro (hready.mp rfl) (by simp), by simp⟩
    | error e =>
      obtain ⟨finished, finishedState, hfinish⟩ := run_finishLibrary library { application with
        library := state
        exchanges := application.exchanges ++ [(.start Flag.osLocking, started)] }
      refine ⟨_, _, _, run_instantiate_refused hload hstart hfinish, List.append_assoc _ _ _,
        by simp, fun _ _ => .notReady fun h => ?_⟩
      cases hready.mpr h

inductive Shared (library : Library ℓ) (installed : Installed) (patience : Nat) :
    List Tenure → List Tenure → Application ℓ → Prop
  | start (application : Application ℓ) : Shared library installed patience [] [] application
  | beside {holding gone : List Tenure} {application : Application ℓ} (request : Request)
    (h : Shared library installed patience holding gone application) :
    Shared library installed patience holding gone
      ((library.exchange request).run application).2
  | taken {holding gone : List Tenure} {application after : Application ℓ} {own : Tenure}
    (path : String) (h : Shared library installed patience holding gone application)
    (hrun : (instantiate library installed path).run application = (.ok (), after))
    (hown : after.exchanges = application.exchanges ++ own) :
    Shared library installed patience (own :: holding) gone after
  | notTaken {holding gone : List Tenure} {application after : Application ℓ} {own : Tenure}
    {e : Error} (path : String) (h : Shared library installed patience holding gone application)
    (hrun : (instantiate library installed path).run application = (.error e, after))
    (hown : after.exchanges = application.exchanges ++ own) :
    Shared library installed patience holding (own :: gone) after
  | listed {holding rest gone : List Tenure} {application : Application ℓ} {own added : Tenure}
    (h : Shared library installed patience holding gone application)
    (hholding : holding.Perm (own :: rest))
    (hadded : ((slotList library).run application).2.exchanges = application.exchanges ++ added) :
    Shared library installed patience ((own ++ added) :: rest) gone
      ((slotList library).run application).2
  | used {holding rest gone : List Tenure} {application : Application ℓ} {own added : Tenure}
    (slot : SlotIdentifier) (call : Call Session)
    (h : Shared library installed patience holding gone application)
    (hholding : holding.Perm (own :: rest))
    (hadded : ((serve library patience slot call).run application).2.exchanges =
      application.exchanges ++ added) :
    Shared library installed patience ((own ++ added) :: rest) gone
      ((serve library patience slot call).run application).2
  | givenUp {holding rest gone : List Tenure} {application : Application ℓ} {own added : Tenure}
    (h : Shared library installed patience holding gone application)
    (hholding : holding.Perm (own :: rest))
    (hadded : ((finishLibrary library).run application).2.exchanges =
      application.exchanges ++ added) :
    Shared library installed patience rest ((own ++ added) :: gone)
      ((finishLibrary library).run application).2

structure Accounted (holding gone : List Tenure) (application : Application ℓ) : Prop where
  holds : ∀ own ∈ holding, own.Sublist application.exchanges ∧ Holds own
  givenUp : ∀ own ∈ gone, own.Sublist application.exchanges ∧ GivenUp own

namespace Accounted

variable {holding rest gone : List Tenure} {own added : Tenure}

theorem later (h : Accounted holding gone application)
    (hadded : after.exchanges = application.exchanges ++ added) :
    Accounted holding gone after := by
  refine ⟨fun own hown => ⟨?_, (h.holds own hown).2⟩, fun own hown => ⟨?_, (h.givenUp own hown).2⟩⟩
  · rw [hadded]
    exact List.sublist_append_of_sublist_left (h.holds own hown).1
  · rw [hadded]
    exact List.sublist_append_of_sublist_left (h.givenUp own hown).1

theorem perm {holding' : List Tenure} (h : Accounted holding gone application)
    (hperm : holding.Perm holding') : Accounted holding' gone application :=
  ⟨fun own hown => h.holds own (hperm.mem_iff.mpr hown), h.givenUp⟩

theorem instantiate {path : String} {result : Except Error Unit}
    (h : Accounted holding gone application)
    (hrun : (instantiate library installed path).run application = (result, after))
    (hown : after.exchanges = application.exchanges ++ own) :
    (result = .ok () → Accounted (own :: holding) gone after) ∧
      ∀ e, result = .error e → Accounted holding (own :: gone) after := by
  obtain ⟨result', after', own', hrun', hown', hholds, hgivenUp⟩ :=
    run_instantiate library installed path application
  obtain ⟨rfl, rfl⟩ := Prod.mk.inj (hrun.symm.trans hrun')
  obtain rfl := List.append_cancel_left (hown.symm.trans hown')
  have hlater := h.later hown
  have hsublist : own.Sublist after.exchanges := by
    rw [hown]
    exact List.sublist_append_right _ _
  refine ⟨fun hok => ⟨?_, hlater.givenUp⟩, fun e herror => ⟨hlater.holds, ?_⟩⟩
  · exact List.forall_mem_cons.mpr ⟨⟨hsublist, hholds hok⟩, hlater.holds⟩
  · exact List.forall_mem_cons.mpr ⟨⟨hsublist, hgivenUp e herror⟩, hlater.givenUp⟩

theorem sublist_head (h : Accounted (own :: rest) gone application)
    (hadded : after.exchanges = application.exchanges ++ added) :
    (own ++ added).Sublist after.exchanges := by
  rw [hadded]
  exact (h.holds own List.mem_cons_self).1.append (List.Sublist.refl added)

theorem use (h : Accounted (own :: rest) gone application)
    (hinner : Adds Request.Inner application after)
    (hadded : after.exchanges = application.exchanges ++ added) :
    Accounted ((own ++ added) :: rest) gone after := by
  obtain ⟨added', hadded', hinner⟩ := hinner
  obtain rfl := List.append_cancel_left (hadded.symm.trans hadded')
  have hlater := h.later hadded
  refine ⟨List.forall_mem_cons.mpr ⟨⟨h.sublist_head hadded, ?_⟩, ?_⟩, hlater.givenUp⟩
  · exact (h.holds own List.mem_cons_self).2.append hinner
  · exact fun other hother => hlater.holds other (List.mem_cons_of_mem _ hother)

theorem finish (h : Accounted (own :: rest) gone application)
    (hadded : ((finishLibrary library).run application).2.exchanges =
      application.exchanges ++ added) :
    Accounted rest ((own ++ added) :: gone) ((finishLibrary library).run application).2 := by
  obtain ⟨finished, state, hfinish⟩ := run_finishLibrary library application
  have hlater := h.later hadded
  have hsublist := h.sublist_head hadded
  rw [hfinish] at hadded
  obtain rfl := List.append_cancel_left hadded
  refine ⟨?_, List.forall_mem_cons.mpr ⟨⟨hsublist, ?_⟩, hlater.givenUp⟩⟩
  · exact fun other hother => hlater.holds other (List.mem_cons_of_mem _ hother)
  · exact .held (h.holds own List.mem_cons_self).2

end Accounted

theorem accounted_of_shared {holding gone : List Tenure}
    (h : Shared library installed patience holding gone application) :
    Accounted holding gone application := by
  induction h with
  | start application => exact ⟨by simp, by simp⟩
  | @beside holding gone application request _ ih =>
    obtain ⟨outcome, state, hrun⟩ := run_exchange library request application
    rw [hrun]
    exact ih.later rfl
  | taken path _ hrun hown ih => exact (ih.instantiate hrun hown).1 rfl
  | notTaken path _ hrun hown ih => exact (ih.instantiate hrun hown).2 _ rfl
  | listed _ hholding hadded ih => exact (ih.perm hholding).use (adds_slotList library _) hadded
  | used slot call _ hholding hadded ih =>
    exact (ih.perm hholding).use (adds_serve library patience slot call _) hadded
  | givenUp _ hholding hadded ih => exact (ih.perm hholding).finish hadded

variable {config : ModuleConfig} {resolver : PasswordResolver} {salts : SlotIdentifier → Entropy}
  {site : Site (Application ℓ) Session}

theorem run_onApplication {a : Action (Application ℓ) α} {result : Except Error α}
    (h : a.run site.device = (result, after)) :
    (onApplication a).run site = (result, { site with device := after }) := by
  rw [onApplication, Action.run_on, h]

def buildOver (library : Library ℓ) (patience : Nat) (config : ModuleConfig)
    (resolver : PasswordResolver) (salts : SlotIdentifier → Entropy) :
    Action (Site (Application ℓ) Session) (TokenModule Session) := do
  let slots ← onApplication (slotList library)
  TokenModule.build (device library patience) config resolver salts slots

theorem load_eq :
    load library installed patience config resolver salts = (do
      onApplication (instantiate library installed config.library)
      match ← (buildOver library patience config resolver salts).outcome with
      | .ok tokens => do
        release library tokens
        return tokens
      | .error e => do
        onApplication (finishLibrary library)
        throw e) := by
  funext site
  change (load library installed patience config resolver salts).run site = Action.run _ site
  unfold load buildOver
  cases hload : loadLibrary installed config.library with
  | error e =>
    have hfails := @run_instantiate_unloaded _ library _ site.device _ _ hload
    simp [Action.run_bind, onApplication, hfails]
  | ok =>
    obtain ⟨started, state, result, hstart, -⟩ := run_startLibrary library site.device
    cases result with
    | error e =>
      obtain ⟨finished, _, hfinish⟩ := run_finishLibrary library { site.device with
        library := state
        exchanges := site.device.exchanges ++ [(.start Flag.osLocking, started)] }
      have hfails := run_instantiate_refused hload hstart hfinish
      simp [Action.run_bind, onApplication, hfails, hstart, hfinish]
    | ok =>
      have hready := run_onApplication (run_instantiate_ready hload hstart)
      rw [Action.run_bind_ok hready, Action.run_bind_ok (Action.run_ofExcept _ _)]
      exact Action.run_outcome_bind_ok (run_onApplication hstart) _ _

theorem keeps_holds {a : Action (Application ℓ) α}
    (h : ∀ application, Adds Request.Inner application (a.run application).2) :
    Keeps (fun application => Holds application.exchanges) a := by
  intro application happlication
  obtain ⟨added, hadded, hinner⟩ := h application
  rw [hadded]
  exact happlication.append hinner

theorem holds_call (slot : SlotIdentifier) (call : Call Session) :
    Keeps (fun site => Holds site.device.exchanges) ((device library patience).call slot call) :=
  keeps_call _ (fun _ _ h => h) (keeps_holds (adds_serve library patience slot call))

theorem givenUp_finish (h : Holds application.exchanges) :
    GivenUp ((finishLibrary library).run application).2.exchanges := by
  obtain ⟨finished, state, hfinish⟩ := run_finishLibrary library application
  rw [hfinish]
  exact .held h

theorem holds_buildOver :
    Keeps (fun site => Holds site.device.exchanges)
      (buildOver library patience config resolver salts) := by
  refine .bind (keeps_onApplication (keeps_holds (adds_slotList library))) fun ids => ?_
  exact TokenModule.keeps_takeSlots
    (fun slot _ => ManagedSlot.admits_of_keeps fun call _ => holds_call slot call) _
    (TokenModule.fresh_start config)

def Kept (m : TokenModule Session) (own : Tenure) : Prop :=
  if m.managed = [] then GivenUp own else Holds own

theorem run_onApplication_finish (library : Library ℓ) (site : Site (Application ℓ) Session) :
    (onApplication (finishLibrary library)).run site =
      (.ok (), { site with device := ((finishLibrary library).run site.device).2 }) := rfl

theorem kept_release {m : TokenModule Session} (h : Holds site.device.exchanges) :
    ∃ after, (release library m).run site = (.ok (), after) ∧ Kept m after.device.exchanges := by
  unfold release Kept
  cases hmanaged : m.managed with
  | nil =>
    refine ⟨_, run_onApplication_finish library site, ?_⟩
    rw [if_pos rfl]
    exact givenUp_finish h
  | cons managed rest =>
    refine ⟨site, rfl, ?_⟩
    rw [if_neg (by simp)]
    exact h

theorem tenure_of_load (hnew : site.device.exchanges = []) :
    ∃ result after, (load library installed patience config resolver salts).run site =
        (result, after) ∧
      (∀ e, result = .error e → GivenUp after.device.exchanges) ∧
      ∀ m, result = .ok m → Kept m after.device.exchanges := by
  obtain ⟨result, taken, own, hrun, hown, hholds, hgivenUp⟩ :=
    run_instantiate library installed config.library site.device
  rw [hnew, List.nil_append] at hown
  subst hown
  have htaken := run_onApplication hrun
  rw [load_eq]
  cases result with
  | error e => exact ⟨_, _, Action.run_bind_error htaken _, fun _ _ => hgivenUp e rfl, by simp⟩
  | ok =>
    obtain ⟨result, after, hbuild⟩ : ∃ result after,
        (buildOver library patience config resolver salts).run { site with device := taken } =
          (result, after) := ⟨_, _, rfl⟩
    have hbuilt := @holds_buildOver _ library patience config resolver salts
      { site with device := taken } (hholds rfl)
    rw [hbuild] at hbuilt
    rw [Action.run_bind_ok htaken, Action.run_bind_ok (Action.run_outcome_eq_ok.mpr hbuild)]
    cases result with
    | error e =>
      dsimp only
      rw [Action.run_bind_ok (run_onApplication_finish library after)]
      exact ⟨_, _, rfl, fun _ _ => givenUp_finish hbuilt, by simp⟩
    | ok m =>
      obtain ⟨released, hreleased, hkept⟩ := @kept_release _ library after m hbuilt
      dsimp only
      rw [Action.run_bind_ok hreleased]
      refine ⟨_, _, rfl, by simp, ?_⟩
      rintro _ ⟨⟩
      exact hkept

section Unload

variable {client closed : Client (Application ℓ) Session}

theorem run_unload_error {e : Error}
    (hclose : (Client.close (device library patience)).run client = (.error e, closed)) :
    (unload library patience).run client = (.error e, closed) := by
  unfold unload
  exact Action.run_bind_error hclose _

variable (hclose : (Client.close (device library patience)).run client = (.ok (), closed))

include hclose

theorem run_unload_empty (hmanaged : closed.tokens.managed = []) :
    (unload library patience).run client = (.ok (), closed) := by
  unfold unload
  rw [Action.run_bind_ok hclose, Action.run_get_bind]
  simp [hmanaged]

theorem run_unload_ok (hmanaged : closed.tokens.managed ≠ []) :
    (unload library patience).run client = (.ok (), { closed with site :=
      { closed.site with device := ((finishLibrary library).run closed.site.device).2 } }) := by
  unfold unload
  rw [Action.run_bind_ok hclose, Action.run_get_bind]
  have hsome : (!closed.tokens.managed.isEmpty) = true := by simpa using hmanaged
  dsimp only
  rw [if_pos hsome]
  rfl

end Unload

theorem kept_call {m : TokenModule Session} (hused : m.managed ≠ []) (slot : SlotIdentifier)
    (call : Call Session) :
    Keeps (fun site => Kept m site.device.exchanges)
      ((device library patience).call slot call) := by
  simp only [Kept, if_neg hused]
  exact holds_call slot call

theorem lasting_kept (library : Library ℓ) (patience : Nat) (config : ModuleConfig)
    (m : TokenModule Session) :
    Lasting (device library patience) config (fun site => Kept m site.device.exchanges)
      fun _ => m.managed ≠ [] where
  site hdeal hused hkept := by
    rw [Kept, if_neg hused] at hkept ⊢
    exact (steady_of_calls holds_call fun _ _ h => h).lasting.site hdeal trivial hkept
  deal _ hused := hused
  beside _ _ _ hused := hused
  perm _ hused := hused

theorem tenure_of_client {m : TokenModule Session} (hfresh : TokenModule.Fresh config m)
    (hkept : Kept m site.device.exchanges) (requests : List Client.Request) :
    let client := Client.after (device library patience) ⟨m, site, [], [], []⟩ requests
    Kept m client.site.device.exchanges ∧
    ∃ result closed, (unload library patience).run client = (result, closed) ∧
      (GivenUp closed.site.device.exchanges ∨
        (∃ e, result = .error e) ∧ Kept m closed.site.device.exchanges) := by
  intro client
  have hclient : Client.Throughout config (fun site => Kept m site.device.exchanges)
      (fun _ => m.managed ≠ []) ⟨m, site, [], [], []⟩ :=
    ⟨List.nodup_nil, hfresh.config_eq, hkept, hfresh.apart,
      fun _ hmanaged => List.ne_nil_of_mem hmanaged⟩
  have hlasting := lasting_kept library patience config m
  have hafter := Client.throughout_after hlasting requests hclient
  have hclosed := Client.site_close hlasting
    (fun hused session => kept_call hused _ (.close session)) hafter
  have hslots : ((Client.close (device library patience)).run client).2.tokens.slots = m.slots :=
    (Client.slots_close _ client).trans (Client.slots_after _ _ requests)
  refine ⟨hafter.slots.device, ?_⟩
  obtain ⟨result, closed, hclose⟩ : ∃ result closed,
      (Client.close (device library patience)).run client = (result, closed) := ⟨_, _, rfl⟩
  rw [hclose] at hclosed hslots
  cases result with
  | error e => exact ⟨_, _, run_unload_error hclose, .inr ⟨⟨e, rfl⟩, hclosed⟩⟩
  | ok =>
    have hmanaged : closed.tokens.managed = [] ↔ m.managed = [] := by
      simpa [TokenModule.slots] using congrArg (· = []) hslots
    by_cases hnone : m.managed = []
    · rw [Kept, if_pos hnone] at hclosed
      exact ⟨_, _, run_unload_empty hclose (hmanaged.mpr hnone), .inl hclosed⟩
    · rw [Kept, if_neg hnone] at hclosed
      exact ⟨_, _, run_unload_ok hclose (hmanaged.not.mpr hnone), .inl (givenUp_finish hclosed)⟩

theorem finalized_by_each_owner (library : Library ℓ) (installed : Installed) (patience : Nat) :
    (∀ holding gone application, Shared library installed patience holding gone application →
      (∀ own ∈ holding, own.Sublist application.exchanges ∧ Holds own ∧
        own.countP Exchange.ends = 0) ∧
      (∀ own ∈ gone, own.Sublist application.exchanges ∧ GivenUp own ∧
        own.countP Exchange.ends = if own = [] then 0 else 1) ∧
      ((∀ own ∈ holding ++ gone, Rightful own) ↔ ∀ own ∈ gone, ∀ flags started,
        (.start flags, started) ∈ own → started.code = ReturnCode.ok)) ∧
    ∀ config resolver salts site, site.device.exchanges = [] → ∃ result after,
      (load library installed patience config resolver salts).run site = (result, after) ∧
      (∀ e, result = .error e → GivenUp after.device.exchanges) ∧
      ∀ m, result = .ok m → ∀ requests,
        let client := Client.after (device library patience) ⟨m, after, [], [], []⟩ requests
        Kept m client.site.device.exchanges ∧
        ∃ result closed, (unload library patience).run client = (result, closed) ∧
          (GivenUp closed.site.device.exchanges ∨
            (∃ e, result = .error e) ∧ Kept m closed.site.device.exchanges) := by
  refine ⟨?_, ?_⟩
  · intro holding gone application hshared
    have haccounted := accounted_of_shared hshared
    refine ⟨?_, ?_, ?_⟩
    · intro own hown
      obtain ⟨hsublist, hholds⟩ := haccounted.holds own hown
      exact ⟨hsublist, hholds, hholds.countP_ends⟩
    · intro own hown
      obtain ⟨hsublist, hgivenUp⟩ := haccounted.givenUp own hown
      exact ⟨hsublist, hgivenUp, hgivenUp.countP_ends⟩
    · have hholding : ∀ own ∈ holding, Rightful own :=
        fun own hown => (haccounted.holds own hown).2.rightful
      rw [List.forall_mem_append, and_iff_right hholding]
      exact forall₂_congr fun own hown => (haccounted.givenUp own hown).2.rightful_iff
  · intro config resolver salts site hnew
    obtain ⟨result, after, hload, hfailed, hkept⟩ :=
      @tenure_of_load _ library installed patience config resolver salts site hnew
    refine ⟨result, after, hload, hfailed, ?_⟩
    rintro m rfl requests
    exact tenure_of_client (fresh_load hload) (hkept m rfl) requests

def serveInitialized : Request → Bool → Outcome × Bool
  | .start _, false => (⟨ReturnCode.ok, none, [], []⟩, true)
  | .start _, true => (⟨ReturnCode.alreadyInitialized, none, [], []⟩, true)
  | .finish, true => (⟨ReturnCode.ok, none, [], []⟩, false)
  | _, true => (⟨ReturnCode.ok, some 0, [], []⟩, true)
  | _, false => (⟨0x190, none, [], []⟩, false)

theorem finalized_by_each_of_two_owners :
    let library : Library Bool := ⟨serveInitialized⟩
    let installed : Installed := fun _ => some requiredFunctions
    let first : Tenure := [(.start 2, ⟨0, none, [], []⟩), (.finish, ⟨0x190, none, [], []⟩)]
    let second : Tenure := [(.start 2, ⟨0x191, none, [], []⟩), (.finish, ⟨0, none, [], []⟩)]
    ∃ application, Shared library installed 1 [] [first, second] application ∧
      GivenUp first ∧ GivenUp second ∧ ¬∀ own ∈ [first, second], Rightful own := by
  intro library installed first second
  have hfirst : Shared library installed 1 [[(.start 2, ⟨0, none, [], []⟩)]] [] _ :=
    .taken "common.so" (.start ⟨false, [], [], 0, []⟩) rfl rfl
  have hboth : Shared library installed 1
      [[(.start 2, ⟨0x191, none, [], []⟩)], [(.start 2, ⟨0, none, [], []⟩)]] [] _ :=
    .taken "common.so" hfirst rfl rfl
  have hone : Shared library installed 1 [[(.start 2, ⟨0, none, [], []⟩)]] [second] _ :=
    .givenUp hboth (.refl _) rfl
  have hnone : Shared library installed 1 [] [first, second] _ := .givenUp hone (.refl _) rfl
  obtain ⟨-, hgone, hrightful⟩ := (finalized_by_each_owner library installed 1).1 _ _ _ hnone
  refine ⟨_, hnone, (hgone first (by simp)).2.1, (hgone second (by simp)).2.1, ?_⟩
  intro hall
  have hok := hrightful.mp hall second (by simp) 2 ⟨0x191, none, [], []⟩ (by simp [second])
  cases hok

theorem another_user_finalized :
    let library : Library Bool := ⟨serveInitialized⟩
    let installed : Installed := fun _ => some requiredFunctions
    let own : Tenure := [(.start 2, ⟨0x191, none, [], []⟩), (.finish, ⟨0, none, [], []⟩)]
    ∃ application, Shared library installed 1 [] [own] application ∧
      application.exchanges = (.start 0, ⟨0, none, [], []⟩) ::
        (.slotList true none, ⟨0, some 0, [], []⟩) :: own ++
          [(.slotList true none, ⟨0x190, none, [], []⟩)] ∧
      ¬Rightful own := by
  intro library installed own
  have hother : Shared library installed 1 [] [] _ := .beside (.slotList true none)
    (.beside (.start 0) (.start ⟨false, [], [], 0, []⟩))
  have htaken : Shared library installed 1 [[(.start 2, ⟨0x191, none, [], []⟩)]] [] _ :=
    .taken "common.so" hother rfl rfl
  have hgone : Shared library installed 1 [] [own] _ := .givenUp htaken (.refl _) rfl
  refine ⟨_, .beside (.slotList true none) hgone, rfl, ?_⟩
  intro hrightful
  obtain ⟨flags, started, hstarted, hok⟩ := hrightful ⟨0, none, [], []⟩ (by simp [own])
  simp only [own, List.mem_cons, Prod.mk.injEq, reduceCtorEq, false_and, List.not_mem_nil,
    or_false] at hstarted
  rw [hstarted.2] at hok
  cases hok

end TokenSigner.Cryptoki
