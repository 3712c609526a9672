import TokenSigner.Proofs.Cryptoki.Serving

namespace TokenSigner.Cryptoki

variable {ℓ α β : Type} {library : Library ℓ} {R : Request → Prop}

structure Extends (R : Request → Prop) (application after : Application ℓ) : Prop where
  recorded : ∃ added, after.exchanges = application.exchanges ++ added ∧
    ∀ exchange ∈ added, R exchange.1
  loggedIn : after.loggedIn = application.loggedIn
  sessions : after.sessions = application.sessions

namespace Extends

variable {application between after : Application ℓ}

theorem refl (R : Request → Prop) (application : Application ℓ) :
    Extends R application application :=
  ⟨⟨[], (List.append_nil _).symm, by simp⟩, rfl, rfl⟩

theorem trans (h : Extends R application between) (h' : Extends R between after) :
    Extends R application after := by
  obtain ⟨added, hadded, hmade⟩ := h.recorded
  obtain ⟨more, hmore, hmade'⟩ := h'.recorded
  refine ⟨⟨added ++ more, ?_, ?_⟩, ?_, ?_⟩
  · rw [hmore, hadded, List.append_assoc]
  · intro exchange hexchange
    exact (List.mem_append.mp hexchange).elim (hmade exchange) (hmade' exchange)
  · rw [h'.loggedIn, h.loggedIn]
  · rw [h'.sessions, h.sessions]

end Extends

def Confined (R : Request → Prop) (a : Action (Application ℓ) α) : Prop :=
  ∀ application, Extends R application (a.run application).2

namespace Confined

theorem pure (x : α) : Confined R (Pure.pure x : Action (Application ℓ) α) :=
  fun application => .refl R application

theorem throw (e : Error) : Confined R (throw e : Action (Application ℓ) α) :=
  fun application => .refl R application

theorem bind {a : Action (Application ℓ) α} {f : α → Action (Application ℓ) β}
    (ha : Confined R a) (hf : ∀ x, Confined R (f x)) : Confined R (a >>= f) := by
  intro application
  have hfirst := ha application
  rcases hrun : a.run application with ⟨e | x, between⟩
  · rw [hrun] at hfirst
    rw [Action.run_bind_error hrun]
    exact hfirst
  · rw [hrun] at hfirst
    rw [Action.run_bind_ok hrun]
    exact hfirst.trans (hf x between)

theorem ite {c : Prop} [Decidable c] {a b : Action (Application ℓ) α} (ha : Confined R a)
    (hb : Confined R b) : Confined R (if c then a else b) := by
  split
  · exact ha
  · exact hb

theorem exchange {request : Request} (h : R request) : Confined R (library.exchange request) :=
  fun _ => ⟨⟨[_], rfl, by simpa using h⟩, rfl, rfl⟩

theorem require {request : Request} (task : Task) (h : R request) :
    Confined R (library.require task request) :=
  .bind (.exchange h) fun _ => .ite (.throw _) (.pure _)

theorem warn (warning : Warning) :
    Confined R (Library.warn warning : Action (Application ℓ) Unit) :=
  fun _ => ⟨⟨[], (List.append_nil _).symm, by simp⟩, rfl, rfl⟩

end Confined

def Request.works : Request → Bool
  | .startSearch _ _ | .search _ _ | .finishSearch _ | .readAttribute _ _ _ _
  | .startSignature _ _ _ _ | .sign _ _ _ | .feedSignature _ _ | .finishSignature _ _ => true
  | _ => false

structure Request.Own (handle : UInt64) (request : Request) : Prop where
  session : request.session? = some handle
  works : request.works = true

open Request (Own)

variable {session : Session} {patience : Nat}

theorem confined_collect (session : Session) (buffer : List UInt64) (count : UInt64) :
    Confined (Own session.handle) (session.collect library patience buffer count) := by
  induction patience generalizing buffer count with
  | zero => exact .throw _
  | succ patience ih =>
    refine .bind (.require _ ⟨rfl, rfl⟩) fun outcome => .ite (.pure _) (.ite (.throw _) ?_)
    exact .bind (ih _ _) fun _ => .pure _

theorem confined_findKey (session : Session) (objectClass : UInt64) (key : KeyIdentifier) :
    Confined (Own session.handle) (session.findKey library patience objectClass key) := by
  refine .bind ?_ fun handles => .ite (.bind (.warn _) fun _ => .pure _) (.pure _)
  refine .bind (.require _ ⟨rfl, rfl⟩) fun _ => .bind (confined_collect session _ _) fun _ => ?_
  exact .bind (.require _ ⟨rfl, rfl⟩) fun _ => .pure _

theorem confined_askAttribute (session : Session) (object code : UInt64) (room : Option Nat) :
    Confined (Own session.handle) (session.askAttribute library object code room) :=
  .bind (.exchange ⟨rfl, rfl⟩) fun _ => .ite (.pure _) (.ite (.throw _) (.pure _))

theorem confined_readAttribute (session : Session) (object code : UInt64) :
    Confined (Own session.handle) (session.readAttribute library object code) := by
  refine .bind (confined_askAttribute session object code none) fun measured => ?_
  cases measured with
  | none => exact .pure _
  | some measured => exact .bind (confined_askAttribute session object code _) fun _ => .pure _

theorem confined_keyType (session : Session) (object : UInt64) :
    Confined (Own session.handle) (session.keyType library object) := by
  refine .bind (confined_askAttribute session object _ _) fun told => ?_
  cases told with
  | none => exact .throw _
  | some outcome => exact .pure _

theorem confined_pairAttribute (session : Session) (publicObject : Option UInt64)
    (object code : UInt64) :
    Confined (Own session.handle) (session.pairAttribute library publicObject object code) := by
  cases publicObject
  case' none => refine .bind (.pure _) fun told => ?_
  case' some publicObject =>
    refine .bind (confined_readAttribute session publicObject code) fun told => ?_
  all_goals
    cases told with
    | some value => exact .pure _
    | none =>
      refine .bind (confined_readAttribute session object code) fun told => ?_
      cases told with
      | some value => exact .pure _
      | none => exact .throw _

theorem confined_publicKey (session : Session) (object : UInt64) (key : KeyIdentifier) :
    Confined (Own session.handle) (session.publicKey library patience object key) := by
  refine .bind (confined_findKey session _ key) fun publicObject => ?_
  refine .bind (confined_keyType session object) fun keyType => ?_
  have hread (code : UInt64) : Confined (Own session.handle)
      (session.pairAttribute library publicObject object code) :=
    confined_pairAttribute session publicObject object code
  refine .ite (.bind (hread _) fun _ => .bind (hread _) fun _ => .pure _) (.ite ?_ (.ite ?_ ?_))
  · exact .bind (hread _) fun _ => .pure _
  · exact .bind (hread _) fun _ => .pure _
  · exact .pure _

theorem confined_takeSignature {request : Option Nat → Request} (h : ∀ room, R (request room)) :
    Confined R (Session.takeSignature library request) := by
  refine .bind (.require _ (h none)) fun measured => .ite (.throw _) ?_
  exact .bind (.require _ (h _)) fun _ => .pure _

theorem confined_startSignature (session : Session) (object : UInt64) (mechanism : Mechanism)
    (parameters : Option MechanismParameters) :
    Confined (Own session.handle) (session.startSignature library object mechanism parameters) :=
  .bind (.require _ ⟨rfl, rfl⟩) fun _ => .pure _

theorem confined_feed (session : Session) (parts : List Bytes) :
    Confined (Own session.handle) (session.feed library parts) := by
  induction parts with
  | nil => exact .pure _
  | cons part rest ih => exact .bind (.require _ ⟨rfl, rfl⟩) fun _ => ih

theorem confined_sign (session : Session) (object : UInt64) (mechanism : Mechanism)
    (parameters : Option MechanismParameters) (data : Bytes) :
    Confined (Own session.handle) (session.sign library object mechanism parameters data) :=
  .bind (confined_startSignature session object mechanism parameters) fun _ =>
    confined_takeSignature fun _ => ⟨rfl, rfl⟩

theorem confined_signParts (session : Session) (object : UInt64) (mechanism : Mechanism)
    (parameters : Option MechanismParameters) (parts : List Bytes) :
    Confined (Own session.handle) (session.signParts library object mechanism parameters parts) :=
  .bind (confined_startSignature session object mechanism parameters) fun _ =>
    .bind (confined_feed session parts) fun _ => confined_takeSignature fun _ => ⟨rfl, rfl⟩

end TokenSigner.Cryptoki
