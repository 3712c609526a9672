import TokenSigner.Client
import TokenSigner.Proofs.ManagedSlot.Operations
import TokenSigner.Proofs.Mirror

namespace TokenSigner

open TokenSigner.Action (Mirrors)

variable {δ ς α : Type}

namespace ManagedSlot

structure Honored (device : Device δ ς) (P : Pact (ManagedSlot ς × Site δ ς)) : Prop where
  managed {x y : ManagedSlot ς × Site δ ς} : P.alike x y → x.1 = y.1
  update {f : ManagedSlot ς → ManagedSlot ς} (hslot : ∀ managed, (f managed).slot = managed.slot) :
    Mirrors P (update f)
  ask (call : Call ς) (hlogin : ∀ session user pin, call ≠ .login session user pin) :
    Mirrors P (ask device call)
  warn (warning : Warning) :
    Mirrors P ((Site.warn warning).on Prod.snd fun site (managed, _) => (managed, site))

variable {device : Device δ ς} {config : ModuleConfig} {P : Pact (ManagedSlot ς × Site δ ς)}
  {managed : ManagedSlot ς}

theorem run_borrow_of_idle {session : ς} {idle : List ς}
    (hidle : managed.pool.idle = session :: idle) (site : Site δ ς) :
    (borrow device config).run (managed, site) =
      (.ok session, { managed with pool := { managed.pool with idle } }, site) := by
  rcases borrow_cases device config managed site with
    ⟨session', idle', hidle', hrun⟩ | ⟨hempty, -⟩ | ⟨⟨hempty, -⟩, -⟩
  · rw [hidle] at hidle'
    cases hidle'
    exact hrun
  · rw [hidle] at hempty
    cases hempty
  · rw [hidle] at hempty
    cases hempty

theorem run_borrow_of_room (hidle : managed.pool.idle = [])
    (hroom : managed.pool.opened < managed.pool.capacity) (site : Site δ ς) :
    (borrow device config).run (managed, site) = (do
      let session ← ask device (.openSession !config.readOnly)
      update fun managed =>
        { managed with pool := { managed.pool with opened := managed.pool.opened + 1 } }
      return session : Work δ ς ς).run (managed, site) := by
  have hask : (ask device (.openSession !config.readOnly)).run (managed, site) =
      (((device.call managed.slot (.openSession !config.readOnly)).run site).1, managed,
        ((device.call managed.slot (.openSession !config.readOnly)).run site).2) := rfl
  rcases borrow_cases device config managed site with
    ⟨session, idle, hlent, -⟩ |
    ⟨-, -, ⟨session, after, hcall, hrun⟩ | ⟨e, after, hcall, hrun⟩⟩ | ⟨⟨-, hfull⟩, -⟩
  · rw [hidle] at hlent
    cases hlent
  · rw [hcall] at hask
    rw [hrun, Action.run_bind_ok hask]
    rfl
  · rw [hcall] at hask
    rw [hrun, Action.run_bind_error hask]
  · exact absurd hroom (Nat.not_lt.mpr hfull)

theorem run_borrow_of_blocked (hblocked : managed.pool.Blocked) (site : Site δ ς) :
    (borrow device config).run (managed, site) =
      (.error (.sessionTimeout managed.slot), managed, site) := by
  obtain ⟨hidle, hfull⟩ := hblocked
  rcases borrow_cases device config managed site with
    ⟨session, idle, hlent, -⟩ | ⟨-, hroom, -⟩ | ⟨-, hrun⟩
  · rw [hidle] at hlent
    cases hlent
  · exact absurd hroom (Nat.not_lt.mpr hfull)
  · exact hrun

section Honored

variable (h : Honored device P)

include h

theorem mirrors_inspect {f : ManagedSlot ς × Site δ ς → Work δ ς α}
    (hsame : ∀ managed site site', f (managed, site) = f (managed, site'))
    (hf : ∀ state, Mirrors P (f state)) : Mirrors P (get >>= f) := by
  refine .get_bind ?_ fun state _ => hf state
  rintro ⟨managed, site⟩ ⟨managed', site'⟩ - halike
  obtain rfl : managed = managed' := h.managed halike
  exact hsame managed site site'

theorem mirrors_identifier : Mirrors P (identifier : Work δ ς SlotIdentifier) :=
  mirrors_inspect h (fun _ _ _ => rfl) fun _ => .pure _

theorem mirrors_of_managed {work : Work δ ς α}
    (hwork : ∀ managed, ∃ done : Work δ ς α, Mirrors P done ∧
      ∀ site, work.run (managed, site) = done.run (managed, site)) : Mirrors P work := by
  refine .of_run ?_
  rintro ⟨managed, site⟩ ⟨managed', site'⟩ - halike
  obtain rfl : managed = managed' := h.managed halike
  obtain ⟨done, hdone, hrun⟩ := hwork managed
  exact ⟨done, hdone, hrun site, hrun site'⟩

theorem mirrors_discard (session : ς) : Mirrors P (discard device session) := by
  refine mirrors_of_managed h fun managed => ⟨do
    let _ ← (ask device (.close session)).outcome
    update fun managed => { managed with pool := managed.pool.freePlace }, ?_, fun _ => rfl⟩
  exact .bind (h.ask (.close session) nofun).outcome fun _ => h.update fun _ => rfl

theorem mirrors_borrow : Mirrors P (borrow device config) := by
  refine mirrors_of_managed h fun managed => ?_
  cases hidle : managed.pool.idle with
  | cons session idle =>
    refine ⟨do
      update fun managed => { managed with pool := { managed.pool with idle } }
      return session, ?_, run_borrow_of_idle hidle⟩
    exact .bind (h.update fun _ => rfl) fun _ => .pure _
  | nil =>
    by_cases hroom : managed.pool.opened < managed.pool.capacity
    · refine ⟨_, ?_, run_borrow_of_room hidle hroom⟩
      exact .bind (h.ask _ nofun) fun _ => .bind (h.update fun _ => rfl) fun _ => .pure _
    · exact ⟨throw (.sessionTimeout managed.slot), .throw _,
        run_borrow_of_blocked ⟨hidle, Nat.le_of_not_lt hroom⟩⟩

theorem mirrors_giveBack (session : ς) : Mirrors P (giveBack session : Work δ ς Unit) :=
  h.update fun _ => rfl

theorem mirrors_withSession {use : ς → Work δ ς α} (huse : ∀ session, Mirrors P (use session)) :
    Mirrors P (withSession device config use) := by
  refine .bind (mirrors_borrow h) fun session => .bind (huse session).outcome fun result => ?_
  exact .bind (mirrors_giveBack h session) fun _ => .ofExcept result

theorem mirrors_supportedMechanisms : Mirrors P (supportedMechanisms device) := by
  refine mirrors_inspect h (fun _ _ _ => rfl) fun state => ?_
  cases state.1.mechanisms with
  | some mechanisms => exact .pure mechanisms
  | none =>
    refine .bind (h.ask .mechanisms nofun) fun answer => ?_
    exact .bind (h.update fun _ => rfl) fun _ => .pure _

theorem mirrors_supports (mechanism : Mechanism) :
    Mirrors P (supports device config mechanism) := by
  refine .bind (mirrors_identifier h) fun slot => .ite (fun _ => ?_) fun _ => .pure false
  refine .bind (mirrors_supportedMechanisms h).outcome fun answer => ?_
  cases answer with
  | ok mechanisms => exact .pure _
  | error e => exact .bind (h.warn _) fun _ => .pure false

theorem mirrors_evict (key : KeyIdentifier) : Mirrors P (evict key : Work δ ς Unit) :=
  h.update fun _ => rfl

theorem mirrors_findKey (key : KeyIdentifier) : Mirrors P (findKey device config key) := by
  refine .bind (mirrors_identifier h) fun slot => .bind ?_ fun known => ?_
  · refine mirrors_of_managed h fun managed => ⟨do
      update fun managed => { managed with handles := (managed.handles.get key.cacheKey).2 }
      return (managed.handles.get key.cacheKey).1, ?_, fun _ => rfl⟩
    exact .bind (h.update fun _ => rfl) fun _ => .pure _
  · cases known with
    | some handle => exact .pure handle
    | none =>
      refine mirrors_withSession h fun session => .bind (h.ask _ nofun) fun found => ?_
      cases found with
      | none => exact .throw _
      | some handle => exact .bind (h.update fun _ => rfl) fun _ => .pure handle

theorem mirrors_publicKey (object : UInt64) (key : KeyIdentifier) :
    Mirrors P (publicKey device config object key) :=
  mirrors_withSession h fun _ => h.ask _ nofun

section Sign

variable (object : UInt64) (mechanism : Mechanism) (parameters : Option MechanismParameters)
  (data : Bytes)

theorem mirrors_signOn (session : ς) :
    Mirrors P (signOn device config session object mechanism parameters data) :=
  .ite (fun _ => h.ask _ nofun) fun _ => h.ask _ nofun

theorem mirrors_signBorrowed :
    Mirrors P (signBorrowed device config object mechanism parameters data) := by
  refine .bind (mirrors_borrow h) fun session => ?_
  refine .bind (mirrors_signOn h object mechanism parameters data session).outcome ?_
  intro answer
  cases answer with
  | ok signature => exact .bind (mirrors_giveBack h session) fun _ => .pure signature
  | error e =>
    refine .ite (fun _ => ?_) fun _ => ?_
    · exact .bind (mirrors_discard h session) fun _ => .throw e
    · exact .bind (mirrors_giveBack h session) fun _ => .throw e

theorem mirrors_sign : Mirrors P (sign device config object mechanism parameters data) := by
  refine .bind (mirrors_identifier h) fun slot => .ite (fun _ => ?_) fun _ => .throw _
  refine .bind (mirrors_supportedMechanisms h) fun known => .ite (fun _ => ?_) fun _ => ?_
  · exact mirrors_signBorrowed h object mechanism parameters data
  · exact .throw _

end Sign

theorem mirrors_find (key : KeyIdentifier) : Mirrors P (KeyHandle.find device config key) := by
  refine .bind (mirrors_identifier h) fun slot => .bind (mirrors_findKey h key) fun object => ?_
  exact .bind (mirrors_publicKey h object key) fun _ => .bind (.ofExcept _) fun _ => .pure _

theorem mirrors_signPkcs1 (handle : KeyHandle) (digest : Digest) (hash : Bytes) :
    Mirrors P (handle.signPkcs1 device config digest hash) := by
  refine .bind (.ofExcept _) fun _ => .bind (.ofExcept _) fun _ => ?_
  refine .bind (mirrors_supports h _) fun supported => .ite (fun _ => ?_) fun _ => ?_
  · exact mirrors_sign h _ _ _ _
  · exact .bind (.ofExcept _) fun block => mirrors_sign h _ _ _ _

theorem mirrors_signPssEncoded (handle : KeyHandle) (message : PssMessage) :
    Mirrors P (handle.signPssEncoded device config message) := by
  refine .bind (.ofExcept _) fun _ => .ite (fun _ => ?_) fun _ => mirrors_sign h _ _ _ _
  exact .bind (.throw _) fun _ => mirrors_sign h _ _ _ _

theorem mirrors_encodePss (handle : KeyHandle) (parameters : PssParameters) (hash : Bytes) :
    Mirrors P (handle.encodePss parameters hash : Work δ ς PssMessage) := by
  refine mirrors_of_managed h fun managed => ?_
  generalize hencoding : (Emsa.Pss.encodeFresh parameters handle.bits hash).run managed.salts =
    encoding
  refine ⟨do
    update fun managed => { managed with salts := encoding.2 }
    Action.ofExcept encoding.1, ?_, ?_⟩
  · exact .bind (h.update fun _ => rfl) fun _ => .ofExcept _
  · intro site
    rw [← hencoding]
    rfl

theorem mirrors_signPss (handle : KeyHandle) (parameters : PssParameters) (hash : Bytes) :
    Mirrors P (handle.signPss device config parameters hash) := by
  refine .bind (.ofExcept _) fun _ => .bind (.ofExcept _) fun _ => ?_
  refine .bind (mirrors_supports h _) fun supported => .ite (fun _ => ?_) fun _ => ?_
  · exact mirrors_sign h _ _ _ _
  · exact .bind (mirrors_encodePss h _ _ _) fun message => mirrors_signPssEncoded h _ _

theorem mirrors_signEcdsa (handle : KeyHandle) (hash : Bytes) (encoding : Ecdsa.Encoding) :
    Mirrors P (handle.signEcdsa device config hash encoding) := by
  refine .bind (.ofExcept _) fun _ => .bind (mirrors_sign h _ _ _ _) fun raw => ?_
  exact .ofExcept _

theorem mirrors_order (order : Engine.Order) : Mirrors P (order.sign device config) := by
  cases order with
  | pkcs1 key digest hash => exact mirrors_signPkcs1 h key digest hash
  | pss key parameters hash => exact mirrors_signPss h key parameters hash
  | ecdsa key hash encoding => exact mirrors_signEcdsa h key hash encoding

theorem mirrors_borrowing : Mirrors P (Client.borrowing device config) := by
  refine .bind (mirrors_borrow h) fun session => ?_
  exact .bind (mirrors_identifier h) fun _ => .pure _

theorem mirrors_slotRequest (request : Client.SlotRequest) :
    Mirrors P (Client.slotRequest device config request) := by
  cases request with
  | mechanisms => exact .bind (mirrors_supportedMechanisms h) fun _ => .pure _
  | supports mechanism => exact .bind (mirrors_supports h _) fun _ => .pure _
  | findKey key => exact .bind (mirrors_findKey h _) fun _ => .pure _
  | evict key => exact .bind (mirrors_evict h _) fun _ => .pure _
  | publicKey object key => exact .bind (mirrors_publicKey h _ _) fun _ => .pure _
  | sign object mechanism parameters data =>
    exact .bind (mirrors_sign h _ _ _ _) fun _ => .pure _

theorem mirrors_keyRequest (handle : KeyHandle) (request : Client.KeyRequest) :
    Mirrors P (Client.keyRequest device config handle request) := by
  cases request with
  | supports mechanism => exact .bind (mirrors_supports h _) fun _ => .pure _
  | sign mechanism parameters data => exact .bind (mirrors_sign h _ _ _ _) fun _ => .pure _
  | signPkcs1 digest hash =>
    exact .bind (.ofExcept _) fun _ => .bind (mirrors_signPkcs1 h _ _ _) fun _ => .pure _
  | signPss parameters hash =>
    exact .bind (.ofExcept _) fun _ => .bind (mirrors_signPss h _ _ _) fun _ => .pure _
  | signEcdsa hash encoding => exact .bind (mirrors_signEcdsa h _ _ _) fun _ => .pure _

end Honored

end ManagedSlot

end TokenSigner
