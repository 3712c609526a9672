import TokenSigner.Engine.Call
import TokenSigner.Proofs.Action
import TokenSigner.Proofs.Emsa.Pss
import TokenSigner.Rehearsal.Setting

namespace TokenSigner.Engine

abbrev History := List (Call × Option Error)

namespace History

def key : History → Option KeyHandle
  | [] => none
  | (.initSign key, none) :: _ => some key
  | _ :: before => key before

def parameters (scheme : SignatureScheme) : History → Option PssParameters
  | [] => scheme.parameters
  | (.setParameters accepted, none) :: _ => some accepted
  | _ :: before => parameters scheme before

def content : History → Bytes
  | [] => []
  | (.initSign _, none) :: _ => []
  | (.update data, none) :: before => content before ++ data
  | _ :: before => content before

-- the parameters were left in place though their digest could not be started
def Halfway : Call × Option Error → Prop
  | (.setParameters _, some (.cryptography _)) => True
  | _ => False

def Settled : History → Prop
  | [] => True
  | (.setParameters _, none) :: _ => True
  | entry :: before => ¬Halfway entry ∧ Settled before

def Restarted : History → Prop
  | [] => True
  | (.setParameters _, none) :: _ => True
  | (.initSign _, none) :: _ => True
  | entry :: before => ¬Halfway entry ∧ Restarted before

variable {past : History} {call : Call} {e : Error}

theorem Settled.before (h : Settled ((call, some e) :: past)) : past.Settled := by
  cases call <;> exact h.2

theorem Restarted.before (h : Restarted ((call, some e) :: past)) : past.Restarted := by
  cases call <;> exact h.2

end History

variable {δ ς : Type}

def Refuses (engine : Engine) : Call → Prop
  | .initSign key => key.algorithm ≠ engine.scheme.algorithm
  | .setParameters parameters =>
    match engine.scheme with
    | .pss fixed => engine.stage = .accumulating ∨ ∃ digest ∈ fixed, parameters.digest ≠ digest
    | .pkcs1 _ | .ecdsa _ _ => True
  | .update _ | .sign => ¬(engine.stage = .initialized ∨ engine.stage = .accumulating)
  | .encodePss =>
    (∀ fixed, engine.scheme ≠ .pss fixed) ∨
      ¬(engine.stage = .initialized ∨ engine.stage = .accumulating)
  | .initVerify _ | .verify _ => True

def ended (engine : Engine) : Engine := { engine with running := none, stage := .finalized }

def reported (hashing : Digest.Hashing) (engine : Engine) : Call → Option String
  | .initSign _ => hashing.starting engine.digest
  | .setParameters parameters =>
    if engine.stage = .initialized then hashing.starting parameters.digest else none
  | .update data => engine.running.bind (hashing.feeding · data)
  | .sign | .encodePss => engine.running.bind hashing.finishing
  | .initVerify _ | .verify _ => none

def brokenOff (engine : Engine) : Call → Engine
  | .setParameters parameters => { engine with parameters := some parameters }
  | .sign | .encodePss => engine.ended
  | .initSign _ | .update _ | .initVerify _ | .verify _ => engine

section Steps

variable {engine : Engine} {hashing : Digest.Hashing} {report : String}

theorem run_initSign {key : KeyHandle} (hkey : key.algorithm = engine.scheme.algorithm)
    (hstarts : hashing.starting engine.digest = none) :
    (initSign hashing key).run engine = (.ok (), { engine with
      running := some ⟨engine.digest, []⟩, key := some key, stage := .initialized }) := by
  have hreq : key.require engine.scheme.algorithm = .ok () := if_pos hkey
  simp [initSign, Action.run_bind, hreq, Digest.Hashing.start, hstarts]

theorem run_initSign_reported {key : KeyHandle} (hkey : key.algorithm = engine.scheme.algorithm)
    (hreport : hashing.starting engine.digest = some report) :
    (initSign hashing key).run engine = (.error (.cryptography report), engine) := by
  have hreq : key.require engine.scheme.algorithm = .ok () := if_pos hkey
  simp [initSign, Action.run_bind, hreq, Digest.Hashing.start, hreport]

theorem checkUpdate_of_active
    (hstage : engine.stage = .initialized ∨ engine.stage = .accumulating) :
    engine.stage.checkUpdate = .ok () := by
  rcases hstage with h | h <;> rw [h] <;> rfl

theorem checkFinish_of_active
    (hstage : engine.stage = .initialized ∨ engine.stage = .accumulating) :
    engine.stage.checkFinish = .ok () := by
  rcases hstage with h | h <;> rw [h] <;> rfl

theorem run_update {running : Digest.Running} {data : Bytes}
    (hstage : engine.stage = .initialized ∨ engine.stage = .accumulating)
    (hrunning : engine.running = some running) (htakes : hashing.feeding running data = none) :
    (update hashing data).run engine = (.ok (), { engine with
      running := some { running with fed := running.fed ++ data }, stage := .accumulating }) := by
  simp [update, Action.run_bind, checkUpdate_of_active hstage, hrunning, Digest.Hashing.feed,
    htakes]

theorem run_update_reported {running : Digest.Running} {data : Bytes}
    (hstage : engine.stage = .initialized ∨ engine.stage = .accumulating)
    (hrunning : engine.running = some running)
    (hreport : hashing.feeding running data = some report) :
    (update hashing data).run engine = (.error (.cryptography report), engine) := by
  simp [update, Action.run_bind, checkUpdate_of_active hstage, hrunning, Digest.Hashing.feed,
    hreport]

theorem run_setParameters_eq (hashing : Digest.Hashing) {fixed : Option Digest}
    {parameters : PssParameters} (hscheme : engine.scheme = .pss fixed)
    (hstage : engine.stage ≠ .accumulating) (hdigest : ∀ digest ∈ fixed, parameters.digest = digest) :
    (setParameters hashing parameters).run engine =
      (replaceParameters hashing parameters engine).run engine := by
  cases fixed with
  | none => simp [setParameters, Action.run_bind, hscheme, hstage]
  | some digest =>
    have hd := hdigest digest rfl
    simp [setParameters, Action.run_bind, hscheme, hstage, hd]

theorem run_replaceParameters {parameters : PssParameters}
    (hstarts : engine.reported hashing (.setParameters parameters) = none) :
    (replaceParameters hashing parameters engine).run engine = (.ok (), { engine with
      parameters := some parameters
      running := if engine.stage = .initialized then some ⟨parameters.digest, []⟩
        else engine.running }) := by
  by_cases hi : engine.stage = .initialized
  · simp only [reported, hi, if_true] at hstarts
    simp [replaceParameters, Action.run_bind, hi, Digest.Hashing.start, hstarts]
  · simp [replaceParameters, hi]

theorem run_replaceParameters_reported {parameters : PssParameters}
    (hreport : engine.reported hashing (.setParameters parameters) = some report) :
    (replaceParameters hashing parameters engine).run engine =
      (.error (.cryptography report), { engine with parameters := some parameters }) := by
  by_cases hi : engine.stage = .initialized
  · simp only [reported, hi, if_true] at hreport
    simp [replaceParameters, Action.run_bind, hi, Digest.Hashing.start, hreport]
  · simp [reported, hi] at hreport

theorem run_finish {running : Digest.Running} {key : KeyHandle}
    (hstage : engine.stage = .initialized ∨ engine.stage = .accumulating)
    (hrunning : engine.running = some running) (hkey : engine.key = some key)
    (hfinishes : hashing.finishing running = none) :
    (finish hashing).run engine = (.ok (key, running.digest.hash running.fed), engine.ended) := by
  simp [finish, Action.run_bind, checkFinish_of_active hstage, hrunning, hkey, ended,
    Digest.Hashing.finish, hfinishes, Except.map]

theorem run_finish_reported {running : Digest.Running} {key : KeyHandle}
    (hstage : engine.stage = .initialized ∨ engine.stage = .accumulating)
    (hrunning : engine.running = some running) (hkey : engine.key = some key)
    (hreport : hashing.finishing running = some report) :
    (finish hashing).run engine = (.error (.cryptography report), engine.ended) := by
  simp [finish, Action.run_bind, checkFinish_of_active hstage, hrunning, hkey, ended,
    Digest.Hashing.finish, hreport, Except.map]

section Ordered

variable {key : KeyHandle} {hash : Bytes}
  (hfinish : (finish hashing).run engine = (.ok (key, hash), engine.ended))

include hfinish

theorem run_order_pkcs1 {digest : Digest} (hscheme : engine.scheme = .pkcs1 digest) :
    (order hashing).run engine = (.ok (.pkcs1 key digest hash), engine.ended) := by
  simp [order, Action.run_bind, hfinish, ended, hscheme]

theorem run_order_ecdsa {digest : Digest} {encoding : Ecdsa.Encoding}
    (hscheme : engine.scheme = .ecdsa digest encoding) :
    (order hashing).run engine = (.ok (.ecdsa key hash encoding), engine.ended) := by
  simp [order, Action.run_bind, hfinish, ended, hscheme]

theorem run_order_pss {fixed : Option Digest} {parameters : PssParameters}
    (hscheme : engine.scheme = .pss fixed) (hparameters : engine.parameters = some parameters) :
    (order hashing).run engine = (.ok (.pss key parameters hash), engine.ended) := by
  simp [order, Action.run_bind, hfinish, ended, hscheme, hparameters, currentParameters, Except.map]

theorem run_orderEncoding {fixed : Option Digest} {parameters : PssParameters}
    (hscheme : engine.scheme = .pss fixed) (hparameters : engine.parameters = some parameters) :
    (orderEncoding hashing).run engine = (.ok (key, parameters, hash), engine.ended) := by
  simp [orderEncoding, Action.run_bind, hfinish, ended, hscheme, hparameters, currentParameters,
    Except.map]

end Ordered

section Unfinished

variable {after : Engine} {e : Error} (hfinish : (finish hashing).run engine = (.error e, after))

include hfinish

theorem run_order_error : (order hashing).run engine = (.error e, after) :=
  Action.run_bind_error hfinish _

theorem run_orderEncoding_error {fixed : Option Digest} (hscheme : engine.scheme = .pss fixed) :
    (orderEncoding hashing).run engine = (.error e, after) := by
  simp [orderEncoding, Action.run_bind, hscheme, hfinish]

end Unfinished

theorem run_initSign_refused (hashing : Digest.Hashing) {key : KeyHandle}
    (h : engine.Refuses (.initSign key)) :
    ∃ e, (initSign hashing key).run engine = (.error e, engine) := by
  have hreq : key.require engine.scheme.algorithm =
      .error (.wrongAlgorithm engine.scheme.algorithm key.key key.algorithm) := if_neg h
  simp [initSign, Action.run_bind, hreq]

theorem run_setParameters_refused (hashing : Digest.Hashing) {parameters : PssParameters}
    (h : engine.Refuses (.setParameters parameters)) :
    ∃ e, (setParameters hashing parameters).run engine = (.error e, engine) := by
  cases hscheme : engine.scheme with
  | pkcs1 | ecdsa => simp [setParameters, Action.run_bind, hscheme]
  | pss fixed =>
    simp only [Refuses, hscheme] at h
    by_cases hstage : engine.stage = .accumulating
    · simp [setParameters, Action.run_bind, hscheme, hstage]
    · obtain ⟨digest, hfixed, hdigest⟩ := h.resolve_left hstage
      cases hfixed
      simp [setParameters, Action.run_bind, hscheme, hstage, hdigest]

theorem run_update_refused (hashing : Digest.Hashing) {data : Bytes}
    (h : engine.Refuses (.update data)) :
    ∃ e, (update hashing data).run engine = (.error e, engine) := by
  simp only [Refuses, not_or] at h
  cases hstage : engine.stage with
  | initialized => exact absurd hstage h.1
  | accumulating => exact absurd hstage h.2
  | uninitialized | finalized =>
    simp [update, Action.run_bind, hstage, Stage.checkUpdate]

theorem run_finish_refused (hashing : Digest.Hashing) (h : engine.Refuses .sign) :
    ∃ e, (finish hashing).run engine = (.error e, engine) := by
  simp only [Refuses, not_or] at h
  cases hstage : engine.stage with
  | initialized => exact absurd hstage h.1
  | accumulating => exact absurd hstage h.2
  | uninitialized | finalized =>
    simp [finish, Action.run_bind, hstage, Stage.checkFinish]

theorem run_order_refused (hashing : Digest.Hashing) (h : engine.Refuses .sign) :
    ∃ e, (order hashing).run engine = (.error e, engine) := by
  obtain ⟨e, he⟩ := run_finish_refused hashing h
  exact ⟨e, run_order_error he⟩

theorem run_orderEncoding_refused (hashing : Digest.Hashing) (h : engine.Refuses .encodePss) :
    ∃ e, (orderEncoding hashing).run engine = (.error e, engine) := by
  cases hscheme : engine.scheme with
  | pkcs1 | ecdsa => simp [orderEncoding, Action.run_bind, hscheme]
  | pss fixed =>
    obtain ⟨e, he⟩ := run_finish_refused hashing
      (h.resolve_left fun other => other fixed hscheme)
    exact ⟨e, run_orderEncoding_error he hscheme⟩

end Steps

section Beside

variable {α : Type} {engine after : Engine} (world : TokenModule ς × Site δ ς)

theorem run_alone_ok {step : Action Engine Unit} (h : step.run engine = (.ok (), after)) :
    (alone step).run (engine, world) = (.ok none, after, world) := by
  simp [alone, h, Except.map]

theorem run_alone_error {step : Action Engine Unit} {e : Error}
    (h : step.run engine = (.error e, after)) :
    (alone step).run (engine, world) = (.error e, after, world) := by
  simp [alone, h, Except.map]

variable {finish : Action Engine α} (slot : α → SlotIdentifier)
  (work : α → ManagedSlot.Work δ ς Bytes)

theorem run_ending {order : α} (h : finish.run engine = (.ok order, after)) :
    (ending finish slot work).run (engine, world) =
      (((TokenModule.on (·.slot (slot order)) (work order)).run world).1.map some, after,
        ((TokenModule.on (·.slot (slot order)) (work order)).run world).2) := by
  simp [ending, Action.run_bind, h]

theorem run_ending_error {e : Error} (h : finish.run engine = (.error e, after)) :
    (ending finish slot work).run (engine, world) = (.error e, after, world) := by
  simp [ending, Action.run_bind, h]

end Beside

structure Follows (scheme : SignatureScheme) (past : History) (engine : Engine) : Prop where
  scheme_eq : engine.scheme = scheme
  key_eq : engine.key = past.key
  running_eq : engine.stage = .initialized ∨ engine.stage = .accumulating →
    ∃ running key, engine.running = some running ∧ running.fed = past.content ∧
      engine.key = some key
  idle : ¬(engine.stage = .initialized ∨ engine.stage = .accumulating) → engine.running = none
  unfed : engine.stage = .initialized → past.content = []
  parameters_pss : ∀ fixed, scheme = .pss fixed → ∃ parameters, engine.parameters = some parameters
  digest_fixed : ∀ digest, scheme = .pss (some digest) → engine.digest = digest
  -- without a fixed digest, that of the engine is that of the parameters, whether it runs or not
  digest_eq : (scheme = .pss none → past.Restarted) →
    ∀ running ∈ engine.running, running.digest = engine.digest
  parameters_eq : past.Settled → engine.parameters = past.parameters scheme

variable {scheme : SignatureScheme} {past : History} {engine : Engine} {hashing : Digest.Hashing}
  {world : TokenModule ς × Site δ ς}

theorem follows_failed (call : Call) (e : Error) (h : Follows scheme past engine) :
    Follows scheme ((call, some e) :: past) engine := by
  have hkey : History.key ((call, some e) :: past) = past.key := by cases call <;> rfl
  have hparameters : History.parameters scheme ((call, some e) :: past) =
      past.parameters scheme := by cases call <;> rfl
  have hcontent : History.content ((call, some e) :: past) = past.content := by cases call <;> rfl
  refine ⟨h.scheme_eq, h.key_eq.trans hkey.symm, ?_, h.idle, ?_, h.parameters_pss, h.digest_fixed,
    fun hr => h.digest_eq fun hs => (hr hs).before,
    fun hs => (h.parameters_eq hs.before).trans hparameters.symm⟩
  · rw [hcontent]
    exact h.running_eq
  · rw [hcontent]
    exact h.unfed

theorem follows_ended {call : Call} (failure : Option Error) (h : Follows scheme past engine)
    (hcall : call = .sign ∨ call = .encodePss) :
    Follows scheme ((call, failure) :: past) engine.ended where
  scheme_eq := h.scheme_eq
  key_eq := by rcases hcall with rfl | rfl <;> exact h.key_eq
  running_eq := by rintro (hstage | hstage) <;> cases hstage
  idle _ := rfl
  unfed := by rintro hstage; cases hstage
  parameters_pss := h.parameters_pss
  digest_fixed := h.digest_fixed
  digest_eq := by rintro - running hrunning; cases hrunning
  parameters_eq := by
    intro hsettled
    rcases hcall with rfl | rfl <;> exact h.parameters_eq hsettled.2

theorem follows_initSign {key : KeyHandle} (h : Follows scheme past engine) :
    Follows scheme ((.initSign key, none) :: past) { engine with
      running := some ⟨engine.digest, []⟩, key := some key, stage := .initialized } where
  scheme_eq := h.scheme_eq
  key_eq := rfl
  running_eq _ := ⟨_, key, rfl, rfl, rfl⟩
  idle hidle := absurd (Or.inl rfl) hidle
  unfed _ := rfl
  parameters_pss := h.parameters_pss
  digest_fixed := h.digest_fixed
  digest_eq := by
    rintro - running hrunning
    cases hrunning
    rfl
  parameters_eq hsettled := h.parameters_eq hsettled.2

theorem follows_update {running : Digest.Running} {data : Bytes} (h : Follows scheme past engine)
    (hstage : engine.stage = .initialized ∨ engine.stage = .accumulating)
    (hrunning : engine.running = some running) :
    Follows scheme ((.update data, none) :: past) { engine with
      running := some { running with fed := running.fed ++ data }, stage := .accumulating } where
  scheme_eq := h.scheme_eq
  key_eq := h.key_eq
  running_eq _ := by
    obtain ⟨before, key, hbefore, hfed, hkey⟩ := h.running_eq hstage
    cases hrunning.symm.trans hbefore
    exact ⟨_, key, rfl, congrArg (· ++ data) hfed, hkey⟩
  idle hidle := absurd (Or.inr rfl) hidle
  unfed hstage := by cases hstage
  parameters_pss := h.parameters_pss
  digest_fixed := h.digest_fixed
  digest_eq hr := by
    rintro _ hupdated
    cases hupdated
    exact h.digest_eq (fun hs => (hr hs).2) running hrunning
  parameters_eq hsettled := h.parameters_eq hsettled.2

section Replacing

variable {fixed : Option Digest} {parameters : PssParameters} (hscheme : engine.scheme = .pss fixed)
include hscheme

theorem digest_replaced (running : Option Digest.Running) :
    Engine.digest { engine with parameters := some parameters, running } = parameters.digest := by
  simp [digest, hscheme]

variable (hdigest : ∀ digest ∈ fixed, parameters.digest = digest)
include hdigest

theorem follows_setParameters (h : Follows scheme past engine)
    (hstage : engine.stage ≠ .accumulating) :
    Follows scheme ((.setParameters parameters, none) :: past) { engine with
      parameters := some parameters
      running := if engine.stage = .initialized then some ⟨parameters.digest, []⟩
        else engine.running } where
  scheme_eq := h.scheme_eq
  key_eq := h.key_eq
  running_eq hactive := by
    have hinitialized : engine.stage = .initialized := hactive.resolve_right hstage
    obtain ⟨-, key, -, -, hkey⟩ := h.running_eq hactive
    exact ⟨_, key, if_pos hinitialized, (h.unfed hinitialized).symm, hkey⟩
  idle hidle := by
    have hinitialized : engine.stage ≠ .initialized := (not_or.mp hidle).1
    exact (if_neg hinitialized).trans (h.idle hidle)
  unfed := h.unfed
  parameters_pss _ _ := ⟨parameters, rfl⟩
  digest_fixed digest hfixed := by
    have hmem : fixed = some digest :=
      SignatureScheme.pss.inj (hscheme.symm.trans (h.scheme_eq.trans hfixed))
    exact (digest_replaced hscheme _).trans (hdigest digest hmem)
  digest_eq := by
    intro _ running hrunning
    by_cases hinitialized : engine.stage = .initialized
    · rw [if_pos hinitialized] at hrunning
      cases hrunning
      exact (digest_replaced hscheme _).symm
    · rw [if_neg hinitialized, h.idle (not_or.mpr ⟨hinitialized, hstage⟩)] at hrunning
      cases hrunning
  parameters_eq _ := rfl

theorem follows_halfway (report : String) (h : Follows scheme past engine) :
    Follows scheme ((.setParameters parameters, some (.cryptography report)) :: past)
      { engine with parameters := some parameters } where
  scheme_eq := h.scheme_eq
  key_eq := h.key_eq
  running_eq := h.running_eq
  idle := h.idle
  unfed := h.unfed
  parameters_pss _ _ := ⟨parameters, rfl⟩
  digest_fixed digest hfixed := by
    have hmem : fixed = some digest :=
      SignatureScheme.pss.inj (hscheme.symm.trans (h.scheme_eq.trans hfixed))
    exact (digest_replaced hscheme _).trans (hdigest digest hmem)
  digest_eq hr := by
    intro running hrunning
    cases hfixed : fixed with
    | none => exact absurd trivial (hr (h.scheme_eq.symm.trans (hfixed ▸ hscheme))).1
    | some digest =>
      have hs : scheme = .pss (some digest) := h.scheme_eq.symm.trans (hfixed ▸ hscheme)
      have hold := h.digest_eq (by simp [hs]) running hrunning
      rw [hold, h.digest_fixed digest hs, digest_replaced hscheme]
      exact (hdigest digest hfixed).symm
  parameters_eq hsettled := absurd trivial hsettled.1

end Replacing

theorem Follows.finishes (h : Follows scheme past engine)
    (hstage : engine.stage = .initialized ∨ engine.stage = .accumulating)
    (hnone : engine.reported hashing .sign = none) :
    ∃ key running, past.key = some key ∧ engine.running = some running ∧
      (finish hashing).run engine =
        (.ok (key, running.digest.hash past.content), engine.ended) := by
  obtain ⟨running, key, hrunning, hfed, hkey⟩ := h.running_eq hstage
  simp only [reported, hrunning, Option.bind_some] at hnone
  rw [← hfed]
  exact ⟨key, running, h.key_eq.symm.trans hkey, hrunning, run_finish hstage hrunning hkey hnone⟩

theorem Follows.breaksOff {report : String} (h : Follows scheme past engine)
    (hstage : engine.stage = .initialized ∨ engine.stage = .accumulating)
    (hreport : engine.reported hashing .sign = some report) :
    (finish hashing).run engine = (.error (.cryptography report), engine.ended) := by
  obtain ⟨running, key, hrunning, hfed, hkey⟩ := h.running_eq hstage
  simp only [reported, hrunning, Option.bind_some] at hreport
  exact run_finish_reported hstage hrunning hkey hreport

def endedWith (engine : Engine) (key : KeyHandle) (work : ManagedSlot.Work δ ς Bytes)
    (world : TokenModule ς × Site δ ς) :
    Except Error (Option Bytes) × Engine × TokenModule ς × Site δ ς :=
  let (result, world) := (TokenModule.on (·.slot key.slot) work).run world
  (result.map some, engine.ended, world)

section Endings

variable (device : Device δ ς) (config : ModuleConfig) (world : TokenModule ς × Site δ ς)
  {key : KeyHandle} {hash : Bytes}
  (hfinish : (finish hashing).run engine = (.ok (key, hash), engine.ended))
include hfinish

theorem run_sign_pkcs1 {digest : Digest} (hscheme : engine.scheme = .pkcs1 digest) :
    (perform hashing device config .sign).run (engine, world) =
      engine.endedWith key (key.signPkcs1 device config digest hash) world :=
  run_ending world _ _ (run_order_pkcs1 hfinish hscheme)

theorem run_sign_ecdsa {digest : Digest} {encoding : Ecdsa.Encoding}
    (hscheme : engine.scheme = .ecdsa digest encoding) :
    (perform hashing device config .sign).run (engine, world) =
      engine.endedWith key (key.signEcdsa device config hash encoding) world :=
  run_ending world _ _ (run_order_ecdsa hfinish hscheme)

section Pss

variable {fixed : Option Digest} {parameters : PssParameters}
  (hscheme : engine.scheme = .pss fixed) (hparameters : engine.parameters = some parameters)
include hscheme hparameters

theorem run_sign_pss :
    (perform hashing device config .sign).run (engine, world) =
      engine.endedWith key (key.signPss device config parameters hash) world :=
  run_ending world _ _ (run_order_pss hfinish hscheme hparameters)

theorem run_encodePss :
    (perform hashing device config .encodePss).run (engine, world) =
      engine.endedWith key ((·.bytes) <$> key.encodePss parameters hash) world :=
  run_ending world _ _ (run_orderEncoding hfinish hscheme hparameters)

end Pss

end Endings

structure Encodes (parameters : PssParameters) (bits : Nat) (hash salt : Bytes)
    (result : Except Error (Option Bytes)) : Prop where
  answer : result = (Emsa.Pss.encode parameters bits hash salt).map fun message =>
    some message.bytes
  accepted : ∀ encoded, result = .ok (some encoded) →
    Emsa.Pss.recover parameters.digest.hash parameters.maskDigest.hash parameters.digest.length
      parameters.saltLength (bits - 1) hash encoded = some salt

section Calls

variable (device : Device δ ς) (config : ModuleConfig) (world : TokenModule ς × Site δ ς)

theorem run_refused (hashing : Digest.Hashing) {call : Call} (hr : engine.Refuses call) :
    ∃ e, (perform hashing device config call).run (engine, world) = (.error e, engine, world) := by
  cases call with
  | initSign key =>
    obtain ⟨e, he⟩ := run_initSign_refused hashing hr
    exact ⟨e, run_alone_error world he⟩
  | setParameters parameters =>
    obtain ⟨e, he⟩ := run_setParameters_refused hashing hr
    exact ⟨e, run_alone_error world he⟩
  | update data =>
    obtain ⟨e, he⟩ := run_update_refused hashing hr
    exact ⟨e, run_alone_error world he⟩
  | sign =>
    obtain ⟨e, he⟩ := run_order_refused hashing hr
    exact ⟨e, run_ending_error world _ _ he⟩
  | encodePss =>
    obtain ⟨e, he⟩ := run_orderEncoding_refused hashing hr
    exact ⟨e, run_ending_error world _ _ he⟩
  | initVerify | verify => exact ⟨.verificationUnsupported, rfl⟩

theorem replaces_of_not_refused {parameters : PssParameters}
    (hr : ¬engine.Refuses (.setParameters parameters)) :
    ∃ fixed, engine.scheme = .pss fixed ∧ engine.stage ≠ .accumulating ∧
      ∀ digest ∈ fixed, parameters.digest = digest := by
  cases hscheme : engine.scheme with
  | pkcs1 | ecdsa => exact absurd (by simp [Refuses, hscheme]) hr
  | pss fixed =>
    simp only [Refuses, hscheme, not_or, not_exists, not_and, Decidable.not_not] at hr
    exact ⟨fixed, rfl, hr⟩

theorem encodes_of_not_refused (hr : ¬engine.Refuses .encodePss) :
    (∃ fixed, engine.scheme = .pss fixed) ∧
      (engine.stage = .initialized ∨ engine.stage = .accumulating) := by
  obtain ⟨fixed, hs⟩ := Classical.not_forall.mp fun other => hr (Or.inl other)
  exact ⟨⟨fixed, Decidable.not_not.mp hs⟩, Decidable.not_not.mp fun other => hr (Or.inr other)⟩

theorem run_answered {call : Call} (h : Follows scheme past engine) (hr : ¬engine.Refuses call)
    (hnone : engine.reported hashing call = none) (hsign : call ≠ .sign)
    (hencode : call ≠ .encodePss) :
    ∃ after, (perform hashing device config call).run (engine, world) = (.ok none, after, world) ∧
      Follows scheme ((call, none) :: past) after := by
  cases call with
  | initSign key =>
    have hs := run_initSign (Decidable.not_not.mp hr) hnone
    exact ⟨_, run_alone_ok world hs, follows_initSign h⟩
  | setParameters parameters =>
    obtain ⟨fixed, hscheme, hstage, hdigest⟩ := replaces_of_not_refused hr
    have hs := run_setParameters_eq hashing hscheme hstage hdigest
    rw [run_replaceParameters hnone] at hs
    exact ⟨_, run_alone_ok world hs, follows_setParameters hscheme hdigest h hstage⟩
  | update data =>
    have hstage := Decidable.not_not.mp hr
    obtain ⟨running, -, hrunning, -⟩ := h.running_eq hstage
    simp only [reported, hrunning, Option.bind_some] at hnone
    have hs := run_update hstage hrunning hnone
    exact ⟨_, run_alone_ok world hs, follows_update h hstage hrunning⟩
  | sign => exact absurd rfl hsign
  | encodePss => exact absurd rfl hencode
  | initVerify | verify => exact absurd trivial hr

theorem run_reported {call : Call} {report : String} (h : Follows scheme past engine)
    (hr : ¬engine.Refuses call) (hreport : engine.reported hashing call = some report) :
    (perform hashing device config call).run (engine, world) =
      (.error (.cryptography report), engine.brokenOff call, world) := by
  cases call with
  | initSign key =>
    exact run_alone_error world (run_initSign_reported (Decidable.not_not.mp hr) hreport)
  | setParameters parameters =>
    obtain ⟨fixed, hscheme, hstage, hdigest⟩ := replaces_of_not_refused hr
    have hs := run_setParameters_eq hashing hscheme hstage hdigest
    rw [run_replaceParameters_reported hreport] at hs
    exact run_alone_error world hs
  | update data =>
    have hstage := Decidable.not_not.mp hr
    obtain ⟨running, -, hrunning, -⟩ := h.running_eq hstage
    simp only [reported, hrunning, Option.bind_some] at hreport
    exact run_alone_error world (run_update_reported hstage hrunning hreport)
  | sign =>
    have hfinish := h.breaksOff (Decidable.not_not.mp hr) hreport
    exact run_ending_error world _ _ (run_order_error hfinish)
  | encodePss =>
    obtain ⟨⟨fixed, hscheme⟩, hstage⟩ := encodes_of_not_refused hr
    have hfinish := h.breaksOff hstage hreport
    exact run_ending_error world _ _ (run_orderEncoding_error hfinish hscheme)
  | initVerify | verify => cases hreport

theorem ends_of_sign (h : Follows scheme past engine)
    (hstage : engine.stage = .initialized ∨ engine.stage = .accumulating) :
    ((perform hashing device config .sign).run (engine, world)).2.1 = engine.ended := by
  cases hreport : engine.reported hashing .sign with
  | some report =>
    have hr : ¬engine.Refuses .sign := not_not_intro hstage
    rw [run_reported device config world h hr hreport]
    rfl
  | none =>
    obtain ⟨key, running, -, -, hfinish⟩ := h.finishes hstage hreport
    cases hscheme : engine.scheme with
    | pkcs1 digest => rw [run_sign_pkcs1 device config world hfinish hscheme]; rfl
    | ecdsa digest encoding => rw [run_sign_ecdsa device config world hfinish hscheme]; rfl
    | pss fixed =>
      obtain ⟨parameters, hp⟩ := h.parameters_pss fixed (h.scheme_eq.symm.trans hscheme)
      rw [run_sign_pss device config world hfinish hscheme hp]
      rfl

theorem ends_of_encodePss (h : Follows scheme past engine) (hr : ¬engine.Refuses .encodePss) :
    ((perform hashing device config .encodePss).run (engine, world)).2.1 = engine.ended := by
  cases hreport : engine.reported hashing .encodePss with
  | some report =>
    rw [run_reported device config world h hr hreport]
    rfl
  | none =>
    obtain ⟨⟨fixed, hscheme⟩, hstage⟩ := encodes_of_not_refused hr
    obtain ⟨key, running, -, -, hfinish⟩ := h.finishes hstage hreport
    obtain ⟨parameters, hp⟩ := h.parameters_pss fixed (h.scheme_eq.symm.trans hscheme)
    rw [run_encodePss device config world hfinish hscheme hp]
    rfl

theorem follows_perform (h : Follows scheme past engine) (call : Call) :
    Follows scheme
      ((call, error? ((perform hashing device config call).run (engine, world)).1) :: past)
      ((perform hashing device config call).run (engine, world)).2.1 := by
  by_cases hr : engine.Refuses call
  · obtain ⟨e, he⟩ := run_refused device config world hashing hr
    rw [he]
    exact follows_failed call e h
  by_cases hending : call = .sign ∨ call = .encodePss
  · have hended : ((perform hashing device config call).run (engine, world)).2.1 =
        engine.ended := by
      rcases hending with rfl | rfl
      · exact ends_of_sign device config world h (Decidable.not_not.mp hr)
      · exact ends_of_encodePss device config world h hr
    rw [hended]
    exact follows_ended _ h hending
  obtain ⟨hsign, hencode⟩ := not_or.mp hending
  cases hreport : engine.reported hashing call with
  | none =>
    obtain ⟨after, hrun, hafter⟩ := run_answered device config world h hr hreport hsign hencode
    rw [hrun]
    exact hafter
  | some report =>
    have hrun := run_reported device config world h hr hreport
    rw [hrun]
    have hfailed := follows_failed call (.cryptography report) h
    cases call with
    | setParameters parameters =>
      obtain ⟨fixed, hscheme, -, hdigest⟩ := replaces_of_not_refused hr
      exact follows_halfway hscheme hdigest report h
    | sign => exact absurd rfl hsign
    | encodePss => exact absurd rfl hencode
    | initSign | update | initVerify | verify => exact hfailed

end Calls

end TokenSigner.Engine
