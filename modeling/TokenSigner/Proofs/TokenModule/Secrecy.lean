import Mathlib.Data.List.Forall2
import TokenSigner.Proofs.Mirror
import TokenSigner.TokenModule

namespace TokenSigner

open TokenSigner.Action (Agree Mirrors)

variable {δ ς α : Type}

namespace PasswordPolicy

def ReadAlike (policy : PasswordPolicy) (pins : SlotIdentifier → Bytes → Bytes → Prop)
    (resolver resolver' : PasswordResolver) : Prop :=
  ∀ slot rule, policy.find? (fun rule => SlotFilters.cover rule.slots slot) = some rule →
    ∀ source ∈ rule.sources, Paired (pins slot) (resolver source) (resolver' source)

variable {resolver resolver' : PasswordResolver}

theorem readAll_paired {related : Bytes → Bytes → Prop} {sources : List String}
    (h : ∀ source ∈ sources, Paired related (resolver source) (resolver' source)) :
    (readAll resolver sources).asked = (readAll resolver' sources).asked ∧
      Paired (List.Forall₂ related) (readAll resolver sources).result
        (readAll resolver' sources).result := by
  induction sources with
  | nil => exact ⟨rfl, .ok .nil⟩
  | cons source rest ih =>
    obtain ⟨hasked, hresult⟩ := ih fun source hsource => h source (List.mem_cons_of_mem _ hsource)
    have hfirst := h source List.mem_cons_self
    unfold readAll
    revert hfirst
    generalize resolver source = answer
    generalize resolver' source = answer'
    intro hfirst
    cases hfirst with
    | ok hpins => exact ⟨congrArg (source :: ·) hasked, hresult.map fun _ _ => .cons hpins⟩
    | error e => exact ⟨rfl, .error e⟩

theorem read_paired {policy : PasswordPolicy} {pins : SlotIdentifier → Bytes → Bytes → Prop}
    (h : policy.ReadAlike pins resolver resolver') (slot : SlotIdentifier) :
    (policy.read resolver slot).asked = (policy.read resolver' slot).asked ∧
      Paired (Option.Rel (List.Forall₂ (pins slot))) (policy.read resolver slot).result
        (policy.read resolver' slot).result := by
  unfold read
  cases hrule : policy.find? fun rule => SlotFilters.cover rule.slots slot with
  | none => exact ⟨rfl, .ok .none⟩
  | some rule =>
    obtain ⟨hasked, hresult⟩ := readAll_paired (h slot rule hrule)
    exact ⟨hasked, hresult.map fun _ _ => .some⟩

end PasswordPolicy

structure Reply.Akin (same : δ → δ → Prop) (x y : Reply δ α) : Prop where
  result : x.result = y.result
  device : same x.device y.device
  warnings : x.warnings = y.warnings

structure Device.Discreet (device : Device δ ς) (pins : SlotIdentifier → Bytes → Bytes → Prop)
    (same : δ → δ → Prop) : Prop where
  login {slot : SlotIdentifier} {pin pin' : Bytes} (hpins : pins slot pin pin') (session : ς)
    (user : UInt64) {before before' : δ} (hsame : same before before') :
    Reply.Akin same (device.ask slot (.login session user pin) before)
      (device.ask slot (.login session user pin') before')
  other (slot : SlotIdentifier) {call : Call ς}
    (hlogin : ∀ session user pin, call ≠ .login session user pin) {before before' : δ}
    (hsame : same before before') :
    Reply.Akin same (device.ask slot call before) (device.ask slot call before')

def Event.withoutPin : Event ς → Event ς
  | ⟨slot, .login session user _, result⟩ => ⟨slot, .login session user [], result⟩
  | event => event

structure Site.Akin (same : δ → δ → Prop) (x y : Site δ ς) : Prop where
  device : same x.device y.device
  events : x.events.map Event.withoutPin = y.events.map Event.withoutPin
  warnings : x.warnings = y.warnings

variable {same : δ → δ → Prop} {device : Device δ ς}
  {pins : SlotIdentifier → Bytes → Bytes → Prop}

theorem Site.Akin.record {site site' : Site δ ς} (h : site.Akin same site') {call call' : Call ς}
    {slot : SlotIdentifier} {reply : Reply δ call.Answer} {reply' : Reply δ call'.Answer}
    (hdevice : same reply.device reply'.device) (hwarnings : reply.warnings = reply'.warnings)
    (hevent : Event.withoutPin ⟨slot, call, reply.result⟩ =
      Event.withoutPin ⟨slot, call', reply'.result⟩) :
    Site.Akin same
      ⟨reply.device, site.events ++ [⟨slot, call, reply.result⟩], site.warnings ++ reply.warnings⟩
      ⟨reply'.device, site'.events ++ [⟨slot, call', reply'.result⟩],
        site'.warnings ++ reply'.warnings⟩ where
  device := hdevice
  events := by
    rw [List.map_append, List.map_append, h.events, List.map_singleton, List.map_singleton, hevent]
  warnings := by rw [h.warnings, hwarnings]

theorem mirrors_call (hdevice : device.Discreet pins same) (slot : SlotIdentifier) {call : Call ς}
    (hlogin : ∀ session user pin, call ≠ .login session user pin) :
    Mirrors (.ofAlike (Site.Akin same)) (device.call slot call) := by
  intro site site' _ hsite
  have hreply := hdevice.other slot hlogin hsite.device
  refine ⟨hreply.result, trivial, ?_, trivial, trivial⟩
  refine hsite.record hreply.device hreply.warnings ?_
  rw [hreply.result]

theorem agree_login (hdevice : device.Discreet pins same) {slot : SlotIdentifier}
    {pin pin' : Bytes} (hpins : pins slot pin pin') (session : ς) (user : UInt64) :
    Agree (.ofAlike (Site.Akin same)) (device.call slot (.login session user pin))
      (device.call slot (.login session user pin')) := by
  intro site site' _ hsite
  have hreply := hdevice.login hpins session user hsite.device
  refine ⟨hreply.result, trivial, ?_, trivial, trivial⟩
  refine hsite.record hreply.device hreply.warnings ?_
  rw [hreply.result]
  rfl

theorem mirrors_release (hdevice : device.Discreet pins same) (slot : SlotIdentifier)
    (session : ς) : Mirrors (.ofAlike (Site.Akin same)) (device.release slot session) :=
  have hclose : Mirrors (.ofAlike (Site.Akin same)) (device.call slot (.close session)) :=
    mirrors_call hdevice slot nofun
  hclose.outcome.bind fun _ => .pure _

namespace ManagedSlot

variable {slot : SlotIdentifier} {passwords passwords' : List Bytes}

theorem agree_logIn (hdevice : device.Discreet pins same)
    (hpins : List.Forall₂ (pins slot) passwords passwords') (user : UInt64) (session : ς) :
    Agree (.ofAlike (Site.Akin same)) (logIn device slot user session passwords)
      (logIn device slot user session passwords') := by
  induction hpins with
  | nil => exact .pure _
  | cons hpin _ ih => exact .bind (agree_login hdevice hpin session user) fun _ => ih

theorem agree_openLogin (hdevice : device.Discreet pins same) (config : ModuleConfig)
    (hpins : List.Forall₂ (pins slot) passwords passwords') :
    Agree (.ofAlike (Site.Akin same)) (openLogin device config slot passwords)
      (openLogin device config slot passwords') := by
  refine .bind (mirrors_call hdevice slot nofun) fun session => ?_
  refine .bind (agree_logIn hdevice hpins config.userType session).outcome fun answer => ?_
  cases answer with
  | ok _ => exact .pure session
  | error e => exact .bind (mirrors_release hdevice slot session) fun _ => .throw e

theorem agree_start (hdevice : device.Discreet pins same) {config : ModuleConfig}
    {resolver resolver' : PasswordResolver}
    (hread : config.passwords.ReadAlike pins resolver resolver') (salts : Entropy)
    (slot : SlotIdentifier) :
    Agree (.ofAlike (Site.Akin same)) (start device config resolver salts slot)
      (start device config resolver' salts slot) := by
  refine .ofExcept_bind (PasswordPolicy.read_paired hread slot).2 fun _ _ hpasswords => ?_
  cases hpasswords with
  | none => exact .bind (.pure none) fun _ => .pure _
  | some hpins => exact .bind (.map some (agree_openLogin hdevice config hpins)) fun _ => .pure _

theorem mirrors_closeLogin (hdevice : device.Discreet pins same) (managed : ManagedSlot ς) :
    Mirrors (.ofAlike (Site.Akin same)) (closeLogin device managed) := by
  unfold closeLogin
  cases managed.login with
  | none => exact .pure _
  | some session => exact mirrors_release hdevice managed.slot session

theorem mirrors_closeAll (hdevice : device.Discreet pins same) (slot : SlotIdentifier)
    (sessions : List ς) :
    Mirrors (.ofAlike (Site.Akin same)) (closeAll device slot sessions) := by
  induction sessions with
  | nil => exact .pure _
  | cons session _ ih => exact .bind (mirrors_release hdevice slot session) fun _ => ih

theorem mirrors_close (hdevice : device.Discreet pins same) (managed : ManagedSlot ς) :
    Mirrors (.ofAlike (Site.Akin same)) (close device managed) :=
  .bind (mirrors_closeAll hdevice _ _) fun _ => mirrors_closeLogin hdevice managed

end ManagedSlot

namespace TokenModule

theorem mirrors_closeLogins (hdevice : device.Discreet pins same) (slots : List (ManagedSlot ς)) :
    Mirrors (.ofAlike (Site.Akin same)) (closeLogins device slots) := by
  induction slots with
  | nil => exact .pure _
  | cons managed _ ih => exact .bind (ManagedSlot.mirrors_closeLogin hdevice managed) fun _ => ih

theorem mirrors_close (hdevice : device.Discreet pins same) (slots : List (ManagedSlot ς)) :
    Mirrors (.ofAlike (Site.Akin same)) (close device slots) := by
  induction slots with
  | nil => exact .pure _
  | cons managed _ ih => exact .bind (ManagedSlot.mirrors_close hdevice managed) fun _ => ih

variable {resolver resolver' : PasswordResolver}

theorem agree_takeSlots (hdevice : device.Discreet pins same) (salts : SlotIdentifier → Entropy)
    (slots : List SlotIdentifier) {m : TokenModule ς}
    (hread : m.config.passwords.ReadAlike pins resolver resolver') :
    Agree (.ofAlike (Site.Akin same)) (takeSlots device resolver salts slots m)
      (takeSlots device resolver' salts slots m) := by
  induction slots generalizing m with
  | nil => exact .pure m
  | cons slot rest ih =>
    unfold takeSlots
    by_cases hincluded : m.config.includes slot
    · rw [if_pos hincluded, if_pos hincluded]
      have hstart := ManagedSlot.agree_start hdevice hread (salts slot) slot
      refine .bind hstart.outcome fun answer => ?_
      cases answer with
      | ok managed => exact ih hread
      | error e => exact .bind (mirrors_closeLogins hdevice m.managed) fun _ => .throw e
    · rw [if_neg hincluded, if_neg hincluded]
      exact ih hread

theorem agree_build (hdevice : device.Discreet pins same) {config : ModuleConfig}
    (hread : config.passwords.ReadAlike pins resolver resolver')
    (salts : SlotIdentifier → Entropy) (ids : List UInt64) :
    Agree (.ofAlike (Site.Akin same)) (build device config resolver salts ids)
      (build device config resolver' salts ids) :=
  agree_takeSlots hdevice salts (identifiers ids) hread

end TokenModule

end TokenSigner
