import TokenSigner.Proofs.Client.Throughout

namespace TokenSigner

open ManagedSlot (Work)

variable {δ ς α : Type} {device : Device δ ς} {config : ModuleConfig}

structure Layout where
  config : ModuleConfig
  slots : List SlotIdentifier
  excluded : List SlotIdentifier

namespace TokenModule

def layout (m : TokenModule ς) : Layout := ⟨m.config, m.slots, m.excluded⟩

theorem layout_replace (m : TokenModule ς) (managed : ManagedSlot ς) :
    (m.replace managed).layout = m.layout := by
  unfold layout
  rw [slots_replace]
  rfl

theorem layout_on (found : TokenModule ς → Except Error (ManagedSlot ς)) (work : Work δ ς α)
    (state : TokenModule ς × Site δ ς) :
    ((on found work).run state).2.1.layout = state.1.layout := by
  obtain ⟨m, site⟩ := state
  cases hfound : found m with
  | error e => rw [run_on_error hfound]
  | ok managed =>
    rw [run_on_ok hfound]
    exact layout_replace m _

end TokenModule

namespace Client

variable {layout : Layout}

abbrev HasLayout (layout : Layout) (client : Client δ ς) : Prop :=
  client.tokens.layout = layout

theorem keeps_layout_onIndex (index : Nat) (work : Work δ ς α) :
    Action.Keeps (HasLayout layout) (onIndex index work) := by
  intro client hclient
  exact (TokenModule.layout_on (·.slotByIndex index) work
    (client.tokens, client.site)).trans hclient

theorem keeps_layout_onSlot (slot : SlotIdentifier) (work : Work δ ς α) :
    Action.Keeps (HasLayout layout) (onSlot slot work) := by
  intro client hclient
  exact (TokenModule.layout_on (·.slot slot) work (client.tokens, client.site)).trans hclient

theorem keeps_layout_describe (found : Except Error (ManagedSlot ς)) :
    Action.Keeps (HasLayout layout) (describe found : Action (Client δ ς) Response) :=
  .bind (.ofExcept _) fun _ => .get_bind fun _ _ => .pure _

theorem keeps_layout_letGo (name : String) (work : ς → Work δ ς Unit) :
    Action.Keeps (HasLayout layout) (letGo name work) := by
  refine .get_bind fun client _ => ?_
  cases client.borrowed.lookup name with
  | none => exact .pure _
  | some loan =>
    refine .bind (.modify fun _ h => h) fun _ => ?_
    exact .bind (keeps_layout_onSlot _ _) fun _ => .pure _

theorem keeps_layout_borrowAs (name : String) (index : Nat) :
    Action.Keeps (HasLayout layout) (borrowAs device config name index) := by
  refine .get_bind fun client _ => .bind (keeps_layout_onIndex _ _) fun loan => ?_
  refine .bind (.modify fun _ h => h) fun _ => .bind (.modify fun _ h => h) fun _ => ?_
  cases client.borrowed.lookup name with
  | none => exact .pure _
  | some earlier => exact .bind (keeps_layout_onSlot _ _) fun _ => .pure _

theorem keeps_layout_perform_engine (call : Engine.Call) :
    Action.Keeps (fun state => state.2.1.layout = layout)
      (Engine.perform device.hashing device config call) := by
  have halone (step : Action Engine Unit) : Action.Keeps (fun state => state.2.1.layout = layout)
      (Engine.alone step : Engine.Beside δ ς (Option Bytes)) :=
    .bind (.on fun _ h => h) fun _ => .pure _
  cases call with
  | initSign | setParameters | update | initVerify | verify => exact halone _
  | sign | encodePss =>
    refine .bind (.on fun _ h => h) fun order => .map _ (.on fun state h => ?_)
    exact (TokenModule.layout_on _ _ _).trans h

theorem keeps_layout_engineCall (name : String) (engine : Engine) (call : Engine.Call) :
    Action.Keeps (HasLayout layout) (engineCall device config name engine call) := by
  intro client hclient
  exact keeps_layout_perform_engine call (engine, client.tokens, client.site) hclient

theorem keeps_layout_engineRequest (name : String) (engine : Engine) (request : EngineRequest) :
    Action.Keeps (HasLayout layout) (engineRequest device config name engine request) := by
  cases request with
  | initSign key | initVerify key =>
    refine .get_bind fun client _ => ?_
    cases client.keys.lookup key with
    | none => exact .pure _
    | some handle => exact keeps_layout_engineCall name engine _
  | setParameters parameters =>
    simp only [engineRequest]
    cases parameters.read with
    | error e => exact .pure _
    | ok parameters => exact keeps_layout_engineCall name engine _
  | update | sign | encodePss | verify => exact keeps_layout_engineCall name engine _

theorem keeps_layout_perform (request : Request) :
    Action.Keeps (HasLayout layout) (perform device request) := by
  unfold perform
  refine .get_bind fun client _ => ?_
  dsimp only
  cases request with
  | summary => exact .pure _
  | slot | slotByIndex | slotById => exact keeps_layout_describe _
  | onSlot index request => exact keeps_layout_onIndex _ _
  | borrow name index => exact keeps_layout_borrowAs _ _
  | giveBack name | discard name => exact keeps_layout_letGo _ _
  | openKey name slot key =>
    refine .bind (keeps_layout_onSlot _ _) fun handle => ?_
    exact .bind (.modify fun _ h => h) fun _ => .pure _
  | onKey name request =>
    dsimp only
    cases client.keys.lookup name with
    | none => exact .pure _
    | some handle => exact keeps_layout_onSlot _ _
  | signPssEncoded name message =>
    refine .bind (.ofExcept _) fun message => ?_
    cases client.keys.lookup name with
    | none => exact .pure _
    | some handle => exact .bind (keeps_layout_onSlot _ _) fun _ => .pure _
  | startEngine name scheme =>
    exact .bind (.ofExcept _) fun scheme => .bind (.modify fun _ h => h) fun _ => .pure _
  | onEngine name request =>
    dsimp only
    cases client.engines.lookup name with
    | none => exact .pure _
    | some engine => exact keeps_layout_engineRequest _ _ _

theorem layout_after (device : Device δ ς) (client : Client δ ς) (requests : List Request) :
    (after device client requests).tokens.layout = client.tokens.layout := by
  induction requests generalizing client with
  | nil => rfl
  | cons request rest ih => exact (ih _).trans (keeps_layout_perform request client rfl)

theorem slots_after (device : Device δ ς) (client : Client δ ς) (requests : List Request) :
    (after device client requests).tokens.slots = client.tokens.slots :=
  congrArg Layout.slots (layout_after device client requests)

theorem keeps_layout_close : Action.Keeps (HasLayout layout) (close device) := by
  have hreturn (loans : List (Borrowed ς)) :
      Action.Keeps (HasLayout layout) (returnAll loans : Action (Client δ ς) Unit) := by
    induction loans with
    | nil => exact .pure _
    | cons loan rest ih => exact .bind (keeps_layout_onSlot _ _) fun _ => ih
  exact .get_bind fun client _ => .bind (hreturn _) fun _ _ hclient => hclient

theorem slots_close (device : Device δ ς) (client : Client δ ς) :
    ((close device).run client).2.tokens.slots = client.tokens.slots :=
  congrArg Layout.slots (keeps_layout_close client rfl)

end Client

end TokenSigner
