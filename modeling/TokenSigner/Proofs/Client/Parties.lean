import TokenSigner.Proofs.Engine.Binding
import TokenSigner.Proofs.TokenModule.Parties

namespace TokenSigner

open TokenSigner.Action (Keeps Mirrors)
open Engine (Bound)
open ManagedSlot (Work)
open TokenModule (Honored)

variable {δ ς ι α : Type} {device : Device δ ς} {config : ModuleConfig}
  {owner : SlotIdentifier → ι} {layout : Layout} {party : ι}
  {P : Pact (ManagedSlot ς × Site δ ς)} {W : Pact (TokenModule ς × Site δ ς)}

theorem Layout.eq_of_designated {slot found : SlotIdentifier}
    (h : layout.designated (· == slot) = some found) : found = slot := by
  unfold designated at h
  split at h
  · cases h
  · simpa using List.find?_some h

theorem own_of_designated {slot : SlotIdentifier} (hown : owner slot = party) :
    ∀ found, layout.designated (· == slot) = some found → owner found = party := by
  rintro found hfound
  rwa [Layout.eq_of_designated hfound]

namespace Engine

def pact (owner : SlotIdentifier → ι) (party : ι) (W : Pact (TokenModule ς × Site δ ς)) :
    Pact (Engine × TokenModule ς × Site δ ς) where
  fits x := Bound (owner ·.slot = party) x.1 ∧ W.fits x.2
  alike x y := x.1 = y.1 ∧ W.alike x.2 y.2
  spares x y := W.spares x.2 y.2
  refl x := W.refl x.2
  trans hfirst hnext := W.trans hfirst hnext

theorem mirrors_step {step : Action Engine α} (hstep : Keeps (Bound (owner ·.slot = party)) step) :
    Mirrors (pact owner party W)
      (step.on Prod.fst fun engine (_, tokens) => (engine, tokens)) := by
  rintro ⟨engine, world⟩ ⟨engine', world'⟩ ⟨hbound, hfits⟩ ⟨hengine, halike⟩
  obtain rfl : engine = engine' := hengine
  exact ⟨rfl, ⟨hstep engine hbound, hfits⟩, ⟨rfl, halike⟩, W.refl world, W.refl world'⟩

theorem mirrors_work (h : Honored device owner layout party P W) {slot : SlotIdentifier}
    {work : Work δ ς α} (hwork : Mirrors P work) (hown : owner slot = party) :
    Mirrors (pact owner party W)
      ((TokenModule.on (·.slot slot) work).on Prod.snd fun tokens (engine, _) =>
        (engine, tokens)) := by
  have hon : Mirrors W (TokenModule.on (·.slot slot) work) := h.on hwork (own_of_designated hown)
  refine .on hon ?_ ?_ ?_ ?_ ?_
  · exact fun _ hfits => hfits.2
  · exact fun _ _ halike => halike.2
  · exact fun _ _ hfits hafter _ => ⟨hfits.1, hafter⟩
  · exact fun _ _ _ _ halike hafter => ⟨halike.1, hafter⟩
  · exact fun _ _ hspares => hspares

def Call.key? : Call → Option KeyHandle
  | initSign key | initVerify key => some key
  | setParameters _ | update _ | sign | encodePss | verify _ => none

theorem mirrors_perform (h : Honored device owner layout party P W) (call : Call)
    (hcall : ∀ key, call.key? = some key → owner key.slot = party) :
    Mirrors (pact owner party W) (perform device.hashing device config call) := by
  cases call with
  | initSign key =>
    exact .bind (mirrors_step (keeps_initSign (hcall key rfl))) fun _ => .pure _
  | setParameters parameters =>
    exact .bind (mirrors_step (keeps_setParameters parameters)) fun _ => .pure _
  | update data => exact .bind (mirrors_step (keeps_update data)) fun _ => .pure _
  | initVerify key => exact .bind (mirrors_step (.throw _)) fun _ => .pure _
  | verify signature => exact .bind (mirrors_step (.throw _)) fun _ => .pure _
  | sign =>
    refine .bind_answer (mirrors_step keeps_order) fun state order hfits hanswer => ?_
    have hown := hfits.1 _ (key_of_order (Prod.ext hanswer rfl))
    exact .map _ (mirrors_work h (ManagedSlot.mirrors_order h.slots order) hown)
  | encodePss =>
    refine .bind_answer (mirrors_step keeps_orderEncoding) fun state order hfits hanswer => ?_
    have hown := hfits.1 _ (key_of_orderEncoding (Prod.ext hanswer rfl))
    exact .map _ (mirrors_work h (.map _ (ManagedSlot.mirrors_encodePss h.slots _ _ _)) hown)

end Engine

namespace Client

structure Holdings (ς : Type) where
  keys : List (String × KeyHandle) := []
  engines : List (String × Engine) := []
  borrowed : List (String × Borrowed ς) := []

def holdings (client : Client δ ς) : Holdings ς := ⟨client.keys, client.engines, client.borrowed⟩

def holding (world : TokenModule ς × Site δ ς) (held : Holdings ς) : Client δ ς :=
  ⟨world.1, world.2, held.keys, held.engines, held.borrowed⟩

structure Holdings.Of (owner : SlotIdentifier → ι) (party : ι) (held : Holdings ς) : Prop where
  keys : ∀ entry ∈ held.keys, owner entry.2.slot = party
  engines : ∀ entry ∈ held.engines, Bound (owner ·.slot = party) entry.2
  borrowed : ∀ entry ∈ held.borrowed, owner entry.2.slot = party

theorem holdings_of_nothing (owner : SlotIdentifier → ι) (party : ι) :
    ({} : Holdings ς).Of owner party := by
  constructor <;> simp

theorem mem_of_lookup {table : List (String × α)} {name : String} {value : α}
    (h : table.lookup name = some value) : (name, value) ∈ table := by
  obtain ⟨before, after, rfl, -⟩ := List.lookup_eq_some_iff.mp h
  simp

theorem mem_put {table : List (String × α)} {name : String} {value : α} {entry : String × α}
    (h : entry ∈ put table name value) : entry.2 = value ∨ entry ∈ table := by
  rcases List.mem_cons.mp h with rfl | hrest
  · exact Or.inl rfl
  · exact Or.inr (List.mem_filter.mp hrest).1

section Holdings

variable {held : Holdings ς} {name : String}

theorem Holdings.Of.putKey (h : held.Of owner party) {handle : KeyHandle}
    (hown : owner handle.slot = party) :
    Holdings.Of owner party { held with keys := put held.keys name handle } := by
  refine ⟨?_, h.engines, h.borrowed⟩
  intro entry hentry
  rcases mem_put hentry with hnew | hold
  · rwa [hnew]
  · exact h.keys entry hold

theorem Holdings.Of.putEngine (h : held.Of owner party) {engine : Engine}
    (hbound : Bound (owner ·.slot = party) engine) :
    Holdings.Of owner party { held with engines := put held.engines name engine } := by
  refine ⟨h.keys, ?_, h.borrowed⟩
  intro entry hentry
  rcases mem_put hentry with hnew | hold
  · rwa [hnew]
  · exact h.engines entry hold

theorem Holdings.Of.forget (h : held.Of owner party) :
    Holdings.Of owner party { held with borrowed := held.borrowed.filter (·.1 != name) } := by
  refine ⟨h.keys, h.engines, ?_⟩
  intro entry hentry
  exact h.borrowed entry (List.mem_filter.mp hentry).1

theorem Holdings.Of.borrow (h : held.Of owner party) {loan : Borrowed ς}
    (hown : owner loan.slot = party) :
    Holdings.Of owner party { held with borrowed := held.borrowed ++ [(name, loan)] } := by
  refine ⟨h.keys, h.engines, ?_⟩
  intro entry hentry
  rcases List.mem_append.mp hentry with hold | hnew
  · exact h.borrowed entry hold
  · rw [List.mem_singleton.mp hnew]
    exact hown

end Holdings

def pact (owner : SlotIdentifier → ι) (party : ι) (W : Pact (TokenModule ς × Site δ ς)) :
    Pact (Client δ ς) where
  fits client := W.fits (client.tokens, client.site) ∧ client.holdings.Of owner party
  alike x y := W.alike (x.tokens, x.site) (y.tokens, y.site) ∧ x.holdings = y.holdings
  spares x y := W.spares (x.tokens, x.site) (y.tokens, y.site)
  refl _ := W.refl _
  trans hfirst hnext := W.trans hfirst hnext

abbrev Private (owner : SlotIdentifier → ι) (party : ι) (W : Pact (TokenModule ς × Site δ ς))
    (a : Action (Client δ ς) α) : Prop :=
  Mirrors (pact owner party W) a

section Alike

variable {x y : Client δ ς}

theorem config_of_alike (h : Honored device owner layout party P W)
    (halike : (pact owner party W).alike x y) : x.tokens.config = y.tokens.config :=
  congrArg Layout.config (h.alike halike.1)

theorem slots_of_alike (h : Honored device owner layout party P W)
    (halike : (pact owner party W).alike x y) : x.tokens.slots = y.tokens.slots :=
  congrArg Layout.slots (h.alike halike.1)

theorem keys_of_alike (halike : (pact owner party W).alike x y) : x.keys = y.keys :=
  congrArg Holdings.keys halike.2

theorem engines_of_alike (halike : (pact owner party W).alike x y) : x.engines = y.engines :=
  congrArg Holdings.engines halike.2

theorem borrowed_of_alike (halike : (pact owner party W).alike x y) : x.borrowed = y.borrowed :=
  congrArg Holdings.borrowed halike.2

end Alike

theorem private_modify {f : Client δ ς → Client δ ς} {g : Holdings ς → Holdings ς}
    (hf : ∀ client, f client = holding (client.tokens, client.site) (g client.holdings))
    (hg : ∀ held, held.Of owner party → (g held).Of owner party) :
    Private owner party W (modify f : Action (Client δ ς) PUnit) := by
  rintro x y ⟨hfits, hheld⟩ ⟨halike, hsame⟩
  rw [Action.run_modify, Action.run_modify, hf, hf]
  exact ⟨rfl, ⟨hfits, hg _ hheld⟩, ⟨halike, congrArg g hsame⟩, W.refl _, W.refl _⟩

theorem private_onModule {a : Action (TokenModule ς × Site δ ς) α} (ha : Mirrors W a) :
    Private owner party W (onModule a) := by
  refine .on ha ?_ ?_ ?_ ?_ ?_
  · exact fun _ hfits => hfits.1
  · exact fun _ _ halike => halike.1
  · exact fun _ _ hfits hafter _ => ⟨hafter, hfits.2⟩
  · exact fun _ _ _ _ halike hafter => ⟨hafter, halike.2⟩
  · exact fun _ _ hspares => hspares

theorem private_onSlot (h : Honored device owner layout party P W) {slot : SlotIdentifier}
    {work : Work δ ς α} (hwork : Mirrors P work)
    (hown : ∀ found, layout.designated (· == slot) = some found → owner found = party) :
    Private owner party W (onSlot slot work) :=
  private_onModule (h.on hwork hown)

theorem private_onIndex (h : Honored device owner layout party P W) {index : Nat}
    {work : Work δ ς α} (hwork : Mirrors P work)
    (hown : ∀ slot, layout.designated (·.index == index) = some slot → owner slot = party) :
    Private owner party W (onIndex index work) :=
  private_onModule (h.on hwork hown)

theorem private_describe (h : Honored device owner layout party P W)
    (found : Except Error (ManagedSlot ς)) :
    Private owner party W (describe found : Action (Client δ ς) Response) := by
  refine .bind (.ofExcept _) fun managed => .get_bind ?_ fun _ _ => .pure _
  intro x y _ halike
  rw [config_of_alike h halike]

theorem private_letGo (h : Honored device owner layout party P W) (name : String)
    {work : ς → Work δ ς Unit} (hwork : ∀ session, Mirrors P (work session)) :
    Private owner party W (letGo name work) := by
  refine .get_bind ?_ fun client hclient => ?_
  · intro x y _ halike
    rw [borrowed_of_alike halike]
  · cases hfound : client.borrowed.lookup name with
    | none => exact .pure _
    | some loan =>
      have hown := hclient.2.borrowed _ (mem_of_lookup hfound)
      refine .bind (private_modify (fun _ => rfl) fun held hheld => hheld.forget) fun _ => ?_
      exact .bind (private_onSlot h (hwork loan.session) (own_of_designated hown)) fun _ => .pure _

theorem slot_of_borrowing {state : ManagedSlot ς × Site δ ς} {loan : Borrowed ς}
    (h : ((borrowing device config).run state).1 = .ok loan) : loan.slot = state.1.slot := by
  obtain ⟨session, after, hborrow, hanswer⟩ := Action.run_bind_eq_ok.mp (Prod.ext h rfl)
  rcases ManagedSlot.run_borrow device config state with
    ⟨session', after', calls, hrun, htakes⟩ | ⟨e, after', calls, hrun, -⟩
  · cases hborrow.symm.trans hrun
    cases hanswer
    exact htakes.step.slot_eq
  · cases hborrow.symm.trans hrun

theorem slot_of_find {state : ManagedSlot ς × Site δ ς} {key : KeyIdentifier} {handle : KeyHandle}
    (h : ((KeyHandle.find device config key).run state).1 = .ok handle) :
    handle.slot = state.1.slot := by
  obtain ⟨-, -, -, -, -, hslot, -⟩ := ManagedSlot.run_find_eq_ok.mp (Prod.ext h rfl)
  exact hslot

theorem own_of_answer {wanted : SlotIdentifier → Bool} {missing : Error} {work : Work δ ς α}
    {slot : α → SlotIdentifier}
    (hslot : ∀ state value, (work.run state).1 = .ok value → slot value = state.1.slot)
    (hown : ∀ found, layout.designated wanted = some found → owner found = party)
    {state : TokenModule ς × Site δ ς} {value : α} (hlayout : state.1.layout = layout)
    (h : ((TokenModule.on (·.find wanted missing) work).run state).1 = .ok value) :
    owner (slot value) = party := by
  obtain ⟨m, site⟩ := state
  cases hfound : m.find wanted missing with
  | error e =>
    rw [TokenModule.run_on_error hfound] at h
    cases h
  | ok managed =>
    rw [TokenModule.run_on_ok hfound] at h
    rw [hslot _ value h]
    exact hown _ (hlayout ▸ TokenModule.designated_of_find hfound)

theorem private_borrowAs (h : Honored device owner layout party P W) (name : String)
    {index : Nat}
    (hown : ∀ found, layout.designated (·.index == index) = some found → owner found = party) :
    Private owner party W (borrowAs device config name index) := by
  refine .get_bind ?_ fun client hclient => ?_
  · intro x y _ halike
    rw [borrowed_of_alike halike]
  · refine .bind_answer (private_onIndex h (ManagedSlot.mirrors_borrowing h.slots) hown) ?_
    intro before loan hbefore hanswer
    -- The loan is of the slot that was looked up, so that it may be held by the party.
    have hon : ((TokenModule.on (·.slotByIndex index) (borrowing device config)).run
        (before.tokens, before.site)).1 = .ok loan := hanswer
    have hloan : owner loan.slot = party :=
      own_of_answer (fun _ _ => slot_of_borrowing) hown (h.fits hbefore.1) hon
    refine .bind (private_modify (fun _ => rfl) fun held hheld => hheld.forget) fun _ => ?_
    refine .bind (private_modify (fun _ => rfl) fun held hheld => hheld.borrow hloan) fun _ => ?_
    cases hearlier : client.borrowed.lookup name with
    | none => exact .pure _
    | some earlier =>
      have hown := hclient.2.borrowed _ (mem_of_lookup hearlier)
      refine .bind (private_onSlot h ?_ (own_of_designated hown)) fun _ => .pure _
      exact ManagedSlot.mirrors_giveBack h.slots earlier.session

theorem run_engineCall {client : Client δ ς} {name : String} {engine after : Engine}
    {call : Engine.Call} {result : Except Error (Option Bytes)} {world : TokenModule ς × Site δ ς}
    (h : (Engine.perform device.hashing device config call).run
      (engine, client.tokens, client.site) = (result, after, world)) :
    (engineCall device config name engine call).run client = (.ok (.engineStep result after),
      holding world { client.holdings with engines := put client.engines name after }) := by
  unfold engineCall
  rw [Action.run_get_bind, h]
  rfl

theorem private_engineCall (h : Honored device owner layout party P W) (name : String)
    {engine : Engine} {call : Engine.Call} (hengine : Bound (owner ·.slot = party) engine)
    (hcall : ∀ key, call.key? = some key → owner key.slot = party) :
    Private owner party W (engineCall device config name engine call) := by
  rintro x y ⟨hfits, hheld⟩ ⟨halike, hsame⟩
  have hmirrors : Mirrors (Engine.pact owner party W)
      (Engine.perform device.hashing device config call) :=
    Engine.mirrors_perform h call hcall
  have hkept := hmirrors (engine, x.tokens, x.site) (engine, y.tokens, y.site)
    ⟨hengine, hfits⟩ ⟨rfl, halike⟩
  rcases hx : (Engine.perform device.hashing device config call).run
      (engine, x.tokens, x.site) with ⟨result, after, world⟩
  rcases hy : (Engine.perform device.hashing device config call).run
      (engine, y.tokens, y.site) with ⟨result', after', world'⟩
  rw [hx, hy] at hkept
  rw [run_engineCall hx, run_engineCall hy]
  obtain ⟨hresult, ⟨hbound, hafter⟩, ⟨hstate, hlook⟩, hspares, hspares'⟩ := hkept
  obtain rfl : result = result' := hresult
  obtain rfl : after = after' := hstate
  have hput : ({ x.holdings with engines := put x.engines name after } : Holdings ς) =
      { y.holdings with engines := put y.engines name after } :=
    congrArg (fun held : Holdings ς => { held with engines := put held.engines name after }) hsame
  exact ⟨rfl, ⟨hafter, hheld.putEngine hbound⟩, ⟨hlook, hput⟩, hspares, hspares'⟩

theorem private_engineRequest (h : Honored device owner layout party P W) (name : String)
    {engine : Engine} (hengine : Bound (owner ·.slot = party) engine) (request : EngineRequest) :
    Private owner party W (engineRequest device config name engine request) := by
  have hplain (call : Engine.Call) (hkey : call.key? = none) :
      Private owner party W (engineCall device config name engine call) := by
    refine private_engineCall h name hengine ?_
    simp [hkey]
  cases request with
  | initSign key | initVerify key =>
    refine .get_bind ?_ fun client hclient => ?_
    · intro x y _ halike
      rw [keys_of_alike halike]
    · cases hfound : client.keys.lookup key with
      | none => exact .pure _
      | some handle =>
        refine private_engineCall h name hengine ?_
        rintro bound hbound
        cases hbound
        exact hclient.2.keys _ (mem_of_lookup hfound)
  | setParameters parameters =>
    simp only [engineRequest]
    cases parameters.read with
    | error e => exact .pure _
    | ok parameters => exact hplain (.setParameters parameters) rfl
  | update data => exact hplain (.update data) rfl
  | sign => exact hplain .sign rfl
  | encodePss => exact hplain .encodePss rfl
  | verify data => exact hplain (.verify data) rfl

def Request.wanted : Request → SlotIdentifier → Bool
  | .slot wanted | .openKey _ wanted _ => (· == wanted)
  | .slotByIndex index | .onSlot index _ | .borrow _ index => (·.index == index)
  | .slotById id => (·.id == id)
  | .summary | .giveBack _ | .discard _ | .onKey _ _ | .signPssEncoded _ _ | .startEngine _ _
  | .onEngine _ _ => fun _ => false

def Request.Of (owner : SlotIdentifier → ι) (layout : Layout) (party : ι) (request : Request) :
    Prop :=
  ∀ slot, layout.designated request.wanted = some slot → owner slot = party

theorem private_perform (h : Honored device owner layout party P W) {request : Request}
    (hown : request.Of owner layout party) :
    Private owner party W (perform device request) := by
  unfold perform
  cases request with
  | summary =>
    refine .get_bind ?_ fun _ _ => .pure _
    intro x y _ halike
    dsimp only
    rw [config_of_alike h halike, slots_of_alike h halike]
  | slot slot =>
    refine .get_bind ?_ fun _ _ => private_describe h _
    intro x y hx halike
    exact congrArg describe (h.find_eq halike.1 (h.fits hx.1 ▸ hown) (.unknownSlot slot))
  | slotByIndex index =>
    refine .get_bind ?_ fun _ _ => private_describe h _
    intro x y hx halike
    exact congrArg describe (h.find_eq halike.1 (h.fits hx.1 ▸ hown) (.noSlotWithIndex index))
  | slotById id =>
    refine .get_bind ?_ fun _ _ => private_describe h _
    intro x y hx halike
    exact congrArg describe (h.find_eq halike.1 (h.fits hx.1 ▸ hown) (.noSlotWithId id))
  | onSlot index request =>
    refine .get_bind ?_ fun client _ => ?_
    · intro x y _ halike
      dsimp only
      rw [config_of_alike h halike]
    · exact private_onIndex h (ManagedSlot.mirrors_slotRequest h.slots request) hown
  | borrow name index =>
    refine .get_bind ?_ fun client _ => private_borrowAs h name hown
    intro x y _ halike
    dsimp only
    rw [config_of_alike h halike]
  | giveBack name =>
    refine .get_bind (fun _ _ _ _ => rfl) fun _ _ => ?_
    exact private_letGo h name (ManagedSlot.mirrors_giveBack h.slots)
  | discard name =>
    refine .get_bind (fun _ _ _ _ => rfl) fun _ _ => ?_
    exact private_letGo h name (ManagedSlot.mirrors_discard h.slots)
  | openKey name slot key =>
    refine .get_bind ?_ fun client _ => ?_
    · intro x y _ halike
      dsimp only
      rw [config_of_alike h halike]
    · refine .bind_answer (private_onSlot h (ManagedSlot.mirrors_find h.slots key) hown) ?_
      intro before handle hbefore hanswer
      have hon : ((TokenModule.on (·.slot slot)
          (KeyHandle.find device client.tokens.config key)).run (before.tokens, before.site)).1 =
            .ok handle := hanswer
      have hhandle : owner handle.slot = party :=
        own_of_answer (fun _ _ => slot_of_find) hown (h.fits hbefore.1) hon
      refine .bind ?_ fun _ => .pure _
      exact private_modify (fun _ => rfl) fun held hheld => hheld.putKey hhandle
  | onKey name request =>
    refine .get_bind ?_ fun client hclient => ?_
    · intro x y _ halike
      dsimp only
      rw [config_of_alike h halike, keys_of_alike halike]
    · dsimp only
      cases hfound : client.keys.lookup name with
      | none => exact .pure _
      | some handle =>
        have hhandle := hclient.2.keys _ (mem_of_lookup hfound)
        exact private_onSlot h (ManagedSlot.mirrors_keyRequest h.slots handle request)
          (own_of_designated hhandle)
  | signPssEncoded name message =>
    refine .get_bind ?_ fun client hclient => .bind (.ofExcept _) fun message => ?_
    · intro x y _ halike
      dsimp only
      rw [config_of_alike h halike, keys_of_alike halike]
    · cases hfound : client.keys.lookup name with
      | none => exact .pure _
      | some handle =>
        have hhandle := hclient.2.keys _ (mem_of_lookup hfound)
        refine .bind (private_onSlot h ?_ (own_of_designated hhandle)) fun _ => .pure _
        exact ManagedSlot.mirrors_signPssEncoded h.slots handle message
  | startEngine name scheme =>
    refine .get_bind (fun _ _ _ _ => rfl) fun _ _ => .bind (.ofExcept _) fun scheme => ?_
    refine .bind (private_modify (fun _ => rfl) fun held hheld => hheld.putEngine ?_) fun _ => ?_
    · simp [Bound, Engine.start]
    · exact .pure _
  | onEngine name request =>
    refine .get_bind ?_ fun client hclient => ?_
    · intro x y _ halike
      dsimp only
      rw [config_of_alike h halike, engines_of_alike halike]
    · dsimp only
      cases hfound : client.engines.lookup name with
      | none => exact .pure _
      | some engine =>
        have hengine := hclient.2.engines _ (mem_of_lookup hfound)
        exact private_engineRequest h name hengine request

end Client

end TokenSigner
