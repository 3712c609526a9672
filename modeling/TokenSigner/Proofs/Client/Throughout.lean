import TokenSigner.Proofs.TokenModule.Construction
import TokenSigner.Proofs.TokenModule.Everywhere

namespace TokenSigner.Client

open ManagedSlot (Scene Deal Does Work)

variable {δ ς α : Type} {device : Device δ ς} {config : ModuleConfig} {J : Site δ ς → Prop}
  {P : Scene δ ς → Prop}

structure Throughout (config : ModuleConfig) (J : Site δ ς → Prop) (P : Scene δ ς → Prop)
    (client : Client δ ς) : Prop where
  names : (client.borrowed.map (·.1)).Nodup
  slots : client.tokens.Everywhere config J P client.site (client.borrowed.map (·.2))

theorem does_slotRequest (request : SlotRequest) :
    Does device config .empty (slotRequest device config request) := by
  cases request with
  | mechanisms => exact .bind ManagedSlot.does_supportedMechanisms fun _ => .pure _
  | supports mechanism => exact .bind (ManagedSlot.does_supports _) fun _ => .pure _
  | findKey key => exact .bind (ManagedSlot.does_findKey _) fun _ => .pure _
  | evict key => exact .bind (ManagedSlot.does_evict _) fun _ => .pure _
  | publicKey object key => exact .bind (ManagedSlot.does_publicKey _ _) fun _ => .pure _
  | sign object mechanism parameters data =>
    exact .bind (ManagedSlot.does_sign _ _ _ _) fun _ => .pure _

theorem does_keyRequest (handle : KeyHandle) (request : KeyRequest) :
    Does device config .empty (keyRequest device config handle request) := by
  cases request with
  | supports mechanism => exact .bind (ManagedSlot.does_supports _) fun _ => .pure _
  | sign mechanism parameters data =>
    exact .bind (ManagedSlot.does_sign _ _ _ _) fun _ => .pure _
  | signPkcs1 digest hash =>
    refine .bind ?_ fun digest => .bind (ManagedSlot.does_signPkcs1 _ _ _) fun _ => .pure _
    exact .ofExcept_of_kind ErrorKind.noConfusion Digest.kind_of_named
  | signPss parameters hash =>
    refine .bind (.ofExcept fun e he => ?_) fun parameters => ?_
    · rcases PssDescription.kind_of_read he with hkind | hkind
      · rw [hkind]
        exact ErrorKind.noConfusion
      · rw [hkind]
        exact ErrorKind.noConfusion
    exact .bind (ManagedSlot.does_signPss _ _ _) fun _ => .pure _
  | signEcdsa hash encoding =>
    exact .bind (ManagedSlot.does_signEcdsa _ _ _) fun _ => .pure _

theorem keeps_onIndex (hP : Lasting device config J P) (index : Nat) {work : Work δ ς α}
    (hwork : Does device config .empty work) :
    Action.Keeps (Throughout config J P) (onIndex index work) := by
  intro client hclient
  exact ⟨hclient.names, hclient.slots.on hP hwork⟩

theorem keeps_onSlot (hP : Lasting device config J P) (slot : SlotIdentifier) {work : Work δ ς α}
    (hwork : Does device config .empty work) :
    Action.Keeps (Throughout config J P) (onSlot slot work) := by
  intro client hclient
  exact ⟨hclient.names, hclient.slots.on hP hwork⟩

theorem keeps_describe (found : Except Error (ManagedSlot ς)) :
    Action.Keeps (Throughout config J P) (describe found : Action (Client δ ς) Response) :=
  .bind (.ofExcept _) fun _ => .get_bind fun _ _ => .pure _

theorem keeps_perform_engine (hP : Lasting device config J P) (loans : List (Borrowed ς))
    (call : Engine.Call) :
    Action.Keeps (fun state => state.2.1.Everywhere config J P state.2.2 loans)
      (Engine.perform device.hashing device config call) := by
  have halone (step : Action Engine Unit) :
      Action.Keeps (fun state => state.2.1.Everywhere config J P state.2.2 loans)
        (Engine.alone step : Engine.Beside δ ς (Option Bytes)) :=
    .bind (.on fun _ hstate => hstate) fun _ => .pure _
  cases call with
  | initSign key => exact halone _
  | setParameters parameters => exact halone _
  | update data => exact halone _
  | sign =>
    refine .bind (.on fun _ hstate => hstate) fun order => .map _ (.on fun state hstate => ?_)
    exact hstate.on hP (ManagedSlot.does_order order)
  | encodePss =>
    refine .bind (.on fun _ hstate => hstate) fun order => .map _ (.on fun state hstate => ?_)
    exact hstate.on hP (.map _ (ManagedSlot.does_encodePss _ _ _))
  | initVerify key => exact halone _
  | verify signature => exact halone _

theorem keeps_putEngine (name : String) (engine : Engine) :
    Action.Keeps (Throughout config J P) (putEngine name engine : Action (Client δ ς) Unit) :=
  .modify fun _ hclient => ⟨hclient.names, hclient.slots⟩

theorem keeps_engineCall (hP : Lasting device config J P) (name : String) (engine : Engine)
    (call : Engine.Call) :
    Action.Keeps (Throughout config J P) (engineCall device config name engine call) := by
  intro client hclient
  have hafter := keeps_perform_engine hP (client.borrowed.map (·.2)) call
    (engine, client.tokens, client.site) hclient.slots
  exact ⟨hclient.names, hafter⟩

theorem keeps_engineRequest (hP : Lasting device config J P) (name : String) (engine : Engine)
    (request : EngineRequest) :
    Action.Keeps (Throughout config J P) (engineRequest device config name engine request) := by
  cases request with
  | initSign key =>
    refine .get_bind fun client _ => ?_
    cases client.keys.lookup key with
    | none => exact .pure _
    | some handle => exact keeps_engineCall hP name engine _
  | setParameters parameters =>
    simp only [engineRequest]
    cases parameters.read with
    | error e => exact .pure _
    | ok parameters => exact keeps_engineCall hP name engine _
  | initVerify key =>
    refine .get_bind fun client _ => ?_
    cases client.keys.lookup key with
    | none => exact .pure _
    | some handle => exact keeps_engineCall hP name engine _
  | update data => exact keeps_engineCall hP name engine _
  | sign => exact keeps_engineCall hP name engine _
  | encodePss => exact keeps_engineCall hP name engine _
  | verify data => exact keeps_engineCall hP name engine _

section Loans

variable {loan : Borrowed ς} {name : String}

theorem not_mem_names_forget (name : String) (borrowed : List (String × Borrowed ς)) :
    name ∉ (borrowed.filter (·.1 != name)).map (·.1) := by
  intro hmem
  obtain ⟨entry, hentry, hname⟩ := List.mem_map.mp hmem
  have hkept := (List.mem_filter.mp hentry).2
  simp [hname] at hkept

theorem loans_forget_of_not_mem {borrowed : List (String × Borrowed ς)}
    (h : name ∉ borrowed.map (·.1)) : borrowed.filter (·.1 != name) = borrowed := by
  refine List.filter_eq_self.mpr fun entry hentry => ?_
  have hne : entry.1 ≠ name := by
    rintro rfl
    exact h (List.mem_map_of_mem hentry)
  simpa using hne

theorem loans_perm {borrowed : List (String × Borrowed ς)} (hnames : (borrowed.map (·.1)).Nodup)
    (hfound : borrowed.lookup name = some loan) :
    (borrowed.map (·.2)).Perm (loan :: (borrowed.filter (·.1 != name)).map (·.2)) := by
  induction borrowed with
  | nil => cases hfound
  | cons entry rest ih =>
    obtain ⟨other, lent⟩ := entry
    simp only [List.map_cons, List.nodup_cons] at hnames
    by_cases hsame : name = other
    · subst hsame
      simp only [List.lookup_cons_self, Option.some.injEq] at hfound
      have hrest := loans_forget_of_not_mem hnames.1
      simp [hfound, hrest]
    · have hbeq : (name == other) = false := by simpa using hsame
      rw [List.lookup_cons, hbeq] at hfound
      have hkept : (other != name) = true := by simpa using Ne.symm hsame
      rw [List.filter_cons_of_pos (by exact hkept)]
      exact ((ih hnames.2 hfound).cons lent).trans (.swap _ _ _)

theorem slots_onSlot_loan (hP : Lasting device config J P) {client : Client δ ς}
    {loans : List (Borrowed ς)}
    (hclient : client.tokens.Everywhere config J P client.site (loan :: loans)) {work : Work δ ς α}
    (hwork : ∀ state lent, Deal device config ⟨state, loan.session :: lent⟩
      ⟨(work.run state).2, lent⟩) :
    ((onSlot loan.slot work).run client).2.tokens.Everywhere config J P
      ((onSlot loan.slot work).run client).2.site loans :=
  hclient.on_return hP hwork

theorem not_mem_of_lookup {borrowed : List (String × Borrowed ς)}
    (h : borrowed.lookup name = none) : name ∉ borrowed.map (·.1) := by
  intro hmem
  obtain ⟨entry, hentry, hname⟩ := List.mem_map.mp hmem
  have hother := List.lookup_eq_none_iff.mp h entry hentry
  simp [hname] at hother

theorem names_join {borrowed : List (String × Borrowed ς)} (hnames : (borrowed.map (·.1)).Nodup)
    (name : String) (loan : Borrowed ς) :
    ((borrowed.filter (·.1 != name) ++ [(name, loan)]).map (·.1)).Nodup := by
  have hkept := hnames.sublist ((List.filter_sublist (p := (·.1 != name))).map _)
  rw [List.map_append]
  refine List.nodup_append.mpr ⟨hkept, by simp, ?_⟩
  intro other hother entry hentry heq
  have hname : other = name := by
    rw [heq]
    simpa using hentry
  rw [hname] at hother
  exact not_mem_names_forget name borrowed hother

theorem loans_join {borrowed : List (String × Borrowed ς)}
    (hfound : borrowed.lookup name = none) (loan : Borrowed ς) :
    (loan :: borrowed.map (·.2)).Perm
      ((borrowed.filter (·.1 != name) ++ [(name, loan)]).map (·.2)) := by
  rw [loans_forget_of_not_mem (not_mem_of_lookup hfound), List.map_append]
  exact (List.perm_append_singleton _ _).symm

theorem loans_replace {borrowed : List (String × Borrowed ς)} {earlier : Borrowed ς}
    (hnames : (borrowed.map (·.1)).Nodup) (hfound : borrowed.lookup name = some earlier)
    (loan : Borrowed ς) :
    (loan :: borrowed.map (·.2)).Perm
      (earlier :: (borrowed.filter (·.1 != name) ++ [(name, loan)]).map (·.2)) := by
  have hbefore := (loans_perm hnames hfound).cons loan
  rw [List.map_append]
  refine hbefore.trans ((List.Perm.swap _ _ _).trans (.cons earlier ?_))
  exact (List.perm_append_singleton _ _).symm

end Loans

theorem deal_giveBack (session : ς) (state : ManagedSlot ς × Site δ ς) (lent : List ς) :
    Deal device config ⟨state, session :: lent⟩
      ⟨((ManagedSlot.giveBack session : Work δ ς Unit).run state).2, lent⟩ :=
  .giveBack session

theorem deal_discard (session : ς) (state : ManagedSlot ς × Site δ ς) (lent : List ς) :
    Deal device config ⟨state, session :: lent⟩
      ⟨((ManagedSlot.discard device session).run state).2, lent⟩ :=
  .discard session

theorem keeps_letGo (hP : Lasting device config J P) (name : String) {work : ς → Work δ ς Unit}
    (hwork : ∀ session state lent, Deal device config ⟨state, session :: lent⟩
      ⟨((work session).run state).2, lent⟩) :
    Action.Keeps (Throughout config J P) (letGo name work) := by
  intro client hclient
  unfold letGo
  rw [Action.run_get_bind]
  cases hfound : client.borrowed.lookup name with
  | none => exact hclient
  | some loan =>
    have hloans := hclient.slots.perm hP (loans_perm hclient.names hfound)
    have hforget : (forget name).run client = (.ok (), { client with
        borrowed := client.borrowed.filter (·.1 != name) }) := rfl
    dsimp only
    rw [Action.run_bind_ok hforget, Action.run_bind_pure_snd]
    refine ⟨?_, slots_onSlot_loan hP hloans (hwork loan.session)⟩
    exact hclient.names.sublist (List.filter_sublist.map _)

theorem run_onIndex (index : Nat) (work : Work δ ς α) (client : Client δ ς) :
    (onIndex index work).run client =
      (((TokenModule.on (·.slotByIndex index) work).run (client.tokens, client.site)).1,
        { client with
          tokens := ((TokenModule.on (·.slotByIndex index) work).run
            (client.tokens, client.site)).2.1
          site := ((TokenModule.on (·.slotByIndex index) work).run
            (client.tokens, client.site)).2.2 }) := rfl

theorem keeps_borrowAs (hP : Lasting device config J P) (name : String) (index : Nat) :
    Action.Keeps (Throughout config J P) (borrowAs device config name index) := by
  intro client hclient
  have hindex := run_onIndex index (borrowing device config) client
  unfold borrowAs
  rw [Action.run_get_bind]
  rcases hclient.slots.on_borrowing hP (·.index == index) (.noSlotWithIndex index) with
    ⟨loan, tokens, site, hon, hslots⟩ | ⟨e, tokens, site, hon, hslots⟩
  · simp only [TokenModule.slotByIndex, hon] at hindex
    dsimp only
    rw [Action.run_bind_ok hindex]
    have hnames := names_join hclient.names name loan
    cases hfound : client.borrowed.lookup name with
    | none =>
      change Throughout config J P { client with
        tokens, site, borrowed := client.borrowed.filter (·.1 != name) ++ [(name, loan)] }
      exact ⟨hnames, hslots.perm hP (loans_join hfound loan)⟩
    | some earlier =>
      change Throughout config J P ((returnSession earlier >>= fun _ => pure Response.done).run
        { client with
          tokens, site, borrowed := client.borrowed.filter (·.1 != name) ++ [(name, loan)] }).2
      rw [Action.run_bind_pure_snd]
      have hloans := hslots.perm hP (loans_replace hclient.names hfound loan)
      exact ⟨hnames, slots_onSlot_loan hP hloans (deal_giveBack earlier.session)⟩
  · simp only [TokenModule.slotByIndex, hon] at hindex
    dsimp only
    rw [Action.run_bind_error hindex]
    exact ⟨hclient.names, hslots⟩

theorem keeps_perform (hP : Lasting device config J P) (request : Request) :
    Action.Keeps (Throughout config J P) (perform device request) := by
  unfold perform
  refine .get_bind fun client hclient => ?_
  dsimp only
  rw [hclient.slots.config_eq]
  cases request with
  | summary => exact .pure _
  | slot slot => exact keeps_describe _
  | slotByIndex index => exact keeps_describe _
  | slotById id => exact keeps_describe _
  | onSlot index request => exact keeps_onIndex hP index (does_slotRequest request)
  | borrow name index => exact keeps_borrowAs hP name index
  | giveBack name => exact keeps_letGo hP name deal_giveBack
  | discard name => exact keeps_letGo hP name deal_discard
  | openKey name slot key =>
    refine .bind (keeps_onSlot hP slot (ManagedSlot.does_find key)) fun handle => ?_
    exact .bind (.modify fun _ h => ⟨h.names, h.slots⟩) fun _ => .pure _
  | onKey name request =>
    dsimp only
    cases client.keys.lookup name with
    | none => exact .pure _
    | some handle => exact keeps_onSlot hP _ (does_keyRequest handle request)
  | signPssEncoded name message =>
    refine .bind (.ofExcept _) fun message => ?_
    cases client.keys.lookup name with
    | none => exact .pure _
    | some handle =>
      refine .bind (keeps_onSlot hP _ ?_) fun _ => .pure _
      exact ManagedSlot.does_signPssEncoded handle message
  | startEngine name scheme =>
    exact .bind (.ofExcept _) fun scheme => .bind (keeps_putEngine _ _) fun _ => .pure _
  | onEngine name request =>
    dsimp only
    cases client.engines.lookup name with
    | none => exact .pure _
    | some engine => exact keeps_engineRequest hP name engine request

def after (device : Device δ ς) (client : Client δ ς) (requests : List Request) : Client δ ς :=
  requests.foldl (fun client request => ((perform device request).run client).2) client

theorem throughout_after (hP : Lasting device config J P) (requests : List Request)
    {client : Client δ ς} (hclient : Throughout config J P client) :
    Throughout config J P (client.after device requests) := by
  induction requests generalizing client with
  | nil => exact hclient
  | cons request rest ih => exact ih (keeps_perform hP request client hclient)

theorem slots_returnAll (hP : Lasting device config J P) (loans : List (Borrowed ς))
    {client : Client δ ς} (hclient : client.tokens.Everywhere config J P client.site loans) :
    ∃ left, ((returnAll loans).run client).2.tokens.Everywhere config J P
      ((returnAll loans).run client).2.site left := by
  induction loans generalizing client with
  | nil => exact ⟨[], hclient⟩
  | cons loan rest ih =>
    have hreturned := slots_onSlot_loan hP hclient (deal_giveBack loan.session)
    unfold returnAll
    match hrun : (returnSession loan).run client with
    | (.ok (), returned) =>
      rw [Action.run_bind_ok hrun]
      refine ih ?_
      rw [returnSession] at hrun
      rw [hrun] at hreturned
      exact hreturned
    | (.error e, returned) =>
      rw [Action.run_bind_error hrun]
      rw [returnSession] at hrun
      rw [hrun] at hreturned
      exact ⟨rest, hreturned⟩

theorem site_close (hP : Lasting device config J P)
    (hcloses : ∀ {managed : ManagedSlot ς} {site : Site δ ς} {lent : List ς},
      P ⟨(managed, site), lent⟩ → ∀ session,
        Action.Keeps J (device.call managed.slot (.close session)))
    {client : Client δ ς} (hclient : Throughout config J P client) :
    J ((close device).run client).2.site := by
  obtain ⟨left, hreturned⟩ := slots_returnAll hP _ hclient.slots
  unfold close
  rw [Action.run_get_bind]
  match hrun : (returnAll (client.borrowed.map (·.2))).run client with
  | (.error e, returned) =>
    rw [Action.run_bind_error hrun]
    rw [hrun] at hreturned
    exact hreturned.device
  | (.ok (), returned) =>
    rw [Action.run_bind_ok hrun]
    rw [hrun] at hreturned
    refine TokenModule.keeps_close _ ?_ returned.site hreturned.device
    exact fun managed hmanaged => hcloses (hreturned.each managed hmanaged)

end TokenSigner.Client
