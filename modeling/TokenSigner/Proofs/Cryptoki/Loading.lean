import TokenSigner.Proofs.Client.Throughout
import TokenSigner.Proofs.Cryptoki.Serving

namespace TokenSigner.Cryptoki

open TokenSigner.Action (Keeps)

variable {ℓ α : Type} {library : Library ℓ} {patience : Nat} {config : ModuleConfig}
  {I : Application ℓ → Prop} {site after : Site (Application ℓ) Session}

theorem run_of_call {slot : SlotIdentifier} {call : Call Session}
    {result : Except Error call.Answer}
    (hcall : ((device library patience).call slot call).run site = (result, after)) :
    ∃ application,
      (serve library patience slot call).run { site.device with warnings := [] } =
        (result, application) ∧
      after.device = { application with warnings := site.device.warnings } := by
  cases hcall
  exact ⟨_, rfl, rfl⟩

theorem keeps_onApplication {a : Action (Application ℓ) α} (h : Keeps I a) :
    Keeps (fun site => I site.device) (onApplication a) :=
  .on fun _ hsite => h _ hsite

namespace Steadfast

variable (h : Steadfast library patience I)

include h

theorem startLibrary : Keeps I (startLibrary library) :=
  .bind (h.exchange _ rfl) fun _ => .ite (fun _ => .throw _) fun _ => .pure _

theorem finishLibrary : Keeps I (finishLibrary library) :=
  .bind (h.exchange _ rfl) fun _ => .pure _

variable {installed : Installed} {resolver : PasswordResolver} {salts : SlotIdentifier → Entropy}
  {Q : Session → Site (Application ℓ) Session → Prop}

theorem load (hadmits : ∀ slot,
      ManagedSlot.Admits (device library patience) slot (fun site => I site.device) Q) :
    Keeps (fun site => I site.device) (load library installed patience config resolver salts) := by
  have hfinish := keeps_onApplication h.finishLibrary
  refine .bind (.ofExcept _) fun _ => .bind (.outcome ?_) fun answer => ?_
  · refine .bind (keeps_onApplication h.startLibrary) fun _ => ?_
    refine .bind (keeps_onApplication h.slotList) fun ids => ?_
    exact TokenModule.keeps_takeSlots (fun slot _ => hadmits slot) _
      (TokenModule.fresh_start config)
  · cases answer with
    | ok tokens =>
      refine .bind ?_ fun _ => .pure _
      exact .ite (fun _ => hfinish) fun _ => .pure _
    | error e => exact .bind hfinish fun _ => .throw _

theorem unload {P : ManagedSlot.Scene (Application ℓ) Session → Prop}
    (hP : Lasting (device library patience) config (fun site => I site.device) P)
    (hcloses : ∀ {managed : ManagedSlot Session} {site : Site (Application ℓ) Session}
      {lent : List Session}, P ⟨(managed, site), lent⟩ → ∀ session,
        Keeps (fun site => I site.device)
          ((device library patience).call managed.slot (.close session)))
    {client : Client (Application ℓ) Session}
    (hclient : Client.Throughout config (fun site => I site.device) P client) :
    I ((unload library patience).run client).2.site.device := by
  have hclosed := Client.site_close hP hcloses hclient
  unfold Cryptoki.unload
  match hrun : (Client.close (device library patience)).run client with
  | (.error e, closed) =>
    rw [Action.run_bind_error hrun]
    rw [hrun] at hclosed
    exact hclosed
  | (.ok (), closed) =>
    rw [Action.run_bind_ok hrun, Action.run_get_bind]
    rw [hrun] at hclosed
    dsimp only
    rw [Action.run_ite]
    split
    · exact h.exchange .finish rfl closed.site.device hclosed
    · exact hclosed

end Steadfast

variable {installed : Installed} {resolver : PasswordResolver} {salts : SlotIdentifier → Entropy}

theorem fresh_load {m : TokenModule Session}
    (hload : (load library installed patience config resolver salts).run site = (.ok m, after)) :
    TokenModule.Fresh config m := by
  obtain ⟨_, loaded, -, hrest⟩ := Action.run_bind_eq_ok.mp hload
  obtain ⟨answer, built, hanswer, hrelease⟩ := Action.run_bind_eq_ok.mp hrest
  cases answer with
  | error e =>
    obtain ⟨_, finished, -, hthrow⟩ := Action.run_bind_eq_ok.mp hrelease
    cases hthrow
  | ok tokens =>
    obtain ⟨_, released, -, hreturn⟩ := Action.run_bind_eq_ok.mp hrelease
    cases hreturn
    have hbuild := Action.run_outcome_eq_ok.mp hanswer
    obtain ⟨_, started, -, hlist⟩ := Action.run_bind_eq_ok.mp hbuild
    obtain ⟨ids, listed, -, htake⟩ := Action.run_bind_eq_ok.mp hlist
    exact TokenModule.fresh_takeSlots (TokenModule.fresh_start config) htake

end TokenSigner.Cryptoki
