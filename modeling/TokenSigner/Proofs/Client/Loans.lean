import TokenSigner.Proofs.Client.Throughout
import TokenSigner.Proofs.ManagedSlot.Books
import TokenSigner.Proofs.TokenModule.Construction
import TokenSigner.Rehearsal.Setting

namespace TokenSigner

open Event (Tidy openings closings)
open ManagedSlot (Scene Steps Deal Does Errand Work Books Booked Orderly)

variable {δ ς α : Type}

inductive Operation where
  | findKey (key : KeyIdentifier)
  | publicKey (object : UInt64) (key : KeyIdentifier)
  | sign (object : UInt64) (mechanism : Mechanism) (parameters : Option MechanismParameters)
      (data : Bytes)
  | openKey (key : KeyIdentifier)
  | signPkcs1 (handle : KeyHandle) (digest : Digest) (hash : Bytes)
  | signPss (handle : KeyHandle) (parameters : PssParameters) (hash : Bytes)
  | signPssEncoded (handle : KeyHandle) (message : PssMessage)
  | signEcdsa (handle : KeyHandle) (hash : Bytes) (encoding : Ecdsa.Encoding)

namespace Operation

abbrev Answer : Operation → Type
  | findKey _ => UInt64
  | publicKey _ _ => PublicKey
  | openKey _ => KeyHandle
  | sign _ _ _ _ | signPkcs1 _ _ _ | signPss _ _ _ | signPssEncoded _ _ | signEcdsa _ _ _ => Bytes

def work (device : Device δ ς) (config : ModuleConfig) :
    (operation : Operation) → Work δ ς operation.Answer
  | findKey key => ManagedSlot.findKey device config key
  | publicKey object key => ManagedSlot.publicKey device config object key
  | sign object mechanism parameters data =>
    ManagedSlot.sign device config object mechanism parameters data
  | openKey key => KeyHandle.find device config key
  | signPkcs1 handle digest hash => handle.signPkcs1 device config digest hash
  | signPss handle parameters hash => handle.signPss device config parameters hash
  | signPssEncoded handle message => handle.signPssEncoded device config message
  | signEcdsa handle hash encoding => handle.signEcdsa device config hash encoding

variable {device : Device δ ς} {config : ModuleConfig}

theorem does (operation : Operation) :
    Does device config .empty (operation.work device config) := by
  cases operation with
  | findKey key => exact ManagedSlot.does_findKey key
  | publicKey object key => exact ManagedSlot.does_publicKey object key
  | sign object mechanism parameters data => exact ManagedSlot.does_sign _ _ _ _
  | openKey key => exact ManagedSlot.does_find key
  | signPkcs1 handle digest hash => exact ManagedSlot.does_signPkcs1 handle digest hash
  | signPss handle parameters hash => exact ManagedSlot.does_signPss handle parameters hash
  | signPssEncoded handle message => exact ManagedSlot.does_signPssEncoded handle message
  | signEcdsa handle hash encoding => exact ManagedSlot.does_signEcdsa handle hash encoding

end Operation

structure Restored (device : Device δ ς) (config : ModuleConfig) (x : ManagedSlot ς × Site δ ς)
    (result : Except Error α) (y : ManagedSlot ς × Site δ ς) (calls : List (Event ς)) : Prop where
  recorded : y.2.events = x.2.events ++ calls
  here : ∀ event ∈ calls, event.slot = x.1.slot
  alone : Steps device config ⟨x, .empty⟩ ⟨y, .empty⟩
  placed : (y.1.pool.idle ++ closings calls).Perm (x.1.pool.idle ++ openings calls)
  counted : y.1.pool.opened + (closings calls).length =
    x.1.pool.opened + (openings calls).length
  tidy : Tidy calls
  used : ∀ event ∈ calls, ∀ session, event.call.session? = some session →
    session ∈ y.1.pool.idle ∨ session ∈ calls.filterMap Event.spoilt?
  unhindered : ¬x.1.pool.Blocked → ∀ e, result = .error e → e.kind = .sessionTimeout →
    ∃ event, calls.getLast? = some event ∧ event.failure? = some e
  unopened : (∃ event ∈ calls, event.unopened = true) → y.1.pool = x.1.pool

variable {device : Device δ ς} {config : ModuleConfig} {past log : List (Event ς)}

theorem restored_of_errand {x y : ManagedSlot ς × Site δ ς} {result : Except Error α}
    {calls : List (Event ς)} {lent : List ς}
    (herrand : Errand device config .empty x result y calls) (hbooks : Books past log ⟨x, lent⟩) :
    Restored device config x result y calls ∧ Books past (log ++ calls) ⟨y, lent⟩ := by
  obtain ⟨calls', hcourse⟩ := herrand.steps.course
  obtain rfl : calls' = calls :=
    List.append_cancel_left (hcourse.recorded.symm.trans herrand.recorded)
  have hcounts := herrand.steps.counts hbooks.counts
  have hplaced : (y.1.pool.idle ++ closings calls').Perm (x.1.pool.idle ++ openings calls') := by
    simpa [ManagedSlot.Hand.sessions] using hcourse.placed
  have htidy : Tidy calls' := hcourse.tidies rfl
  refine ⟨⟨herrand.recorded, hcourse.here, herrand.steps, hplaced, ?_, htidy, ?_, ?_, ?_⟩, ?_⟩
  · have hbefore : x.1.pool.opened = x.1.pool.idle.length + lent.length := hbooks.counts.opened
    have hafter : y.1.pool.opened = y.1.pool.idle.length + lent.length := hcounts.opened
    have hlength := hplaced.length_eq
    simp only [List.length_append] at hlength
    omega
  · intro event hevent session hcalled
    have hmem : session ∈ x.1.pool.idle ++ openings calls' := by
      simpa [ManagedSlot.Hand.sessions] using hcourse.used event hevent session hcalled
    rw [← htidy.closings_eq]
    exact List.mem_append.mp (hplaced.mem_iff.mpr hmem)
  · intro hfree e he hkind
    rcases herrand.timeout e he hkind with ⟨-, hblocked⟩ | hlast
    · exact absurd hblocked hfree
    · exact hlast
  · rintro ⟨event, hevent, hunopened⟩
    exact (herrand.unopened event hevent hunopened).2.2.2
  · exact hbooks.advance hcourse hcounts rfl

namespace Client

variable {resolver : PasswordResolver} {salts : SlotIdentifier → Entropy} {ids : List UInt64}

def Retired (device : Device δ ς) (log : List (Event ς)) (slot : SlotIdentifier) (gone : List ς)
    (client : Client δ ς) : Prop :=
  ∀ requests, ∃ since,
    (after device client requests).site.events = client.site.events ++ since ∧
    ((openings (Event.on slot (log ++ since))).Nodup → ∀ session ∈ gone,
      (∀ event ∈ Event.on slot since, event.call.session? ≠ some session) ∧
      ∀ managed ∈ (after device client requests).tokens.managed, managed.slot = slot →
        session ∉ managed.pool.idle ∧
        session ∉ lentOn ((after device client requests).borrowed.map (·.2)) slot)

theorem booked_build {m : TokenModule ς} {tokens : δ} {site : Site δ ς}
    (hbuild : (TokenModule.build device config resolver salts ids).run ⟨tokens, [], []⟩ =
      (.ok m, site)) :
    Throughout config (fun site' => [] <+: site'.events ∧ Orderly site.events site')
      (Booked site.events) ⟨m, site, [], [], []⟩ := by
  have hfresh := TokenModule.fresh_takeSlots (TokenModule.fresh_start config) hbuild
  have horderly : Orderly site.events site :=
    ⟨[], (List.append_nil _).symm, fun _ _ => .nil⟩
  refine ⟨List.nodup_nil, hfresh.config_eq, ⟨List.nil_prefix, horderly⟩, hfresh.apart, ?_⟩
  intro managed hmanaged
  have hunused := hfresh.unused managed hmanaged
  refine ⟨[], (List.append_nil _).symm, ⟨?_, ?_⟩, ?_⟩
  · change managed.pool.opened = managed.pool.idle.length + 0 + 0
    rw [hunused]
    rfl
  · change managed.pool.opened ≤ managed.pool.capacity
    rw [hunused]
    exact Nat.zero_le _
  · change (managed.pool.idle ++ [] ++ []).Perm []
    rw [hunused]
    exact .refl _

theorem retired_of_orderly {client : Client δ ς} {slot : SlotIdentifier} {gone : List ς}
    (hclient : Throughout config (fun site => [] <+: site.events ∧ Orderly past site)
      (Booked past) client)
    (hrecorded : client.site.events = past ++ log)
    (hgone : ∀ session ∈ gone, session ∈ closings (Event.on slot log)) :
    Retired device log slot gone client := by
  intro requests
  have hsince : Throughout config
      (fun site => client.site.events <+: site.events ∧ Orderly past site) (Booked past) client :=
    ⟨hclient.names, hclient.slots.config_eq, ⟨List.prefix_rfl, hclient.slots.device.2⟩,
      hclient.slots.excluded, hclient.slots.each⟩
  have hlater := throughout_after (ManagedSlot.lasting_booked device config _ past) requests hsince
  obtain ⟨⟨since, hsame⟩, log', hrecorded', horderly⟩ := hlater.slots.device
  obtain rfl : log' = log ++ since := by
    refine List.append_cancel_left (hrecorded'.symm.trans ?_)
    rw [← hsame, hrecorded, List.append_assoc]
  refine ⟨since, hsame.symm, fun hnodup session hsession => ?_⟩
  have hclosed := hgone session hsession
  have hevents := horderly slot hnodup
  rw [Event.on_append] at hevents
  obtain ⟨closing, hclosing, hends⟩ := List.mem_filterMap.mp hclosed
  refine ⟨fun event hevent => ?_, fun managed hmanaged hslot => ?_⟩
  · exact (List.pairwise_append.mp hevents).2.2 closing hclosing event hevent session hends
  · subst hslot
    obtain ⟨log', hbooks⟩ := hlater.slots.each managed hmanaged
    obtain rfl : log' = log ++ since :=
      List.append_cancel_left (hbooks.recorded.symm.trans hrecorded')
    refine hbooks.gone hnodup ?_
    rw [Event.on_append, Event.closings_append]
    exact List.mem_append_left _ hclosed

theorem sessions_restored {m : TokenModule ς} {tokens : δ} {site : Site δ ς}
    (hbuild : (TokenModule.build device config resolver salts ids).run ⟨tokens, [], []⟩ =
      (.ok m, site)) (requests : List Request) {managed : ManagedSlot ς}
    (hmanaged : managed ∈ (after device ⟨m, site, [], [], []⟩ requests).tokens.managed)
    (operation : Operation) :
    let client := after device ⟨m, site, [], [], []⟩ requests
    let lent := lentOn (client.borrowed.map (·.2)) managed.slot
    let done := (operation.work device config).run (managed, client.site)
    ∃ log calls, Books site.events log ⟨(managed, client.site), lent⟩ ∧
      Books site.events (log ++ calls) ⟨done.2, lent⟩ ∧
      Restored device config (managed, client.site) done.1 done.2 calls ∧
      Retired device (log ++ calls) managed.slot (closings calls)
        { client with tokens := client.tokens.replace done.2.1, site := done.2.2 } := by
  intro client lent done
  have hclient := throughout_after (ManagedSlot.lasting_booked device config [] site.events)
    requests (booked_build hbuild)
  obtain ⟨log, hbooks⟩ := hclient.slots.each managed hmanaged
  have hdoes : Does device config .empty (operation.work device config) := operation.does
  obtain ⟨calls, herrand⟩ := hdoes (managed, client.site)
  obtain ⟨hrestored, hbooks'⟩ := restored_of_errand herrand hbooks
  refine ⟨log, calls, hbooks, hbooks', hrestored, ?_⟩
  have hdeal := Deal.work lent herrand.steps
  have hslots := hclient.slots.replace (ManagedSlot.lasting_booked device config [] site.events)
    hmanaged hdeal fun _ _ => rfl
  have hafter : Throughout config
      (fun site' => [] <+: site'.events ∧ Orderly site.events site') (Booked site.events)
      { client with tokens := client.tokens.replace done.2.1, site := done.2.2 } :=
    ⟨hclient.names, hslots⟩
  refine retired_of_orderly hafter hbooks'.recorded ?_
  intro session hsession
  rw [Event.on_append, Event.on_eq_self hrestored.here, Event.closings_append]
  exact List.mem_append_right _ hsession

theorem sessions_restored_after_a_failure :
    let broken : Rehearsal.Token :=
      { Rehearsal.token with faults := [⟨.sign, none, .reported .token "no answer"⟩] }
    let salts : SlotIdentifier → Entropy := fun _ => ⟨fun _ => .ok 0, 0⟩
    let slot : ManagedSlot Nat := ⟨⟨0, 7⟩, .start 1, none, .empty, none, salts ⟨0, 7⟩⟩
    let m : TokenModule Nat := ⟨Rehearsal.config, [slot], [⟨1, 8⟩]⟩
    let site : Site (List Rehearsal.Token) Nat := ⟨[broken, broken], [], []⟩
    let requests : List Request := [.onSlot 0 (.publicKey 1 (.label "signing"))]
    let client := after Rehearsal.device ⟨m, site, [], [], []⟩ requests
    let managed : ManagedSlot Nat := { slot with pool := ⟨1, [1], 1⟩ }
    let operation : Operation := .sign 1 .rsaPkcs none [1]
    let done := (operation.work Rehearsal.device Rehearsal.config).run (managed, client.site)
    (TokenModule.build Rehearsal.device Rehearsal.config (.ofTable []) salts [7, 8]).run site =
      (.ok m, site) ∧
    managed ∈ client.tokens.managed ∧
    done.2.1.pool = ⟨1, [], 0⟩ ∧
    ∃ log calls, closings calls = [1] ∧
      Books site.events (log ++ calls) ⟨done.2, []⟩ ∧
      Restored Rehearsal.device Rehearsal.config (managed, client.site) done.1 done.2 calls := by
  intro broken salts slot m site requests client managed operation done
  have hbuild : (TokenModule.build Rehearsal.device Rehearsal.config (.ofTable []) salts
      [7, 8]).run site = (.ok m, site) := rfl
  have hmanaged : managed ∈ client.tokens.managed := List.mem_singleton_self _
  have hpool : done.2.1.pool = ⟨1, [], 0⟩ := rfl
  obtain ⟨log, calls, -, hbooks, hrestored, -⟩ :=
    sessions_restored hbuild requests hmanaged operation
  have hevents : done.2.2.events = client.site.events ++
      done.2.2.events.drop client.site.events.length := rfl
  have hcalls : calls = done.2.2.events.drop client.site.events.length :=
    List.append_cancel_left (hrestored.recorded.symm.trans hevents)
  refine ⟨hbuild, hmanaged, hpool, log, calls, ?_, hbooks, hrestored⟩
  rw [hcalls]
  rfl

end Client

end TokenSigner
