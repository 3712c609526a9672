import Mathlib.Data.List.Forall2
import TokenSigner.Proofs.Bytes
import TokenSigner.Proofs.Cryptoki.Contents
import TokenSigner.Proofs.Cryptoki.Serving
import TokenSigner.Rehearsal.Library

namespace TokenSigner.Cryptoki

variable {ℓ : Type} {library : Library ℓ} {session : Session} {handle : UInt64}
  {application : Application ℓ} {outcome : Outcome} {state between after : ℓ}
  {batch buffer : List UInt64} {count : UInt64} {patience : Nat}
  {result : Except Error (List UInt64)} {final : Application ℓ}

def Application.asked (application : Application ℓ) (state : ℓ) (exchanges : List Exchange) :
    Application ℓ :=
  { application with library := state, exchanges := application.exchanges ++ exchanges }

theorem Application.asked_asked (exchanges exchanges' : List Exchange) :
    (application.asked between exchanges).asked after exchanges' =
      application.asked after (exchanges ++ exchanges') := by
  simp [asked]

def batchOf (handle : UInt64) (outcome : Outcome) : Exchange :=
  (.search handle Session.batch, outcome)

theorem run_require_asked (task : Task) {request : Request}
    (hserve : library.serve request application.library = (outcome, state)) :
    (library.require task request).run application =
      (if outcome.code = ReturnCode.ok then .ok outcome
        else .error (.libraryCall task outcome.code),
        application.asked state [(request, outcome)]) :=
  run_require_of_serve task hserve

theorem run_require_answered (task : Task) {request : Request}
    (hserve : library.serve request application.library = (outcome, state))
    (hcode : outcome.code = ReturnCode.ok) :
    (library.require task request).run application =
      (.ok outcome, application.asked state [(request, outcome)]) := by
  rw [run_require_asked task hserve, if_pos hcode]

def written (outcome : Outcome) (buffer : List UInt64) : List UInt64 :=
  outcome.words.take Session.batch ++ buffer.drop outcome.words.length

theorem length_written (hbuffer : buffer.length = Session.batch) :
    (written outcome buffer).length = Session.batch := by
  rw [written, List.length_append, List.length_take, List.length_drop, hbuffer]
  omega

theorem take_written (hroom : batch.length ≤ Session.batch) (hwords : batch <+: outcome.words) :
    (written outcome buffer).take batch.length = batch := by
  obtain ⟨rest, hrest⟩ := hwords
  have hlength := congrArg List.length hrest
  rw [List.length_append] at hlength
  rw [written, List.take_append_of_le_length, List.take_take, Nat.min_eq_left hroom, ← hrest,
    List.take_left]
  rw [List.length_take]
  omega

section Step

variable (hserve : library.serve (.search session.handle Session.batch) application.library =
  (outcome, state))

include hserve

theorem run_collect_failed (hcode : outcome.code ≠ ReturnCode.ok) :
    (session.collect library (patience + 1) buffer count).run application =
      (.error (.libraryCall .search outcome.code),
        application.asked state [batchOf session.handle outcome]) := by
  have hrun := run_require_asked .search hserve
  rw [if_neg hcode] at hrun
  unfold Session.collect
  exact Action.run_bind_error hrun _

variable (hcode : outcome.code = ReturnCode.ok)

include hcode

theorem run_collect_last (hcount : outcome.count.getD count = 0) :
    (session.collect library (patience + 1) buffer count).run application =
      (.ok [], application.asked state [batchOf session.handle outcome]) := by
  unfold Session.collect
  rw [Action.run_bind_ok (run_require_answered .search hserve hcode)]
  dsimp only
  rw [if_pos hcount]
  rfl

theorem run_collect_over (hcount : Session.batch < (outcome.count.getD count).toNat) :
    (session.collect library (patience + 1) buffer count).run application =
      (.error .tooManyObjects, application.asked state [batchOf session.handle outcome]) := by
  have hnonzero : outcome.count.getD count ≠ 0 := by
    intro hzero
    rw [hzero] at hcount
    cases hcount
  unfold Session.collect
  rw [Action.run_bind_ok (run_require_answered .search hserve hcode)]
  dsimp only
  rw [if_neg hnonzero, if_pos hcount]
  rfl

theorem run_collect_more (hnonzero : outcome.count.getD count ≠ 0)
    (hroom : (outcome.count.getD count).toNat ≤ Session.batch)
    (hrest : (session.collect library patience (written outcome buffer)
      (outcome.count.getD count)).run (application.asked state [batchOf session.handle outcome]) =
        (result, final)) :
    (session.collect library (patience + 1) buffer count).run application =
      (result.map ((written outcome buffer).take (outcome.count.getD count).toNat ++ ·),
        final) := by
  unfold Session.collect
  rw [Action.run_bind_ok (run_require_answered .search hserve hcode)]
  dsimp only
  rw [if_neg hnonzero, if_neg (Nat.not_lt.mpr hroom), bind_pure_comp, Action.run_map]
  exact congrArg (Prod.map (Except.map
    ((written outcome buffer).take (outcome.count.getD count).toNat ++ ·)) id) hrest

end Step

structure Brings (outcome : Outcome) (batch : List UInt64) : Prop where
  code : outcome.code = ReturnCode.ok
  count : outcome.count.map UInt64.toNat = some batch.length
  words : batch <+: outcome.words

theorem Brings.getD_count (h : Brings outcome batch) (count : UInt64) :
    (outcome.count.getD count).toNat = batch.length := by
  obtain ⟨announced, hannounced, hlength⟩ := Option.map_eq_some_iff.mp h.count
  rw [hannounced]
  exact hlength

theorem Brings.count_eq_zero (h : Brings outcome batch) (count : UInt64) :
    outcome.count.getD count = 0 ↔ batch = [] := by
  rw [← UInt64.toNat_inj, h.getD_count count]
  exact List.length_eq_zero_iff

inductive Batched (library : Library ℓ) (handle : UInt64) :
    List (List UInt64) → List Outcome → ℓ → ℓ → Prop
  | none (state : ℓ) : Batched library handle [] [] state state
  | more {batch : List UInt64} {batches : List (List UInt64)} {outcome : Outcome}
    {outcomes : List Outcome} {state between after : ℓ}
    (hserve : library.serve (.search handle Session.batch) state = (outcome, between))
    (hbrings : Brings outcome batch) (hnonempty : batch ≠ [])
    (hroom : batch.length ≤ Session.batch)
    (hrest : Batched library handle batches outcomes between after) :
    Batched library handle (batch :: batches) (outcome :: outcomes) state after

variable {batches : List (List UInt64)} {outcomes : List Outcome}

theorem Batched.length_eq (h : Batched library handle batches outcomes state after) :
    outcomes.length = batches.length := by
  induction h with
  | none state => rfl
  | more _ _ _ _ _ ih => exact congrArg (· + 1) ih

theorem run_collect_batched
    (h : Batched library session.handle batches outcomes application.library after)
    (hrest : ∀ buffer count, (session.collect library patience buffer count).run
      (application.asked after (outcomes.map (batchOf session.handle))) = (result, final))
    (buffer : List UInt64) (count : UInt64) :
    (session.collect library (patience + batches.length) buffer count).run application =
      (result.map (batches.flatten ++ ·), final) := by
  generalize hstate : application.library = state at h
  induction h generalizing application buffer count with
  | none state =>
    subst hstate
    have hsame : application.asked application.library [] = application := by
      simp [Application.asked]
    rw [List.map_nil, hsame] at hrest
    rw [List.length_nil, Nat.add_zero, hrest]
    cases result <;> rfl
  | @more batch batches outcome outcomes state between after hserve hbrings hnonempty hroom _ ih =>
    subst hstate
    have hlength := hbrings.getD_count count
    have hnonzero : outcome.count.getD count ≠ 0 :=
      fun hzero => hnonempty ((hbrings.count_eq_zero count).mp hzero)
    have hlater := @ih (application.asked between [batchOf session.handle outcome])
      (by simpa [Application.asked_asked] using hrest) (written outcome buffer)
      (outcome.count.getD count) rfl
    rw [List.length_cons, ← Nat.add_assoc,
      run_collect_more hserve hbrings.code hnonzero (hlength ▸ hroom) hlater, hlength,
      take_written hroom hbrings.words]
    cases result with
    | ok handles => simp [Except.map]
    | error e => rfl

theorem run_collect_exhausted
    (h : Batched library session.handle batches outcomes application.library between)
    (hserve : library.serve (.search session.handle Session.batch) between = (outcome, after))
    (hbrings : Brings outcome []) (hpatience : batches.length < patience)
    (buffer : List UInt64) (count : UInt64) :
    (session.collect library patience buffer count).run application =
      (.ok batches.flatten,
        application.asked after ((outcomes ++ [outcome]).map (batchOf session.handle))) := by
  obtain ⟨more, rfl⟩ := Nat.exists_eq_add_of_lt hpatience
  rw [Nat.add_assoc, Nat.add_comm, run_collect_batched h fun buffer count =>
    run_collect_last hserve hbrings.code ((hbrings.count_eq_zero count).mpr rfl)]
  simp [Except.map, Application.asked_asked]

theorem run_collect_overrun
    (h : Batched library session.handle batches outcomes application.library between)
    (hserve : library.serve (.search session.handle Session.batch) between = (outcome, after))
    (hcode : outcome.code = ReturnCode.ok)
    (hcount : ∃ announced, outcome.count = some announced ∧ Session.batch < announced.toNat)
    (hpatience : batches.length < patience) (buffer : List UInt64) (count : UInt64) :
    (session.collect library patience buffer count).run application =
      (.error .tooManyObjects,
        application.asked after ((outcomes ++ [outcome]).map (batchOf session.handle))) := by
  obtain ⟨announced, hannounced, hmany⟩ := hcount
  obtain ⟨more, rfl⟩ := Nat.exists_eq_add_of_lt hpatience
  rw [Nat.add_assoc, Nat.add_comm, run_collect_batched h fun buffer count =>
    run_collect_over hserve hcode (by rwa [hannounced])]
  simp [Except.map, Application.asked_asked]

structure Taken (outcome : Outcome) (batch : List UInt64) : Prop where
  code : outcome.code = ReturnCode.ok
  count : ∀ count ∈ outcome.count, batch.length = count.toNat
  room : batch.length ≤ Session.batch
  words : batch.length ≤ outcome.words.length → batch <+: outcome.words

theorem taken_written (hbuffer : buffer.length = Session.batch)
    (hcode : outcome.code = ReturnCode.ok)
    (hroom : (outcome.count.getD count).toNat ≤ Session.batch) :
    Taken outcome ((written outcome buffer).take (outcome.count.getD count).toNat) := by
  have hlength : ((written outcome buffer).take (outcome.count.getD count).toNat).length =
      (outcome.count.getD count).toNat := by
    rw [List.length_take, length_written hbuffer, Nat.min_eq_left hroom]
  refine ⟨hcode, ?_, Nat.le_trans (Nat.le_of_eq hlength) hroom, ?_⟩
  · intro announced hannounced
    rw [hlength, hannounced]
    rfl
  · intro hwords
    rw [hlength] at hwords
    rw [written, List.take_append_of_le_length, List.take_take]
    · exact List.take_prefix _ _
    · rw [List.length_take]
      omega

theorem collect_eq_ok {handles : List UInt64} (hbuffer : buffer.length = Session.batch)
    (h : (session.collect library patience buffer count).run application = (.ok handles, final)) :
    ∃ batches outcomes last,
      final.exchanges =
        application.exchanges ++ (outcomes ++ [last]).map (batchOf session.handle) ∧
      handles = batches.flatten ∧ List.Forall₂ Taken outcomes batches ∧ Taken last [] := by
  induction patience generalizing buffer count application handles with
  | zero => cases h
  | succ patience ih =>
    obtain ⟨outcome, state, hserve⟩ : ∃ outcome state,
        library.serve (.search session.handle Session.batch) application.library =
          (outcome, state) := ⟨_, _, rfl⟩
    by_cases hcode : outcome.code = ReturnCode.ok
    case neg =>
      rw [run_collect_failed hserve hcode] at h
      cases h
    by_cases hroom : (outcome.count.getD count).toNat ≤ Session.batch
    case neg =>
      rw [run_collect_over hserve hcode (Nat.not_le.mp hroom)] at h
      cases h
    have htaken := taken_written hbuffer hcode hroom
    by_cases hzero : outcome.count.getD count = 0
    · rw [run_collect_last hserve hcode hzero] at h
      cases h
      rw [hzero] at htaken
      exact ⟨[], [], outcome, rfl, rfl, .nil, htaken⟩
    · generalize hrest : (session.collect library patience (written outcome buffer)
        (outcome.count.getD count)).run
          (application.asked state [batchOf session.handle outcome]) = rest
      obtain ⟨result, final'⟩ := rest
      rw [run_collect_more hserve hcode hzero hroom hrest] at h
      cases result with
      | error e => cases h
      | ok later =>
        cases h
        obtain ⟨batches, outcomes, last, hexchanges, rfl, hbatches, hlast⟩ :=
          ih (length_written hbuffer) hrest
        refine ⟨_ :: batches, outcome :: outcomes, last, ?_, rfl, .cons htaken hbatches, hlast⟩
        rw [hexchanges]
        simp [Application.asked]

variable {template : List (UInt64 × Bytes)} {asked : List Exchange}

inductive Exhausted (library : Library ℓ) (handle : UInt64) (template : List (UInt64 × Bytes))
    (batches : List (List UInt64)) : List Exchange → ℓ → ℓ → Prop
  | intro {started last finished : Outcome} {outcomes : List Outcome}
    {state opened between exhausted after : ℓ}
    (hstart : library.serve (.startSearch handle template) state = (started, opened))
    (hstarted : started.code = ReturnCode.ok)
    (hbatched : Batched library handle batches outcomes opened between)
    (hlast : library.serve (.search handle Session.batch) between = (last, exhausted))
    (hempty : Brings last [])
    (hfinish : library.serve (.finishSearch handle) exhausted = (finished, after))
    (hfinished : finished.code = ReturnCode.ok) :
    Exhausted library handle template batches
      ((.startSearch handle template, started) :: (outcomes ++ [last]).map (batchOf handle) ++
        [(.finishSearch handle, finished)]) state after

inductive Overrun (library : Library ℓ) (handle : UInt64) (template : List (UInt64 × Bytes))
    (batches : List (List UInt64)) : List Exchange → ℓ → ℓ → Prop
  | intro {started last : Outcome} {outcomes : List Outcome} {state opened between after : ℓ}
    (hstart : library.serve (.startSearch handle template) state = (started, opened))
    (hstarted : started.code = ReturnCode.ok)
    (hbatched : Batched library handle batches outcomes opened between)
    (hlast : library.serve (.search handle Session.batch) between = (last, after))
    (hcode : last.code = ReturnCode.ok)
    (hcount : ∃ announced, last.count = some announced ∧ Session.batch < announced.toNat) :
    Overrun library handle template batches
      ((.startSearch handle template, started) :: (outcomes ++ [last]).map (batchOf handle)) state
      after

theorem fst_batchOf (handle : UInt64) (outcomes : List Outcome) :
    (outcomes.map (batchOf handle)).map Prod.fst =
      List.replicate outcomes.length (.search handle Session.batch) := by
  rw [List.map_map, List.eq_replicate_iff]
  simp [batchOf]

theorem Exhausted.requests (h : Exhausted library handle template batches asked state after) :
    asked.map Prod.fst = .startSearch handle template ::
      List.replicate (batches.length + 1) (.search handle Session.batch) ++
        [.finishSearch handle] := by
  obtain ⟨-, -, hbatched, -, -, -, -⟩ := h
  rw [List.map_append, List.map_cons, fst_batchOf, List.length_append, hbatched.length_eq]
  rfl

theorem Overrun.requests (h : Overrun library handle template batches asked state after) :
    asked.map Prod.fst = .startSearch handle template ::
      List.replicate (batches.length + 1) (.search handle Session.batch) := by
  obtain ⟨-, -, hbatched, -, -, -⟩ := h
  rw [List.map_cons, fst_batchOf, List.length_append, hbatched.length_eq]
  rfl

theorem run_findObjects_exhausted
    (h : Exhausted library session.handle template batches asked application.library after)
    (hpatience : batches.length < patience) :
    (session.findObjects library patience template).run application =
      (.ok batches.flatten, application.asked after asked) := by
  generalize hstate : application.library = state at h
  cases h with
  | @intro _ _ _ _ _ _ _ exhausted _ hstart hstarted hbatched hlast hempty hfinish hfinished =>
    subst hstate
    have hended (exchanges : List Exchange) := @run_require_answered _ _
      (application.asked exhausted exchanges) _ _ .finishSearch _ hfinish hfinished
    unfold Session.findObjects
    rw [Action.run_bind_ok (run_require_answered .startSearch hstart hstarted),
      Action.run_bind_ok (run_collect_exhausted hbatched hlast hempty hpatience _ _),
      Application.asked_asked, Action.run_bind_ok (hended _), Application.asked_asked]
    rfl

theorem run_findObjects_overrun
    (h : Overrun library session.handle template batches asked application.library after)
    (hpatience : batches.length < patience) :
    (session.findObjects library patience template).run application =
      (.error .tooManyObjects, application.asked after asked) := by
  generalize hstate : application.library = state at h
  cases h with
  | intro hstart hstarted hbatched hlast hcode hcount =>
    subst hstate
    unfold Session.findObjects
    rw [Action.run_bind_ok (run_require_answered .startSearch hstart hstarted),
      Action.run_bind_error (run_collect_overrun hbatched hlast hcode hcount hpatience _ _),
      Application.asked_asked]
    rfl

theorem findObjects_eq_ok {handles : List UInt64}
    (h : (session.findObjects library patience template).run application = (.ok handles, final)) :
    ∃ batches outcomes last started finished,
      final.exchanges = application.exchanges ++
        ((.startSearch session.handle template, started) ::
          (outcomes ++ [last]).map (batchOf session.handle) ++
            [(.finishSearch session.handle, finished)]) ∧
      handles = batches.flatten ∧ List.Forall₂ Taken outcomes batches ∧ Taken last [] := by
  unfold Session.findObjects at h
  obtain ⟨_, opened, hstart, h⟩ := Action.run_bind_eq_ok.mp h
  obtain ⟨_, searched, hcollect, h⟩ := Action.run_bind_eq_ok.mp h
  obtain ⟨_, ended, hfinish, h⟩ := Action.run_bind_eq_ok.mp h
  cases h
  obtain ⟨batches, outcomes, last, hsearched, hhandles, htaken, hlast⟩ :=
    collect_eq_ok List.length_replicate hcollect
  obtain ⟨started, _, hopened⟩ :=
    run_require library .startSearch (.startSearch session.handle template) application
  obtain ⟨finished, _, hended⟩ :=
    run_require library .finishSearch (.finishSearch session.handle) searched
  have hopened := congrArg (·.2.exchanges) (hstart.symm.trans hopened)
  have hended := congrArg (·.2.exchanges) (hfinish.symm.trans hended)
  refine ⟨batches, outcomes, last, started, finished, ?_, hhandles, htaken, hlast⟩
  dsimp only at hopened hended
  rw [hended, hsearched, hopened]
  simp

theorem run_findKey_of_findObjects {objectClass : UInt64} {key : KeyIdentifier}
    {handles : List UInt64}
    (h : (session.findObjects library patience (Session.template objectClass key)).run
      application = (.ok handles, final)) :
    (session.findKey library patience objectClass key).run application =
      (.ok handles.head?, { final with
        warnings := final.warnings ++
          if 1 < handles.length then [.manyObjects handles.length key] else [] }) := by
  unfold Session.findKey
  rw [Action.run_bind_ok h]
  split
  · rfl
  · rw [List.append_nil]
    rfl

theorem fits_template {contents : Contents} {object objectClass : UInt64} {key : KeyIdentifier} :
    contents.fits (Session.template objectClass key) object = true ↔
      (∃ value, contents.availability object 0x000 = .revealed value ∧ value.length = 8 ∧
        Bytes.toNatLittle value = objectClass.toNat) ∧
      (∀ text, key = .label text →
        contents.availability object 0x003 = .revealed (Text.utf8 text)) ∧
      ∀ bytes, key = .id bytes → contents.availability object 0x102 = .revealed bytes := by
  have hclass : contents.availability object 0x000 =
      .revealed (Bytes.ofNatLittle 8 objectClass.toNat) ↔
      ∃ value, contents.availability object 0x000 = .revealed value ∧ value.length = 8 ∧
        Bytes.toNatLittle value = objectClass.toNat := by
    simp [← @Bytes.eq_ofNatLittle_iff 8 _ objectClass.toNat_lt]
  rw [← hclass]
  cases key <;> simp [Contents.fits, Session.template, KeyIdentifier.value, Attribute.objectClass,
    Attribute.label, Attribute.id]

theorem batches_joined (library : Library ℓ) (session : Session) (patience : Nat)
    (template : List (UInt64 × Bytes)) (application : Application ℓ) :
    (∀ batches asked after,
      Exhausted library session.handle template batches asked application.library after →
      batches.length < patience →
      asked.map Prod.fst = .startSearch session.handle template ::
        List.replicate (batches.length + 1) (.search session.handle Session.batch) ++
          [.finishSearch session.handle] ∧
      (session.findObjects library patience template).run application =
        (.ok batches.flatten, application.asked after asked) ∧
      ∀ objectClass key, template = Session.template objectClass key →
        (session.findKey library patience objectClass key).run application =
          (.ok batches.flatten.head?, { application.asked after asked with
            warnings := application.warnings ++ if 1 < batches.flatten.length then
              [.manyObjects batches.flatten.length key] else [] })) ∧
    (∀ batches asked after,
      Overrun library session.handle template batches asked application.library after →
      batches.length < patience →
      asked.map Prod.fst = .startSearch session.handle template ::
        List.replicate (batches.length + 1) (.search session.handle Session.batch) ∧
      (session.findObjects library patience template).run application =
        (.error .tooManyObjects, application.asked after asked) ∧
      Error.tooManyObjects.kind = .token) ∧
    ∀ handles final,
      (session.findObjects library patience template).run application = (.ok handles, final) →
      ∃ batches outcomes last started finished,
        final.exchanges = application.exchanges ++
          ((.startSearch session.handle template, started) ::
            (outcomes ++ [last]).map (batchOf session.handle) ++
              [(.finishSearch session.handle, finished)]) ∧
        handles = batches.flatten ∧ List.Forall₂ Taken outcomes batches ∧ Taken last [] := by
  refine ⟨?_, ?_, fun handles final => findObjects_eq_ok⟩
  · intro batches asked after hexhausted hpatience
    have hfound := run_findObjects_exhausted hexhausted hpatience
    refine ⟨hexhausted.requests, hfound, ?_⟩
    rintro objectClass key rfl
    exact run_findKey_of_findObjects hfound
  · intro batches asked after hoverrun hpatience
    exact ⟨hoverrun.requests, run_findObjects_overrun hoverrun hpatience, rfl⟩

theorem batches_joined_of_seventeen :
    let handles : List UInt64 := (List.range' 1 17).map UInt64.ofNat
    let script (announcedHandles : Option UInt64) : Rehearsal.Script := {
      slots := [⟨7, [], 0, handles.map fun handle => {
        handle, signature := none, announced := none
        attributes := [(Attribute.objectClass, .value (Bytes.ofNatLittle 8 3)),
          (Attribute.id, .value [1])] }, []⟩]
      extraSlots := 0, announcedHandles, faults := [] }
    let application (announcedHandles : Option UInt64) : Application Rehearsal.LibraryState :=
      ⟨{ script := script announcedHandles, sessions := [⟨1, 7, none, none⟩], opened := 1 },
        [], [], 1, []⟩
    let session : Session := ⟨1, 0⟩
    let template := Session.template ObjectClass.privateKey (.id [1])
    let found := (session.findKey Rehearsal.library 3 ObjectClass.privateKey (.id [1])).run
      (application none)
    found.1 = .ok (some 1) ∧
    found.2.warnings = [.manyObjects 17 (.id [1])] ∧
    found.2.exchanges.map Prod.fst =
      [.startSearch 1 template, .search 1 16, .search 1 16, .search 1 16, .finishSearch 1] ∧
    ((session.findObjects Rehearsal.library 3 template).run (application (some 17))).1 =
      .error .tooManyObjects := by
  intro handles script application session template found
  have hbrings {handle : UInt64} : Brings ⟨0, some 1, [handle], []⟩ [handle] :=
    ⟨rfl, rfl, List.prefix_rfl⟩
  have hexhausted : ∃ asked after, Exhausted Rehearsal.library 1 template
      [handles.take 16, handles.drop 16] asked (application none).library after := by
    refine ⟨_, _, .intro rfl rfl (.more rfl ⟨rfl, rfl, List.prefix_rfl⟩ ?_ ?_
      (.more rfl hbrings ?_ ?_ (.none _))) rfl ⟨rfl, rfl, List.prefix_rfl⟩ rfl rfl⟩
    all_goals decide
  have hoverrun : ∃ asked after, Overrun Rehearsal.library 1 template [] asked
      (application (some 17)).library after :=
    ⟨_, _, .intro rfl rfl (.none _) rfl rfl ⟨17, rfl, by decide⟩⟩
  obtain ⟨asked, after, hexhausted⟩ := hexhausted
  obtain ⟨overrun, beyond, hoverrun⟩ := hoverrun
  obtain ⟨hfinds, -, -⟩ :=
    batches_joined Rehearsal.library session 3 template (application none)
  obtain ⟨-, hrefuses, -⟩ :=
    batches_joined Rehearsal.library session 3 template (application (some 17))
  obtain ⟨hrequests, -, hkey⟩ := hfinds _ _ _ hexhausted (by decide)
  obtain ⟨-, hrefused, -⟩ := hrefuses _ _ _ hoverrun (by decide)
  have hfound : found = _ := hkey _ _ rfl
  rw [hfound, hrefused]
  exact ⟨rfl, rfl, hrequests, rfl⟩

end TokenSigner.Cryptoki
