import TokenSigner.Proofs.Cryptoki.Serving

namespace TokenSigner.Cryptoki

variable {ℓ α β : Type}

inductive Availability where
  | revealed (value : Bytes)
  | missing
  | sensitive
  deriving DecidableEq, Repr

def Availability.value? : Availability → Option Bytes
  | revealed value => some value
  | missing | sensitive => none

structure Contents where
  objects : List UInt64
  availability : (object code : UInt64) → Availability

namespace Contents

def value? (contents : Contents) (object code : UInt64) : Option Bytes :=
  (contents.availability object code).value?

def keyType? (contents : Contents) (object : UInt64) : Option UInt64 :=
  (contents.value? object Attribute.keyType).map fun value => UInt64.ofNat (Bytes.toNatLittle value)

def fits (contents : Contents) (template : List (UInt64 × Bytes)) (object : UInt64) : Bool :=
  template.all fun (code, wanted) => contents.availability object code = .revealed wanted

def found (contents : Contents) (template : List (UInt64 × Bytes)) : List UInt64 :=
  contents.objects.filter (contents.fits template)

end Contents

inductive Answered : Availability → Option Nat → Outcome → Prop
  | measured {value : Bytes} {outcome : Outcome} (hcode : outcome.code = ReturnCode.ok) :
    Answered (.revealed value) none outcome
  | read {value : Bytes} {room : Nat} {outcome : Outcome} (hcode : outcome.code = ReturnCode.ok)
    (hroom : value.length ≤ room)
    (hcount : outcome.count.map UInt64.toNat = some value.length)
    (hbytes : outcome.bytes = value) : Answered (.revealed value) (some room) outcome
  | missing {room : Option Nat} {outcome : Outcome}
    (hcode : outcome.code = ReturnCode.attributeTypeInvalid) : Answered .missing room outcome
  | sensitive {room : Option Nat} {outcome : Outcome}
    (hcode : outcome.code = ReturnCode.attributeSensitive) : Answered .sensitive room outcome

def ReturnCode.answers : List UInt64 := [ok, attributeTypeInvalid, attributeSensitive]

def Exchange.fails : Exchange → Bool
  | (.readAttribute _ _ _ _, outcome) => outcome.code ∉ ReturnCode.answers
  | (_, outcome) => outcome.code ≠ ReturnCode.ok

-- in a state that shows some handles, a search of the session has these left to give
structure Presents (library : Library ℓ) (session : UInt64) (contents : Contents)
    (shows : List UInt64 → ℓ → Prop) : Prop where
  startSearch {pending : List UInt64} {state after : ℓ} {template : List (UInt64 × Bytes)}
    {outcome : Outcome} (hshows : shows pending state)
    (hserve : library.serve (.startSearch session template) state = (outcome, after))
    (hcode : outcome.code = ReturnCode.ok) : shows (contents.found template) after
  search {pending : List UInt64} {state after : ℓ} {outcome : Outcome}
    (hshows : shows pending state)
    (hserve : library.serve (.search session Session.batch) state = (outcome, after))
    (hcode : outcome.code = ReturnCode.ok) :
    ∃ batch rest, pending = batch ++ rest ∧ (batch = [] → rest = []) ∧
      batch.length ≤ Session.batch ∧ outcome.words = batch ∧
      outcome.count.map UInt64.toNat = some batch.length ∧ shows rest after
  finishSearch {pending : List UInt64} {state after : ℓ} {outcome : Outcome}
    (hshows : shows pending state)
    (hserve : library.serve (.finishSearch session) state = (outcome, after))
    (hcode : outcome.code = ReturnCode.ok) : shows [] after
  readAttribute {pending : List UInt64} {state after : ℓ} {object code : UInt64}
    {room : Option Nat} {outcome : Outcome} (hshows : shows pending state)
    (hserve : library.serve (.readAttribute session object code room) state = (outcome, after))
    (hfine : Exchange.fails (.readAttribute session object code room, outcome) = false) :
    Answered (contents.availability object code) room outcome ∧ shows pending after

inductive Told (result : Except Error α) (Q : Application ℓ → Prop) :
    List Exchange → Except Error α × Application ℓ → Prop
  | answered {asked : List Exchange} {after : Application ℓ}
    (hfine : ∀ exchange ∈ asked, exchange.fails = false) (hafter : Q after) :
    Told result Q asked (result, after)
  | failed {asked : List Exchange} {e : Error} {after : Application ℓ}
    (hfails : ∃ exchange ∈ asked, exchange.fails = true) (hkind : e.kind = .token) :
    Told result Q asked (.error e, after)

theorem Told.append {result : Except Error α} {Q : Application ℓ → Prop}
    {asked more : List Exchange} {turn : Except Error α × Application ℓ}
    (h : Told result Q more turn) (hfine : ∀ exchange ∈ asked, exchange.fails = false) :
    Told result Q (asked ++ more) turn := by
  cases h with
  | answered hmore hafter => exact .answered (List.forall_mem_append.mpr ⟨hfine, hmore⟩) hafter
  | failed hfails hkind =>
    obtain ⟨exchange, hexchange, hfails⟩ := hfails
    exact .failed ⟨exchange, List.mem_append_right _ hexchange, hfails⟩ hkind

def Tells (P : Application ℓ → Prop) (a : Action (Application ℓ) α) (result : Except Error α)
    (Q : Application ℓ → Prop) : Prop :=
  ∀ application, P application → ∃ asked,
    (a.run application).2.exchanges = application.exchanges ++ asked ∧
    Told result Q asked (a.run application)

section Tells

variable {library : Library ℓ} {P Q R : Application ℓ → Prop} {a : Action (Application ℓ) α}
  {f : α → Action (Application ℓ) β}

theorem Tells.pure (x : α) : Tells P (Pure.pure x) (.ok x) P := by
  intro application happlication
  exact ⟨[], (List.append_nil _).symm, .answered (by simp) happlication⟩

theorem Tells.throw (e : Error) : Tells P (throw e : Action (Application ℓ) α) (.error e) P := by
  intro application happlication
  exact ⟨[], (List.append_nil _).symm, .answered (by simp) happlication⟩

theorem Tells.bind {x : α} {result : Except Error β} (ha : Tells P a (.ok x) Q)
    (hf : Tells Q (f x) result R) : Tells P (a >>= f) result R := by
  intro application happlication
  obtain ⟨asked, hasked, htold⟩ := ha application happlication
  generalize hrun : a.run application = turn at hasked htold
  cases htold with
  | failed hfails hkind =>
    rw [Action.run_bind_error hrun]
    exact ⟨asked, hasked, .failed hfails hkind⟩
  | @answered between hfine hbetween =>
    obtain ⟨more, hmore, htold⟩ := hf between hbetween
    rw [Action.run_bind_ok hrun]
    exact ⟨asked ++ more, by rw [hmore, hasked, List.append_assoc], htold.append hfine⟩

theorem Tells.bind_error {e : Error} (ha : Tells P a (.error e) Q) :
    Tells P (a >>= f) (.error e) Q := by
  intro application happlication
  obtain ⟨asked, hasked, htold⟩ := ha application happlication
  generalize hrun : a.run application = turn at hasked htold
  cases htold with
  | answered hfine hafter =>
    rw [Action.run_bind_error hrun]
    exact ⟨asked, hasked, .answered hfine hafter⟩
  | failed hfails hkind =>
    rw [Action.run_bind_error hrun]
    exact ⟨asked, hasked, .failed hfails hkind⟩

theorem Tells.require_bind {task : Task} {request : Request}
    {f : Outcome → Action (Application ℓ) β} {result : Except Error β}
    (hrequest : ∀ outcome : Outcome,
      Exchange.fails (request, outcome) = decide (outcome.code ≠ ReturnCode.ok))
    (hf : ∀ application outcome state, P application →
      library.serve request application.library = (outcome, state) →
      outcome.code = ReturnCode.ok → ∃ Q : Application ℓ → Prop,
        Q { application with
          library := state, exchanges := application.exchanges ++ [(request, outcome)] } ∧
        Tells Q (f outcome) result R) :
    Tells P (library.require task request >>= f) result R := by
  intro application happlication
  obtain ⟨outcome, state, hserve⟩ : ∃ outcome state,
      library.serve request application.library = (outcome, state) := ⟨_, _, rfl⟩
  have hrun := run_require_of_serve task hserve
  by_cases hcode : outcome.code = ReturnCode.ok
  · rw [if_pos hcode] at hrun
    obtain ⟨Q, hQ, hf⟩ := hf application outcome state happlication hserve hcode
    obtain ⟨asked, hasked, htold⟩ := hf _ hQ
    rw [Action.run_bind_ok hrun]
    refine ⟨[(request, outcome)] ++ asked, by simp [hasked], htold.append ?_⟩
    simp [hrequest, hcode]
  · rw [if_neg hcode] at hrun
    rw [Action.run_bind_error hrun]
    exact ⟨_, rfl, .failed ⟨_, List.mem_singleton_self _, by simp [hrequest, hcode]⟩ rfl⟩

theorem Tells.warn (warning : Warning) {shows : ℓ → Prop} :
    Tells (fun application => shows application.library) (Library.warn warning) (.ok ())
      fun application => shows application.library := by
  intro application happlication
  exact ⟨[], (List.append_nil _).symm, .answered (by simp) happlication⟩

end Tells

section Presents

variable {library : Library ℓ} {session : Session} {contents : Contents}
  {shows : List UInt64 → ℓ → Prop} {pending : List UInt64}

def Showing (shows : List UInt64 → ℓ → Prop) (pending : List UInt64)
    (application : Application ℓ) : Prop :=
  shows pending application.library

theorem tells_collect (h : Presents library session.handle contents shows) {patience : Nat}
    (hpatience : pending.length < patience) (buffer : List UInt64) (count : UInt64) :
    Tells (Showing shows pending) (session.collect library patience buffer count) (.ok pending)
      (Showing shows []) := by
  induction patience generalizing pending buffer count with
  | zero => exact absurd hpatience (Nat.not_lt_zero _)
  | succ patience ih =>
    refine .require_bind (fun _ => rfl) fun application outcome state hshows hserve hcode => ?_
    obtain ⟨batch, rest, rfl, hlast, hroom, rfl, hcount, hshows⟩ := h.search hshows hserve hcode
    obtain ⟨announced, hannounced, hlength⟩ := Option.map_eq_some_iff.mp hcount
    refine ⟨Showing shows rest, hshows, ?_⟩
    simp only [hannounced, Option.getD_some]
    -- An empty batch is the last; any other leaves fewer handles than the patience that is left.
    by_cases hbatch : outcome.words = []
    · have hzero : announced = 0 := UInt64.toNat_inj.mp (by simp [hlength, hbatch])
      obtain rfl := hlast hbatch
      rw [if_pos hzero, hbatch]
      exact .pure _
    · have hpositive : 0 < outcome.words.length := List.length_pos_iff.mpr hbatch
      have hnonzero : announced ≠ 0 := by
        rintro rfl
        exact absurd hlength (by simp; omega)
      rw [List.length_append] at hpatience
      rw [if_neg hnonzero, if_neg (by omega), hlength, List.take_of_length_le hroom,
        List.take_left]
      exact .bind (ih (by omega) _ _) (.pure _)

theorem tells_findObjects (h : Presents library session.handle contents shows) {patience : Nat}
    {template : List (UInt64 × Bytes)} (hpatience : (contents.found template).length < patience) :
    Tells (Showing shows pending) (session.findObjects library patience template)
      (.ok (contents.found template)) (Showing shows []) := by
  refine .require_bind (fun _ => rfl) fun application outcome state hshows hserve hcode => ?_
  refine ⟨_, h.startSearch hshows hserve hcode, .bind (tells_collect h hpatience _ _) ?_⟩
  refine .require_bind (fun _ => rfl) fun application outcome state hshows hserve hcode => ?_
  exact ⟨_, h.finishSearch hshows hserve hcode, .pure _⟩

theorem tells_findKey (h : Presents library session.handle contents shows) {patience : Nat}
    {objectClass : UInt64} {key : KeyIdentifier}
    (hpatience : (contents.found (Session.template objectClass key)).length < patience) :
    Tells (Showing shows pending) (session.findKey library patience objectClass key)
      (.ok (contents.found (Session.template objectClass key)).head?) (Showing shows []) := by
  refine .bind (tells_findObjects h hpatience) ?_
  split
  · exact .bind (.warn _) (.pure _)
  · exact .pure _

theorem Availability.value?_eq_some_iff {available : Availability} {value : Bytes} :
    available.value? = some value ↔ available = .revealed value := by
  cases available <;> simp [value?]

theorem Answered.told {available : Availability} {room : Option Nat} {outcome : Outcome}
    (h : Answered available room outcome) {e : Error} :
    (if outcome.code = ReturnCode.attributeTypeInvalid ∨
          outcome.code = ReturnCode.attributeSensitive then .ok none
        else if outcome.code ≠ ReturnCode.ok then .error e else .ok (some outcome)) =
      (.ok (available.value?.map fun _ => outcome) : Except Error (Option Outcome)) := by
  cases h with
  | measured hcode | read hcode =>
    rw [hcode]
    rfl
  | missing hcode | sensitive hcode =>
    rw [hcode]
    rfl

theorem run_askAttribute (session : Session) {object code : UInt64} {room : Option Nat}
    {application : Application ℓ} {outcome : Outcome} {state : ℓ}
    (hserve : library.serve (.readAttribute session.handle object code room) application.library =
      (outcome, state)) :
    (session.askAttribute library object code room).run application =
      (if outcome.code = ReturnCode.attributeTypeInvalid ∨
          outcome.code = ReturnCode.attributeSensitive then .ok none
        else if outcome.code ≠ ReturnCode.ok then
          .error (.libraryCall (.readAttributes object) outcome.code)
        else .ok (some outcome),
        { application with
          library := state
          exchanges := application.exchanges ++
            [(.readAttribute session.handle object code room, outcome)] }) := by
  unfold Session.askAttribute
  rw [Action.run_bind_ok (run_exchange_of_serve hserve)]
  split
  · rfl
  · split <;> rfl

theorem tells_askAttribute_bind (h : Presents library session.handle contents shows)
    {object code : UInt64} {room : Option Nat} {f : Option Outcome → Action (Application ℓ) α}
    {result : Except Error α} {Q : Application ℓ → Prop}
    (hrevealed : ∀ value outcome, contents.value? object code = some value →
      Answered (.revealed value) room outcome →
      Tells (Showing shows pending) (f (some outcome)) result Q)
    (hconcealed : contents.value? object code = none →
      Tells (Showing shows pending) (f none) result Q) :
    Tells (Showing shows pending) (session.askAttribute library object code room >>= f) result
      Q := by
  intro application hshows
  obtain ⟨outcome, state, hserve⟩ : ∃ outcome state,
      library.serve (.readAttribute session.handle object code room) application.library =
        (outcome, state) := ⟨_, _, rfl⟩
  have hrun := run_askAttribute session hserve
  cases hfails : Exchange.fails (.readAttribute session.handle object code room, outcome) with
  | true =>
    have hanswers := of_decide_eq_true hfails
    simp only [ReturnCode.answers, List.mem_cons, List.not_mem_nil, or_false, not_or] at hanswers
    obtain ⟨hcode, hinvalid, hsensitive⟩ := hanswers
    rw [if_neg (not_or.mpr ⟨hinvalid, hsensitive⟩), if_pos hcode] at hrun
    rw [Action.run_bind_error hrun]
    exact ⟨_, rfl, .failed ⟨_, List.mem_singleton_self _, hfails⟩ rfl⟩
  | false =>
    obtain ⟨hanswered, hafter⟩ := h.readAttribute hshows hserve hfails
    rw [hanswered.told, ← Contents.value?] at hrun
    rw [Action.run_bind_ok hrun]
    have hshowing : Showing shows pending { application with
      library := state
      exchanges := application.exchanges ++
        [(.readAttribute session.handle object code room, outcome)] } := hafter
    have htells : Tells (Showing shows pending)
        (f ((contents.value? object code).map fun _ => outcome)) result Q := by
      cases hvalue : contents.value? object code with
      | none => exact hconcealed hvalue
      | some value =>
        rw [Availability.value?_eq_some_iff.mp hvalue] at hanswered
        exact hrevealed value outcome hvalue hanswered
    obtain ⟨asked, hasked, htold⟩ := htells _ hshowing
    refine ⟨[_] ++ asked, by rw [hasked, List.append_assoc], htold.append ?_⟩
    exact List.forall_mem_singleton.mpr hfails

theorem receivedBytes_eq {room : Nat} {outcome : Outcome} {value : Bytes}
    (h : Answered (.revealed value) (some room) outcome) : outcome.receivedBytes room = value := by
  cases h with
  | read hcode hroom hcount hbytes =>
    obtain ⟨announced, hannounced, hlength⟩ := Option.map_eq_some_iff.mp hcount
    simp [Outcome.receivedBytes, received, hannounced, hlength, hbytes, hroom]

theorem tells_readAttribute (h : Presents library session.handle contents shows)
    (object code : UInt64) :
    Tells (Showing shows pending) (session.readAttribute library object code)
      (.ok (contents.value? object code)) (Showing shows pending) := by
  refine tells_askAttribute_bind h (fun value measured hvalue _ => ?_) fun hnone => ?_
  · refine tells_askAttribute_bind h (fun value outcome hvalue hread => ?_) fun hnone => ?_
    · rw [hvalue, ← receivedBytes_eq hread]
      exact .pure _
    · rw [hnone]
      exact .pure _
  · rw [hnone]
    exact .pure _

theorem tells_keyType (h : Presents library session.handle contents shows) (object : UInt64) :
    Tells (Showing shows pending) (session.keyType library object)
      ((contents.keyType? object).elim (.error (.noKeyType object)) .ok)
      (Showing shows pending) := by
  refine tells_askAttribute_bind h (fun value outcome hvalue hread => ?_) fun hnone => ?_
  · cases hread with
    | read hcode hroom hcount hbytes =>
      dsimp only
      rw [Contents.keyType?, hvalue, hbytes, List.take_of_length_le hroom]
      exact .pure _
  · rw [Contents.keyType?, hnone]
    exact .throw _

end Presents

end TokenSigner.Cryptoki
