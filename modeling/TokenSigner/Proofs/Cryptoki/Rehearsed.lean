import Mathlib.Data.List.Nodup
import TokenSigner.Proofs.Cryptoki.Contents
import TokenSigner.Rehearsal.Library

namespace TokenSigner.Rehearsal

open Cryptoki (Availability Contents Answered Exchange Presents Request Outcome Session)
open Cryptoki.ReturnCode

def Stored.availability : Stored → Availability
  | value bytes | announced bytes _ => .revealed bytes
  | refused code => if code = attributeSensitive then .sensitive else .missing

def StoredObject.availability (object : StoredObject) (code : UInt64) : Availability :=
  (object.attributes.lookup code).elim .missing Stored.availability

def LibrarySlot.contents (slot : LibrarySlot) : Contents where
  objects := slot.objects.map (·.handle)
  availability object code :=
    (slot.objects.find? (·.handle == object)).elim .missing (·.availability code)

def Stored.Truthful : Stored → Prop
  | value bytes | announced bytes _ => bytes.length < UInt64.size
  | refused code => code ≠ ok

instance : (stored : Stored) → Decidable stored.Truthful
  | .value _ | .announced _ _ => inferInstanceAs (Decidable (_ < _))
  | .refused _ => inferInstanceAs (Decidable (_ ≠ _))

structure Script.Truthful (script : Script) (slot : LibrarySlot) : Prop where
  announces : script.announcedHandles = none
  faults : ∀ fault ∈ script.faults, fault.code ∉ answers
  handles : (slot.objects.map (·.handle)).Nodup
  values : ∀ object ∈ slot.objects, ∀ pair ∈ object.attributes, pair.2.Truthful

def Script.Shows (script : Script) (slot : LibrarySlot) (session : UInt64) (pending : List UInt64)
    (state : LibraryState) : Prop :=
  state.script = script ∧ ∃ opened, state.sessions.find? (·.handle == session) = some opened ∧
    state.slot? opened.slot = some slot ∧ opened.search.getD [] = pending

variable {script : Script} {slot : LibrarySlot} {session : UInt64} {pending : List UInt64}
  {state after : LibraryState} {opened : OpenSession} {request : Request} {outcome : Outcome}

theorem find?_put (hfind : state.sessions.find? (·.handle == session) = some opened)
    (changed : OpenSession) (hhandle : changed.handle = opened.handle) :
    (state.put changed).sessions.find? (·.handle == session) = some changed := by
  have hkeeps (other : OpenSession) :
      (if other.handle = changed.handle then changed else other).handle = other.handle := by
    split
    case isTrue hsame => exact hsame.symm
    case isFalse => rfl
  rw [LibraryState.put, List.find?_map, Function.comp_def]
  simp only [hkeeps, hfind, Option.map_some, if_pos hhandle.symm]

theorem Script.Shows.put {rest : List UInt64} (hscript : state.script = script)
    (hfind : state.sessions.find? (·.handle == session) = some opened)
    (hslot : state.slot? opened.slot = some slot) (search : Option (List UInt64))
    (hrest : search.getD [] = rest) :
    script.Shows slot session rest (state.put { opened with search := search }) :=
  ⟨hscript, _, find?_put hfind _ rfl, hslot, hrest⟩

theorem fault?_mem {code : UInt64} (h : state.fault? request = some code) :
    ∃ fault ∈ state.script.faults, fault.code = code := by
  obtain ⟨fault, hfault, rfl⟩ := Option.map_eq_some_iff.mp h
  exact ⟨fault, List.mem_of_find?_eq_some hfault, rfl⟩

theorem respond_of_serve (h : script.Truthful slot)
    (hshows : script.Shows slot session pending state)
    (hserve : library.serve request state = (outcome, after)) (hcode : outcome.code ∈ answers) :
    outcome = (state.respond request).outcome ∧
      ∃ record, after = { (state.respond request).state with record := record } := by
  unfold library LibraryState.serve at hserve
  dsimp only at hserve
  cases hfault : state.fault? request with
  | none =>
    rw [hfault] at hserve
    obtain ⟨rfl, rfl⟩ := Prod.mk.inj hserve
    exact ⟨rfl, _, rfl⟩
  | some code =>
    rw [hfault] at hserve
    obtain ⟨rfl, rfl⟩ := Prod.mk.inj hserve
    obtain ⟨fault, hmem, rfl⟩ := fault?_mem hfault
    rw [hshows.1] at hmem
    exact absurd hcode (h.faults fault hmem)

theorem respond_eq (hfind : state.sessions.find? (·.handle == session) = some opened)
    (hrequest : request.session? = some session) :
    state.respond request = state.serveSession opened request := by
  have hopened : (request.session?.bind fun handle =>
      state.sessions.find? (·.handle == handle)) = some opened := by
    rw [hrequest, Option.bind_some, hfind]
  cases request
  case start | finish | slotList | mechanismList | openSession => cases hrequest
  all_goals
    unfold LibraryState.respond
    dsimp only
    rw [hopened]

theorem find?_handle (h : script.Truthful slot) {object : StoredObject}
    (hobject : object ∈ slot.objects) :
    slot.objects.find? (·.handle == object.handle) = some object := by
  cases hfind : slot.objects.find? (·.handle == object.handle) with
  | none => exact absurd (beq_self_eq_true _) (List.find?_eq_none.mp hfind object hobject)
  | some found =>
    have hhandle : found.handle = object.handle := by simpa using List.find?_some hfind
    rw [List.inj_on_of_nodup_map h.handles (List.mem_of_find?_eq_some hfind) hobject hhandle]

theorem fits_contents (h : script.Truthful slot) {object : StoredObject}
    (hobject : object ∈ slot.objects) (template : List (UInt64 × Bytes)) :
    slot.contents.fits template object.handle = LibraryState.fits template object := by
  have havailability (code : UInt64) :
      slot.contents.availability object.handle code = object.availability code := by
    simp only [LibrarySlot.contents, find?_handle h hobject, Option.elim_some]
  refine congrArg template.all (funext fun pair => ?_)
  obtain ⟨code, wanted⟩ := pair
  simp only [havailability, StoredObject.availability]
  cases object.attributes.lookup code with
  | none => simp
  | some stored =>
    cases stored with
    | value bytes | announced bytes => simp [Stored.availability, beq_eq_decide]
    | refused code =>
      simp only [Option.elim_some, Stored.availability]
      split <;> simp

theorem found_contents (h : script.Truthful slot) (template : List (UInt64 × Bytes)) :
    (slot.objects.filter (LibraryState.fits template)).map (·.handle) =
      slot.contents.found template := by
  rw [Contents.found, LibrarySlot.contents, List.filter_map]
  congr 1
  exact List.filter_congr fun object hobject => (fits_contents h hobject template).symm

theorem shows_startSearch (h : script.Truthful slot) {template : List (UInt64 × Bytes)}
    (hshows : script.Shows slot session pending state)
    (hserve : library.serve (.startSearch session template) state = (outcome, after))
    (hcode : outcome.code = ok) :
    script.Shows slot session (slot.contents.found template) after := by
  obtain ⟨rfl, record, rfl⟩ := respond_of_serve h hshows hserve (by simp [answers, hcode])
  obtain ⟨hscript, opened, hfind, hslot, -⟩ := hshows
  rw [respond_eq hfind rfl, LibraryState.serveSession] at hcode ⊢
  by_cases hsearch : opened.search.isSome
  · rw [if_pos hsearch] at hcode
    exact absurd hcode (by simp [LibraryState.refuse, operationActive, ok])
  · rw [if_neg hsearch, hslot]
    exact .put hscript hfind hslot _ (found_contents h template)

theorem shows_search (h : script.Truthful slot)
    (hshows : script.Shows slot session pending state)
    (hserve : library.serve (.search session Session.batch) state = (outcome, after))
    (hcode : outcome.code = ok) :
    ∃ batch rest, pending = batch ++ rest ∧ (batch = [] → rest = []) ∧
      batch.length ≤ Session.batch ∧ outcome.words = batch ∧
      outcome.count.map UInt64.toNat = some batch.length ∧
      script.Shows slot session rest after := by
  obtain ⟨rfl, record, rfl⟩ := respond_of_serve h hshows hserve (by simp [answers, hcode])
  obtain ⟨hscript, opened, hfind, hslot, rfl⟩ := hshows
  rw [respond_eq hfind rfl, LibraryState.serveSession] at hcode ⊢
  cases hsearch : opened.search with
  | none =>
    rw [hsearch] at hcode
    exact absurd hcode (by simp [LibraryState.refuse, operationNotInitialized, ok])
  | some handles =>
    rw [Option.getD_some]
    have hlength : (handles.take Session.batch).length ≤ Session.batch := List.length_take_le ..
    refine ⟨handles.take Session.batch, handles.drop Session.batch,
      (List.take_append_drop ..).symm, fun hnone => ?_, hlength, rfl, ?_, ?_⟩
    · rcases List.take_eq_nil_iff.mp hnone with hbatch | rfl
      · exact absurd hbatch (by decide)
      · rfl
    · dsimp only
      rw [hscript, h.announces, Option.getD_none, Option.map_some,
        UInt64.toNat_ofNat_of_lt' (Nat.lt_of_le_of_lt hlength (by decide))]
    · exact .put hscript hfind hslot _ rfl

theorem shows_finishSearch (h : script.Truthful slot)
    (hshows : script.Shows slot session pending state)
    (hserve : library.serve (.finishSearch session) state = (outcome, after))
    (hcode : outcome.code = ok) : script.Shows slot session [] after := by
  obtain ⟨rfl, record, rfl⟩ := respond_of_serve h hshows hserve (by simp [answers, hcode])
  obtain ⟨hscript, opened, hfind, hslot, rfl⟩ := hshows
  rw [respond_eq hfind rfl, LibraryState.serveSession] at hcode ⊢
  by_cases hsearch : opened.search.isSome
  · rw [if_pos hsearch]
    exact .put hscript hfind hslot _ rfl
  · rw [if_neg hsearch] at hcode
    exact absurd hcode (by simp [LibraryState.refuse, operationNotInitialized, ok])

theorem answered_deliver {value : Bytes} {room : Option Nat} {announced : Nat}
    (hlength : value.length < UInt64.size)
    (hcode : (state.deliver announced value.length room [] value).outcome.code ∈ answers) :
    Answered (.revealed value) room
      (state.deliver announced value.length room [] value).outcome := by
  cases room with
  | none => exact .measured rfl
  | some room =>
    have hroom : ¬ room < value.length := by
      intro hroom
      simp [LibraryState.deliver, hroom, answers, bufferTooSmall, ok, attributeTypeInvalid,
        attributeSensitive] at hcode
    refine .read ?_ (Nat.le_of_not_lt hroom) ?_ ?_
    · exact if_neg hroom
    · exact congrArg some (UInt64.toNat_ofNat_of_lt' hlength)
    · exact congrArg Prod.snd (if_neg hroom)

theorem answered_refuse {code : UInt64} {room : Option Nat} (hrefusal : code ≠ ok)
    (hcode : code ∈ answers) :
    Answered (Stored.refused code).availability room (state.refuse code).outcome := by
  rw [Stored.availability]
  by_cases hsensitive : code = attributeSensitive
  · rw [if_pos hsensitive]
    exact .sensitive hsensitive
  · rw [if_neg hsensitive]
    exact .missing (show code = _ by simpa [answers, hrefusal, hsensitive] using hcode)

theorem deliver_state (announced length : Nat) (room : Option Nat) (words : List UInt64)
    (bytes : Bytes) : (state.deliver announced length room words bytes).state = state := by
  cases room <;> rfl

theorem truthful_of_lookup (h : script.Truthful slot) {object : StoredObject}
    (hobject : object ∈ slot.objects) {code : UInt64} {stored : Stored}
    (hlookup : object.attributes.lookup code = some stored) : stored.Truthful := by
  obtain ⟨before, after, hattributes, -⟩ := List.lookup_eq_some_iff.mp hlookup
  exact h.values object hobject (code, stored) (by simp [hattributes])

theorem shows_readAttribute (h : script.Truthful slot) {handle code : UInt64} {room : Option Nat}
    (hshows : script.Shows slot session pending state)
    (hserve : library.serve (.readAttribute session handle code room) state = (outcome, after))
    (hfine : Exchange.fails (.readAttribute session handle code room, outcome) = false) :
    Answered (slot.contents.availability handle code) room outcome ∧
      script.Shows slot session pending after := by
  have hcode : outcome.code ∈ answers := by simpa [Exchange.fails] using hfine
  obtain ⟨rfl, record, rfl⟩ := respond_of_serve h hshows hserve hcode
  have ⟨hscript, opened, hfind, hslot, hpending⟩ := hshows
  have hobject : state.object? opened handle = slot.objects.find? (·.handle == handle) := by
    rw [LibraryState.object?, hslot]
    rfl
  rw [respond_eq hfind rfl, LibraryState.serveSession, hobject] at hcode ⊢
  simp only [LibrarySlot.contents] at hcode ⊢
  cases hfound : slot.objects.find? (·.handle == handle) with
  | none =>
    rw [hfound] at hcode
    exact absurd hcode (by simp [LibraryState.refuse, answers, objectHandleInvalid, ok,
      attributeTypeInvalid, attributeSensitive])
  | some object =>
    rw [hfound] at hcode
    simp only [Option.elim_some, StoredObject.availability] at hcode ⊢
    cases hlookup : object.attributes.lookup code with
    | none => exact ⟨.missing rfl, hshows⟩
    | some stored =>
      have htruthful := truthful_of_lookup h (List.mem_of_find?_eq_some hfound) hlookup
      rw [hlookup] at hcode
      cases stored with
      | refused code => exact ⟨answered_refuse htruthful hcode, hshows⟩
      | value bytes | announced bytes =>
        rw [deliver_state]
        exact ⟨answered_deliver htruthful hcode, hshows⟩

theorem presents_contents (h : script.Truthful slot) (session : UInt64) :
    Presents library session slot.contents (script.Shows slot session) where
  startSearch := shows_startSearch h
  search := shows_search h
  finishSearch := shows_finishSearch h
  readAttribute := shows_readAttribute h

end TokenSigner.Rehearsal
