import TokenSigner.Cryptoki.Library

namespace TokenSigner.Rehearsal

open Cryptoki (Request Outcome)
open Cryptoki.ReturnCode

inductive Stored where
  | value (bytes : Bytes)
  | announced (bytes : Bytes) (length : Nat)
  | refused (code : UInt64)

structure StoredObject where
  handle : UInt64
  attributes : List (UInt64 × Stored)
  signature : Option Bytes
  announced : Option Nat

structure LibrarySlot where
  id : UInt64
  mechanisms : List Mechanism
  extraMechanisms : Nat
  objects : List StoredObject
  pins : List Bytes

structure LibraryFault where
  function : String
  turn : Option Nat
  code : UInt64

structure Script where
  slots : List LibrarySlot
  extraSlots : Nat
  announcedHandles : Option UInt64
  faults : List LibraryFault

structure Signing where
  object : StoredObject
  fed : Bytes

structure OpenSession where
  handle : UInt64
  slot : UInt64
  search : Option (List UInt64) := none
  signing : Option Signing := none

structure Entry where
  request : Request
  code : UInt64
  faulted : Bool
  given : Option UInt64

structure LibraryState where
  script : Script
  record : List Entry := []
  sessions : List OpenSession := []
  opened : Nat := 0
  loggedIn : List UInt64 := []

namespace LibraryState

structure Turn where
  outcome : Outcome
  state : LibraryState
  given : Option UInt64 := none

def refuse (state : LibraryState) (code : UInt64) : Turn := ⟨⟨code, none, [], []⟩, state, none⟩

def accept (state : LibraryState) : Turn := ⟨⟨ok, none, [], []⟩, state, none⟩

def deliver (state : LibraryState) (announced length : Nat) (room : Option Nat)
    (words : List UInt64) (bytes : Bytes) : Turn :=
  match room with
  | none => ⟨⟨ok, some (UInt64.ofNat announced), [], []⟩, state, none⟩
  | some room =>
    let code := if room < length then bufferTooSmall else ok
    let (words, bytes) := if room < length then ([], []) else (words, bytes)
    ⟨⟨code, some (UInt64.ofNat length), words, bytes⟩, state, none⟩

def slot? (state : LibraryState) (id : UInt64) : Option LibrarySlot :=
  state.script.slots.find? (·.id == id)

def object? (state : LibraryState) (session : OpenSession) (handle : UInt64) :
    Option StoredObject := do
  (← state.slot? session.slot).objects.find? (·.handle == handle)

def put (state : LibraryState) (session : OpenSession) : LibraryState :=
  { state with sessions := state.sessions.map fun other =>
      if other.handle = session.handle then session else other }

def fits (template : List (UInt64 × Bytes)) (object : StoredObject) : Bool :=
  template.all fun (code, wanted) =>
    match object.attributes.lookup code with
    | some (.value bytes) | some (.announced bytes _) => bytes == wanted
    | some (.refused _) | none => false

def closeSession (state : LibraryState) (handle : UInt64) : LibraryState :=
  { state with sessions := state.sessions.filter (·.handle != handle) }

def give (state : LibraryState) (session : OpenSession) (data : Bytes) (room : Option Nat) : Turn :=
  match session.signing with
  | none => state.refuse operationNotInitialized
  | some signing =>
    let signature := signing.object.signature.getD (signing.fed ++ data)
    let announced := signing.object.announced.getD signature.length
    let turn := state.deliver announced signature.length room [] signature
    if room.isSome && turn.outcome.code == ok then
      { turn with state := state.put { session with signing := none } }
    else turn

def serveSession (state : LibraryState) (session : OpenSession) : Request → Turn
  | .closeSession _ =>
    (state.closeSession session.handle).accept
  | .login _ _ pin =>
    if state.loggedIn.elem session.slot then state.refuse userAlreadyLoggedIn
    else
      let pins := (state.slot? session.slot).elim [] (·.pins)
      if pins.isEmpty || pins.elem pin then
        { state with loggedIn := session.slot :: state.loggedIn }.accept
      else state.refuse pinIncorrect
  | .logout _ =>
    if state.loggedIn.elem session.slot then
      { state with loggedIn := state.loggedIn.filter (· != session.slot) }.accept
    else state.refuse userNotLoggedIn
  | .startSearch _ template =>
    if session.search.isSome then state.refuse operationActive
    else
      let objects := (state.slot? session.slot).elim [] (·.objects)
      let found := (objects.filter (fits template)).map (·.handle)
      state.put { session with search := some found } |>.accept
  | .search _ room =>
    match session.search with
    | none => state.refuse operationNotInitialized
    | some handles =>
      let given := handles.take room
      let count := UInt64.ofNat given.length
      let announced := state.script.announcedHandles.getD count
      ⟨⟨ok, some announced, given, []⟩,
        state.put { session with search := some (handles.drop room) }, some count⟩
  | .finishSearch _ =>
    if session.search.isSome then state.put { session with search := none } |>.accept
    else state.refuse operationNotInitialized
  | .readAttribute _ object code room =>
    match state.object? session object with
    | none => state.refuse objectHandleInvalid
    | some object =>
      match object.attributes.lookup code with
      | none => state.refuse attributeTypeInvalid
      | some (.refused code) => state.refuse code
      | some (.value bytes) => state.deliver bytes.length bytes.length room [] bytes
      | some (.announced bytes length) => state.deliver length bytes.length room [] bytes
  | .startSignature _ key mechanism _ =>
    match state.object? session key with
    | none => state.refuse keyHandleInvalid
    | some object =>
      let mechanisms := (state.slot? session.slot).elim [] (·.mechanisms)
      if !mechanisms.elem mechanism then state.refuse mechanismInvalid
      else if session.signing.isSome then state.refuse operationActive
      else state.put { session with signing := some ⟨object, []⟩ } |>.accept
  | .sign _ data room => state.give session data room
  | .feedSignature _ part =>
    match session.signing with
    | none => state.refuse operationNotInitialized
    | some signing =>
      state.put { session with signing := some { signing with fed := signing.fed ++ part } }
        |>.accept
  | .finishSignature _ room => state.give session [] room
  | .start _ | .finish | .slotList _ _ | .mechanismList _ _ | .openSession _ _ => state.accept

def respond (state : LibraryState) (request : Request) : Turn :=
  match request with
  | .start _ | .finish => state.accept
  | .slotList _ room =>
    let ids := state.script.slots.map (·.id)
    state.deliver (ids.length + state.script.extraSlots) ids.length room ids []
  | .mechanismList slot room =>
    match state.slot? slot with
    | none => state.refuse slotIdInvalid
    | some slot =>
      let mechanisms := slot.mechanisms
      state.deliver (mechanisms.length + slot.extraMechanisms) mechanisms.length room mechanisms []
  | .openSession slot _ =>
    match state.slot? slot with
    | none => state.refuse slotIdInvalid
    | some slot =>
      let handle := UInt64.ofNat (state.opened + 1)
      ⟨⟨ok, some handle, [], []⟩,
        { state with
          sessions := state.sessions ++ [{ handle, slot := slot.id }], opened := state.opened + 1 },
        some handle⟩
  | request =>
    match request.session?.bind fun handle => state.sessions.find? (·.handle == handle) with
    | none => state.refuse sessionHandleInvalid
    | some session => state.serveSession session request

def fault? (state : LibraryState) (request : Request) : Option UInt64 :=
  let turn := (state.record.filter (·.request.function == request.function)).length + 1
  (state.script.faults.find? fun fault =>
    fault.function == request.function && fault.turn.all (· == turn)).map (·.code)

def serve (request : Request) (state : LibraryState) : Outcome × LibraryState :=
  match state.fault? request with
  | some code =>
    (⟨code, none, [], []⟩,
      { state with record := state.record ++ [⟨request, code, true, none⟩] })
  | none =>
    let turn := state.respond request
    (turn.outcome, { turn.state with
      record := turn.state.record ++ [⟨request, turn.outcome.code, false, turn.given⟩] })

end LibraryState

def library : Cryptoki.Library LibraryState := ⟨LibraryState.serve⟩

end TokenSigner.Rehearsal
