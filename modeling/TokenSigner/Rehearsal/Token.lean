import TokenSigner.Device

namespace TokenSigner.Rehearsal

inductive CallKind where
  | mechanisms
  | openSession
  | login
  | findKey
  | publicKey
  | sign
  | signParts
  | close
  deriving DecidableEq, Repr

def CallKind.of : Call Nat → CallKind
  | .mechanisms => .mechanisms
  | .openSession _ => .openSession
  | .login _ _ _ => .login
  | .findKey _ _ => .findKey
  | .publicKey _ _ _ => .publicKey
  | .sign _ _ _ _ _ => .sign
  | .signParts _ _ _ _ _ => .signParts
  | .close _ => .close

structure Fault where
  kind : CallKind
  turn : Option Nat
  error : Error

structure Key where
  label : String
  id : Bytes
  publicKey : PublicKey
  signature : Option Bytes

structure Token where
  mechanisms : List Mechanism
  keys : List Key
  pins : List Bytes
  faults : List Fault
  made : List CallKind := []

namespace Token

def fault? (token : Token) (kind : CallKind) : Option Error :=
  let turn := token.made.count kind
  (token.faults.find? fun fault => fault.kind = kind && fault.turn.all (· == turn)).map (·.error)

def key (token : Token) (handle : UInt64) : Except Error Key :=
  match token.keys[handle.toNat - 1]? with
  | some key =>
    if handle = 0 then .error (.reported .token "unknown handle") else .ok key
  | none => .error (.reported .token "unknown handle")

def matching (identifier : KeyIdentifier) (key : Key) : Bool :=
  match identifier with
  | .label text => key.label == text
  | .id bytes => key.id == bytes

def serve (token : Token) : (call : Call Nat) → Except Error call.Answer
  | .mechanisms => .ok token.mechanisms
  | .openSession _ => .ok (token.made.count .openSession)
  | .login _ _ pin =>
    if token.pins.isEmpty || token.pins.elem pin then .ok ()
    else .error (.reported .token "pin incorrect")
  | .findKey _ identifier =>
    .ok ((token.keys.findIdx? (matching identifier)).map fun i => UInt64.ofNat (i + 1))
  | .publicKey _ object _ => (token.key object).map (·.publicKey)
  | .sign _ object _ _ data => (token.key object).map fun key => key.signature.getD data
  | .signParts _ object _ _ parts =>
    (token.key object).map fun key => key.signature.getD parts.flatten
  | .close _ => .ok ()

def answer (token : Token) (call : Call Nat) : Except Error call.Answer × Token :=
  let kind := CallKind.of call
  let token := { token with made := token.made ++ [kind] }
  match token.fault? kind with
  | some e => (.error e, token)
  | none => (token.serve call, token)

end Token

def device : Device (List Token) Nat where
  ask slot call tokens :=
    match tokens[slot.index]? with
    | none => ⟨.error (.unknownSlot slot), tokens, []⟩
    | some token =>
      let (result, token) := token.answer call
      ⟨result, tokens.set slot.index token, []⟩

end TokenSigner.Rehearsal
