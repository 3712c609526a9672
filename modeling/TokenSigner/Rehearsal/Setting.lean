import TokenSigner.Config
import TokenSigner.Key.Handle
import TokenSigner.Rehearsal.Token

namespace TokenSigner.Rehearsal

def config : ModuleConfig where
  name := "rehearsal"
  library := "librehearsal.so"
  readOnly := true
  userType := 1
  maxMessageSize := 128
  maxSessions := 1
  waitLimit := some 0
  includeSlots := []
  excludeSlots := [⟨some 1, none, rfl⟩]
  mechanisms := [⟨[], .only [.rsaPkcs, .rsaPss, .ecdsa]⟩]
  passwords := []

def description : ModuleDescriptor where
  name := "rehearsal"
  libraries := [{ path := "librehearsal.so" }]
  mechanismSets := [⟨"any", ["ecdsa", "CKM_NONE", "all", "CKM_LOST"]⟩, ⟨"rsa", ["0x1"]⟩]
  mechanismFilters := [{ slots := [{ index := some 1 }], set := "any" }, { set := "rsa" }]
  passwordSets := [{ slots := [{ id := some "0x11" }], sources := ["1234"] },
    { sources := ["0000"] }]
  excludeSlots := [{ index := some 1, id := some "17" }]

def token : Token where
  mechanisms := [.rsaPkcs, .rsaRaw]
  keys := [⟨"signing", [1], .rsa [0xc5, 0x0f] [3], none⟩]
  pins := []
  faults := []

def key : KeyHandle := ⟨⟨0, 7⟩, .label "signing", 1, .rsa, 16⟩

def raw (modulus : Bytes) (exponent : Nat) (data : Bytes) : Bytes :=
  Bytes.ofNat modulus.length (Nat.pow data.toNat exponent % modulus.toNat)

def signature (modulus : Bytes) (exponent : Nat) (mechanism : Mechanism) (data : Bytes) :
    Except Error Bytes :=
  if mechanism = .rsaPkcs then
    (Emsa.Pkcs1.encode data modulus.length).map (raw modulus exponent)
  else if mechanism = .rsaRaw then .ok (raw modulus exponent data)
  else .error (.reported .token "mechanism invalid")

def signer (mechanisms : List Mechanism) (modulus : Bytes) (exponent : Nat) : Device Unit Nat where
  ask _ call _ :=
    match call with
    | .mechanisms => ⟨.ok mechanisms, (), []⟩
    | .openSession _ => ⟨.ok 1, (), []⟩
    | .sign _ _ mechanism _ data => ⟨signature modulus exponent mechanism data, (), []⟩
    | .signParts _ _ mechanism _ parts =>
      ⟨signature modulus exponent mechanism parts.flatten, (), []⟩
    | .close _ => ⟨.ok (), (), []⟩
    | .login _ _ _ => ⟨.error (.reported .token "no password"), (), []⟩
    | .findKey _ _ => ⟨.ok (some 1), (), []⟩
    | .publicKey _ _ _ => ⟨.ok (.rsa modulus [3]), (), []⟩

end TokenSigner.Rehearsal
