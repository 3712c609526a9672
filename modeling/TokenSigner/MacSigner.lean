import TokenSigner.Action
import TokenSigner.Digest
import TokenSigner.Stage

namespace TokenSigner

-- the code of a message under a key, by the library of the digests
abbrev Mac := Digest → (key message : Bytes) → Bytes

structure MacSigner where
  digest : Digest
  key : Bytes
  fed : Bytes
  stage : Stage

namespace MacSigner

def start (digest : Digest) (key : Bytes) : Except Error MacSigner :=
  if key = [] then .error .emptyMacKey else .ok ⟨digest, key, [], .initialized⟩

def length (signer : MacSigner) : Nat := signer.digest.length

def update (data : Bytes) : Action MacSigner Unit := do
  Action.ofExcept (← get).stage.checkUpdate
  modify fun signer => { signer with fed := signer.fed ++ data, stage := .accumulating }

def sign (mac : Mac) : Action MacSigner Bytes := do
  let signer ← get
  Action.ofExcept signer.stage.checkFinish
  set { signer with stage := .finalized }
  return mac signer.digest signer.key signer.fed

def reset : Action MacSigner Unit :=
  modify fun signer => { signer with fed := [], stage := .initialized }

end MacSigner

end TokenSigner
