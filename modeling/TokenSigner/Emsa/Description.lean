import TokenSigner.Digest.Name
import TokenSigner.Emsa.Pss

namespace TokenSigner

inductive PssDescription where
  | standard
  | ofDigest (digest : String)
  | explicit (digest maskDigest : String) (saltLength : Nat) (trailer : UInt32)
  deriving DecidableEq, Repr

def PssDescription.read : PssDescription → Except Error PssParameters
  | standard => .ok .standard
  | ofDigest digest => (Digest.named digest).map .ofDigest
  | explicit digest maskDigest saltLength trailer => do
    let digest ← Digest.named digest
    let maskDigest ← Digest.named maskDigest
    PssParameters.of digest maskDigest saltLength trailer

end TokenSigner
