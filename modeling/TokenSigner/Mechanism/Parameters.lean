import TokenSigner.Emsa.Pss

namespace TokenSigner

inductive MechanismParameters where
  | pss (hash : Mechanism) (mask : UInt64) (saltLength : Nat)
  | userId (identity : Bytes)
  deriving DecidableEq, Repr

def PssParameters.forToken (parameters : PssParameters) : MechanismParameters :=
  .pss parameters.digest.mechanism parameters.maskDigest.maskCode parameters.saltLength

end TokenSigner
