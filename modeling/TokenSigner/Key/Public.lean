import TokenSigner.Bytes

namespace TokenSigner

inductive PublicKey where
  | rsa (modulus exponent : Bytes)
  | dsa (prime : Bytes)
  | ec (parameters : Bytes)
  | other (keyType : UInt64)
  deriving DecidableEq, Repr

inductive KeyAlgorithm where
  | rsa
  | dsa
  | ec
  deriving DecidableEq, Repr

def KeyAlgorithm.name : KeyAlgorithm → String
  | rsa => "RSA"
  | dsa => "DSA"
  | ec => "EC"

end TokenSigner
