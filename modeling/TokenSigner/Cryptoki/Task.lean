import TokenSigner.Slot

namespace TokenSigner.Cryptoki

inductive Task where
  | start
  | countSlots
  | listSlots
  | countMechanisms
  | listMechanisms
  | openSession (slot : UInt64)
  | login
  | startSearch
  | search
  | finishSearch
  | readAttributes (object : UInt64)
  | startSignature
  | feedSignature
  | signatureLength
  | sign
  deriving DecidableEq, Repr

def Task.failure : Task → String
  | start => "Failed initializing the PKCS#11 library"
  | countSlots => "Failed to count the slots"
  | listSlots => "Failed to list the slots"
  | countMechanisms => "Failed to count the mechanisms"
  | listMechanisms => "Failed to list the mechanisms"
  | openSession slot => "Failed opening a session on slot " ++ toString slot.toNat
  | login => "Failed logging in"
  | startSearch => "Failed to initialize object search: C_FindObjectsInit failed"
  | search => "Failed to find objects"
  | finishSearch => "Failed to finalize object search"
  | readAttributes object => "Failed to get the attributes of object " ++ toString object.toNat
  | startSignature => "Failed to initialize the signature"
  | feedSignature => "Failed to feed the signature"
  | signatureLength => "Failed to get the signature length"
  | sign => "Failed to sign"

end TokenSigner.Cryptoki
