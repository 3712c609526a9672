import TokenSigner.Error

namespace TokenSigner

inductive Warning where
  | skippedMechanism (token set : String)
  | mechanismsUnknown (slot : SlotIdentifier) (cause : Error)
  | alreadyLoggedIn
  | manyObjects (count : Nat) (key : KeyIdentifier)
  deriving DecidableEq, Repr

def Warning.message : Warning → String
  | skippedMechanism token set => s!"skipped unknown mechanism '{token}' in mechanism set '{set}'"
  | mechanismsUnknown slot cause =>
    s!"Failed to list the mechanisms of slot {slot.display}: {cause.message}"
  | alreadyLoggedIn => "user already logged in, ignoring logging"
  | manyObjects count key => s!"{count} objects match {key.display}, using the first one"

end TokenSigner
