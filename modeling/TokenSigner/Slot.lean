import TokenSigner.Text.Hex

namespace TokenSigner

structure SlotIdentifier where
  index : Nat
  id : UInt64
  deriving DecidableEq, Repr, Inhabited

namespace SlotIdentifier

def display (slot : SlotIdentifier) : String :=
  "(index = " ++ toString slot.index ++ ", id = " ++ Text.hex slot.id.toNat ++ ")"

end SlotIdentifier

end TokenSigner
