import TokenSigner.Action

namespace TokenSigner

structure Entropy where
  byte : Nat → Except String UInt8
  drawn : Nat

namespace Entropy

def bytes (byte : Nat → Except String UInt8) : (start count : Nat) → Except String Bytes
  | _, 0 => .ok []
  | start, count + 1 => do return (← byte start) :: (← bytes byte (start + 1) count)

def draw (count : Nat) : Action Entropy Bytes := do
  let supply ← get
  set { supply with drawn := supply.drawn + count }
  Action.ofExcept ((bytes supply.byte supply.drawn count).mapError .noRandomBytes)

theorem run_draw (count : Nat) (supply : Entropy) :
    (draw count).run supply =
      ((bytes supply.byte supply.drawn count).mapError .noRandomBytes,
        { supply with drawn := supply.drawn + count }) := rfl

end Entropy

end TokenSigner
