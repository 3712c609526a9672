import TokenSigner.Error
import TokenSigner.Literal

namespace TokenSigner

def SlotIdentifier.parseId (literal : String) : Except Error UInt64 :=
  match Literal.parse? false literal.toList with
  | some id => .ok id
  | none => .error (.badSlotId literal)

structure SlotFilter where
  index : Option Nat
  id : Option UInt64
  specific : index.isSome || id.isSome
  deriving DecidableEq

namespace SlotFilter

def of (index : Option Nat) (id : Option UInt64) : Except Error SlotFilter :=
  if h : index.isSome || id.isSome then .ok ⟨index, id, h⟩ else .error .emptySlotFilter

def covers (filter : SlotFilter) (slot : SlotIdentifier) : Bool :=
  filter.index.all (· == slot.index) && filter.id.all (· == slot.id)

end SlotFilter

namespace SlotFilters

def coverSome (filters : List SlotFilter) (slot : SlotIdentifier) : Bool :=
  filters.any (·.covers slot)

def cover (filters : List SlotFilter) (slot : SlotIdentifier) : Bool :=
  filters.isEmpty || coverSome filters slot

end SlotFilters

end TokenSigner
