namespace TokenSigner

structure SlotDescriptor where
  index : Option Nat := none
  id : Option String := none
  deriving DecidableEq, Repr

structure LibraryDescriptor where
  path : String
  systems : List String := []
  deriving DecidableEq, Repr

structure MechanismSetDescriptor where
  name : String
  tokens : List String
  deriving DecidableEq, Repr

structure MechanismFilterDescriptor where
  slots : List SlotDescriptor := []
  set : String
  deriving DecidableEq, Repr

structure PasswordSetDescriptor where
  slots : List SlotDescriptor := []
  sources : List String
  deriving DecidableEq, Repr

structure ModuleDescriptor where
  name : String
  readOnly : Bool := false
  user : String := "CKU_USER"
  maxMessageSize : Nat := 16384
  maxSessions : Nat := 8
  waitLimit : Option Nat := none
  libraries : List LibraryDescriptor := []
  mechanismSets : List MechanismSetDescriptor := []
  mechanismFilters : List MechanismFilterDescriptor := []
  passwordSets : List PasswordSetDescriptor := []
  includeSlots : List SlotDescriptor := []
  excludeSlots : List SlotDescriptor := []
  deriving DecidableEq, Repr

end TokenSigner
