import TokenSigner.Action
import TokenSigner.Config.Descriptor
import TokenSigner.Mechanism.Selector
import TokenSigner.Policy.Mechanism
import TokenSigner.Policy.Password
import TokenSigner.Text.Lowercase
import TokenSigner.Warning

namespace TokenSigner

structure ModuleConfig where
  name : String
  library : String
  readOnly : Bool
  userType : UInt64
  maxMessageSize : Nat
  maxSessions : Nat
  waitLimit : Option Nat
  includeSlots : List SlotFilter
  excludeSlots : List SlotFilter
  mechanisms : MechanismPolicy
  passwords : PasswordPolicy

namespace ModuleConfig

def includes (config : ModuleConfig) (slot : SlotIdentifier) : Bool :=
  SlotFilters.cover config.includeSlots slot && !SlotFilters.coverSome config.excludeSlots slot

def allows (config : ModuleConfig) (slot : SlotIdentifier) (mechanism : Mechanism) : Bool :=
  config.mechanisms.allows slot mechanism

def leastMessageSize : Nat := 128

def checkName (name : String) : Except Error String :=
  let trimmed := Text.trim name.toList
  if trimmed = [] then .error .emptyModuleName else .ok (String.ofList trimmed)

def readUserType (token : String) : Except Error UInt64 :=
  let word := Text.normalize token
  if word = [] then .error .emptyUserType
  else if word = "CKU_SO".toList then .ok 0
  else if word = "CKU_USER".toList then .ok 1
  else if word = "CKU_CONTEXT_SPECIFIC".toList then .ok 2
  else match Literal.parse? false word with
    | some code => .ok code
    | none => .error (.badUserType token)

def readSlot (descriptor : SlotDescriptor) : Except Error SlotFilter := do
  let id ← descriptor.id.mapM SlotIdentifier.parseId
  SlotFilter.of descriptor.index id

def readSlots (descriptors : List SlotDescriptor) : Except Error (List SlotFilter) :=
  descriptors.mapM readSlot

abbrev Check := Action (List Warning)

def warn (warning : Warning) : Check Unit :=
  modify (· ++ [warning])

def readGrant (set : String) : (tokens : List String) → List Mechanism → Check Grant
  | [], granted => return .only granted
  | token :: rest, granted =>
    match Mechanism.select? token with
    | some .all => return .all
    | some (.code mechanism) => readGrant set rest (granted ++ [mechanism])
    | none => do
      warn (.skippedMechanism token set)
      readGrant set rest granted

def readSets : List MechanismSetDescriptor → List (String × Grant) → Check (List (String × Grant))
  | [], sets => return sets
  | descriptor :: rest, sets =>
    if sets.any (·.1 == descriptor.name) then throw (.duplicateMechanismSet descriptor.name)
    else do
      let grant ← readGrant descriptor.name descriptor.tokens []
      readSets rest (sets ++ [(descriptor.name, grant)])

def readMechanismRule (sets : List (String × Grant)) (descriptor : MechanismFilterDescriptor) :
    Except Error MechanismRule := do
  let slots ← readSlots descriptor.slots
  match sets.lookup descriptor.set with
  | some grant => return ⟨slots, grant⟩
  | none => throw (.undefinedMechanismSet descriptor.set)

def readPasswordRule (descriptor : PasswordSetDescriptor) : Except Error PasswordRule := do
  return ⟨← readSlots descriptor.slots, descriptor.sources⟩

def serves (system : String) (library : LibraryDescriptor) : Bool :=
  library.systems.isEmpty || library.systems.any fun entry =>
    Text.occursIn (Text.lower (Text.trim entry.toList)) (Text.lower system.toList)

def selectLibrary (libraries : List LibraryDescriptor) (system : String) : Except Error String :=
  match libraries.find? (serves system) with
  | some library => .ok library.path
  | none => .error (.noLibrary (String.ofList (Text.lower system.toList)))

def ofDescriptor (d : ModuleDescriptor) (system : String) : Check ModuleConfig := do
  let name ← Action.ofExcept (checkName d.name)
  let userType ← Action.ofExcept (readUserType d.user)
  if d.maxMessageSize < leastMessageSize then throw (.messageSizeTooSmall d.maxMessageSize)
  if d.maxSessions = 0 then throw .noSessions
  let sets ← readSets d.mechanismSets []
  let mechanisms ← Action.ofExcept (d.mechanismFilters.mapM (readMechanismRule sets))
  let passwords ← Action.ofExcept (d.passwordSets.mapM readPasswordRule)
  let includeSlots ← Action.ofExcept (readSlots d.includeSlots)
  let excludeSlots ← Action.ofExcept (readSlots d.excludeSlots)
  let library ← Action.ofExcept (selectLibrary d.libraries system)
  return {
    name, library, readOnly := d.readOnly, userType, maxMessageSize := d.maxMessageSize
    maxSessions := d.maxSessions, waitLimit := d.waitLimit, includeSlots, excludeSlots
    mechanisms, passwords }

end ModuleConfig

end TokenSigner
