import TokenSigner.Config.Descriptor
import TokenSigner.Host
import TokenSigner.Toml.Document

namespace TokenSigner.Toml

def Value.string? : Value → Option String
  | .string s => some s
  | _ => none

def Value.boolean? : Value → Option Bool
  | .boolean b => some b
  | _ => none

def Value.natural? : Value → Option Nat
  | .integer n => if 0 ≤ n then some n.toNat else none
  | _ => none

def Value.items? : Value → Option (List Value)
  | .array items => some items
  | .tables elements => some (elements.reverse.map (.table .header))
  | _ => none

def Value.listOf? {α : Type} (item : Value → Option α) (v : Value) : Option (List α) := do
  (← v.items?).mapM item

abbrev Record := List (String × Value)

def Value.record? (names : List String) : Value → Option Record
  | .table _ entries => if entries.all fun entry => names.elem entry.1 then some entries else none
  | .array items => some (names.zip items)
  | _ => none

namespace Record

variable {α : Type}

def required (r : Record) (name : String) (read : Value → Option α) : Option α := do
  read (← r.lookup name)

def withDefault (r : Record) (name : String) (read : Value → Option α) (default : α) : Option α :=
  match r.lookup name with
  | some v => read v
  | none => some default

def optional (r : Record) (name : String) (read : Value → Option α) : Option (Option α) :=
  r.withDefault name (fun v => some <$> read v) none

end Record

def slotDescriptor? (v : Value) : Option SlotDescriptor := do
  let r ← v.record? ["index", "id"]
  if v matches .array _ ∧ r.length < 2 then none
  return {
    index := ← r.optional "index" Value.natural?
    id := ← r.optional "id" Value.string? }

def libraryDescriptor? (v : Value) : Option LibraryDescriptor := do
  let r ← v.record? ["path", "operating_systems"]
  return {
    path := ← r.required "path" Value.string?
    systems := ← r.withDefault "operating_systems" (Value.listOf? Value.string?) [] }

def mechanismSetDescriptor? (v : Value) : Option MechanismSetDescriptor := do
  let r ← v.record? ["name", "mechanisms"]
  return {
    name := ← r.required "name" Value.string?
    tokens := ← r.required "mechanisms" (Value.listOf? Value.string?) }

def mechanismFilterDescriptor? (v : Value) : Option MechanismFilterDescriptor := do
  let r ← v.record? ["slots", "mechanism_set"]
  return {
    slots := ← r.withDefault "slots" (Value.listOf? slotDescriptor?) []
    set := ← r.required "mechanism_set" Value.string? }

def passwordSetDescriptor? (v : Value) : Option PasswordSetDescriptor := do
  let r ← v.record? ["slots", "passwords"]
  return {
    slots := ← r.withDefault "slots" (Value.listOf? slotDescriptor?) []
    sources := ← r.required "passwords" (Value.listOf? Value.string?) }

def moduleDescriptor? (v : Value) : Option ModuleDescriptor := do
  let r ← v.record? ["name", "read_only", "user", "max_message_size", "max_sessions_per_slot",
    "session_wait_timeout_ms", "native_libraries", "mechanism_sets", "mechanism_filters",
    "password_sets", "include_slots", "exclude_slots"]
  let slots := Value.listOf? slotDescriptor?
  return {
    name := ← r.required "name" Value.string?
    readOnly := ← r.withDefault "read_only" Value.boolean? false
    user := ← r.withDefault "user" Value.string? "CKU_USER"
    maxMessageSize := ← r.withDefault "max_message_size" Value.natural? 16384
    maxSessions := ← r.withDefault "max_sessions_per_slot" Value.natural? 8
    waitLimit := ← r.optional "session_wait_timeout_ms" Value.natural?
    libraries := ← r.withDefault "native_libraries" (Value.listOf? libraryDescriptor?) []
    mechanismSets := ← r.withDefault "mechanism_sets" (Value.listOf? mechanismSetDescriptor?) []
    mechanismFilters := ←
      r.withDefault "mechanism_filters" (Value.listOf? mechanismFilterDescriptor?) []
    passwordSets := ← r.withDefault "password_sets" (Value.listOf? passwordSetDescriptor?) []
    includeSlots := ← r.withDefault "include_slots" slots []
    excludeSlots := ← r.withDefault "exclude_slots" slots [] }

def modules? (v : Value) : Option (List ModuleDescriptor) := do
  (← v.record? ["modules"]).withDefault "modules" (Value.listOf? moduleDescriptor?) []

def read {α : Type} (decode : Value → Option α) (text : String) : Except Error α :=
  match parse? text with
  | some entries =>
    match decode (.table .header entries) with
    | some a => .ok a
    | none => .error .malformedToml
  | none => .error .malformedToml

end TokenSigner.Toml

namespace TokenSigner

def ModuleDescriptor.ofToml (text : String) : Except Error ModuleDescriptor :=
  Toml.read Toml.moduleDescriptor? text

structure Configuration where
  modules : List ModuleDescriptor

namespace Configuration

def ofToml (text : String) : Except Error Configuration :=
  (Toml.read Toml.modules? text).map Configuration.mk

def ofFile (host : Host) (path : String) : Except Error Configuration := do
  ofToml (← host.readText path)

end Configuration

end TokenSigner
