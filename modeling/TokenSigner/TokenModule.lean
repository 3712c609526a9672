import TokenSigner.Engine

namespace TokenSigner

structure TokenModule (ς : Type) where
  config : ModuleConfig
  managed : List (ManagedSlot ς)
  excluded : List SlotIdentifier

namespace TokenModule

variable {δ ς α : Type}

def identifiers (ids : List UInt64) : List SlotIdentifier :=
  ids.zipIdx.map fun (id, index) => ⟨index, id⟩

def closeLogins (device : Device δ ς) : List (ManagedSlot ς) → Action (Site δ ς) Unit
  | [] => return
  | managed :: rest => do
    managed.closeLogin device
    closeLogins device rest

def takeSlots (device : Device δ ς) (resolver : PasswordResolver)
    (salts : SlotIdentifier → Entropy) :
    List SlotIdentifier → TokenModule ς → Action (Site δ ς) (TokenModule ς)
  | [], m => return m
  | slot :: rest, m => do
    if m.config.includes slot then
      match ← (ManagedSlot.start device m.config resolver (salts slot) slot).outcome with
      | .ok managed =>
        takeSlots device resolver salts rest { m with managed := m.managed ++ [managed] }
      | .error e => do
        closeLogins device m.managed
        throw e
    else takeSlots device resolver salts rest { m with excluded := m.excluded ++ [slot] }

def build (device : Device δ ς) (config : ModuleConfig) (resolver : PasswordResolver)
    (salts : SlotIdentifier → Entropy) (ids : List UInt64) : Action (Site δ ς) (TokenModule ς) :=
  takeSlots device resolver salts (identifiers ids) ⟨config, [], []⟩

def slots (m : TokenModule ς) : List SlotIdentifier := m.managed.map (·.slot)

def find (m : TokenModule ς) (wanted : SlotIdentifier → Bool) (missing : Error) :
    Except Error (ManagedSlot ς) :=
  match m.excluded.find? wanted with
  | some slot => .error (.slotExcluded slot)
  | none =>
    match m.managed.find? (wanted ·.slot) with
    | some managed => .ok managed
    | none => .error missing

def slot (m : TokenModule ς) (slot : SlotIdentifier) : Except Error (ManagedSlot ς) :=
  m.find (· == slot) (.unknownSlot slot)

def slotByIndex (m : TokenModule ς) (index : Nat) : Except Error (ManagedSlot ς) :=
  m.find (·.index == index) (.noSlotWithIndex index)

def slotById (m : TokenModule ς) (id : UInt64) : Except Error (ManagedSlot ς) :=
  m.find (·.id == id) (.noSlotWithId id)

def replace (m : TokenModule ς) (managed : ManagedSlot ς) : TokenModule ς :=
  { m with managed := m.managed.map fun other =>
      if other.slot = managed.slot then managed else other }

def on (found : TokenModule ς → Except Error (ManagedSlot ς)) (work : ManagedSlot.Work δ ς α) :
    Action (TokenModule ς × Site δ ς) α := fun (m, site) =>
  match found m with
  | .error e => (.error e, (m, site))
  | .ok managed =>
    let (result, (managed, site)) := work.run (managed, site)
    (result, (m.replace managed, site))

theorem run_on_ok {found : TokenModule ς → Except Error (ManagedSlot ς)} {m : TokenModule ς}
    {managed : ManagedSlot ς} (h : found m = .ok managed) (work : ManagedSlot.Work δ ς α)
    (site : Site δ ς) : (on found work).run (m, site) =
      ((work.run (managed, site)).1, m.replace (work.run (managed, site)).2.1,
        (work.run (managed, site)).2.2) := by
  simp only [Action.run, on, h]

theorem run_on_error {found : TokenModule ς → Except Error (ManagedSlot ς)} {m : TokenModule ς}
    {e : Error} (h : found m = .error e) (work : ManagedSlot.Work δ ς α) (site : Site δ ς) :
    (on found work).run (m, site) = (.error e, m, site) := by
  simp only [Action.run, on, h]

def close (device : Device δ ς) : List (ManagedSlot ς) → Action (Site δ ς) Unit
  | [] => return
  | managed :: rest => do
    managed.close device
    close device rest

end TokenModule

end TokenSigner
