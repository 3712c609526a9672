import TokenSigner.Proofs.Config.Meaning

namespace TokenSigner

def faultIf (c : Prop) [Decidable c] (e : Error) : List Error :=
  if c then [e] else []

theorem faultIf_eq_nil {c : Prop} [Decidable c] {e : Error} : faultIf c e = [] ↔ ¬c := by
  by_cases h : c <;> simp [faultIf, h]

structure SlotDescriptor.Sound (d : SlotDescriptor) : Prop where
  specific : d.index.isSome ∨ d.id.isSome
  readable : ∀ literal ∈ d.id, (Literal.parse? false literal.toList).isSome

def SlotDescriptor.faults (d : SlotDescriptor) : List Error :=
  (d.id.toList.flatMap fun literal =>
    faultIf ((Literal.parse? false literal.toList).isNone) (.badSlotId literal)) ++
  faultIf (d.index.isNone ∧ d.id.isNone) .emptySlotFilter

def SlotDescriptors.faults (ds : List SlotDescriptor) : List Error :=
  ds.flatMap (·.faults)

def LibraryDescriptor.Serves (library : LibraryDescriptor) (system : String) : Prop :=
  library.systems = [] ∨ ∃ entry ∈ library.systems,
    Text.lower (Text.trim entry.toList) <:+: Text.lower system.toList

theorem Text.occursIn_iff {needle text : List Char} :
    occursIn needle text = true ↔ needle <:+: text := by
  induction text with
  | nil => simp [occursIn]
  | cons c rest ih => simp [occursIn, ih, List.infix_cons_iff]

theorem ModuleConfig.serves_iff {system : String} {library : LibraryDescriptor} :
    serves system library = true ↔ library.Serves system := by
  simp [serves, LibraryDescriptor.Serves, Text.occursIn_iff]

instance (library : LibraryDescriptor) (system : String) : Decidable (library.Serves system) :=
  decidable_of_iff _ ModuleConfig.serves_iff

def LibraryDescriptors.faults (libraries : List LibraryDescriptor) (system : String) :
    List Error :=
  faultIf (∀ library ∈ libraries, ¬library.Serves system)
    (.noLibrary (String.ofList (Text.lower system.toList)))

def userKeywords : List (List Char) :=
  ["CKU_SO".toList, "CKU_USER".toList, "CKU_CONTEXT_SPECIFIC".toList]

def UserKnown (user : String) : Prop :=
  Text.normalize user ∈ userKeywords ∨ (Literal.parse? false (Text.normalize user)).isSome

instance (user : String) : Decidable (UserKnown user) :=
  inferInstanceAs (Decidable (_ ∨ _))

def userFaults (user : String) : List Error :=
  if Text.normalize user = [] then [.emptyUserType]
  else faultIf (¬UserKnown user) (.badUserType user)

def repeatedNames (before : List String) : List MechanismSetDescriptor → List Error
  | [] => []
  | set :: rest =>
    faultIf (set.name ∈ before) (.duplicateMechanismSet set.name) ++
      repeatedNames (before ++ [set.name]) rest

def MechanismFilterDescriptor.faults (sets : List MechanismSetDescriptor)
    (filter : MechanismFilterDescriptor) : List Error :=
  SlotDescriptors.faults filter.slots ++
    faultIf (filter.set ∉ sets.map (·.name)) (.undefinedMechanismSet filter.set)

namespace ModuleDescriptor

structure Valid (d : ModuleDescriptor) (system : String) : Prop where
  named : Text.trim d.name.toList ≠ []
  user : UserKnown d.user
  messageSize : 128 ≤ d.maxMessageSize
  sessions : 1 ≤ d.maxSessions
  sets : (d.mechanismSets.map (·.name)).Nodup
  filters : ∀ filter ∈ d.mechanismFilters,
    (∀ slot ∈ filter.slots, slot.Sound) ∧ ∃ set ∈ d.mechanismSets, set.name = filter.set
  passwords : ∀ set ∈ d.passwordSets, ∀ slot ∈ set.slots, slot.Sound
  included : ∀ slot ∈ d.includeSlots, slot.Sound
  excluded : ∀ slot ∈ d.excludeSlots, slot.Sound
  library : ∃ library ∈ d.libraries, library.Serves system

def faults (d : ModuleDescriptor) (system : String) : List Error :=
  faultIf (Text.trim d.name.toList = []) .emptyModuleName ++
  (userFaults d.user ++
  (faultIf (d.maxMessageSize < 128) (.messageSizeTooSmall d.maxMessageSize) ++
  (faultIf (d.maxSessions = 0) .noSessions ++
  (repeatedNames [] d.mechanismSets ++
  (d.mechanismFilters.flatMap (·.faults d.mechanismSets) ++
  ((d.passwordSets.flatMap fun set => SlotDescriptors.faults set.slots) ++
  (SlotDescriptors.faults d.includeSlots ++
  (SlotDescriptors.faults d.excludeSlots ++
  LibraryDescriptors.faults d.libraries system))))))))

end ModuleDescriptor

theorem SlotDescriptor.faults_eq_nil {d : SlotDescriptor} : d.faults = [] ↔ d.Sound := by
  have hreadable : (d.id.toList.flatMap fun literal =>
      faultIf ((Literal.parse? false literal.toList).isNone) (.badSlotId literal)) = [] ↔
      ∀ literal ∈ d.id, (Literal.parse? false literal.toList).isSome := by
    simp [List.flatMap_eq_nil_iff, faultIf_eq_nil, Option.isSome_iff_ne_none]
  have hspecific : faultIf (d.index.isNone ∧ d.id.isNone) .emptySlotFilter = [] ↔
      d.index.isSome ∨ d.id.isSome := by
    cases d.index <;> cases d.id <;> simp [faultIf_eq_nil]
  rw [faults, List.append_eq_nil_iff, hreadable, hspecific]
  constructor
  · rintro ⟨hread, hspec⟩
    exact ⟨hspec, hread⟩
  · intro h
    exact ⟨h.readable, h.specific⟩

theorem SlotDescriptors.faults_eq_nil {ds : List SlotDescriptor} :
    faults ds = [] ↔ ∀ d ∈ ds, d.Sound := by
  simp [faults, List.flatMap_eq_nil_iff, SlotDescriptor.faults_eq_nil]

theorem userFaults_eq_nil {user : String} : userFaults user = [] ↔ UserKnown user := by
  unfold userFaults
  by_cases hempty : Text.normalize user = []
  · have hunknown : ¬UserKnown user := by
      simp only [UserKnown, hempty]
      decide
    simp [hempty, hunknown]
  · simp [hempty, faultIf_eq_nil]

theorem repeatedNames_eq_nil {before : List String} {sets : List MechanismSetDescriptor} :
    repeatedNames before sets = [] ↔
      (sets.map (·.name)).Nodup ∧ ∀ set ∈ sets, set.name ∉ before := by
  induction sets generalizing before with
  | nil => simp [repeatedNames]
  | cons set rest ih =>
    rw [repeatedNames, List.append_eq_nil_iff, faultIf_eq_nil, ih]
    simp only [List.map_cons, List.nodup_cons, List.mem_map, List.mem_cons, List.mem_append]
    grind

theorem MechanismFilterDescriptor.faults_eq_nil {sets : List MechanismSetDescriptor}
    {filter : MechanismFilterDescriptor} :
    filter.faults sets = [] ↔
      (∀ slot ∈ filter.slots, slot.Sound) ∧ ∃ set ∈ sets, set.name = filter.set := by
  rw [faults, List.append_eq_nil_iff, SlotDescriptors.faults_eq_nil, faultIf_eq_nil]
  simp

theorem ModuleDescriptor.faults_eq_nil {d : ModuleDescriptor} {system : String} :
    d.faults system = [] ↔ d.Valid system := by
  simp only [faults, List.append_eq_nil_iff, faultIf_eq_nil, userFaults_eq_nil,
    repeatedNames_eq_nil, List.flatMap_eq_nil_iff, MechanismFilterDescriptor.faults_eq_nil,
    SlotDescriptors.faults_eq_nil, LibraryDescriptors.faults]
  constructor
  · rintro ⟨hname, huser, hsize, hsessions, ⟨hsets, -⟩, hfilters, hpasswords, hincluded, hexcluded,
      hlibrary⟩
    refine ⟨hname, huser, by omega, by omega, hsets, hfilters, hpasswords, hincluded, hexcluded, ?_⟩
    simpa using hlibrary
  · intro h
    have hsize := h.messageSize
    have hsessions := h.sessions
    refine ⟨h.named, h.user, by omega, by omega, ⟨h.sets, by simp⟩, h.filters, h.passwords,
      h.included, h.excluded, ?_⟩
    simpa using h.library

theorem head?_faultIf {c : Prop} [Decidable c] {e : Error} :
    (faultIf c e).head? = if c then some e else none := by
  by_cases h : c <;> simp [faultIf, h]

section Reading

variable {α β : Type} {faults more : List Error}

def Faulted (r : Except Error α) (faults : List Error) : Prop :=
  error? r = faults.head?

theorem Faulted.bind {r : Except Error α} {f : α → Except Error β} (h : Faulted r faults)
    (hf : ∀ x, r = .ok x → Faulted (f x) more) : Faulted (r >>= f) (faults ++ more) := by
  unfold Faulted at h hf ⊢
  rw [List.head?_append, ← h]
  cases r with
  | ok x => exact hf x rfl
  | error e => rfl

theorem Faulted.map (f : α → β) {r : Except Error α} (h : Faulted r faults) :
    Faulted (f <$> r) faults := by
  unfold Faulted at h ⊢
  rw [← h]
  cases r <;> rfl

theorem Faulted.mapM {f : α → Except Error β} {g : α → List Error}
    (h : ∀ x, Faulted (f x) (g x)) (xs : List α) : Faulted (xs.mapM f) (xs.flatMap g) := by
  induction xs with
  | nil => rfl
  | cons x xs ih =>
    rw [List.mapM_cons, List.flatMap_cons]
    refine (h x).bind fun y _ => ?_
    exact ih.map (y :: ·)

end Reading

namespace ModuleConfig

theorem faulted_checkName (name : String) :
    Faulted (checkName name) (faultIf (Text.trim name.toList = []) .emptyModuleName) := by
  unfold Faulted checkName
  by_cases h : Text.trim name.toList = []
  · simp [h, head?_faultIf, error?]
  · simp [h, head?_faultIf, error?]

theorem faulted_of_known {user : String} {code : UInt64} (h : UserKnown user) :
    Faulted (.ok code : Except Error UInt64) (userFaults user) := by
  rw [userFaults_eq_nil.mpr h]
  rfl

theorem faulted_readUserType (user : String) :
    Faulted (readUserType user) (userFaults user) := by
  unfold readUserType
  dsimp only
  split
  · next hempty =>
    rw [userFaults, if_pos hempty]
    rfl
  next hempty =>
  split
  · next hofficer => exact faulted_of_known (Or.inl (by simp [hofficer, userKeywords]))
  next hofficer =>
  split
  · next huser => exact faulted_of_known (Or.inl (by simp [huser, userKeywords]))
  next huser =>
  split
  · next hcontext => exact faulted_of_known (Or.inl (by simp [hcontext, userKeywords]))
  next hcontext =>
  split
  · next code hliteral => exact faulted_of_known (Or.inr (by simp [hliteral]))
  · next hliteral =>
    have hunknown : ¬UserKnown user := by
      simp only [UserKnown, userKeywords, List.mem_cons, List.not_mem_nil, or_false, hliteral]
      simp [-String.reduceToList, hofficer, huser, hcontext]
    rw [userFaults, if_neg hempty, faultIf, if_pos hunknown]
    rfl

theorem faulted_parseId (literal : String) :
    Faulted (SlotIdentifier.parseId literal)
      (faultIf ((Literal.parse? false literal.toList).isNone) (.badSlotId literal)) := by
  unfold Faulted SlotIdentifier.parseId
  cases hparse : Literal.parse? false literal.toList with
  | none => simp [head?_faultIf, error?]
  | some id => simp [head?_faultIf, error?]

theorem faulted_of (index : Option Nat) (id : Option UInt64) :
    Faulted (SlotFilter.of index id) (faultIf (index.isNone ∧ id.isNone) .emptySlotFilter) := by
  unfold Faulted SlotFilter.of
  cases index <;> cases id <;> rfl

theorem faulted_readSlot (d : SlotDescriptor) : Faulted (readSlot d) d.faults := by
  obtain ⟨index, id⟩ := d
  cases id with
  | none => exact faulted_of index none
  | some literal =>
    unfold readSlot SlotDescriptor.faults
    simp only [Option.mapM_some, Option.toList_some, List.flatMap_cons, List.flatMap_nil,
      List.append_nil]
    have hparse : Faulted (some <$> SlotIdentifier.parseId literal) _ :=
      Faulted.map some (faulted_parseId literal)
    refine hparse.bind fun id hid => ?_
    cases hcode : SlotIdentifier.parseId literal with
    | error e =>
      rw [hcode] at hid
      cases hid
    | ok code =>
      rw [hcode] at hid
      cases hid
      exact faulted_of index (some code)

theorem faulted_readSlots (ds : List SlotDescriptor) :
    Faulted (readSlots ds) (SlotDescriptors.faults ds) :=
  .mapM faulted_readSlot ds

theorem faulted_readMechanismRule {descriptors : List MechanismSetDescriptor}
    {sets : List (String × Grant)} (hnames : sets.map (·.1) = descriptors.map (·.name))
    (filter : MechanismFilterDescriptor) :
    Faulted (readMechanismRule sets filter) (filter.faults descriptors) := by
  refine (faulted_readSlots filter.slots).bind fun slots _ => ?_
  rw [← hnames]
  cases hgrant : sets.lookup filter.set with
  | none =>
    have hmissing : filter.set ∉ sets.map (·.1) := by
      intro hmem
      obtain ⟨entry, hentry, hname⟩ := List.mem_map.mp hmem
      simpa [hname] using List.lookup_eq_none_iff.mp hgrant entry hentry
    simp [Faulted, head?_faultIf, hmissing, error?]
    rfl
  | some grant =>
    have hfound : filter.set ∈ sets.map (·.1) := by
      obtain ⟨before, after, hsets, -⟩ := List.lookup_eq_some_iff.mp hgrant
      simp [hsets]
    simp [Faulted, head?_faultIf, hfound]
    rfl

theorem faulted_readPasswordRule (set : PasswordSetDescriptor) :
    Faulted (readPasswordRule set) (SlotDescriptors.faults set.slots) := by
  have hread : Faulted ((⟨·, set.sources⟩ : List SlotFilter → PasswordRule) <$>
      readSlots set.slots) _ := .map _ (faulted_readSlots set.slots)
  exact hread

theorem faulted_selectLibrary (libraries : List LibraryDescriptor) (system : String) :
    Faulted (selectLibrary libraries system) (LibraryDescriptors.faults libraries system) := by
  unfold Faulted selectLibrary LibraryDescriptors.faults
  cases hfound : libraries.find? (serves system) with
  | none =>
    have hnone : ∀ library ∈ libraries, ¬library.Serves system := by
      simpa [serves_iff] using hfound
    rw [head?_faultIf, if_pos hnone]
    rfl
  | some library =>
    have hserves := serves_iff.mp (List.find?_some hfound)
    have hsome : ¬∀ library ∈ libraries, ¬library.Serves system :=
      fun hnone => hnone library (List.mem_of_find?_eq_some hfound) hserves
    rw [head?_faultIf, if_neg hsome]
    rfl

section Checks

variable {α β : Type} {faults more : List Error}

def Checks (check : Check α) (faults : List Error) : Prop :=
  ∀ warnings, Faulted (check.run warnings).1 faults

theorem Checks.pure (x : α) : Checks (Pure.pure x) [] :=
  fun _ => rfl

theorem Checks.bind {check : Check α} {next : α → Check β} (h : Checks check faults)
    (hnext : ∀ x warnings told, check.run warnings = (.ok x, told) → Checks (next x) more) :
    Checks (check >>= next) (faults ++ more) := by
  intro warnings
  have hcheck := h warnings
  unfold Faulted at hcheck ⊢
  rw [List.head?_append, ← hcheck, Action.run_bind]
  rcases hrun : check.run warnings with ⟨e | x, told⟩
  · rfl
  · exact hnext x warnings told hrun told

theorem Checks.ofExcept {r : Except Error α} {next : α → Check β} (h : Faulted r faults)
    (hnext : ∀ x, Checks (next x) more) : Checks (Action.ofExcept r >>= next) (faults ++ more) :=
  .bind (fun _ => h) fun x _ _ _ => hnext x

theorem Checks.guard {c : Prop} [Decidable c] {e : Error} {rest : Check β} {next : α → Check β}
    (hrest : Checks rest more) :
    Checks (if c then (throw e : Check α) >>= next else rest) (faultIf c e ++ more) := by
  by_cases h : c
  · rw [if_pos h, faultIf, if_pos h]
    exact fun _ => rfl
  · rw [if_neg h, faultIf, if_neg h]
    exact hrest

end Checks

theorem readGrant_answers (set : String) (tokens : List String) (granted : List Mechanism) :
    Checks (readGrant set tokens granted) [] := by
  intro warnings
  rw [run_readGrant]
  rfl

theorem checks_readSets (descriptors : List MechanismSetDescriptor)
    (sets : List (String × Grant)) :
    Checks (readSets descriptors sets) (repeatedNames (sets.map (·.1)) descriptors) := by
  induction descriptors generalizing sets with
  | nil => exact .pure _
  | cons set rest ih =>
    unfold readSets repeatedNames
    have hknown : sets.any (·.1 == set.name) = true ↔ set.name ∈ sets.map (·.1) := by
      rw [List.any_eq_true, List.mem_map]
      simp
    by_cases hname : set.name ∈ sets.map (·.1)
    · rw [if_pos (hknown.mpr hname), faultIf, if_pos hname]
      exact fun _ => rfl
    · rw [if_neg (mt hknown.mp hname), faultIf, if_neg hname]
      -- Reading what the set grants only warns, so that the next fault is that of a later set.
      refine .bind (readGrant_answers _ _ _) fun grant _ _ _ => ?_
      have hrest := ih (sets ++ [(set.name, grant)])
      rw [List.map_append] at hrest
      exact hrest

theorem names_of_readSets {rest : List MechanismSetDescriptor} {sets all : List (String × Grant)}
    {warnings told : List Warning} (h : (readSets rest sets).run warnings = (.ok all, told)) :
    all.map (·.1) = sets.map (·.1) ++ rest.map (·.name) := by
  induction rest generalizing sets warnings with
  | nil =>
    cases h
    simp
  | cons set rest ih =>
    obtain ⟨-, grant, between, -, hrest⟩ := run_readSets_cons.mp h
    rw [ih hrest]
    simp

theorem checks_ofDescriptor (d : ModuleDescriptor) (system : String) :
    Checks (ofDescriptor d system) (d.faults system) := by
  unfold ofDescriptor ModuleDescriptor.faults
  refine .ofExcept ?_ fun name => ?_
  · exact faulted_checkName d.name
  refine .ofExcept ?_ fun userType => ?_
  · exact faulted_readUserType d.user
  refine .guard (.guard ?_)
  refine .bind (checks_readSets _ _) fun sets warnings told hsets => ?_
  have hnames := names_of_readSets hsets
  refine .ofExcept (.mapM (faulted_readMechanismRule hnames) _) fun mechanisms => ?_
  refine .ofExcept (.mapM faulted_readPasswordRule _) fun passwords => ?_
  refine .ofExcept (faulted_readSlots _) fun included => ?_
  refine .ofExcept (faulted_readSlots _) fun excluded => ?_
  have hlibrary := faulted_selectLibrary d.libraries system
  rw [← List.append_nil (LibraryDescriptors.faults d.libraries system)]
  exact .ofExcept hlibrary fun library => .pure _

theorem library_of_select {libraries : List LibraryDescriptor} {system path : String}
    (h : selectLibrary libraries system = .ok path) :
    ∃ before library after, libraries = before ++ library :: after ∧ library.Serves system ∧
      (∀ other ∈ before, ¬other.Serves system) ∧ path = library.path := by
  unfold selectLibrary at h
  cases hfound : libraries.find? (serves system) with
  | none =>
    rw [hfound] at h
    cases h
  | some library =>
    rw [hfound] at h
    cases h
    obtain ⟨hserves, before, after, hsplit, hbefore⟩ := List.find?_eq_some_iff_append.mp hfound
    refine ⟨before, library, after, hsplit, serves_iff.mp hserves, ?_, rfl⟩
    intro other hother hserving
    have hnot := hbefore other hother
    simp [serves_iff.mpr hserving] at hnot

theorem valid_or_first_fault (d : ModuleDescriptor) (system : String) (warnings : List Warning) :
    ((∃ config, ((ofDescriptor d system).run warnings).1 = .ok config) ↔ d.Valid system) ∧
    (∀ config, ((ofDescriptor d system).run warnings).1 = .ok config →
      ∃ before library after, d.libraries = before ++ library :: after ∧
        library.Serves system ∧ (∀ other ∈ before, ¬other.Serves system) ∧
        config.library = library.path) ∧
    ∀ e, ((ofDescriptor d system).run warnings).1 = .error e ↔
      (d.faults system).head? = some e := by
  have hchecks := checks_ofDescriptor d system warnings
  unfold Faulted at hchecks
  refine ⟨?_, ?_, ?_⟩
  · rw [← error?_eq_none, hchecks, List.head?_eq_none_iff]
    exact ModuleDescriptor.faults_eq_nil
  · intro config hconfig
    rcases hrun : (ofDescriptor d system).run warnings with ⟨result, told⟩
    rw [hrun] at hconfig
    cases hconfig
    exact library_of_select (accepted_iff.mp hrun).library
  · intro e
    rw [← error?_eq_some, hchecks]

theorem valid_or_first_fault_of_three :
    let d : ModuleDescriptor := { Rehearsal.description with
      mechanismSets := [⟨"any", []⟩, ⟨"any", ["CKM_NONE"]⟩]
      mechanismFilters := [{ slots := [{}], set := "none" }] }
    d.faults "linux" =
      [.duplicateMechanismSet "any", .emptySlotFilter, .undefinedMechanismSet "none"] ∧
    ((ofDescriptor d "linux").run []).1 = .error (.duplicateMechanismSet "any") := by
  intro d
  have hfaults : d.faults "linux" =
      [.duplicateMechanismSet "any", .emptySlotFilter, .undefinedMechanismSet "none"] := by
    decide +kernel
  refine ⟨hfaults, ?_⟩
  rw [(valid_or_first_fault d "linux" []).2.2, hfaults]
  rfl

end ModuleConfig

end TokenSigner
