import TokenSigner.Host
import TokenSigner.Slot.Filter
import TokenSigner.Text.Blank

namespace TokenSigner

abbrev PasswordResolver := String → Except Error Bytes

def afterMark? (mark source : String) : Option String :=
  (mark.toList.isPrefixOf? source.toList).map String.ofList

def Host.password (host : Host) (source : String) : Except Error Bytes :=
  match afterMark? "env:" source, afterMark? "file:" source with
  | some name, _ =>
    match host.variableValue? name with
    | some value => .ok (Text.utf8 value)
    | none => .error (.unsetVariable name)
  | none, some path => do
    let text ← host.readText path
    let line := text.toList.takeWhile (· != '\n')
    return Text.utf8 (String.ofList (Text.trimEnd line))
  | none, none => .ok (Text.utf8 source)

def PasswordResolver.ofTable (passwords : List (String × String)) : PasswordResolver :=
  fun source =>
  match passwords.lookup source with
  | some password => .ok (Text.utf8 password)
  | none => .error (.unknownSource source)

structure PasswordRule where
  slots : List SlotFilter
  sources : List String

abbrev PasswordPolicy := List PasswordRule

structure PasswordReading (α : Type) where
  asked : List String
  result : Except Error α

namespace PasswordPolicy

def readAll (resolver : PasswordResolver) : List String → PasswordReading (List Bytes)
  | [] => ⟨[], .ok []⟩
  | source :: rest =>
    match resolver source with
    | .error e => ⟨[source], .error e⟩
    | .ok password =>
      let others := readAll resolver rest
      ⟨source :: others.asked, others.result.map (password :: ·)⟩

def read (policy : PasswordPolicy) (resolver : PasswordResolver) (slot : SlotIdentifier) :
    PasswordReading (Option (List Bytes)) :=
  match policy.find? fun rule => SlotFilters.cover rule.slots slot with
  | none => ⟨[], .ok none⟩
  | some rule =>
    let reading := readAll resolver rule.sources
    ⟨reading.asked, reading.result.map some⟩

end PasswordPolicy

end TokenSigner
