import TokenSigner.Error
import TokenSigner.Text.Utf8

namespace TokenSigner

inductive FileEntry where
  | directory
  | file (contents : Bytes)

structure Host where
  environment : List (String × String)
  entries : List (List String × FileEntry)

namespace Host

def variableValue? (host : Host) (name : String) : Option String :=
  host.environment.findSome? fun (key, value) =>
    ((name.toList ++ ['=']).isPrefixOf? (key.toList ++ '=' :: value.toList)).map String.ofList

inductive Place where
  | outside
  | directory (names : List String)
  | file (contents : Bytes)

def entry (host : Host) (names : List String) : Except FileFault Place :=
  match host.entries.lookup names with
  | some .directory => .ok (.directory names)
  | some (.file contents) => .ok (.file contents)
  | none => .error .notFound

def follow (host : Host) (place : Place) (name : String) : Except FileFault Place :=
  match place with
  | .file _ => .error .notADirectory
  | .outside =>
    if name = "" ∨ name = "." ∨ name = ".." then .ok .outside
    else if 255 < name.utf8ByteSize then .error .invalidFilename
    else .error .notFound
  | .directory names =>
    if name = "" ∨ name = "." then .ok place
    else if name = ".." then
      .ok (if names.isEmpty then .outside else .directory names.dropLast)
    else if 255 < name.utf8ByteSize then .error .invalidFilename
    else host.entry (names ++ [name])

def names : List Char → List (List Char)
  | [] => [[]]
  | c :: rest =>
    match names rest with
    | [] => []
    | name :: others => if c = '/' then [] :: name :: others else (c :: name) :: others

def read (host : Host) (path : String) : Except FileFault Bytes :=
  if '\x00' ∈ path.toList then .error .invalidInput
  else if path = "" then .error .notFound
  else if 4096 ≤ path.utf8ByteSize then .error .invalidFilename
  else
    let start := if path.toList.head? = some '/' then Place.outside else Place.directory []
    match ((names path.toList).map String.ofList).foldlM host.follow start with
    | .ok (.file contents) => .ok contents
    | .ok _ => .error .isADirectory
    | .error fault => .error fault

def readText (host : Host) (path : String) : Except Error String :=
  match host.read path with
  | .error fault => .error (.unreadableFile fault)
  | .ok contents =>
    match Text.ofUtf8? contents with
    | some text => .ok text
    | none => .error (.unreadableFile .invalidData)

end Host

end TokenSigner
