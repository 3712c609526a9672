import TokenSigner.Toml.Literal

namespace TokenSigner.Toml

open Reader

def comment : Reader Unit := do
  char '#'
  discard (takeWhile isPrintable)

def layout : Reader Unit :=
  discard (many (discard (takeWhile1 isBlank) <|> do discard (optional comment); newline))

def isBareKey (c : Char) : Bool :=
  c.isAlphanum || c == '_' || c == '-'

def simpleKey : Reader String := do
  blanks
  let cs ← basicString <|> literalString <|> takeWhile1 isBareKey
  blanks
  return String.ofList cs

def key : Reader (List String) := do
  let parts ← separated (char '.') simpleKey
  if parts.length < 80 then return parts else failure

def keyValue (value : Reader Value) : Reader (List String × Value) := do
  let keys ← key
  char '='
  blanks
  let v ← value
  return (keys, v)

def array (value : Reader Value) : Reader Value := do
  char '['
  let item : Reader Value := do
    layout
    let v ← value
    layout
    return v
  let items ← (do
    let items ← separated (char ',') item
    discard (optional (char ','))
    return items) <|> pure []
  layout
  char ']'
  return .array items

def inlineTable (value : Reader Value) : Reader Value := do
  char '\x7b'
  let pairs ← separated (char ',') (do
      let pair ← keyValue value
      blanks
      return pair) <|> (do blanks; return [])
  char '\x7d'
  let entries : Option Entries := pairs.foldlM (fun entries (keys, v) =>
    Entries.define keys v .inline entries) []
  match entries with
  | some entries => return .table .inline entries
  | none => failure

def value : (depth : Nat) → Reader Value
  | 0 => scalar
  | depth + 1 => array (value depth) <|> inlineTable (value depth) <|> scalar

def header : Reader Statement :=
  (do
    text "[["
    let keys ← key
    text "]]"
    return .element keys) <|> do
    char '['
    let keys ← key
    char ']'
    return .table keys

def line : Reader (List Statement) := do
  blanks
  let statement ← optional (header <|> (fun (keys, v) => .define keys v) <$> keyValue (value 79))
  blanks
  discard (optional comment)
  return statement.toList

def document : Reader (List Statement) := do
  discard (optional (char (Char.ofNat 0xFEFF)))
  List.flatten <$> separated newline line

def parse? (text : String) : Option Entries := do
  build [] [] (← document.readAll text.toList)

end TokenSigner.Toml
