import TokenSigner.Text.Hex
import TokenSigner.Text.Utf8

namespace TokenSigner

inductive KeyIdentifier where
  | label (text : String)
  | id (bytes : Bytes)
  deriving DecidableEq, Repr

namespace KeyIdentifier

def value : KeyIdentifier → Bytes
  | label text => Text.utf8 text
  | id bytes => bytes

def cacheKey : KeyIdentifier → Bytes
  | label text => 0x4C :: Text.utf8 text
  | id bytes => 0x49 :: bytes

def display : KeyIdentifier → String
  | label text => "label '" ++ text ++ "'"
  | id bytes => "id 0x" ++ Text.hexBytes bytes

end KeyIdentifier

end TokenSigner
