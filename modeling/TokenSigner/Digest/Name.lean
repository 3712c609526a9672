import TokenSigner.Error
import TokenSigner.Text.Blank

namespace TokenSigner.Digest

def ofName? (name : String) : Option Digest :=
  match String.ofList (Text.upperAscii
    ((Text.trim name.toList).filter fun c => c != '-' && c != '_')) with
  | "SHA1" => some sha1
  | "SHA224" => some sha224
  | "SHA256" => some sha256
  | "SHA384" => some sha384
  | "SHA512" => some sha512
  | "SHA3224" => some sha3_224
  | "SHA3256" => some sha3_256
  | "SHA3384" => some sha3_384
  | "SHA3512" => some sha3_512
  | _ => none

def named (name : String) : Except Error Digest :=
  match ofName? name with
  | some digest => .ok digest
  | none => .error (.unknownDigest name)

end TokenSigner.Digest
