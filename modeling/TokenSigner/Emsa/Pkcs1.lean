import TokenSigner.Error

namespace TokenSigner.Emsa.Pkcs1

def encode (content : Bytes) (length : Nat) : Except Error Bytes :=
  if length < content.length + 11 then .error .blockTooShort
  else .ok (0x00 :: 0x01 :: List.replicate (length - content.length - 3) 0xff ++ 0x00 :: content)

def decode : Bytes → Option Bytes
  | 0x00 :: 0x01 :: filled =>
    match filled.dropWhile (· == 0xff) with
    | 0x00 :: content =>
      if 8 ≤ (filled.takeWhile (· == 0xff)).length then some content else none
    | _ => none
  | _ => none

end TokenSigner.Emsa.Pkcs1
