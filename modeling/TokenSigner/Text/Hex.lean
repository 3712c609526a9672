import TokenSigner.Bytes

namespace TokenSigner.Text

def hexDigits (n : Nat) : List Char :=
  if n < 16 then [Nat.digitChar n] else hexDigits (n / 16) ++ [Nat.digitChar (n % 16)]

def hex (n : Nat) : String :=
  String.ofList ('0' :: 'x' :: hexDigits n)

def hexByte (b : UInt8) : List Char :=
  [Nat.digitChar (b.toNat / 16), Nat.digitChar (b.toNat % 16)]

def hexBytes (bytes : Bytes) : String :=
  String.ofList (bytes.flatMap hexByte)

end TokenSigner.Text
