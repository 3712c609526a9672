import TokenSigner.Bytes

namespace TokenSigner.Der

def length (n : Nat) : Bytes :=
  if n < 128 then [UInt8.ofNat n]
  else
    let width := n.log2 / 8 + 1
    UInt8.ofNat (128 + width) :: Bytes.ofNat width n

def tagged (tag : UInt8) (contents : Bytes) : Bytes :=
  tag :: length contents.length ++ contents

def magnitude (value : Bytes) : Bytes :=
  match Bytes.stripZeros value with
  | [] => [0]
  | b :: rest => if 128 ≤ b then 0 :: b :: rest else b :: rest

def integer (value : Bytes) : Bytes :=
  tagged 0x02 (magnitude value)

def sequence (items : List Bytes) : Bytes :=
  tagged 0x30 items.flatten

def length? : Bytes → Option (Nat × Bytes)
  | [] => none
  | b :: rest =>
    if b < 128 then some (b.toNat, rest)
    else
      let width := b.toNat - 128
      let octets : Bytes := rest.take width
      if octets.length = width ∧ octets.head?.any (· != 0) ∧ 128 ≤ octets.toNat then
        some (octets.toNat, rest.drop width)
      else none

def tagged? (tag : UInt8) : Bytes → Option (Bytes × Bytes)
  | [] => none
  | t :: rest =>
    if t = tag then
      (length? rest).bind fun (length, rest) =>
        if length ≤ rest.length then some (rest.take length, rest.drop length) else none
    else none

def natural? : Bytes → Option Nat
  | [] => none
  | b :: rest =>
    if 128 ≤ b ∨ (b = 0 ∧ rest.head?.any (· < 128)) then none else some (Bytes.toNat (b :: rest))

end TokenSigner.Der
