import TokenSigner.Der
import TokenSigner.Error

namespace TokenSigner.Ecdsa

inductive Encoding where
  | der
  | plain
  deriving DecidableEq, Repr

def component (fieldLength : Nat) (value : Bytes) : Except Error Bytes :=
  let significant := Bytes.stripZeros value
  if fieldLength < significant.length then .error (.ecdsaComponentTooLarge fieldLength)
  else .ok (Bytes.padLeft fieldLength significant)

-- takes integers in as few bytes as they need
abbrev Writer := (r s : Bytes) → Except String Bytes

def inDer (r s : Bytes) : Bytes :=
  Der.sequence [Der.integer r, Der.integer s]

-- the most bytes that an integer can be read from
def longestHalf : Nat := 0x7fffffff

def encode (write : Writer) (encoding : Encoding) (fieldLength : Nat) (raw : Bytes) :
    Except Error Bytes :=
  if raw.length = 0 ∨ raw.length % 2 ≠ 0 then .error (.oddEcdsaSignature raw.length)
  else
    let r := raw.take (raw.length / 2)
    let s := raw.drop (raw.length / 2)
    match encoding with
    | .der =>
      if longestHalf < r.length then .error (.oversized r.length)
      else (write (Bytes.stripZeros r) (Bytes.stripZeros s)).mapError .cryptography
    | .plain => do
      let r ← component fieldLength r
      let s ← component fieldLength s
      return r ++ s

def ofDer? (signature : Bytes) : Option (Nat × Nat) := do
  let (items, after) ← Der.tagged? 0x30 signature
  let (r, items) ← Der.tagged? 0x02 items
  let (s, items) ← Der.tagged? 0x02 items
  guard (after = [] ∧ items = [])
  return (← Der.natural? r, ← Der.natural? s)

end TokenSigner.Ecdsa
