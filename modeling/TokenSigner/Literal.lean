import TokenSigner.Text.Blank

namespace TokenSigner.Literal

def digit? (base : Nat) (c : Char) : Option Nat :=
  let n := c.toNat
  let d := if 48 ≤ n ∧ n ≤ 57 then n - 48 else if 65 ≤ n ∧ n ≤ 90 then n - 55 else base
  if d < base then some d else none

def value? (base : Nat) (digits : List Char) : Option Nat :=
  digits.foldlM (fun n c => (digit? base c).map (n * base + ·)) 0

def number? (base : Nat) (cs : List Char) : Option UInt64 :=
  let digits := match cs with
    | '+' :: rest => rest
    | _ => cs
  if digits.isEmpty then none
  else (value? base digits).bind fun n => if n < UInt64.size then some (UInt64.ofNat n) else none

def dropSuffix (cs : List Char) : List Char :=
  ((['U', 'L'].isSuffixOf? cs).or (['L'].isSuffixOf? cs)).getD cs

def unsigned? (suffix : Bool) (cs : List Char) : Option UInt64 :=
  let (base, digits) := match cs with
    | '0' :: 'X' :: rest => (16, rest)
    | _ => (10, cs)
  number? base (if suffix then dropSuffix digits else digits)

def parse? (suffix : Bool) (cs : List Char) : Option UInt64 :=
  unsigned? suffix (Text.upperAscii (Text.trim cs))

end TokenSigner.Literal
