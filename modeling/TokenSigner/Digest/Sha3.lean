import TokenSigner.Bytes

namespace TokenSigner.Digest.Sha3

abbrev State := Vector UInt64 25

def State.zero : State := Vector.replicate 25 0

def State.lane (s : State) (x y : Nat) : UInt64 :=
  s.get ⟨x % 5 + 5 * (y % 5), by omega⟩

def State.ofLanes (lane : (x y : Nat) → UInt64) : State :=
  Vector.ofFn fun i => lane (i.val % 5) (i.val / 5)

def rotateLeft (w : UInt64) (n : UInt64) : UInt64 :=
  w <<< n ||| w >>> (64 - n)

def offsets : Vector UInt64 25 := #v[
  0, 1, 62, 28, 27,
  36, 44, 6, 55, 20,
  3, 10, 43, 25, 39,
  41, 45, 15, 21, 8,
  18, 2, 61, 56, 14]

def constants : List UInt64 := [
  0x0000000000000001, 0x0000000000008082, 0x800000000000808a, 0x8000000080008000,
  0x000000000000808b, 0x0000000080000001, 0x8000000080008081, 0x8000000000008009,
  0x000000000000008a, 0x0000000000000088, 0x0000000080008009, 0x000000008000000a,
  0x000000008000808b, 0x800000000000008b, 0x8000000000008089, 0x8000000000008003,
  0x8000000000008002, 0x8000000000000080, 0x000000000000800a, 0x800000008000000a,
  0x8000000080008081, 0x8000000000008080, 0x0000000080000001, 0x8000000080008008]

def theta (s : State) : State :=
  let parity : Vector UInt64 5 := Vector.ofFn fun x =>
    s.lane x 0 ^^^ s.lane x 1 ^^^ s.lane x 2 ^^^ s.lane x 3 ^^^ s.lane x 4
  let change : Vector UInt64 5 := Vector.ofFn fun x =>
    parity.get ⟨(x.val + 4) % 5, by omega⟩
      ^^^ rotateLeft (parity.get ⟨(x.val + 1) % 5, by omega⟩) 1
  State.ofLanes fun x y => s.lane x y ^^^ change.get ⟨x % 5, by omega⟩

def rhoPi (s : State) : State :=
  State.ofLanes fun x y =>
    let c := (x + 3 * y) % 5
    rotateLeft (s.lane c x) (offsets.get ⟨c + 5 * (x % 5), by omega⟩)

def chi (s : State) : State :=
  State.ofLanes fun x y => s.lane x y ^^^ ~~~(s.lane (x + 1) y) &&& s.lane (x + 2) y

def round (s : State) (constant : UInt64) : State :=
  let t := chi (rhoPi (theta s))
  t.set 0 (t[0] ^^^ constant)

def permute (s : State) : State :=
  constants.foldl round s

def pad (rate : Nat) (message : Bytes) : Bytes :=
  match rate - message.length % rate with
  | 0 | 1 => message ++ [0x86]
  | n + 2 => message ++ 0x06 :: List.replicate n 0 ++ [0x80]

def absorbBlock (s : State) (block : Bytes) : State :=
  let lanes := ((Bytes.parts 8 block).map fun lane => UInt64.ofNat (Bytes.toNatLittle lane)).toArray
  permute (Vector.ofFn fun i => s[i] ^^^ lanes.getD i.val 0)

def toBytes (s : State) : Bytes :=
  s.toList.flatMap fun lane => Bytes.ofNatLittle 8 lane.toNat

def hash (length : Nat) (message : Bytes) : Bytes :=
  let rate := 200 - 2 * length
  (toBytes ((Bytes.parts rate (pad rate message)).foldl absorbBlock State.zero)).take length

end TokenSigner.Digest.Sha3
