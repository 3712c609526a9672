import TokenSigner.Digest.MerkleDamgard

namespace TokenSigner.Digest.Sha1

open MerkleDamgard

structure State where
  a : UInt32
  b : UInt32
  c : UInt32
  d : UInt32
  e : UInt32

namespace State

def start : State := ⟨0x67452301, 0xefcdab89, 0x98badcfe, 0x10325476, 0xc3d2e1f0⟩

def add (s t : State) : State := ⟨s.a + t.a, s.b + t.b, s.c + t.c, s.d + t.d, s.e + t.e⟩

def toBytes (s : State) : Bytes :=
  [s.a, s.b, s.c, s.d, s.e].flatMap fun w => Bytes.ofNat 4 w.toNat

end State

def extend : (count : Nat) → List UInt32 → List UInt32
  | 0, words => words
  | count + 1, words =>
    let w := words.getD 2 0 ^^^ words.getD 7 0 ^^^ words.getD 13 0 ^^^ words.getD 15 0
    extend count (rotateLeft32 w 1 :: words)

def schedule (block : Bytes) : List UInt32 :=
  (extend 64 (words32 block).reverse).reverse

def mix (t : Nat) (b c d : UInt32) : UInt32 :=
  if t < 20 then (b &&& c ||| ~~~b &&& d) + 0x5a827999
  else if t < 40 then (b ^^^ c ^^^ d) + 0x6ed9eba1
  else if t < 60 then (b &&& c ||| b &&& d ||| c &&& d) + 0x8f1bbcdc
  else (b ^^^ c ^^^ d) + 0xca62c1d6

def round (s : State) (t : Nat) (w : UInt32) : State :=
  ⟨rotateLeft32 s.a 5 + mix t s.b s.c s.d + s.e + w, s.a, rotateLeft32 s.b 30, s.c, s.d⟩

def compress (s : State) (block : Bytes) : State :=
  s.add ((schedule block).foldl (fun (t, r) w => (t + 1, round r t w)) (0, s)).2

def hash (message : Bytes) : Bytes :=
  (absorb 64 8 compress State.start message).toBytes

end TokenSigner.Digest.Sha1
