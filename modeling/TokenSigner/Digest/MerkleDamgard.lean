import TokenSigner.Bytes

namespace TokenSigner.Digest.MerkleDamgard

def pad (blockBytes lengthBytes : Nat) (message : Bytes) : Bytes :=
  let used := (message.length + 1 + lengthBytes) % blockBytes
  message ++ 0x80 :: List.replicate ((blockBytes - used) % blockBytes) 0
    ++ Bytes.ofNat lengthBytes (8 * message.length)

def absorb {σ : Type} (blockBytes lengthBytes : Nat) (compress : σ → Bytes → σ) (start : σ)
    (message : Bytes) : σ :=
  (Bytes.parts blockBytes (pad blockBytes lengthBytes message)).foldl compress start

def words32 (block : Bytes) : List UInt32 :=
  (Bytes.parts 4 block).map fun word => UInt32.ofNat (Bytes.toNat word)

def words64 (block : Bytes) : List UInt64 :=
  (Bytes.parts 8 block).map fun word => UInt64.ofNat (Bytes.toNat word)

def rotateLeft32 (w : UInt32) (n : UInt32) : UInt32 :=
  w <<< n ||| w >>> (32 - n)

def rotateRight32 (w : UInt32) (n : UInt32) : UInt32 :=
  w >>> n ||| w <<< (32 - n)

def rotateRight64 (w : UInt64) (n : UInt64) : UInt64 :=
  w >>> n ||| w <<< (64 - n)

end TokenSigner.Digest.MerkleDamgard
