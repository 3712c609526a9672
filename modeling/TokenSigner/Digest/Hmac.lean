import TokenSigner.Digest

namespace TokenSigner.Digest

def hmacBlock (digest : Digest) (key : Bytes) : Bytes :=
  let short := if digest.blockLength < key.length then digest.hash key else key
  short ++ List.replicate (digest.blockLength - short.length) 0

def hmac (digest : Digest) (key message : Bytes) : Bytes :=
  let block := digest.hmacBlock key
  digest.hash (block.map (· ^^^ 0x5c) ++ digest.hash (block.map (· ^^^ 0x36) ++ message))

end TokenSigner.Digest
