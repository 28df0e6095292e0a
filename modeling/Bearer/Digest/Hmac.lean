import Bearer.Digest.Sha2
/-! Keyed digests: the hash of a message under a secret, with the secret padded to one block. -/

namespace Bearer

/-- A secret longer than a block counts as its hash. -/
def Hash.keyBlock (H : Hash) (secret : List UInt8) : List UInt8 :=
  let key := if secret.length ≤ H.blockBytes then secret else H.digest secret
  key ++ List.replicate (H.blockBytes - key.length) 0

def Hash.hmac (H : Hash) (secret message : List UInt8) : List UInt8 :=
  let key := H.keyBlock secret
  H.digest (key.map (· ^^^ 0x5c) ++ H.digest (key.map (· ^^^ 0x36) ++ message))

end Bearer
