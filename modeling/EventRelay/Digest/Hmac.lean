import EventRelay.Digest.Sha256

/-!
# Keyed hashing

HMAC over SHA-256: the key, brought to one block, is mixed with two constants; the hash of the
inner block and the message is hashed again behind the outer block.
-/

namespace EventRelay.Digest

/-- The key as one block: hashed if it is longer than a block, then filled with zero bytes. -/
def keyBlock (key : Bytes) : Bytes :=
  let k := if 64 < key.length then Sha256.hash key else key
  k ++ List.replicate (64 - k.length) 0

/-- HMAC-SHA256 of a message under a key. -/
def hmac (key message : Bytes) : Bytes :=
  let block := keyBlock key
  let inner := Sha256.hash (block.map (· ^^^ 0x36) ++ message)
  Sha256.hash (block.map (· ^^^ 0x5c) ++ inner)

end EventRelay.Digest
