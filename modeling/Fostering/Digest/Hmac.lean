import Fostering.Digest.Sha256

/-!
# Keyed digests

The keyed digest of a message: the digest of the message is taken twice, each time after the key in a
different disguise.
-/

namespace Fostering.Hmac

/-- The bytes of a block of the digest below. -/
def blockLength : Nat := 64

/-- A key of exactly one block: a longer key is digested first, a shorter one filled up with zeros. -/
def blockKey (key : Bytes) : Bytes :=
  let key := if blockLength < key.length then Sha256.digest key else key
  key ++ List.replicate (blockLength - key.length) 0

/-- The keyed digest of a message: 32 bytes. -/
def digest (key message : Bytes) : Bytes :=
  let key := blockKey key
  let inner := Sha256.digest (key.map (· ^^^ 0x36) ++ message)
  Sha256.digest (key.map (· ^^^ 0x5c) ++ inner)

end Fostering.Hmac
