import Freebox.Digest.Sha1

/-!
# `Freebox.Digest.Hmac` — keyed digests with SHA-1

A key is brought to the length of a block, by its digest if it is longer and by noughts if it is shorter. The message
is digested behind the key combined with one pattern, and the result again behind the key combined with another.

## Contents
- `Hmac.blockKey`: a key of the length of a block.
- `Hmac.sha1`: the keyed digest.
-/

namespace Freebox.Hmac

/-- The key at the length of a block. -/
def blockKey (key : Bytes) : Bytes :=
  let short := if 64 < key.length then Sha1.digest key else key
  short ++ List.replicate (64 - short.length) 0

/-- The keyed digest of a message. -/
def sha1 (key message : Bytes) : Bytes :=
  let k := blockKey key
  Sha1.digest (k.map (· ^^^ 0x5C) ++ Sha1.digest (k.map (· ^^^ 0x36) ++ message))

end Freebox.Hmac
