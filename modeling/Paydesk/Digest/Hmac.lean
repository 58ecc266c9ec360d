import Paydesk.Digest.Sha256

/-!
# Keyed digests

The message authentication code over SHA-256: the digest of the message is taken twice, each time
after the key, which is first brought to the length of a block and mixed with a constant.
-/

namespace Paydesk.Hmac

def blockLength : Nat := 64

/-- The key at the length of a block: a longer one is digested, and zeros are added. -/
def blockKey (key : List UInt8) : List UInt8 :=
  let short := if blockLength < key.length then Sha256.digest key else key
  short ++ List.replicate (blockLength - short.length) 0

/-- The key mixed with a constant byte. -/
def mixed (key : List UInt8) (constant : UInt8) : List UInt8 :=
  (blockKey key).map fun b => b ^^^ constant

/-- The code of a message under a key. -/
def code (key message : List UInt8) : List UInt8 :=
  Sha256.digest (mixed key 0x5c ++ Sha256.digest (mixed key 0x36 ++ message))

end Paydesk.Hmac
