import BootSeal.Digest.Sha256
import BootSeal.Digest.Sha384
/-!
# Keyed digests

A digest function with its block size carries HMAC: the key, cut down to a digest if it is longer
than a block and filled with zeros, is combined with two constant pads. Keys that differ only in
zeros at the end therefore give the same code.
-/

namespace BootSeal

/-- A digest function with the block size that HMAC needs to know. -/
structure Digest where
  hash : Bytes → Bytes
  blockSize : Nat

namespace Digest

def sha256 : Digest := ⟨BootSeal.sha256, 64⟩

def sha384 : Digest := ⟨BootSeal.sha384, 128⟩

def keyBlock (d : Digest) (key : Bytes) : Bytes :=
  Bytes.fit d.blockSize (if d.blockSize < key.length then d.hash key else key)

def hmac (d : Digest) (key message : Bytes) : Bytes :=
  let block := d.keyBlock key
  d.hash (block.map (· ^^^ 0x5C) ++ d.hash (block.map (· ^^^ 0x36) ++ message))

end Digest

end BootSeal
