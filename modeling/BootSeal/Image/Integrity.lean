import BootSeal.Checksum.Crc32
import BootSeal.Digest.Sha384
import BootSeal.Image.Header
/-!
# Checksum and digest

The checksum covers the header record with its own field and the signature block cleared. The digest
covers the whole image with only the signature block cleared. Neither depends on what the signature
block holds.
-/

namespace BootSeal

def headerCrcOffset : Nat := 16

def headerCrcSize : Nat := 4

/-- Where the signature block starts; it reaches to the end of the header. -/
def signatureOffset : Nat := 304

def signatureBlockSize : Nat := headerSize - signatureOffset

/-- The header record at the front of a file with its signature block cleared. Where a file is too
short for a header, the cleared block is put behind what there is. -/
def clearedHeader (b : Bytes) : Bytes :=
  b.take signatureOffset ++ Bytes.zeros signatureBlockSize

def headerCrc (b : Bytes) : Nat :=
  crc32 ((clearedHeader b).splice headerCrcOffset (headerCrcOffset + headerCrcSize)
    (Bytes.zeros headerCrcSize))

/-- An end offset in a file of `size` bytes; a negative one counts from the end of the file. -/
def endOffset (size : Nat) (stop : Int) : Nat :=
  if stop < 0 then (size + stop).toNat else stop.toNat

/-- What the digest covers: the cleared header and the rest of the file up to an end offset. -/
def digestInput (b : Bytes) (stop : Int) : Bytes :=
  clearedHeader b ++ b.slice headerSize (endOffset b.length stop)

def imageDigest (b : Bytes) (stop : Int) : Bytes := sha384 (digestInput b stop)

end BootSeal
