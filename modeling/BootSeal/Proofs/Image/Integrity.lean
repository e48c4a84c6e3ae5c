import BootSeal.Image.Integrity
import BootSeal.Proofs.Bytes.Field
/-!
# What the checksum covers

The code of a header is a front part and the signature block. Clearing the block and the checksum
leaves the code of the bare header, so the checksum can be computed before and after it is stored, and
before and after the image is signed, with the same outcome.
-/

namespace BootSeal

open Bytes

namespace Header

/-- The code in front of the signature block. -/
def front (order : ByteOrder) (h : Header) : Bytes :=
  order.encode 4 h.magic.toNat ++ order.encode 4 h.version.toNat
    ++ order.encode 8 h.headerLength.toNat ++ order.encode 4 h.headerCrc.toNat ++ Bytes.zeros 4
    ++ order.encode 8 h.chunkTableOffset.toNat ++ order.encode 8 h.ziTableOffset.toNat
    ++ Bytes.fit setNameSize h.setName ++ order.encode 8 h.imageLength.toNat

theorem encode_eq_front (order : ByteOrder) (h : Header) :
    h.encode order = h.front order ++ (fit 48 h.digest ++ fit 96 h.signature) := by
  simp [encode, front]

theorem length_front (order : ByteOrder) (h : Header) :
    (h.front order).length = signatureOffset := by
  simp [front, signatureOffset, setNameSize]

/-- The code of a header that is not signed ends in zeros. -/
theorem encode_eq_front_zeros (order : ByteOrder) {h : Header} (hdigest : h.digest = zeros 48)
    (hsignature : h.signature = zeros 96) :
    h.encode order = h.front order ++ zeros signatureBlockSize := by
  rw [encode_eq_front, hdigest, hsignature, fit_of_length_eq (length_zeros 48),
    fit_of_length_eq (length_zeros 96)]
  exact congrArg _ List.replicate_append_replicate

/-- The header without its checksum and its signature block. -/
def bare (h : Header) : Header := { h with headerCrc := 0, digest := [], signature := [] }

theorem clearedHeader_encode (order : ByteOrder) (h : Header) (rest : Bytes) :
    clearedHeader (h.encode order ++ rest) = h.front order ++ zeros signatureBlockSize := by
  rw [clearedHeader, encode_eq_front, List.append_assoc, ← length_front order h, List.take_left]

theorem front_splice (order : ByteOrder) (h : Header) (rest : Bytes) :
    (h.front order ++ rest).splice headerCrcOffset (headerCrcOffset + headerCrcSize)
      (zeros headerCrcSize) = h.bare.front order ++ rest := by
  -- The checksum stands between the first three fields and all others.
  have hfield := splice_field
    (order.encode 4 h.magic.toNat ++ order.encode 4 h.version.toNat
      ++ order.encode 8 h.headerLength.toNat)
    (order.encode 4 h.headerCrc.toNat)
    (zeros 4 ++ order.encode 8 h.chunkTableOffset.toNat ++ order.encode 8 h.ziTableOffset.toNat
      ++ fit setNameSize h.setName ++ order.encode 8 h.imageLength.toNat ++ rest) (zeros 4)
  simp only [List.length_append, ByteOrder.length_encode] at hfield
  simpa [front, bare, headerCrcOffset, headerCrcSize] using hfield

/-- The checksum of a header depends neither on the checksum field nor on the signature block. -/
theorem headerCrc_encode (order : ByteOrder) (h : Header) (rest : Bytes) :
    BootSeal.headerCrc (h.encode order ++ rest) = crc32 (h.bare.encode order) := by
  rw [BootSeal.headerCrc, clearedHeader_encode, front_splice, encode_eq_front order h.bare]
  simp [bare, fit, zeros, signatureBlockSize, signatureOffset, headerSize]

end Header

end BootSeal
