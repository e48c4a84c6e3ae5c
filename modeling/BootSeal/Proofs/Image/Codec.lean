import BootSeal.Image.Header
import BootSeal.Image.Descriptor
import BootSeal.Proofs.Bytes.Field
/-!
# Reading back a record

The codes of descriptors and of the header record are rows of fields. Decoding looks at the front of
what it is given, and for values that fit their fields it gives them back, whatever follows the code.
-/

namespace BootSeal

open Bytes

namespace FitsWidth

theorem toNat_lt {width : Nat} {v : Int} (h : FitsWidth width v) : v.toNat < fieldValues width := by
  obtain ⟨hnonneg, hlt⟩ := h
  omega

theorem decode_encode {width : Nat} {v : Int} (h : FitsWidth width v) (order : ByteOrder) :
    (order.decode (order.encode width v.toNat) : Int) = v := by
  rw [ByteOrder.decode_encode order width _ h.toNat_lt]
  exact Int.toNat_of_nonneg h.1

theorem zero (width : Nat) : FitsWidth width 0 :=
  ⟨Int.le_refl 0, Int.natCast_pos.mpr (fieldValues_pos width)⟩

end FitsWidth

theorem Chunk.decode_encode {c : Chunk} (h : c.Fits) (order : ByteOrder) (rest : Bytes) :
    Chunk.decode order (c.encode order ++ rest) = c := by
  obtain ⟨howner, hload, hexec, hsize, hcrc⟩ := h
  cases c
  simp only [Chunk.decode, Chunk.encode, slice_append, List.length_append, ByteOrder.length_encode,
    length_zeros]
  simp [slice_of_le_length, slice_of_length_le, FitsWidth.decode_encode, *]

theorem ZiChunk.decode_encode {c : ZiChunk} (h : c.Fits) (order : ByteOrder) (rest : Bytes) :
    ZiChunk.decode order (c.encode order ++ rest) = c := by
  obtain ⟨howner, hexec, hsize⟩ := h
  cases c
  simp only [ZiChunk.decode, ZiChunk.encode, slice_append, List.length_append,
    ByteOrder.length_encode, length_zeros]
  simp [slice_of_le_length, slice_of_length_le, FitsWidth.decode_encode, *]

theorem Chunk.encode_sentinel (order : ByteOrder) :
    Chunk.sentinel.encode order = zeros Layout.chunkEntrySize := by
  simp [Chunk.encode, Chunk.sentinel, zeros, Layout.chunkEntrySize]

theorem ZiChunk.encode_sentinel (order : ByteOrder) :
    ZiChunk.sentinel.encode order = zeros Layout.ziEntrySize := by
  simp [ZiChunk.encode, ZiChunk.sentinel, zeros, Layout.ziEntrySize]

namespace Header

theorem encode?_eq_some_iff {order : ByteOrder} {h : Header} {b : Bytes} :
    h.encode? order = some b ↔ h.Fits ∧ h.encode order = b := by
  unfold encode?
  by_cases hfits : h.Fits
  · simp [hfits]
  · simp [hfits]

/-- A header as it is read back: the byte fields have their widths, and the set name has lost the
zeros at its end. -/
def restored (h : Header) : Header :=
  { h with
    setName := stripZeros (fit setNameSize h.setName)
    digest := fit 48 h.digest
    signature := fit 96 h.signature }

theorem decode_encode {h : Header} (hfits : h.Fits) (order : ByteOrder) (rest : Bytes) :
    Header.decode order (h.encode order ++ rest) = h.restored := by
  obtain ⟨hmagic, hversion, hheader, hcrc, hchunks, hzi, himage⟩ := hfits
  cases h
  simp only [Header.decode, Header.encode, slice_append, List.length_append,
    ByteOrder.length_encode, length_zeros, length_fit, setNameSize]
  simp [slice_of_le_length, slice_of_length_le, FitsWidth.decode_encode, restored, setNameSize, *]

end Header

end BootSeal
