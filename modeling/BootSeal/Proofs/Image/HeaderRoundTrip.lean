import BootSeal.Proofs.Image.Reencoding
/-!
# The header record in both directions

A record whose integers fit is coded, and what is decoded from the code is the record with its byte
fields brought to their widths. A byte string that is long enough is decoded to such a record, whose code
is the string again but for the four bytes that hold nothing.
-/

namespace BootSeal.Header

open Bytes

variable {h : Header} {b : Bytes}

/-- The integer fields of a record, each with its width. -/
def integers (h : Header) : List (Nat × Int) :=
  [(4, h.magic), (4, h.version), (8, h.headerLength), (4, h.headerCrc), (8, h.chunkTableOffset),
    (8, h.ziTableOffset), (8, h.imageLength)]

theorem fits_iff : h.Fits ↔ ∀ f ∈ h.integers, FitsWidth f.1 f.2 := by
  simp only [Fits, integers, List.forall_mem_cons, List.not_mem_nil, false_implies, implies_true,
    and_true]

theorem not_fitsWidth_iff {width : Nat} {v : Int} :
    ¬FitsWidth width v ↔ v < 0 ∨ 256 ^ width ≤ v := by
  rw [FitsWidth, fieldValues_eq_pow, Nat.cast_pow, Nat.cast_ofNat]
  omega

/-- A record has no code just if one of its integers is outside its field. -/
theorem encode?_eq_none_iff {order : ByteOrder} :
    h.encode? order = none ↔ ∃ f ∈ h.integers, f.2 < 0 ∨ 256 ^ f.1 ≤ f.2 := by
  simp only [← not_fitsWidth_iff]
  rw [encode?, ite_eq_right_iff, fits_iff]
  simp only [reduceCtorEq, imp_false, not_forall, exists_prop]

/-- What stands before the zeros of a name is the same whether the name is filled up or not. -/
theorem restored_eq : h.restored =
    { h with
      setName := stripZeros (h.setName.take setNameSize)
      digest := fit digestSize h.digest
      signature := fit signatureSize h.signature } := by
  rw [restored, fit, stripZeros_append_zeros]
  rfl

theorem decode?_encode (hfits : h.Fits) (order : ByteOrder) :
    decode? order (h.encode order) = some h.restored := by
  rw [decode?, if_pos (by rw [length_encode]), ← List.append_nil (h.encode order),
    decode_encode hfits]

theorem decode_fits (order : ByteOrder) (hlength : headerSize ≤ b.length) :
    (Header.decode order b).Fits := by
  have hsize : headerSize = 448 := rfl
  refine ⟨?_, ?_, ?_, ?_, ?_, ?_, ?_⟩ <;>
    exact FitsWidth.decode order (length_slice_of_le (by omega))

/-- The code of a decoded record is what it was decoded from, with the reserved bytes cleared. -/
theorem encode?_decode (order : ByteOrder) (hlength : headerSize ≤ b.length) :
    (Header.decode order b).encode? order =
      some (splice (b.take headerSize) 20 24 (zeros 4)) := by
  rw [encode?_eq_some_iff, encode_decode_eq_slices order hlength, splice, List.take_take]
  exact ⟨decode_fits order hlength, rfl⟩

theorem detectOrder?_encode (order : ByteOrder) (hmagic : h.magic = bootMagic) :
    Image.detectOrder? (h.encode order) = some order := by
  rw [Image.detectOrder?_eq_some_iff, ← List.append_nil (h.encode order)]
  exact Image.hasMagic_encode order hmagic []

/-- A record has no code just if one of its integers is outside its field. Otherwise its code is one header
long and is decoded to the record, with the name cut and without the zeros at its end and with the two parts
of the signature block at their widths; and a record with the magic number shows its byte order. In turn
every string of at least a header is decoded, to a record whose code is the front of the string with the
reserved bytes cleared. -/
theorem encode?_decode?_roundTrip (order : ByteOrder) :
    (∀ h : Header, h.encode? order = none ↔ ∃ f ∈ h.integers, f.2 < 0 ∨ 256 ^ f.1 ≤ f.2) ∧
    (∀ h : Header, (∀ f ∈ h.integers, 0 ≤ f.2 ∧ f.2 < 256 ^ f.1) →
      ∃ b, h.encode? order = some b ∧ b.length = headerSize ∧
        decode? order b = some { h with
          setName := stripZeros (h.setName.take setNameSize)
          digest := fit digestSize h.digest
          signature := fit signatureSize h.signature } ∧
        (h.magic = bootMagic → Image.detectOrder? b = some order)) ∧
    ∀ b : Bytes, headerSize ≤ b.length →
      ∃ h, decode? order b = some h ∧
        h.encode? order = some (splice (b.take headerSize) 20 24 (zeros 4)) := by
  refine ⟨fun h => encode?_eq_none_iff, fun h hintegers => ?_, fun b hlength => ?_⟩
  · have hfits : h.Fits := by
      rw [fits_iff]
      intro f hf
      by_contra hnot
      have hrange := hintegers f hf
      rcases not_fitsWidth_iff.mp hnot with hneg | hlarge <;> omega
    refine ⟨h.encode order, encode?_eq_some_iff.mpr ⟨hfits, rfl⟩, length_encode order h, ?_,
      detectOrder?_encode order⟩
    rw [decode?_encode hfits, restored_eq]
  · exact ⟨_, if_pos hlength, encode?_decode order hlength⟩

end BootSeal.Header
