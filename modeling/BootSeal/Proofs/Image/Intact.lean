import BootSeal.Proofs.Bytes.Slice
import BootSeal.Proofs.Image.Authenticity
import BootSeal.Proofs.Image.Canonical
/-!
# Intact files

What every accepted file satisfies, with a key or without one: it can be read, its length and its
layout are those that its header gives, and so is its checksum. The checksum is told in terms of the
stretches of the file that it covers.
-/

namespace BootSeal

open Bytes

/-- The checksum covers the header up to its own field, and from there to the signature block. -/
theorem headerCrc_eq_slices {b : Bytes} (h : signatureOffset ≤ b.length) :
    headerCrc b = crc32 (b.slice 0 16 ++ zeros 4 ++ b.slice 20 304 ++ zeros 144) := by
  have hlength : 304 ≤ b.length := h
  have hcleared : clearedHeader b =
      b.slice 0 16 ++ b.slice 16 20 ++ (b.slice 20 304 ++ zeros 144) := by
    rw [← List.append_assoc, slice_append_slice b (by omega) (by omega),
      slice_append_slice b (by omega) (by omega), slice_zero]
    rfl
  have hsplice := splice_field (b.slice 0 16) (b.slice 16 20) (b.slice 20 304 ++ zeros 144) (zeros 4)
  rw [length_slice_of_le (by omega), length_slice_of_le (by omega)] at hsplice
  rw [headerCrc, hcleared, List.append_assoc _ (b.slice 20 304)]
  exact congrArg crc32 hsplice

namespace Image

/-- A file whose image is consistent with it, whether signed or not. -/
structure Intact (b : Bytes) (img : Image) : Prop where
  read_eq : read b = .ok img
  length_eq : img.header.imageLength = b.length
  follows : img.FollowsLayout
  crc_eq : (headerCrc b : Int) = img.header.headerCrc

theorem verify_none_eq_ok_iff {b : Bytes} {img : Image} :
    verify b none = (.ok, some img) ↔ Intact b img := by
  rw [verify_eq_ok_iff]
  unfold verdict
  constructor
  · rintro ⟨hread, hverdict⟩
    split at hverdict
    next => cases hverdict
    next hlength =>
      split at hverdict
      next => cases hverdict
      next hfollows =>
        split at hverdict
        next => cases hverdict
        next hcrc =>
          exact ⟨hread, Decidable.not_not.mp hlength, Decidable.not_not.mp hfollows,
            Decidable.not_not.mp hcrc⟩
  · intro h
    refine ⟨h.read_eq, ?_⟩
    rw [if_neg (not_not_intro h.length_eq), if_neg (not_not_intro h.follows),
      if_neg (not_not_intro h.crc_eq)]

theorem exists_of_verify_fst_eq_ok {b : Bytes} {key : Option PublicKey}
    (h : (verify b key).1 = .ok) : ∃ img, verify b key = (.ok, some img) := by
  unfold verify at h
  split at h
  next => cases h
  next =>
    split at h
    next => cases h
    next =>
      split at h
      next => cases h
      next img hread => exact ⟨img, verify_eq_ok_iff.mpr ⟨hread, h⟩⟩

/-- Whatever the key, only intact files are accepted. -/
theorem intact_of_verify {b : Bytes} {key : Option PublicKey} (h : (verify b key).1 = .ok) :
    ∃ img, verify b key = (.ok, some img) ∧ Intact b img := by
  obtain ⟨img, hverify⟩ := exists_of_verify_fst_eq_ok h
  refine ⟨img, hverify, ?_⟩
  apply verify_none_eq_ok_iff.mp
  cases key with
  | none => exact hverify
  | some k => exact (verify_some_eq_ok_iff.mp hverify).1

namespace Intact

variable {b : Bytes} {img : Image}

theorem headerSize_le_length (h : Intact b img) : headerSize ≤ b.length := (read_eq_ok h.read_eq).1

theorem detectOrder?_eq (h : Intact b img) : detectOrder? b = some img.order :=
  (read_eq_ok h.read_eq).2.1

theorem header_eq (h : Intact b img) : img.header = Header.decode img.order b :=
  (read_eq_ok h.read_eq).2.2

theorem readTables_eq (h : Intact b img) : readTables img.order img.header b = .ok img :=
  readTables_of_read h.read_eq

theorem chunkTableOffset_eq (h : Intact b img) : img.header.chunkTableOffset = headerSize := by
  rw [h.follows.1, Layout.chunkTableOffset_of_dvd headerSize_dvd]

end Intact

end Image

end BootSeal
