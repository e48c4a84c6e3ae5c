import BootSeal.Proofs.Checksum.Burst
import BootSeal.Proofs.Image.Intact
import BootSeal.Proofs.Image.ReadBack
/-!
# Changes that the header checksum shows

An accepted file in which up to four consecutive bytes are changed is not accepted any more, as long as
these bytes lie in front of the checksum field, in it, or between it and the signature block. Outside
the field the checksum of the header changes, and inside it the stored one does. A change of the first
four bytes may also turn the byte order, and then the stored offsets are no longer those of the layout.
-/

namespace BootSeal

open Bytes

/-- Two byte strings of one length that differ, and only from offset `start` up to, not including,
offset `stop`. -/
structure DifferWithin (b b' : Bytes) (start stop : Nat) : Prop where
  length_eq : b'.length = b.length
  outside_eq : ∀ i, i < start ∨ stop ≤ i → b'[i]? = b[i]?
  ne : b' ≠ b

namespace DifferWithin

variable {b b' : Bytes} {start stop : Nat}

theorem widen (h : DifferWithin b b' start stop) {first last : Nat} (hfirst : first ≤ start)
    (hlast : stop ≤ last) : DifferWithin b b' first last where
  length_eq := h.length_eq
  outside_eq i hi := h.outside_eq i (by omega)
  ne := h.ne

/-- A stretch that does not meet the window is the same in both. -/
theorem slice_eq (h : DifferWithin b b' start stop) {i j : Nat} (hout : j ≤ start ∨ stop ≤ i) :
    b'.slice i j = b.slice i j := by
  apply slice_congr
  intro k hi hj
  exact h.outside_eq k (by omega)

theorem slice_ne (h : DifferWithin b b' start stop) : b'.slice start stop ≠ b.slice start stop := by
  intro heq
  apply h.ne
  apply List.ext_getElem?
  intro i
  by_cases hwindow : start ≤ i ∧ i < stop
  · have hget := congrArg (fun x => x[i - start]?) heq
    simp only [getElem?_slice, Nat.add_sub_cancel' hwindow.1, if_pos hwindow.2] at hget
    exact hget
  · exact h.outside_eq i (by omega)

theorem start_lt_stop (h : DifferWithin b b' start stop) : start < stop := by
  refine Decidable.byContradiction fun hle => h.slice_ne ?_
  rw [slice_of_stop_le _ (by omega), slice_of_stop_le _ (by omega)]

/-- A window of up to four bytes changes the checksum of what it lies in. -/
theorem crc32_ne (h : DifferWithin b b' start stop) {i j : Nat} (hi : i ≤ start) (hj : stop ≤ j)
    (hwidth : stop ≤ start + 4) (front rest : Bytes) :
    crc32 (front ++ b'.slice i j ++ rest) ≠ crc32 (front ++ b.slice i j ++ rest) := by
  have hlt := h.start_lt_stop
  have hsplit : ∀ x : Bytes, front ++ x.slice i j ++ rest =
      (front ++ x.slice i start) ++ x.slice start stop ++ (x.slice stop j ++ rest) := by
    intro x
    rw [← slice_append_slice x hi (by omega : start ≤ j),
      ← slice_append_slice x (by omega : start ≤ stop) hj]
    simp only [List.append_assoc]
  intro hcrc
  rw [hsplit, hsplit, h.slice_eq (Or.inl (Nat.le_refl start)), h.slice_eq (Or.inr (Nat.le_refl stop))]
    at hcrc
  apply h.slice_ne
  apply crc32_burst _ _ hcrc
  · rw [length_slice, length_slice, h.length_eq]
  · rw [length_slice]
    omega

theorem of_splice {patch : Bytes} (hstart : start ≤ stop) (hstop : stop ≤ b.length)
    (hpatch : patch.length = stop - start) (hne : patch ≠ b.slice start stop) :
    DifferWithin b (b.splice start stop patch) start stop := by
  have hwhole : b = b.take start ++ b.slice start stop ++ b.drop stop := by
    rw [← slice_zero, slice_append_slice b (Nat.zero_le start) hstart, slice_zero,
      List.take_append_drop]
  refine ⟨length_splice hstart hstop hpatch, ?_, ?_⟩
  · intro i hi
    rw [getElem?_splice hstart hstop hpatch, if_pos hi]
  · intro heq
    apply hne
    exact List.append_cancel_left (List.append_cancel_right (heq.trans hwhole))

end DifferWithin

namespace Image

/-- The stored offset of the chunk table tells the byte order. -/
theorem order_eq_of_encode_eq {order order' : ByteOrder}
    (h : order.encode 8 headerSize = order'.encode 8 headerSize) : order = order' := by
  revert h
  cases order <;> cases order' <;> decide

theorem detectOrder?_congr {b b' : Bytes} (hlength : b'.length = b.length)
    (hmagic : b'.slice 0 4 = b.slice 0 4) : detectOrder? b' = detectOrder? b := by
  rw [slice_zero, slice_zero] at hmagic
  rw [detectOrder?, detectOrder?, hlength, hmagic]

namespace Intact

variable {b : Bytes} {img : Image}

theorem slice_chunkTableOffset (h : Intact b img) :
    b.slice 24 32 = img.order.encode 8 headerSize := by
  have hlength : (b.slice 24 32).length = 8 :=
    length_slice_of_le (Nat.le_trans (by decide) h.headerSize_le_length)
  have hoffset := h.chunkTableOffset_eq
  rw [h.header_eq] at hoffset
  have hdecode : img.order.decode (b.slice 24 32) = headerSize := Int.ofNat.inj hoffset
  rw [← hdecode, ← hlength, ByteOrder.encode_decode]

theorem headerCrc_eq_decode (h : Intact b img) :
    headerCrc b = img.order.decode (b.slice 16 20) := by
  have hcrc := h.crc_eq
  rw [h.header_eq] at hcrc
  exact Int.ofNat.inj hcrc

/-- Two intact files that agree on the offset of the chunk table have one byte order. -/
theorem order_eq (h : Intact b img) {b' : Bytes} {img' : Image} (h' : Intact b' img')
    (hslice : b'.slice 24 32 = b.slice 24 32) : img'.order = img.order := by
  apply order_eq_of_encode_eq
  rw [← h.slice_chunkTableOffset, ← h'.slice_chunkTableOffset, hslice]

end Intact

section Window

variable {b b' : Bytes} {img img' : Image} {start stop : Nat}

/-- A window that leaves both the stored offset and the magic number is too wide. -/
theorem order_eq_of_differWithin (h : Intact b img) (h' : Intact b' img')
    (hdiffer : DifferWithin b b' start stop) (hwindow : 4 ≤ start ∨ stop ≤ 24) :
    img'.order = img.order := by
  rcases hwindow with hstart | hstop
  · have hdetect := detectOrder?_congr hdiffer.length_eq (hdiffer.slice_eq (Or.inl hstart))
    rw [h.detectOrder?_eq, h'.detectOrder?_eq] at hdetect
    exact Option.some.inj hdetect
  · exact h.order_eq h' (hdiffer.slice_eq (Or.inr hstop))

theorem headerCrc_ne_of_differWithin (hlength : headerSize ≤ b.length)
    (hdiffer : DifferWithin b b' start stop) (hwidth : stop ≤ start + 4)
    (hplace : stop ≤ 16 ∨ 20 ≤ start ∧ stop ≤ 304) : headerCrc b' ≠ headerCrc b := by
  have hb : signatureOffset ≤ b.length := Nat.le_trans (by decide) hlength
  have hb' : signatureOffset ≤ b'.length := hdiffer.length_eq ▸ hb
  rw [headerCrc_eq_slices hb, headerCrc_eq_slices hb']
  rcases hplace with hstop | ⟨hstart, hstop⟩
  · have hne := hdiffer.crc32_ne (Nat.zero_le start) hstop hwidth []
      (zeros 4 ++ b.slice 20 304 ++ zeros 144)
    rw [hdiffer.slice_eq (i := 20) (Or.inr (by omega))]
    simpa using hne
  · rw [hdiffer.slice_eq (j := 16) (Or.inl (by omega))]
    exact hdiffer.crc32_ne hstart hstop hwidth (b.slice 0 16 ++ zeros 4) (zeros 144)

/-- No change of up to four consecutive bytes in front of the checksum field, in it, or between it and
the signature block leads from one accepted file to another. -/
theorem verify_ne_ok_of_differWithin (h : (verify b none).1 = .ok)
    (hdiffer : DifferWithin b b' start stop) (hwidth : stop ≤ start + 4)
    (hplace : stop ≤ 16 ∨ 16 ≤ start ∧ stop ≤ 20 ∨ 20 ≤ start ∧ stop ≤ 304)
    (key : Option PublicKey) : (verify b' key).1 ≠ .ok := by
  intro h'
  obtain ⟨img, _, hintact⟩ := intact_of_verify h
  obtain ⟨img', _, hintact'⟩ := intact_of_verify h'
  have hlength := hintact.headerSize_le_length
  have horder := order_eq_of_differWithin hintact hintact' hdiffer (by omega)
  have hstored := hintact'.headerCrc_eq_decode
  rw [horder] at hstored
  rcases (by omega : (16 ≤ start ∧ stop ≤ 20) ∨ (stop ≤ 16 ∨ 20 ≤ start ∧ stop ≤ 304)) with
    ⟨hstart, hstop⟩ | houtside
  -- The field is not covered, so only one of the two files can hold the checksum of both.
  · have hfield := hdiffer.widen hstart hstop
    have hcrc : headerCrc b' = headerCrc b := by
      rw [headerCrc_eq_slices (Nat.le_trans (by decide) hlength),
        headerCrc_eq_slices (hdiffer.length_eq ▸ Nat.le_trans (by decide) hlength),
        hfield.slice_eq (j := 16) (Or.inl (by decide)), hfield.slice_eq (i := 20) (Or.inr (by decide))]
    apply hfield.slice_ne
    rw [hcrc, hintact.headerCrc_eq_decode] at hstored
    apply img.order.eq_of_decode_eq _ hstored.symm
    rw [length_slice, length_slice, hdiffer.length_eq]
  · apply headerCrc_ne_of_differWithin hlength hdiffer hwidth houtside
    rw [hstored, hintact.headerCrc_eq_decode, hdiffer.slice_eq (by omega)]

end Window

/-- The first four bytes of a small image, turned round: the file has its magic number again, in the
other byte order. -/
theorem verify_ne_ok_of_differWithin_magic :
    let file := (twoParts .big).encode [[1, 2, 3]]
    (verify file none).1 = .ok ∧
      (verify (file.splice 0 4 (ByteOrder.little.encode 4 bootMagic.toNat)) none).1 ≠ .ok := by
  intro file
  have haccepted : (verify file none).1 = .ok := by rw [verify_twoParts]
  have hlength := headerSize_le_length_encode (twoParts .big) [[1, 2, 3]]
  refine ⟨haccepted, ?_⟩
  apply verify_ne_ok_of_differWithin haccepted
    (DifferWithin.of_splice (by decide) (Nat.le_trans (by decide) hlength) rfl ?_) (by decide)
    (Or.inl (by decide))
  decide +kernel

end Image

end BootSeal
