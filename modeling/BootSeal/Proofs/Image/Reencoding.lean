import BootSeal.Proofs.Image.Tiling
/-!
# Coding again what was read

A record that was read has the code it was read from, except for the bytes that hold nothing. Where
these are zero, the header, the tables and the blobs of an accepted file make up the file again.
-/

namespace BootSeal

open Bytes

/-- A text that is filled up with zeros is what stands in front of them, filled up again. -/
theorem Bytes.fit_stripZeros {width : Nat} {b : Bytes} (h : b.length = width) :
    fit width b.stripZeros = b := by
  have hzeros : b.reverse.takeWhile (· == 0) = zeros (b.reverse.takeWhile (· == 0)).length :=
    List.eq_replicate_iff.mpr ⟨rfl, fun x hx => by simpa using List.mem_takeWhile_imp hx⟩
  have hsplit : b.stripZeros ++ zeros (b.reverse.takeWhile (· == 0)).length = b := by
    rw [← List.reverse_inj, List.reverse_append, stripZeros, List.reverse_reverse, zeros,
      List.reverse_replicate, ← zeros, ← hzeros, List.takeWhile_append_dropWhile]
  have hlength := congrArg List.length hsplit
  rw [List.length_append, length_zeros] at hlength
  rw [fit_of_length_le (by omega), ← h, ← hlength, Nat.add_sub_cancel_left]
  exact hsplit

/-- A field that was read is coded as it stands. -/
theorem ByteOrder.encode_decode_slice (order : ByteOrder) {b : Bytes} (start stop : Nat)
    (h : stop ≤ b.length) :
    order.encode (stop - start) (Int.toNat (order.decode (b.slice start stop))) =
      b.slice start stop := by
  have hcode := order.encode_decode (b.slice start stop)
  rwa [length_slice_of_le h] at hcode

/-! ## Records -/

section Records

variable (order : ByteOrder) {b : Bytes}

/-- A descriptor is coded as it stands, but for the bytes behind its 32-bit fields. -/
theorem Chunk.encode_decode_eq_slices (hlength : b.length = 40) :
    (Chunk.decode order b).encode order = b.slice 0 4 ++ zeros 4 ++ b.slice 8 36 ++ zeros 4 := by
  have hfield := fun start stop (h : stop ≤ 40) =>
    order.encode_decode_slice (b := b) start stop (hlength ▸ h)
  calc (Chunk.decode order b).encode order
      = b.slice 0 4 ++ zeros 4 ++ b.slice 8 16 ++ b.slice 16 24 ++ b.slice 24 32
          ++ b.slice 32 36 ++ zeros 4 := by
        rw [← hfield 0 4 (by omega), ← hfield 8 16 (by omega), ← hfield 16 24 (by omega),
          ← hfield 24 32 (by omega), ← hfield 32 36 (by omega)]
        rfl
    _ = b.slice 0 4 ++ zeros 4
          ++ (b.slice 8 16 ++ b.slice 16 24 ++ b.slice 24 32 ++ b.slice 32 36) ++ zeros 4 := by
        simp only [List.append_assoc]
    _ = b.slice 0 4 ++ zeros 4 ++ b.slice 8 36 ++ zeros 4 := by
        simp (disch := omega) only [slice_append_slice]

theorem Chunk.encode_decode (hlength : b.length = 40) (hfirst : b.slice 4 8 = zeros 4)
    (hlast : b.slice 36 40 = zeros 4) : (Chunk.decode order b).encode order = b := by
  calc (Chunk.decode order b).encode order
      = b.slice 0 4 ++ zeros 4 ++ b.slice 8 36 ++ zeros 4 :=
        Chunk.encode_decode_eq_slices order hlength
    _ = b.slice 0 4 ++ b.slice 4 8 ++ b.slice 8 36 ++ b.slice 36 40 := by rw [hfirst, hlast]
    _ = b := by
        simp (disch := omega) only [slice_append_slice]
        exact slice_of_le_length (by omega)

theorem ZiChunk.encode_decode_eq_slices (hlength : b.length = 24) :
    (ZiChunk.decode order b).encode order = b.slice 0 4 ++ zeros 4 ++ b.slice 8 24 := by
  have hfield := fun start stop (h : stop ≤ 24) =>
    order.encode_decode_slice (b := b) start stop (hlength ▸ h)
  calc (ZiChunk.decode order b).encode order
      = b.slice 0 4 ++ zeros 4 ++ b.slice 8 16 ++ b.slice 16 24 := by
        rw [← hfield 0 4 (by omega), ← hfield 8 16 (by omega), ← hfield 16 24 (by omega)]
        rfl
    _ = b.slice 0 4 ++ zeros 4 ++ b.slice 8 24 := by
        rw [List.append_assoc, slice_append_slice b (by omega) (by omega)]

theorem ZiChunk.encode_decode (hlength : b.length = 24) (hpad : b.slice 4 8 = zeros 4) :
    (ZiChunk.decode order b).encode order = b := by
  calc (ZiChunk.decode order b).encode order
      = b.slice 0 4 ++ zeros 4 ++ b.slice 8 24 := ZiChunk.encode_decode_eq_slices order hlength
    _ = b.slice 0 4 ++ b.slice 4 8 ++ b.slice 8 24 := by rw [hpad]
    _ = b := by
        simp (disch := omega) only [slice_append_slice]
        exact slice_of_le_length (by omega)

/-- The header of a file is coded as it stands, but for the bytes behind the checksum. -/
theorem Header.encode_decode_eq_slices (hlength : headerSize ≤ b.length) :
    (Header.decode order b).encode order = b.slice 0 20 ++ zeros 4 ++ b.slice 24 headerSize := by
  have hsize : headerSize = 448 := rfl
  have hfield := fun start stop (h : stop ≤ 448) =>
    order.encode_decode_slice (b := b) start stop (by omega)
  have hname : fit 256 (b.slice 40 296).stripZeros = b.slice 40 296 :=
    fit_stripZeros (length_slice_of_le (by omega))
  have hdigest : fit 48 (b.slice 304 352) = b.slice 304 352 :=
    fit_of_length_eq (length_slice_of_le (by omega))
  have hsignature : fit 96 (b.slice 352 448) = b.slice 352 448 :=
    fit_of_length_eq (length_slice_of_le (by omega))
  calc (Header.decode order b).encode order
      = b.slice 0 4 ++ b.slice 4 8 ++ b.slice 8 16 ++ b.slice 16 20 ++ zeros 4
          ++ b.slice 24 32 ++ b.slice 32 40 ++ b.slice 40 296 ++ b.slice 296 304
          ++ b.slice 304 352 ++ b.slice 352 448 := by
        rw [← hfield 0 4 (by omega), ← hfield 4 8 (by omega), ← hfield 8 16 (by omega),
          ← hfield 16 20 (by omega), ← hfield 24 32 (by omega), ← hfield 32 40 (by omega),
          ← hfield 296 304 (by omega), ← hname, ← hdigest, ← hsignature]
        rfl
    _ = b.slice 0 20 ++ zeros 4 ++ b.slice 24 headerSize := by
        simp (disch := omega) only [slice_append_slice, List.append_assoc, hsize]

/-- The header of a file is coded as it stands, if its reserved bytes are zero. -/
theorem Header.encode_decode (hlength : headerSize ≤ b.length) (hreserved : b.slice 20 24 = zeros 4) :
    (Header.decode order b).encode order = b.slice 0 headerSize := by
  rw [Header.encode_decode_eq_slices order hlength, ← hreserved,
    slice_append_slice b (by omega) (by omega), slice_append_slice b (by omega) (by decide)]

end Records

/-! ## Tables and blobs -/

/-- A table is coded as it stands, if each of its slots is. -/
theorem Table.Holds.encode_eq_slice {α : Type} {f : RecordFormat α} {order : ByteOrder} {b : Bytes}
    {offset : Nat} {entries : List α} (h : Table.Holds f order b offset entries)
    (hslots : ∀ i ≤ entries.length,
      f.encode order (f.decode order (Table.slot f b offset i)) = Table.slot f b offset i) :
    Table.encode f order entries = b.slice offset (offset + f.size * (entries.length + 1)) := by
  induction entries generalizing offset with
  | nil =>
      have hfirst := hslots 0 (Nat.le_refl 0)
      rw [Table.holds_nil_iff.mp h] at hfirst
      rw [Table.encode, List.nil_append, List.flatMap_singleton, hfirst, Table.slot]
      rfl
  | cons x entries ih =>
      obtain ⟨hfirst, _, hrest⟩ := Table.holds_cons_iff.mp h
      have hcode := hslots 0 (Nat.zero_le _)
      rw [hfirst] at hcode
      have htail := ih hrest (by
        intro i hi
        rw [← Table.slot_succ]
        exact hslots (i + 1) (Nat.succ_le_succ hi))
      rw [Table.encode_cons, hcode, htail, Table.slot, Nat.mul_zero, Nat.add_zero, Nat.mul_one,
        slice_append_slice b (by omega) (Nat.le_add_right _ _), List.length_cons]
      congr 1
      ring

/-- Tiles one behind the other are one stretch of a file. -/
theorem Layout.Consecutive.flatMap_slice {start stop : Int} {tiles : List Layout.Tile}
    (h : Layout.Consecutive start tiles stop) (hstart : 0 ≤ start) (b : Bytes) :
    tiles.flatMap (fun t => b.slice t.start.toNat t.stop.toNat) =
      b.slice start.toNat stop.toNat := by
  induction h with
  | nil start => exact (slice_of_stop_le b (Nat.le_refl _)).symm
  | @cons start stop t rest hfirst hsize hfilling hrest ih =>
      have hle := hrest.le
      have hstop : t.start ≤ t.stop := by
        rw [Layout.Tile.stop]
        omega
      rw [List.flatMap_cons, ih (by omega), hfirst]
      exact slice_append_slice b (by omega) (by omega)

/-- What a file holds where a chunk has its blob. -/
def Chunk.content (b : Bytes) (c : Chunk) : Bytes :=
  b.slice c.loadAddr.toNat (c.loadAddr + c.size).toNat

namespace Image

/-- The bytes of a file that hold nothing are zero: those behind the checksum, those behind the 32-bit
fields of every descriptor and sentinel, and those that fill up a blob. -/
structure ReservedZero (b : Bytes) (img : Image) : Prop where
  header_eq : b.slice 20 24 = zeros 4
  chunkSlots_eq : ∀ i ≤ img.chunks.length,
    (Table.slot Chunk.format b headerSize i).slice 4 8 = zeros 4 ∧
      (Table.slot Chunk.format b headerSize i).slice 36 40 = zeros 4
  ziSlots_eq : ∀ i ≤ img.ziChunks.length,
    (Table.slot ZiChunk.format b (headerSize + 40 * (img.chunks.length + 1)) i).slice 4 8 = zeros 4
  fillings_eq : ∀ c ∈ img.chunks,
    b.slice (c.loadAddr + c.size).toNat (c.loadAddr + Layout.padded c.size).toNat =
      zeros (Layout.padding c.size).toNat

namespace Intact

variable {b : Bytes} {img : Image}

theorem length_content (h : Intact b img) {c : Chunk} (hc : c ∈ img.chunks) :
    ((c.content b).length : Int) = c.size := by
  obtain ⟨hstart, hstop⟩ := h.blobs_inside hc
  have hsize := h.size_nonneg hc
  rw [Chunk.content, length_slice_of_le (by omega)]
  omega

theorem filledBlob_content (h : Intact b img) (hzero : img.ReservedZero b) {c : Chunk}
    (hc : c ∈ img.chunks) :
    filledBlob (c.content b) = b.slice (blobTile c).start.toNat (blobTile c).stop.toNat := by
  obtain ⟨hstart, _⟩ := h.blobs_inside hc
  have hsize := h.size_nonneg hc
  have hpadded := Layout.le_padded c.size
  have hstop : (blobTile c).stop = c.loadAddr + Layout.padded c.size := by
    rw [Layout.Tile.stop, Layout.padded, ← Int.add_assoc]
    rfl
  rw [filledBlob, h.length_content hc, ← hzero.fillings_eq c hc, Chunk.content, hstop]
  exact slice_append_slice b (by omega) (by omega)

theorem flatMap_filledBlob (h : Intact b img) (hzero : img.ReservedZero b) :
    (img.chunks.map (Chunk.content b)).flatMap filledBlob = b.slice img.blobsStart b.length := by
  have htiles := h.consecutive_blobTiles.flatMap_slice (Int.natCast_nonneg _) b
  rw [Int.toNat_natCast, Int.toNat_natCast, List.flatMap_map] at htiles
  rw [← htiles, List.flatMap_map]
  apply List.flatMap_congr
  intro c hc
  exact h.filledBlob_content hzero hc

theorem encode_chunkTable (h : Intact b img) (hzero : img.ReservedZero b) :
    Table.encode Chunk.format img.order img.chunks =
      b.slice headerSize (headerSize + 40 * (img.chunks.length + 1)) := by
  obtain ⟨hchunks, _, hroom⟩ := h.holds_tables
  rw [blobsStart] at hroom
  have htable : headerSize + 40 * (img.chunks.length + 1) ≤ b.length := by omega
  apply hchunks.encode_eq_slice
  intro i hi
  obtain ⟨hfirst, hlast⟩ := hzero.chunkSlots_eq i hi
  exact Chunk.encode_decode img.order (Table.length_slot (Table.slot_le hi htable)) hfirst hlast

theorem encode_ziTable (h : Intact b img) (hzero : img.ReservedZero b) :
    Table.encode ZiChunk.format img.order img.ziChunks =
      b.slice (headerSize + 40 * (img.chunks.length + 1)) img.blobsStart := by
  obtain ⟨_, hziChunks, hroom⟩ := h.holds_tables
  apply hziChunks.encode_eq_slice
  intro i hi
  exact ZiChunk.encode_decode img.order (Table.length_slot (Table.slot_le hi hroom))
    (hzero.ziSlots_eq i hi)

/-- An accepted file is the file of its image, with the blobs that it holds. -/
theorem encode_eq (h : Intact b img) (hzero : img.ReservedZero b) :
    img.encode (img.chunks.map (Chunk.content b)) = b := by
  have hroom := h.holds_tables.2.2
  have htables : headerSize + 40 * (img.chunks.length + 1) ≤ img.blobsStart := Nat.le_add_right _ _
  have hheader : img.header.encode img.order = b.slice 0 headerSize := by
    rw [h.header_eq]
    exact Header.encode_decode img.order h.headerSize_le_length hzero.header_eq
  rw [encode_eq_tables, hheader, h.encode_chunkTable hzero, h.encode_ziTable hzero,
    h.flatMap_filledBlob hzero, slice_append_slice b (Nat.zero_le _) (Nat.le_add_right _ _),
    slice_append_slice b (Nat.zero_le _) htables, slice_append_slice b (Nat.zero_le _) hroom]
  exact slice_of_le_length (Nat.le_refl _)

end Intact

end Image

/-! ## Images that the planner gives -/

/-- A chunk as it was queued, before it had an address. -/
def Chunk.unplaced (c : Chunk) : Chunk := { c with loadAddr := 0 }

theorem Chunk.place_unplaced (chunks : List Chunk) :
    Chunk.place (chunks.map Chunk.unplaced) (chunks.map Chunk.loadAddr) = chunks := by
  induction chunks with
  | nil => rfl
  | cons c chunks ih =>
      rw [List.map_cons, List.map_cons, Chunk.place_cons, ih]
      rfl

namespace Image

theorem magic_of_detectOrder? {b : Bytes} {order : ByteOrder} (h : detectOrder? b = some order) :
    (order.decode (b.slice 0 4) : Int) = bootMagic := by
  rw [slice_zero, show b.take 4 = _ from detectOrder?_eq_some_iff.mp h,
    order.decode_encode 4 _ (by decide)]
  rfl

/-- What makes the file of an image the one that a builder would write: nothing is signed, nothing is
empty, and nothing stands where nothing is stored. -/
structure Reproducible (b : Bytes) (img : Image) : Prop where
  version_eq : img.header.version = bootVersion
  signatureBlock_eq : b.slice signatureOffset headerSize = zeros signatureBlockSize
  size_pos : ∀ c ∈ img.chunks, 0 < c.size
  reserved : img.ReservedZero b

namespace Intact

variable {b : Bytes} {img : Image}

theorem magic_eq (h : Intact b img) : img.header.magic = bootMagic := by
  rw [h.header_eq]
  exact magic_of_detectOrder? h.detectOrder?_eq

theorem signatureBlock_eq (h : Intact b img)
    (hzero : b.slice signatureOffset headerSize = zeros signatureBlockSize) :
    img.header.digest = zeros 48 ∧ img.header.signature = zeros 96 := by
  rw [h.header_eq]
  constructor
  · have hdigest := slice_slice b (i := 0) (j := 48) (by decide : signatureOffset + 48 ≤ headerSize)
    rw [hzero] at hdigest
    exact hdigest.symm
  · have hsignature := slice_slice b (i := 48) (by decide : signatureOffset + 144 ≤ headerSize)
    rw [hzero] at hsignature
    exact hsignature.symm

/-- The checksum of the header is that of the planned header. -/
theorem headerCrc_eq_planned (h : Intact b img) (hzero : img.ReservedZero b)
    {planned : Header} (hbare : img.header.bare = planned.bare) :
    img.header.headerCrc = headerCrc (planned.encode img.order) := by
  have hplanned := Header.headerCrc_encode img.order planned []
  rw [List.append_nil] at hplanned
  rw [← h.crc_eq, hplanned, ← hbare]
  conv_lhs => rw [← h.encode_eq hzero, encode_eq_body]
  rw [Header.headerCrc_encode]

theorem eq_canonical (h : Intact b img) (hrep : img.Reproducible b) :
    img = canonical img.order img.header.setName (img.chunks.map Chunk.unplaced) img.ziChunks := by
  obtain ⟨hchunkTable, hziTable, hheaderLength, himageLength, haddresses⟩ := h.follows
  obtain ⟨hdigest, hsignature⟩ := h.signatureBlock_eq hrep.signatureBlock_eq
  have hsizes : (img.chunks.map Chunk.unplaced).map Chunk.size = img.sizes := List.map_map
  have hlength : img.sizes.length = img.chunks.length := List.length_map Chunk.size
  rw [← hlength] at hziTable hheaderLength
  have hbare : img.header.bare =
      (plannedHeader img.header.setName img.sizes img.ziChunks.length).bare := by
    simp only [Header.bare, plannedHeader, h.magic_eq, hrep.version_eq, hheaderLength, hchunkTable,
      hziTable, himageLength]
  have hcrc := h.headerCrc_eq_planned hrep.reserved hbare
  have hheader : img.header =
      (plannedHeader img.header.setName img.sizes img.ziChunks.length).sealed img.order := by
    calc img.header
        = { img.header.bare with
            headerCrc := img.header.headerCrc
            digest := img.header.digest
            signature := img.header.signature } := rfl
      _ = _ := by
          rw [hbare, hcrc, hdigest, hsignature]
          rfl
  rw [canonical, hsizes, ← haddresses, Chunk.place_unplaced, ← hheader]

end Intact

end Image

end BootSeal
