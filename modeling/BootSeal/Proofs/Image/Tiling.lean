import BootSeal.Proofs.Image.Intact
import BootSeal.Proofs.Image.ReadBack
import BootSeal.Proofs.Image.Slot
import BootSeal.Proofs.Layout.Tiling
/-!
# The parts of an accepted file

An accepted file is its header, its two tables with their sentinels, and its blobs with what fills them
up, one behind the other and nothing else. The addresses and sizes come out of the file itself, so this
holds whatever they are.
-/

namespace BootSeal

open Bytes

/-! ## Values that were read -/

theorem FitsWidth.decode (order : ByteOrder) {b : Bytes} {width : Nat} (h : b.length = width) :
    FitsWidth width (order.decode b) := by
  have hlt := order.decode_lt b
  rw [h] at hlt
  exact ⟨Int.natCast_nonneg _, Int.ofNat_lt.mpr hlt⟩

theorem Chunk.decode_fits (order : ByteOrder) {b : Bytes} (h : b.length = 40) :
    (Chunk.decode order b).Fits := by
  refine ⟨?_, ?_, ?_, ?_, ?_⟩ <;>
    exact FitsWidth.decode order (length_slice_of_le (by omega))

theorem ZiChunk.decode_fits (order : ByteOrder) {b : Bytes} (h : b.length = 24) :
    (ZiChunk.decode order b).Fits := by
  refine ⟨?_, ?_, ?_⟩ <;> exact FitsWidth.decode order (length_slice_of_le (by omega))

namespace Table

variable {α : Type} {f : RecordFormat α} {order : ByteOrder} {b : Bytes} {offset : Nat}
  {entries : List α}

/-- What holds of everything that a whole slot can hold, holds of every entry. -/
theorem Holds.forall_mem (h : Holds f order b offset entries) {p : α → Prop}
    (hp : ∀ slot : Bytes, slot.length = f.size → p (f.decode order slot))
    (hroom : offset + f.size * (entries.length + 1) ≤ b.length) : ∀ x ∈ entries, p x := by
  intro x hx
  obtain ⟨i, hi, rfl⟩ := List.mem_iff_getElem.mp hx
  rw [← h.decode_slot i hi]
  apply hp
  exact length_slot (slot_le (Nat.le_of_lt hi) hroom)

end Table

namespace Image

theorem readTables_eq_ok_iff {order : ByteOrder} {h : Header} {b : Bytes} {img : Image} :
    readTables order h b = .ok img ↔
      img.order = order ∧ img.header = h ∧
        Table.read Chunk.format order b h.chunkTableOffset.toNat
          (min (min b.length h.headerLength.toNat) h.ziTableOffset.toNat) = .ok img.chunks ∧
        Table.read ZiChunk.format order b h.ziTableOffset.toNat
          (min b.length h.headerLength.toNat) = .ok img.ziChunks := by
  unfold readTables
  dsimp only
  constructor
  · intro hread
    split at hread
    next => cases hread
    next hchunks =>
      split at hread
      next => cases hread
      next hziChunks =>
        cases hread
        exact ⟨rfl, rfl, hchunks, hziChunks⟩
  · rintro ⟨rfl, rfl, hchunks, hziChunks⟩
    rw [hchunks, hziChunks]

theorem read_eq_ok_iff {b : Bytes} {img : Image} :
    read b = .ok img ↔
      HasMagic img.order b ∧ headerSize ≤ b.length ∧ img.header = Header.decode img.order b ∧
        readTables img.order img.header b = .ok img := by
  constructor
  · intro hread
    obtain ⟨hlong, horder, hheader⟩ := read_eq_ok hread
    exact ⟨detectOrder?_eq_some_iff.mp horder, hlong, hheader, readTables_of_read hread⟩
  · rintro ⟨hmagic, hlong, hheader, htables⟩
    rw [read_eq_readTables (detectOrder?_eq_some_iff.mpr hmagic) hlong, ← hheader]
    exact htables

/-- The tile of a blob, at the address that the file gives. -/
def blobTile (c : Chunk) : Layout.Tile := ⟨c.loadAddr, c.size, Layout.padding c.size⟩

/-- Where the blobs start, behind both tables. -/
def blobsStart (img : Image) : Nat :=
  headerSize + 40 * (img.chunks.length + 1) + 24 * (img.ziChunks.length + 1)

/-- The parts of the file of an image: the header, the tables with their sentinels, and the blobs. -/
def tiles (img : Image) : List Layout.Tile :=
  ⟨0, headerSize, 0⟩ ::
    ⟨headerSize, 40 * (img.chunks.length + 1), 0⟩ ::
    ⟨headerSize + 40 * (img.chunks.length + 1), 24 * (img.ziChunks.length + 1), 0⟩ ::
    img.chunks.map blobTile

/-- A file is made of the parts of an image: every part is where it should be, and there is nothing
else. -/
structure Tiled (b : Bytes) (img : Image) : Prop where
  header_eq : img.header = Header.decode img.order b
  holds_chunks : Table.Holds Chunk.format img.order b headerSize img.chunks
  holds_ziChunks : Table.Holds ZiChunk.format img.order b
    (headerSize + 40 * (img.chunks.length + 1)) img.ziChunks
  tiling : Layout.Tiling img.tiles b.length
  blobs_inside : ∀ c ∈ img.chunks, img.blobsStart ≤ c.loadAddr ∧ c.loadAddr + c.size ≤ b.length
  blobs_disjoint : img.chunks.Pairwise fun c d => c.loadAddr + c.size ≤ d.loadAddr

namespace Intact

variable {b : Bytes} {img : Image}

theorem ziTableOffset_eq (h : Intact b img) :
    img.header.ziTableOffset = (headerSize + 40 * (img.chunks.length + 1) : Nat) := by
  rw [h.follows.2.1, Layout.ziTableOffset_of_dvd headerSize_dvd]
  simp [Layout.chunkEntrySize]

theorem blobOffset_eq_blobsStart (img : Image) :
    Layout.blobOffset headerSize img.chunks.length img.ziChunks.length = img.blobsStart := by
  rw [Layout.blobOffset_of_dvd headerSize_dvd, blobsStart]
  simp [Layout.chunkEntrySize, Layout.ziEntrySize]

theorem headerLength_eq (h : Intact b img) : img.header.headerLength = img.blobsStart := by
  rw [h.follows.2.2.1, blobOffset_eq_blobsStart]

/-- Both tables are read where the layout has them, and they lie in the file. -/
theorem holds_tables (h : Intact b img) :
    Table.Holds Chunk.format img.order b headerSize img.chunks ∧
      Table.Holds ZiChunk.format img.order b (headerSize + 40 * (img.chunks.length + 1))
        img.ziChunks ∧
      img.blobsStart ≤ b.length := by
  obtain ⟨_, _, hchunks, hziChunks⟩ := readTables_eq_ok_iff.mp h.readTables_eq
  rw [h.ziTableOffset_eq, h.headerLength_eq] at hchunks hziChunks
  rw [h.chunkTableOffset_eq] at hchunks
  simp only [Int.toNat_natCast, Table.read_eq_ok_iff] at hchunks hziChunks
  obtain ⟨hholds, _⟩ := hchunks
  obtain ⟨hziHolds, hroom⟩ := hziChunks
  refine ⟨hholds, hziHolds, ?_⟩
  change _ + 24 * (img.ziChunks.length + 1) ≤ _ at hroom
  rw [blobsStart] at hroom ⊢
  omega

theorem chunks_fit (h : Intact b img) : ∀ c ∈ img.chunks, c.Fits := by
  obtain ⟨hchunks, _, hroom⟩ := h.holds_tables
  apply hchunks.forall_mem (p := Chunk.Fits)
  · intro slot hslot
    exact Chunk.decode_fits img.order hslot
  · change headerSize + 40 * (img.chunks.length + 1) ≤ _
    rw [blobsStart] at hroom
    omega

theorem size_nonneg (h : Intact b img) {c : Chunk} (hc : c ∈ img.chunks) : 0 ≤ c.size :=
  (h.chunks_fit c hc).2.2.2.1.1

theorem ziChunks_fit (h : Intact b img) : ∀ c ∈ img.ziChunks, c.Fits := by
  obtain ⟨_, hziChunks, hroom⟩ := h.holds_tables
  apply hziChunks.forall_mem (p := ZiChunk.Fits)
  · intro slot hslot
    exact ZiChunk.decode_fits img.order hslot
  · exact hroom

/-- From the end of the tables on, the blobs lie one behind the other up to the end of the file. -/
theorem consecutive_blobTiles (h : Intact b img) :
    Layout.Consecutive img.blobsStart (img.chunks.map blobTile) b.length := by
  obtain ⟨_, _, _, hstop, hstarts⟩ := h.follows
  rw [h.length_eq, Layout.imageLength, sizes, List.length_map, blobOffset_eq_blobsStart] at hstop
  rw [Layout.loadAddresses, sizes, List.length_map, blobOffset_eq_blobsStart] at hstarts
  have htileStarts : (img.chunks.map blobTile).map Layout.Tile.start = img.chunks.map Chunk.loadAddr :=
    List.map_map
  have htileSizes : (img.chunks.map blobTile).map Layout.Tile.size = img.chunks.map Chunk.size :=
    List.map_map
  rw [hstop, ← htileSizes]
  apply Layout.consecutive_blobs
  · rw [htileStarts, htileSizes, hstarts]
  · intro t ht
    obtain ⟨c, hc, rfl⟩ := List.mem_map.mp ht
    exact h.size_nonneg hc
  · intro t ht
    obtain ⟨c, _, rfl⟩ := List.mem_map.mp ht
    rfl

theorem consecutive_tiles (h : Intact b img) : Layout.Consecutive 0 img.tiles b.length := by
  have hchunkTable : (0 : Int) ≤ 40 * (img.chunks.length + 1) := by omega
  have hziTable : (0 : Int) ≤ 24 * (img.ziChunks.length + 1) := by omega
  have hblobs := h.consecutive_blobTiles
  rw [blobsStart] at hblobs
  rw [tiles]
  -- None of the parts in front of the blobs has to be filled up.
  refine .cons rfl (Int.natCast_nonneg headerSize) (Int.le_refl 0) ?_
  refine .cons (by simp [Layout.Tile.stop]) hchunkTable (Int.le_refl 0) ?_
  refine .cons (by simp [Layout.Tile.stop]) hziTable (Int.le_refl 0) ?_
  simpa [Layout.Tile.stop] using hblobs

theorem tiles_dvd (img : Image) : ∀ t ∈ img.tiles, Layout.boundary ∣ t.size + t.filling := by
  intro t ht
  simp only [tiles, List.mem_cons, List.mem_map] at ht
  rcases ht with rfl | rfl | rfl | ⟨c, _, rfl⟩
  · exact headerSize_dvd
  · exact Layout.boundary_dvd_chunkTable (img.chunks.length + 1)
  · exact Layout.boundary_dvd_ziTable (img.ziChunks.length + 1)
  · exact Layout.dvd_padded c.size

theorem tiles_filling_lt (img : Image) : ∀ t ∈ img.tiles, t.filling < Layout.boundary := by
  have hnone : (0 : Int) < Layout.boundary := by decide
  intro t ht
  simp only [tiles, List.mem_cons, List.mem_map] at ht
  rcases ht with rfl | rfl | rfl | ⟨c, _, rfl⟩
  · exact hnone
  · exact hnone
  · exact hnone
  · exact Layout.padding_lt c.size

theorem blobs_inside (h : Intact b img) {c : Chunk} (hc : c ∈ img.chunks) :
    img.blobsStart ≤ c.loadAddr ∧ c.loadAddr + c.size ≤ b.length := by
  obtain ⟨hstart, _, hfilling, hstop⟩ :=
    h.consecutive_blobTiles.mem_bounds (List.mem_map_of_mem hc)
  rw [Layout.Tile.stop] at hstop
  dsimp only [blobTile] at hstart hfilling hstop
  exact ⟨hstart, by omega⟩

theorem blobs_disjoint (h : Intact b img) :
    img.chunks.Pairwise fun c d => c.loadAddr + c.size ≤ d.loadAddr := by
  refine (List.pairwise_map.mp h.consecutive_blobTiles.pairwise).imp ?_
  intro c d hdisjoint
  have hfilling := Layout.padding_nonneg c.size
  rw [Layout.Tile.stop] at hdisjoint
  dsimp only [blobTile] at hdisjoint
  omega

theorem tiled (h : Intact b img) : Tiled b img where
  header_eq := h.header_eq
  holds_chunks := h.holds_tables.1
  holds_ziChunks := h.holds_tables.2.1
  tiling := h.consecutive_tiles.tiling (tiles_dvd img) (tiles_filling_lt img)
  blobs_inside _ hc := h.blobs_inside hc
  blobs_disjoint := h.blobs_disjoint

end Intact

/-- Whatever a file holds, if it is accepted, then it is made of the parts of its image. -/
theorem tiled_of_verify {b : Bytes} {key : Option PublicKey} (h : (verify b key).1 = .ok) :
    ∃ img, verify b key = (.ok, some img) ∧ Tiled b img := by
  obtain ⟨img, hverify, hintact⟩ := intact_of_verify h
  exact ⟨img, hverify, hintact.tiled⟩

theorem tiled_of_verify_twoParts :
    ∃ img, verify ((twoParts .big).encode [[1, 2, 3]]) none = (.ok, some img) ∧
      Tiled ((twoParts .big).encode [[1, 2, 3]]) img :=
  tiled_of_verify (by rw [verify_twoParts])

end Image

end BootSeal
