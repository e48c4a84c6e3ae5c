import BootSeal.Image.Basic
import BootSeal.Proofs.Image.Integrity
import BootSeal.Proofs.Image.Table
import BootSeal.Proofs.Layout.Planner
/-!
# Canonical images

The image that the layout planner gives for a set name and for regions: every offset is the planner's,
the checksum is that of the finished header, and nothing is signed. Its file is the parts in order.
-/

namespace BootSeal

open Bytes

/-- A header with its checksum. -/
def Header.sealed (order : ByteOrder) (h : Header) : Header :=
  { h with headerCrc := BootSeal.headerCrc (h.encode order) }

/-- Chunks with the addresses of their blobs. -/
def Chunk.place (chunks : List Chunk) (addresses : List Int) : List Chunk :=
  List.zipWith (fun c address => { c with loadAddr := address }) chunks addresses

def filledBlob (b : Bytes) : Bytes := b ++ zeros (Layout.padding b.length).toNat

namespace Image

/-- The header that the planner gives, before its checksum is computed. -/
def plannedHeader (setName : Bytes) (sizes : List Int) (ziChunks : Nat) : Header where
  headerLength := Layout.blobOffset headerSize sizes.length ziChunks
  chunkTableOffset := Layout.chunkTableOffset headerSize
  ziTableOffset := Layout.ziTableOffset headerSize sizes.length
  setName := setName
  imageLength := Layout.imageLength headerSize sizes ziChunks

/-- The image that the planner gives for a set name and regions. -/
def canonical (order : ByteOrder) (setName : Bytes) (chunks : List Chunk)
    (ziChunks : List ZiChunk) : Image where
  order := order
  header := (plannedHeader setName (chunks.map Chunk.size) ziChunks.length).sealed order
  chunks :=
    Chunk.place chunks
      (Layout.loadAddresses headerSize (chunks.map Chunk.size) ziChunks.length)
  ziChunks := ziChunks

/-- The file of an image: the header, each table with its sentinel of zeros, and the blobs, each
filled up with zeros. -/
def encode (img : Image) (blobs : List Bytes) : Bytes :=
  img.header.encode img.order
    ++ (img.chunks.flatMap (Chunk.encode img.order) ++ zeros Layout.chunkEntrySize)
    ++ (img.ziChunks.flatMap (ZiChunk.encode img.order) ++ zeros Layout.ziEntrySize)
    ++ blobs.flatMap filledBlob

theorem encode_eq_tables (img : Image) (blobs : List Bytes) :
    img.encode blobs =
      img.header.encode img.order ++ Table.encode Chunk.format img.order img.chunks
        ++ Table.encode ZiChunk.format img.order img.ziChunks ++ blobs.flatMap filledBlob := by
  rw [Table.encode_eq_append, Table.encode_eq_append]
  change _ = _ ++ (_ ++ Chunk.sentinel.encode img.order)
    ++ (_ ++ ZiChunk.sentinel.encode img.order) ++ _
  rw [Chunk.encode_sentinel, ZiChunk.encode_sentinel]
  rfl

end Image

/-! ## Chunks at their addresses -/

namespace Chunk

theorem place_cons (c : Chunk) (chunks : List Chunk) (address : Int) (addresses : List Int) :
    place (c :: chunks) (address :: addresses) =
      { c with loadAddr := address } :: place chunks addresses := rfl

theorem map_size_place {chunks : List Chunk} {addresses : List Int}
    (h : addresses.length = chunks.length) :
    (place chunks addresses).map Chunk.size = chunks.map Chunk.size := by
  rw [place, List.map_zipWith]
  induction chunks generalizing addresses with
  | nil => simp
  | cons c chunks ih =>
      cases addresses with
      | nil => simp at h
      | cons address addresses => simpa using ih (by simpa using h)

theorem map_loadAddr_place {chunks : List Chunk} {addresses : List Int}
    (h : addresses.length = chunks.length) :
    (place chunks addresses).map Chunk.loadAddr = addresses := by
  induction chunks generalizing addresses with
  | nil =>
      rw [List.length_eq_zero_iff.mp h]
      rfl
  | cons c chunks ih =>
      cases addresses with
      | nil => simp at h
      | cons address addresses => simp [place_cons, ih (by simpa using h)]

theorem length_place {chunks : List Chunk} {addresses : List Int}
    (h : addresses.length = chunks.length) : (place chunks addresses).length = chunks.length := by
  simp [place, h]

theorem mem_place {chunks : List Chunk} {addresses : List Int} {c : Chunk}
    (h : c ∈ place chunks addresses) :
    ∃ d ∈ chunks, ∃ address ∈ addresses, c = { d with loadAddr := address } := by
  induction chunks generalizing addresses with
  | nil => simp [place] at h
  | cons d chunks ih =>
      cases addresses with
      | nil => simp [place] at h
      | cons address addresses =>
          rw [place_cons] at h
          rcases List.mem_cons.mp h with rfl | htail
          · exact ⟨d, List.mem_cons_self, address, List.mem_cons_self, rfl⟩
          · obtain ⟨e, he, a, ha, rfl⟩ := ih htail
            exact ⟨e, List.mem_cons_of_mem _ he, a, List.mem_cons_of_mem _ ha, rfl⟩

end Chunk

namespace Image

variable {order : ByteOrder} {setName : Bytes} {chunks : List Chunk} {ziChunks : List ZiChunk}

theorem headerSize_dvd : Layout.boundary ∣ (headerSize : Int) := by decide

theorem length_addresses (chunks : List Chunk) (ziChunks : List ZiChunk) :
    (Layout.loadAddresses headerSize (chunks.map Chunk.size) ziChunks.length).length =
      chunks.length := by
  rw [Layout.loadAddresses, Layout.length_loadAddressesFrom, List.length_map]

@[simp] theorem sizes_canonical :
    (canonical order setName chunks ziChunks).sizes = chunks.map Chunk.size :=
  Chunk.map_size_place (length_addresses chunks ziChunks)

@[simp] theorem length_chunks_canonical :
    (canonical order setName chunks ziChunks).chunks.length = chunks.length :=
  Chunk.length_place (length_addresses chunks ziChunks)

theorem canonical_followsLayout : (canonical order setName chunks ziChunks).FollowsLayout := by
  unfold FollowsLayout
  rw [sizes_canonical, length_chunks_canonical]
  refine ⟨rfl, ?_, ?_, rfl, Chunk.map_loadAddr_place (length_addresses chunks ziChunks)⟩
  · simp [canonical, Header.sealed, plannedHeader]
  · simp [canonical, Header.sealed, plannedHeader]

theorem length_filledBlobs (blobs : List Bytes) :
    ((blobs.flatMap filledBlob).length : Int) =
      Layout.blobsLength (blobs.map fun b => (b.length : Int)) := by
  induction blobs with
  | nil => rfl
  | cons b blobs ih =>
      have hpad := Layout.padding_nonneg b.length
      rw [List.flatMap_cons, List.length_append, List.map_cons, Layout.blobsLength, ← ih,
        filledBlob, List.length_append, length_zeros, Layout.padded]
      omega

theorem length_encode (img : Image) (blobs : List Bytes) :
    ((img.encode blobs).length : Int) =
      Layout.blobOffset headerSize img.chunks.length img.ziChunks.length
        + Layout.blobsLength (blobs.map fun b => (b.length : Int)) := by
  rw [encode_eq_tables, List.length_append, List.length_append, List.length_append,
    Header.length_encode, Table.length_encode Chunk.lawful, Table.length_encode ZiChunk.lawful,
    Layout.blobOffset_of_dvd headerSize_dvd, ← length_filledBlobs]
  simp [Chunk.format, ZiChunk.format]

/-- The file of a canonical image with blobs of the planned sizes has the planned length. -/
theorem length_encode_canonical {blobs : List Bytes}
    (h : chunks.map Chunk.size = blobs.map fun b => (b.length : Int)) :
    (((canonical order setName chunks ziChunks).encode blobs).length : Int) =
      Layout.imageLength headerSize (chunks.map Chunk.size) ziChunks.length := by
  rw [length_encode, length_chunks_canonical, ← h, Layout.imageLength, List.length_map]
  rfl

/-! ## Values of a canonical image -/

theorem fitsWidth_eight {v : Int} (hnonneg : 0 ≤ v) (hlt : v < 2 ^ 64) : FitsWidth 8 v :=
  ⟨hnonneg, by
    rw [fieldValues_eq_pow]
    exact hlt⟩

/-- A planned header fits as soon as the whole length does. -/
theorem plannedHeader_fits {setName : Bytes} {sizes : List Int} {ziCount : Nat}
    (hsizes : ∀ size ∈ sizes, 0 ≤ size)
    (hlength : Layout.imageLength headerSize sizes ziCount < 2 ^ 64) :
    (plannedHeader setName sizes ziCount).Fits := by
  have hsum := Layout.blobsLength_nonneg hsizes
  have hblob := Layout.blobOffset_of_dvd headerSize_dvd sizes.length ziCount
  have hzi := Layout.ziTableOffset_of_dvd headerSize_dvd sizes.length
  have hchunk := Layout.chunkTableOffset_of_dvd headerSize_dvd
  rw [Layout.imageLength] at hlength
  simp only [headerSize, Layout.chunkEntrySize, Layout.ziEntrySize] at hblob hzi hchunk hlength
  refine ⟨(by decide : FitsWidth 4 bootMagic), (by decide : FitsWidth 4 bootVersion), ?_,
    FitsWidth.zero 4, ?_, ?_, ?_⟩ <;>
    apply fitsWidth_eight <;>
    simp only [plannedHeader, Layout.imageLength, headerSize] <;>
    omega

theorem sealed_fits {h : Header} (hfits : h.Fits) (order : ByteOrder) : (h.sealed order).Fits := by
  obtain ⟨hmagic, hversion, hheader, _, hchunks, hzi, himage⟩ := hfits
  have hcrc : FitsWidth 4 (headerCrc (h.encode order)) :=
    ⟨Int.natCast_nonneg _, by
      have hlt := crc32_lt ((clearedHeader (h.encode order)).splice headerCrcOffset
        (headerCrcOffset + headerCrcSize) (zeros headerCrcSize))
      rw [headerCrc, fieldValues_eq_pow]
      exact Int.ofNat_lt.mpr hlt⟩
  exact ⟨hmagic, hversion, hheader, hcrc, hchunks, hzi, himage⟩

/-- Chunks of a canonical image fit as soon as the whole length does. -/
theorem canonical_chunks_fit (hchunks : ∀ c ∈ chunks, c.Fits)
    (hlength : Layout.imageLength headerSize (chunks.map Chunk.size) ziChunks.length < 2 ^ 64) :
    ∀ c ∈ (canonical order setName chunks ziChunks).chunks, c.Fits := by
  intro c hc
  obtain ⟨d, hd, address, haddress, rfl⟩ := Chunk.mem_place hc
  obtain ⟨howner, _, hexec, hsize, hcrc⟩ := hchunks d hd
  have hsizes : ∀ size ∈ chunks.map Chunk.size, 0 ≤ size := by
    intro size hmem
    obtain ⟨e, he, rfl⟩ := List.mem_map.mp hmem
    exact (hchunks e he).2.2.2.1.1
  have hbounds := Layout.mem_loadAddressesFrom hsizes haddress
  rw [Layout.imageLength] at hlength
  rw [Layout.blobOffset_of_dvd headerSize_dvd] at hbounds hlength
  simp only [headerSize, Layout.chunkEntrySize, Layout.ziEntrySize] at hbounds hlength
  have hload : FitsWidth 8 address := fitsWidth_eight (by omega) (by omega)
  exact ⟨howner, hload, hexec, hsize, hcrc⟩

end Image

end BootSeal
