import BootSeal.Proofs.Image.Reencoding
import BootSeal.Proofs.Image.Signed
/-!
# What is found in the file of an image

Regions with their bytes go into an image as chunks. In the file of the image the chunk table lists a
chunk for each of them, in their order, and the bytes of the region are where its chunk says. The other
table lists the zero-initialised regions, those too that look like its sentinel.
-/

namespace BootSeal

open Bytes

/-- A region with its bytes. -/
structure Source where
  owner : Int
  execAddr : Int
  content : Bytes
deriving DecidableEq, Repr

/-- The chunk of a region that has no address in a file yet. -/
def Source.chunk (r : Source) : Chunk :=
  ⟨r.owner, 0, r.execAddr, r.content.length, crc32 r.content⟩

/-- A chunk describes a region, and the file holds the bytes of the region where the chunk has them. -/
structure Chunk.Carries (file : Bytes) (c : Chunk) (r : Source) : Prop where
  owner_eq : c.owner = r.owner
  execAddr_eq : c.execAddr = r.execAddr
  size_eq : c.size = r.content.length
  crc32_eq : c.crc32 = BootSeal.crc32 r.content
  content_eq : c.content file = r.content

/-! ## Tables -/

namespace Table

variable {α : Type} {f : RecordFormat α} {fits : α → Prop} {order : ByteOrder}

/-- A file holds entries slot by slot, and a sentinel in the slot behind them. Unlike what a reader finds,
entries may look like the sentinel. -/
structure Lists (f : RecordFormat α) (order : ByteOrder) (b : Bytes) (offset : Nat)
    (entries : List α) : Prop where
  decode_slot : ∀ i (h : i < entries.length), f.decode order (slot f b offset i) = entries[i]
  decode_end : f.decode order (slot f b offset entries.length) = f.sentinel
  room : offset + f.size * (entries.length + 1) ≤ b.length

theorem slot_append (hf : f.Lawful fits) (order : ByteOrder) (before : Bytes) {xs : List α}
    (rest : Bytes) {i : Nat} (hi : i < xs.length) :
    slot f (before ++ (xs.flatMap (f.encode order) ++ rest)) before.length i =
      f.encode order xs[i] := by
  induction xs generalizing before i with
  | nil => exact absurd hi (Nat.not_lt_zero i)
  | cons x xs ih =>
      rw [List.flatMap_cons, List.append_assoc]
      cases i with
      | zero =>
          rw [slot_zero, List.drop_left]
          exact List.take_left' (hf.length_encode order x)
      | succ i =>
          -- The first code goes to what stands in front.
          have hbefore : before.length + f.size = (before ++ f.encode order x).length := by
            rw [List.length_append, hf.length_encode]
          rw [slot_succ, ← List.append_assoc before, hbefore]
          exact ih (before ++ f.encode order x) (Nat.lt_of_succ_lt_succ hi)

/-- The code of a list lists it, wherever it stands. -/
theorem lists_encode (hf : f.Lawful fits) (order : ByteOrder) (before : Bytes) {entries : List α}
    (hfits : ∀ x ∈ entries, fits x) (rest : Bytes) :
    Lists f order (before ++ (encode f order entries ++ rest)) before.length entries where
  decode_slot i hi := by
    have hlt : i < (entries ++ [f.sentinel]).length := by
      rw [List.length_append]
      exact Nat.lt_add_right _ hi
    rw [encode, slot_append hf order before rest hlt, List.getElem_append_left hi]
    exact hf.decode_encode order _ (hfits _ (List.getElem_mem hi))
  decode_end := by
    have hlt : entries.length < (entries ++ [f.sentinel]).length := by
      rw [List.length_append]
      exact Nat.lt_succ_self _
    rw [encode, slot_append hf order before rest hlt, List.getElem_concat_length rfl]
    exact hf.decode_encode order _ hf.fits_sentinel
  room := by
    rw [List.length_append, List.length_append, length_encode hf]
    omega

end Table

/-! ## Blobs -/

/-- Blobs that are laid one behind the other are found at the addresses of their chunks. -/
theorem carries_place (front : Bytes) (sources : List Source) :
    List.Forall₂ (Chunk.Carries (front ++ (sources.map Source.content).flatMap filledBlob))
      (Chunk.place (sources.map Source.chunk)
        (Layout.loadAddressesFrom front.length (sources.map fun r => (r.content.length : Int))))
      sources := by
  induction sources generalizing front with
  | nil => exact List.Forall₂.nil
  | cons r rest ih =>
      have hpad := Layout.padding_nonneg r.content.length
      have hfront : (front.length : Int) + Layout.padded r.content.length =
          ((front ++ filledBlob r.content).length : Nat) := by
        rw [filledBlob, List.length_append, List.length_append, length_zeros, Layout.padded]
        omega
      rw [List.map_cons, List.map_cons, List.map_cons, List.flatMap_cons, Layout.loadAddressesFrom,
        Chunk.place_cons, hfront]
      refine List.Forall₂.cons ⟨rfl, rfl, rfl, rfl, ?_⟩ ?_
      · change slice _ _ ((front.length : Int) + (r.content.length : Int)).toNat = _
        rw [← Int.natCast_add, Int.toNat_natCast, Int.toNat_natCast, slice_eq_take_drop,
          List.drop_left, Nat.add_sub_cancel_left, filledBlob, List.append_assoc, List.take_left]
      · rw [← List.append_assoc]
        exact ih (front ++ filledBlob r.content)

namespace Image

/-- A file holds regions as chunks and zero-initialised regions, in their orders, where its header has
the tables. -/
structure Contains (order : ByteOrder) (file : Bytes) (sources : List Source)
    (ziChunks : List ZiChunk) : Prop where
  chunks : ∃ chunks,
    Table.Lists Chunk.format order file (Header.decode order file).chunkTableOffset.toNat chunks ∧
      List.Forall₂ (Chunk.Carries file) chunks sources
  ziChunks : Table.Lists ZiChunk.format order file (Header.decode order file).ziTableOffset.toNat
    ziChunks

namespace Storable

variable {img : Image} {blobs : List Bytes}

theorem lists_chunks (h : img.Storable blobs) :
    Table.Lists Chunk.format img.order (img.encode blobs)
      (Header.decode img.order (img.encode blobs)).chunkTableOffset.toNat img.chunks := by
  have hlists := Table.lists_encode Chunk.lawful img.order (img.header.encode img.order) h.chunks_fit
    (Table.encode ZiChunk.format img.order img.ziChunks ++ blobs.flatMap filledBlob)
  have hoffset : img.header.restored.chunkTableOffset.toNat = headerSize := h.chunkTableOffset_toNat
  rw [Header.length_encode] at hlists
  rw [h.decode_header, hoffset, encode_eq_body]
  exact hlists

theorem lists_ziChunks (h : img.Storable blobs) :
    Table.Lists ZiChunk.format img.order (img.encode blobs)
      (Header.decode img.order (img.encode blobs)).ziTableOffset.toNat img.ziChunks := by
  have hlists := Table.lists_encode ZiChunk.lawful img.order
    (img.header.encode img.order ++ Table.encode Chunk.format img.order img.chunks) h.ziChunks_fit
    (blobs.flatMap filledBlob)
  have hoffset : img.header.restored.ziTableOffset.toNat =
      headerSize + 40 * (img.chunks.length + 1) := h.ziTableOffset_toNat
  rw [length_front] at hlists
  rw [h.decode_header, hoffset, encode_eq_body, body, ← List.append_assoc]
  exact hlists

end Storable

/-- What stands in front of the blobs. -/
theorem length_tables (img : Image) :
    ((img.header.encode img.order ++ Table.encode Chunk.format img.order img.chunks
      ++ Table.encode ZiChunk.format img.order img.ziChunks).length : Int) =
        Layout.blobOffset headerSize img.chunks.length img.ziChunks.length := by
  rw [List.length_append, Storable.length_front, Table.length_encode ZiChunk.lawful,
    Layout.blobOffset_of_dvd headerSize_dvd]
  simp [ZiChunk.format, Layout.chunkEntrySize, Layout.ziEntrySize]

/-- The canonical image of regions contains them, whatever is in its signature block. -/
theorem contains_canonical {order : ByteOrder} {setName digest signature : Bytes}
    {sources : List Source} {ziChunks : List ZiChunk} {img : Image}
    (himg : img = (canonical order setName (sources.map Source.chunk) ziChunks).withBlock digest
      signature) (h : img.Storable (sources.map Source.content)) :
    Contains order (img.encode (sources.map Source.content)) sources ziChunks := by
  have horder : img.order = order := by rw [himg]; rfl
  have hziChunks : img.ziChunks = ziChunks := by rw [himg]; rfl
  have hsizes : (sources.map Source.chunk).map Chunk.size =
      sources.map fun r => (r.content.length : Int) := List.map_map
  have hchunks : img.chunks = Chunk.place (sources.map Source.chunk)
      (Layout.loadAddresses headerSize (sources.map fun r => (r.content.length : Int))
        ziChunks.length) := by
    rw [himg, ← hsizes]
    rfl
  have hcount : img.chunks.length = sources.length := by
    rw [himg]
    change (canonical order setName (sources.map Source.chunk) ziChunks).chunks.length = _
    rw [length_chunks_canonical, List.length_map]
  constructor
  · refine ⟨img.chunks, horder ▸ h.lists_chunks, ?_⟩
    have hcarries := carries_place (img.header.encode img.order
      ++ Table.encode Chunk.format img.order img.chunks
      ++ Table.encode ZiChunk.format img.order img.ziChunks) sources
    rw [length_tables, hcount, ← encode_eq_tables] at hcarries
    rw [hchunks, Layout.loadAddresses, List.length_map, ← hziChunks]
    exact hcarries
  · have hlists := h.lists_ziChunks
    rw [horder, hziChunks] at hlists
    exact hlists

end Image

end BootSeal
