import BootSeal.Proofs.Builder.Drafting
import BootSeal.Proofs.Builder.Queue
/-!
# The output of a whole writing

The steps one after the other, for a builder that grew by additions. The tables come out as planned
whatever the payloads are; with payloads of the planned sizes the blobs follow at their addresses, and
the output is the file of the canonical image.
-/

namespace BootSeal.Builder

open Draft Bytes

variable {order : ByteOrder} {setName : Bytes} {b : Builder}

namespace Filled

/-- The canonical image of what a builder has queued. -/
abbrev image (_ : Filled order setName b) : Image :=
  Image.canonical order setName b.chunks b.ziChunks

theorem sizes_nonneg (hb : Filled order setName b) :
    ∀ size ∈ b.chunks.map Chunk.size, 0 ≤ size := by
  intro size hsize
  obtain ⟨c, hc, rfl⟩ := List.mem_map.mp hsize
  exact Int.le_of_lt (hb.chunks_queued c hc).size_pos

theorem image_chunks_fit (hb : Filled order setName b)
    (hlength : Layout.imageLength headerSize (b.chunks.map Chunk.size) b.ziChunks.length < 2 ^ 64) :
    ∀ c ∈ hb.image.chunks, c.Fits :=
  Image.canonical_chunks_fit (fun c hc => (hb.chunks_queued c hc).fits) hlength

theorem sizes_eq_blobs (hb : Filled order setName b) (hplain : b.IsPlain) :
    b.chunks.map Chunk.size = b.blobs.map fun blob => (blob.length : Int) := by
  rw [hb.sizes_eq, blobs, List.map_map]
  apply List.map_congr_left
  intro p hp
  exact congrArg Int.ofNat (hplain p hp).2

end Filled

/-- The output up to the end of the second table, while the header is still the initial one. -/
def tablesOutput (order : ByteOrder) (setName : Bytes) (img : Image) : Bytes :=
  Header.encode order { setName := setName } ++ Table.encode Chunk.format order img.chunks
    ++ Table.encode ZiChunk.format order img.ziChunks

theorem length_tablesOutput (order : ByteOrder) (setName : Bytes) (img : Image) :
    ((tablesOutput order setName img).length : Int) =
      Layout.blobOffset headerSize img.chunks.length img.ziChunks.length := by
  rw [tablesOutput, List.length_append, List.length_append, Header.length_encode,
    Table.length_encode Chunk.lawful, Table.length_encode ZiChunk.lawful,
    Layout.blobOffset_of_dvd Image.headerSize_dvd]
  simp [Chunk.format, ZiChunk.format]

/-- The first header has nothing but the set name, and nothing is in front of it. -/
theorem putHeader_blank_reaches (hb : Unwritten order setName b) :
    Reaches (b.blank.putHeader order) { setName := setName } b.chunks
      (Header.encode order { setName := setName }) := by
  have hblank : b.blank.Shows { setName := setName } b.chunks [] := ⟨hb.header_eq, rfl, rfl⟩
  have hinitial : Header.Fits { setName := setName } :=
    ⟨(by decide : FitsWidth 4 bootMagic), (by decide : FitsWidth 4 bootVersion),
      FitsWidth.zero 8, FitsWidth.zero 4, FitsWidth.zero 8, FitsWidth.zero 8, FitsWidth.zero 8⟩
  have hreached := putHeader_reaches hblank hinitial order
  rwa [List.drop_nil, List.append_nil] at hreached

/-- The first half of the writing: both tables are in place before any payload is looked at. -/
theorem layOut_eq_blobs (hb : Filled order setName b) (hfits : ∀ c ∈ hb.image.chunks, c.Fits) :
    ∃ d : Draft,
      d.Shows
        { Image.plannedHeader setName (b.chunks.map Chunk.size) b.ziChunks.length with
          imageLength := 0 }
        hb.image.chunks (tablesOutput order setName hb.image) ∧
      ∀ payloads, b.layOut payloads =
        d.putBlobs 0 (hb.image.chunks.zip payloads) >>= fun d => d.endImage b.ziChunks := by
  have hcount : hb.image.chunks.length = b.chunks.length := Image.length_chunks_canonical
  obtain ⟨d₁, hput₁, hd₁⟩ := putHeader_blank_reaches hb.toUnwritten
  have hplaced : hb.image.chunks = Chunk.place b.chunks
      (Layout.loadAddresses headerSize (b.chunks.map Chunk.size) b.ziChunks.length) := rfl
  obtain ⟨d₂, hput₂, hd₂⟩ := putChunkTable_reaches hd₁ order b.ziChunks
    (Header.length_encode order _) hplaced hfits
  have hplace : ((Header.encode order { setName := setName }
      ++ Table.encode Chunk.format order hb.image.chunks).length : Int) =
        Layout.ziTableOffset headerSize hb.image.chunks.length := by
    rw [List.length_append, Header.length_encode, Table.length_encode Chunk.lawful,
      Layout.ziTableOffset_of_dvd Image.headerSize_dvd]
    simp [Chunk.format]
  obtain ⟨d₃, hput₃, hd₃⟩ := putZiTable_reaches hd₂ order rfl hplace hb.ziChunks_fit
  obtain ⟨d₄, hput₄, hd₄⟩ := endHeader_reaches hd₃ rfl
  refine ⟨d₄.tell [.blobs], ?_, ?_⟩
  · refine ⟨?_, hd₄.chunks_eq, hd₄.out_eq⟩
    have houtput := length_tablesOutput order setName hb.image
    have hheader := hd₄.header_eq
    rw [show Header.encode order { setName := setName }
        ++ Table.encode Chunk.format order hb.image.chunks
        ++ Table.encode ZiChunk.format order b.ziChunks = tablesOutput order setName hb.image
        from rfl, houtput, hcount] at hheader
    dsimp only [Draft.tell]
    rw [hheader]
    simp [Image.plannedHeader, Layout.chunkTableOffset_of_dvd Image.headerSize_dvd]
    rfl
  -- No step before the blobs has looked at the payloads.
  · intro payloads
    rw [layOut, hb.order_eq, hput₁]
    change (d₁.putChunkTable order b.ziChunks >>= _) = _
    rw [hput₂]
    change (d₂.putZiTable order b.ziChunks >>= _) = _
    rw [hput₃]
    change (d₃.endHeader >>= _) = _
    rw [hput₄]
    change (putBlobs 0 ((d₄.tell [.blobs]).chunks.zip payloads) _ >>= _) = _
    rw [show (d₄.tell [.blobs]).chunks = hb.image.chunks from hd₄.chunks_eq]

namespace Filled

theorem length_image_chunks (hb : Filled order setName b) :
    hb.image.chunks.length = b.payloads.length := by
  have hlength := congrArg List.length hb.sizes_eq
  rw [List.length_map, List.length_map] at hlength
  rw [Image.length_chunks_canonical, hlength]

theorem map_fst_zip (hb : Filled order setName b) :
    (hb.image.chunks.zip b.payloads).map Prod.fst = hb.image.chunks :=
  List.map_fst_zip (Nat.le_of_eq hb.length_image_chunks)

theorem map_snd_zip (hb : Filled order setName b) :
    (hb.image.chunks.zip b.payloads).map Prod.snd = b.payloads :=
  List.map_snd_zip (Nat.le_of_eq hb.length_image_chunks.symm)

/-- Behind the tables every chunk has the address at which the writer arrives. -/
theorem zip_loadAddrs (hb : Filled order setName b) :
    (hb.image.chunks.zip b.payloads).map (fun x => x.1.loadAddr) =
      Layout.loadAddressesFrom (tablesOutput order setName hb.image).length
        ((hb.image.chunks.zip b.payloads).map fun x => x.1.size) := by
  obtain ⟨_, _, _, _, hfollows⟩ :=
    @Image.canonical_followsLayout order setName b.chunks b.ziChunks
  have haddresses : hb.image.chunks.map Chunk.loadAddr =
      Layout.loadAddressesFrom (tablesOutput order setName hb.image).length
        (hb.image.chunks.map Chunk.size) := by
    rw [hfollows, length_tablesOutput, Layout.loadAddresses, Image.sizes, List.length_map]
  rw [← hb.map_fst_zip, List.map_map, List.map_map] at haddresses
  exact haddresses

/-- Every payload has as many items as its chunk is long. -/
theorem zip_counts (hb : Filled order setName b) :
    ∀ x ∈ hb.image.chunks.zip b.payloads, (x.2.itemCount : Int) = x.1.size := by
  -- Both sides are sizes in the order of the queue, so the two lists are compared as a whole.
  have hmap : (hb.image.chunks.zip b.payloads).map (fun x => (x.2.itemCount : Int)) =
      (hb.image.chunks.zip b.payloads).map fun x => x.1.size := by
    calc (hb.image.chunks.zip b.payloads).map (fun x => (x.2.itemCount : Int))
        = ((hb.image.chunks.zip b.payloads).map Prod.snd).map
            (fun p => (p.itemCount : Int)) := by rw [List.map_map]; rfl
      _ = ((hb.image.chunks.zip b.payloads).map Prod.fst).map Chunk.size := by
            rw [hb.map_snd_zip, hb.map_fst_zip, ← hb.sizes_eq]
            exact Image.sizes_canonical.symm
      _ = (hb.image.chunks.zip b.payloads).map fun x => x.1.size := List.map_map
  exact List.map_inj_left.mp hmap

theorem zip_readable (hb : Filled order setName b) :
    ∀ x ∈ hb.image.chunks.zip b.payloads, x.2.IsReadable :=
  fun x hx => hb.readable x.2 (List.of_mem_zip hx).2

/-- A plain payload has the size of its chunk. -/
theorem zip_sizes (hb : Filled order setName b) (hplain : b.IsPlain) :
    ∀ x ∈ hb.image.chunks.zip b.payloads, (x.2.bytes.length : Int) = x.1.size := by
  intro x hx
  rw [← hb.zip_counts x hx, (hplain x.2 (List.of_mem_zip hx).2).2]

end Filled

/-- The first writing of all parts, for payloads of the planned sizes. -/
theorem layOut_reaches (hb : Filled order setName b) (hplain : b.IsPlain)
    (hfits : ∀ c ∈ hb.image.chunks, c.Fits) :
    Reaches (b.layOut b.payloads)
      (Image.plannedHeader setName (b.chunks.map Chunk.size) b.ziChunks.length)
      hb.image.chunks (tablesOutput order setName hb.image ++ b.blobs.flatMap filledBlob) := by
  obtain ⟨d, hd, hlayOut⟩ := layOut_eq_blobs hb hfits
  have hblobs := putBlobs_reaches hd 0 (hb.image.chunks.zip b.payloads) hb.zip_loadAddrs
    hb.zip_readable (hb.zip_sizes hplain)
  have hbytes : ((hb.image.chunks.zip b.payloads).map fun x => x.2.bytes) = b.blobs := by
    rw [blobs, ← hb.map_snd_zip, List.map_map, hb.map_snd_zip]
    rfl
  have hend : ((tablesOutput order setName hb.image ++ b.blobs.flatMap filledBlob).length : Int) =
      Layout.imageLength headerSize (hb.image.chunks.map Chunk.size) b.ziChunks.length := by
    have hsizes : hb.image.chunks.map Chunk.size = b.chunks.map Chunk.size := Image.sizes_canonical
    rw [List.length_append, Int.natCast_add, length_tablesOutput, Image.length_filledBlobs,
      ← hb.sizes_eq_blobs hplain, hsizes, Layout.imageLength, Image.length_chunks_canonical,
      List.length_map]
    rfl
  rw [hbytes] at hblobs
  rw [hlayOut]
  refine hblobs.bind fun d hd => ?_
  have hreached := endImage_reaches hd hend
  rw [hend] at hreached
  rwa [show hb.image.chunks.map Chunk.size = b.chunks.map Chunk.size from Image.sizes_canonical]
    at hreached

/-- What is written without a key is the file of the canonical image. -/
theorem compose_reaches (hb : Filled order setName b) (hplain : b.IsPlain)
    (hlength : Layout.imageLength headerSize (b.chunks.map Chunk.size) b.ziChunks.length < 2 ^ 64) :
    Reaches (b.compose b.payloads) hb.image.header hb.image.chunks (hb.image.encode b.blobs) := by
  have hplanned := @Image.plannedHeader_fits setName _ _ hb.sizes_nonneg hlength
  unfold compose
  rw [hb.order_eq]
  refine (layOut_reaches hb hplain (hb.image_chunks_fit hlength)).bind fun d₁ hd₁ => ?_
  refine (setChecksum_reaches hd₁ hplanned order).bind fun d₂ hd₂ => ?_
  -- The header that is written last takes the place of the first one.
  have hput := putHeader_reaches hd₂ (Image.sealed_fits hplanned order) order
  have hout : ((Image.plannedHeader setName (b.chunks.map Chunk.size) b.ziChunks.length).sealed
      order).encode order
        ++ (tablesOutput order setName hb.image ++ b.blobs.flatMap filledBlob).drop headerSize =
      hb.image.encode b.blobs := by
    rw [tablesOutput, List.append_assoc, List.append_assoc,
      ← Header.length_encode order { setName := setName }, List.drop_left, Image.encode_eq_tables,
      List.append_assoc, List.append_assoc]
    rfl
  rw [hout] at hput
  exact hput

end BootSeal.Builder
