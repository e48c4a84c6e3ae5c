import BootSeal.Builder.Draft
import BootSeal.Proofs.Image.Canonical
/-!
# What each step of the writing reaches

A step is described by the header, the descriptors and the output that it leaves. The places at which
the writer compares its output with the layout are then equations between lengths, and a step whose
equation holds goes through.
-/

namespace BootSeal

open Bytes

namespace Draft

/-- What a draft has come to, whatever it told about its progress. -/
structure Shows (d : Draft) (h : Header) (chunks : List Chunk) (out : Bytes) : Prop where
  header_eq : d.header = h
  chunks_eq : d.chunks = chunks
  out_eq : d.out = out

/-- A step goes through, and this is what the draft has come to then. -/
def Reaches (step : Step) (h : Header) (chunks : List Chunk) (out : Bytes) : Prop :=
  ∃ d, step = .ok d ∧ d.Shows h chunks out

theorem Reaches.bind {step : Step} {next : Draft → Step} {h h' : Header}
    {chunks chunks' : List Chunk} {out out' : Bytes} (hstep : Reaches step h chunks out)
    (hnext : ∀ d, d.Shows h chunks out → Reaches (next d) h' chunks' out') :
    Reaches (step >>= next) h' chunks' out' := by
  obtain ⟨d, rfl, hd⟩ := hstep
  exact hnext d hd

theorem fill_of_dvd {size : Int} (h : Layout.boundary ∣ size) : fill size = [] := by
  rw [fill, Layout.padding_eq_zero h]
  rfl

/-! ## Addresses -/

theorem locate_eq_place (address : Int) (chunks : List Chunk) :
    locate address chunks =
      Chunk.place chunks (Layout.loadAddressesFrom address (chunks.map Chunk.size)) := by
  induction chunks generalizing address with
  | nil => rfl
  | cons c chunks ih =>
      rw [locate, ih, List.map_cons, Layout.loadAddressesFrom, Chunk.place_cons, Layout.padded]

/-- The writer's own formula for the first blob agrees with the planner's. -/
theorem blobBase_eq_blobOffset (chunks ziChunks : Int) :
    blobBase headerSize chunks ziChunks = Layout.blobOffset headerSize chunks ziChunks := by
  -- Header and entries are whole numbers of boundaries, so neither formula has any padding.
  rw [blobBase, Layout.padding_eq_zero (Layout.boundary_dvd_chunkTable _),
    Layout.padding_eq_zero (Layout.boundary_dvd_ziTable _),
    Layout.blobOffset_of_dvd Image.headerSize_dvd]
  simp only [Layout.chunkEntrySize, Layout.ziEntrySize]
  omega

/-- So the chunks get the addresses that the planner gives them. -/
theorem locate_blobBase (chunks : List Chunk) (ziChunks : Int) :
    locate (blobBase headerSize chunks.length ziChunks) chunks =
      Chunk.place chunks (Layout.loadAddresses headerSize (chunks.map Chunk.size) ziChunks) := by
  rw [locate_eq_place, blobBase_eq_blobOffset, Layout.loadAddresses, List.length_map]

/-! ## The steps -/

section Steps

variable {d : Draft} {h : Header} {chunks : List Chunk} {out : Bytes}

theorem Shows.tell (hd : d.Shows h chunks out) (events : List Event) :
    (d.tell events).Shows h chunks out :=
  ⟨hd.header_eq, hd.chunks_eq, hd.out_eq⟩

theorem putHeader_reaches (hd : d.Shows h chunks out) (hfits : h.Fits) (order : ByteOrder) :
    Reaches (d.putHeader order) h chunks (h.encode order ++ out.drop headerSize) := by
  obtain ⟨rfl, rfl, rfl⟩ := hd
  have hcode := Header.encode?_eq_some_iff.mpr ⟨hfits, @rfl _ (d.header.encode order)⟩
  have hput : d.putHeader order =
      .ok { d.tell [.header] with out := d.out.overwrite 0 (d.header.encode order) } := by
    dsimp only [putHeader, tell]
    rw [hcode, fill_of_dvd Image.headerSize_dvd]
    dsimp only
    rw [List.append_nil]
  refine ⟨_, hput, rfl, rfl, ?_⟩
  dsimp only
  rw [overwrite_zero, Header.length_encode]

/-- Right behind the header the chunk table is at its place, and the writer gives every chunk the
address of the planner. -/
theorem Shows.located (hd : d.Shows h chunks out) (ziChunks : List ZiChunk)
    (hplace : out.length = headerSize) :
    d.position = headerSize + Layout.padding headerSize ∧
      locate (blobBase d.position d.chunks.length ziChunks.length) d.chunks = Chunk.place chunks
        (Layout.loadAddresses headerSize (chunks.map Chunk.size) ziChunks.length) := by
  obtain ⟨rfl, rfl, rfl⟩ := hd
  have hposition : d.position = headerSize := congrArg Int.ofNat hplace
  rw [hposition, Layout.padding_eq_zero Image.headerSize_dvd, locate_blobBase]
  exact ⟨(Int.add_zero _).symm, rfl⟩

theorem putChunkTable_reaches (hd : d.Shows h chunks out) (order : ByteOrder)
    (ziChunks : List ZiChunk) (hplace : out.length = headerSize)
    {placed : List Chunk} (hplaced : placed = Chunk.place chunks
      (Layout.loadAddresses headerSize (chunks.map Chunk.size) ziChunks.length))
    (hfits : ∀ c ∈ placed, c.Fits) :
    Reaches (d.putChunkTable order ziChunks) { h with chunkTableOffset := headerSize } placed
      (out ++ Table.encode Chunk.format order placed) := by
  obtain ⟨hexpected, hlocate⟩ := hd.located ziChunks hplace
  obtain ⟨rfl, rfl, rfl⟩ := hd
  have hposition : d.position = headerSize := congrArg Int.ofNat hplace
  have hall : placed.all (fun c => decide c.Fits) = true := by simpa using hfits
  dsimp only [putChunkTable, tell, append]
  rw [if_neg (not_not_intro hexpected), hlocate, ← hplaced, if_pos hall,
    fill_of_dvd (Layout.boundary_dvd_chunkTable _), List.append_nil]
  refine ⟨_, rfl, ?_, rfl, rfl⟩
  rw [hposition]

/-- A chunk that does not fit ends the writing of the table. -/
theorem putChunkTable_overflows (hd : d.Shows h chunks out) (order : ByteOrder)
    {ziChunks : List ZiChunk} (hplace : out.length = headerSize)
    (hmisfit : ¬∀ c ∈ Chunk.place chunks
      (Layout.loadAddresses headerSize (chunks.map Chunk.size) ziChunks.length), c.Fits) :
    ∃ s, d.putChunkTable order ziChunks = .error s ∧ s.error = .overflow := by
  obtain ⟨hexpected, hlocate⟩ := hd.located ziChunks hplace
  dsimp only [putChunkTable, tell]
  rw [if_neg (not_not_intro hexpected), hlocate, if_neg (by simpa using hmisfit)]
  exact ⟨_, rfl, rfl⟩

theorem putZiTable_reaches (hd : d.Shows h chunks out) (order : ByteOrder)
    {ziChunks : List ZiChunk} (hoffset : h.chunkTableOffset = headerSize)
    (hplace : (out.length : Int) = Layout.ziTableOffset headerSize chunks.length)
    (hfits : ∀ c ∈ ziChunks, c.Fits) :
    Reaches (d.putZiTable order ziChunks)
      { h with ziTableOffset := Layout.ziTableOffset headerSize chunks.length } chunks
      (out ++ Table.encode ZiChunk.format order ziChunks) := by
  obtain ⟨rfl, rfl, rfl⟩ := hd
  have hposition : d.position = Layout.ziTableOffset headerSize d.chunks.length := hplace
  have hexpected : d.position =
      d.header.chunkTableOffset + d.chunks.length * Layout.chunkEntrySize + Layout.chunkEntrySize
        + Layout.padding (Layout.chunkEntrySize * (d.chunks.length + 1)) := by
    rw [hposition, hoffset, Layout.padding_eq_zero (Layout.boundary_dvd_chunkTable _),
      Layout.ziTableOffset_of_dvd Image.headerSize_dvd]
    simp only [Layout.chunkEntrySize]
    omega
  have hall : ziChunks.all (fun c => decide c.Fits) = true := by simpa using hfits
  dsimp only [putZiTable, tell, append]
  split
  next hne => exact absurd hexpected hne
  next =>
    rw [fill_of_dvd (Layout.boundary_dvd_ziTable _), List.append_nil]
    refine ⟨_, rfl, ?_, rfl, rfl⟩
    rw [hposition]

theorem endHeader_reaches (hd : d.Shows h chunks out)
    (hoffset : h.chunkTableOffset = headerSize) :
    Reaches d.endHeader { h with headerLength := out.length } chunks out := by
  obtain ⟨rfl, rfl, rfl⟩ := hd
  have hexpected : d.position = headerSize + Layout.padding headerSize
      + (d.header.ziTableOffset - d.header.chunkTableOffset)
      + (d.position - d.header.ziTableOffset) := by
    rw [hoffset, Layout.padding_eq_zero Image.headerSize_dvd]
    omega
  dsimp only [endHeader, tell]
  split
  next hne => exact absurd hexpected hne
  next => exact ⟨_, rfl, rfl, rfl, rfl⟩

theorem putBlob_reaches (hd : d.Shows h chunks out) (index : Nat) {c : Chunk} {p : Payload}
    (hplace : (out.length : Int) = c.loadAddr) (hp : p.IsReadable) :
    Reaches (d.putBlob index c p) h chunks (out ++ (p.bytes ++ fill c.size)) := by
  obtain ⟨rfl, rfl, rfl⟩ := hd
  have hposition : d.position = c.loadAddr := hplace
  dsimp only [putBlob, tell, append]
  rw [if_neg (not_not_intro hposition), hp.bytes?_eq]
  exact ⟨_, rfl, rfl, rfl, rfl⟩

/-- A payload of the size of its chunk is filled up as the planner fills it up. -/
theorem filled_of_length_eq {b : Bytes} {size : Int} (h : (b.length : Int) = size) :
    b ++ fill size = filledBlob b := by
  rw [fill, ← h, filledBlob]

/-- The place that every blob is put at is the one that the planner gave it, as long as every payload
has the size of its chunk. -/
theorem putBlobs_reaches (hd : d.Shows h chunks out) (index : Nat) (blobs : List (Chunk × Payload))
    (hplaces : blobs.map (fun x => x.1.loadAddr) =
      Layout.loadAddressesFrom out.length (blobs.map fun x => x.1.size))
    (hreadable : ∀ x ∈ blobs, x.2.IsReadable)
    (hsizes : ∀ x ∈ blobs, (x.2.bytes.length : Int) = x.1.size) :
    Reaches (d.putBlobs index blobs) h chunks
      (out ++ (blobs.map fun x => x.2.bytes).flatMap filledBlob) := by
  -- The output grows by a filled blob with each step, just as the planner's addresses do.
  induction blobs generalizing d index out with
  | nil => exact ⟨d, rfl, hd.header_eq, hd.chunks_eq, by simpa using hd.out_eq⟩
  | cons x rest ih =>
      obtain ⟨c, p⟩ := x
      have hsize : (p.bytes.length : Int) = c.size := hsizes (c, p) List.mem_cons_self
      simp only [List.map_cons, Layout.loadAddressesFrom, List.cons.injEq] at hplaces
      obtain ⟨hplace, hrest⟩ := hplaces
      obtain ⟨next, hput, hnext⟩ :=
        putBlob_reaches hd index hplace.symm (hreadable (c, p) List.mem_cons_self)
      rw [filled_of_length_eq hsize] at hnext
      have hlength : ((out ++ filledBlob p.bytes).length : Int) = out.length + Layout.padded c.size := by
        have hpad := Layout.padding_nonneg c.size
        rw [filledBlob, hsize, List.length_append, List.length_append, length_zeros, Layout.padded]
        omega
      have htail := ih hnext (index + 1) (by rw [hlength]; exact hrest)
        (fun y hy => hreadable y (List.mem_cons_of_mem _ hy))
        (fun y hy => hsizes y (List.mem_cons_of_mem _ hy))
      rw [putBlobs, hput]
      simpa only [List.map_cons, List.flatMap_cons, List.append_assoc] using htail

theorem endImage_reaches (hd : d.Shows h chunks out) {ziChunks : List ZiChunk}
    (hlength : (out.length : Int) =
      Layout.imageLength headerSize (chunks.map Chunk.size) ziChunks.length) :
    Reaches (d.endImage ziChunks) { h with imageLength := out.length } chunks out := by
  obtain ⟨rfl, rfl, rfl⟩ := hd
  have hexpected : d.position =
      Layout.imageLength headerSize (d.chunks.map Chunk.size) ziChunks.length := hlength
  dsimp only [endImage]
  rw [if_neg (not_not_intro hexpected)]
  exact ⟨_, rfl, rfl, rfl, rfl⟩

theorem setChecksum_reaches (hd : d.Shows h chunks out) (hfits : h.Fits) (order : ByteOrder) :
    Reaches (d.setChecksum order) (h.sealed order) chunks out := by
  obtain ⟨rfl, rfl, rfl⟩ := hd
  have hcode := Header.encode?_eq_some_iff.mpr ⟨hfits, @rfl _ (d.header.encode order)⟩
  rw [setChecksum, hcode]
  exact ⟨_, rfl, rfl, rfl, rfl⟩

end Steps

end Draft

end BootSeal
