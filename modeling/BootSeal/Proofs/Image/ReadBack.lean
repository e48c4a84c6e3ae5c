import BootSeal.Image.Verify
import BootSeal.Proofs.Image.Canonical
/-!
# Reading back an image

What is read from the file of an image is the image again, up to the first sentinel among its
zero-initialised regions. A region that looks like the sentinel cuts the table short, the table then
disagrees with the length in the header, and the file is refused.
-/

namespace BootSeal.Image

open Bytes

section FirstPlace

variable {α : Type} [DecidableEq α] {xs : List α} {x : α}

theorem takeWhile_ne_eq_self_iff : xs.takeWhile (· ≠ x) = xs ↔ x ∉ xs := by
  induction xs with
  | nil => simp
  | cons y ys ih =>
      by_cases hy : y = x
      · simp [hy]
      · rw [List.takeWhile_cons, if_pos (decide_eq_true hy), List.cons_inj_right, ih]
        simp [Ne.symm hy]

theorem takeWhile_ne_eq_take {k : Nat} (hk : xs[k]? = some x) (hfirst : ∀ j < k, xs[j]? ≠ some x) :
    xs.takeWhile (· ≠ x) = xs.take k := by
  obtain ⟨hlt, hget⟩ := List.getElem?_eq_some_iff.mp hk
  have hindex : xs.findIdx (fun y => !decide (y ≠ x)) = k := by
    refine (List.findIdx_eq hlt).mpr ⟨by simp [hget], ?_⟩
    intro j hj
    have hne : xs[j] ≠ x := fun heq => hfirst j hj (List.getElem?_eq_some_iff.mpr ⟨_, heq⟩)
    simp [hne]
  rw [List.takeWhile_eq_take_findIdx_not, hindex]

end FirstPlace

/-- What the reader relies on in an image and the blobs behind its tables. -/
structure Storable (img : Image) (blobs : List Bytes) : Prop where
  magic_eq : img.header.magic = bootMagic
  header_fits : img.header.Fits
  chunks_fit : ∀ c ∈ img.chunks, c.Fits
  sentinel_notMem : Chunk.sentinel ∉ img.chunks
  ziChunks_fit : ∀ c ∈ img.ziChunks, c.Fits
  follows : img.FollowsLayout
  length_eq : img.header.imageLength = (img.encode blobs).length
  crc_eq : img.header.headerCrc = crc32 (img.header.bare.encode img.order)

/-- An image as it is read back: its table of zero-initialised regions ends before the first
sentinel. -/
def restored (img : Image) : Image :=
  { img with
    header := img.header.restored
    ziChunks := img.ziChunks.takeWhile (· ≠ ZiChunk.sentinel) }

def body (img : Image) (blobs : List Bytes) : Bytes :=
  Table.encode Chunk.format img.order img.chunks
    ++ (Table.encode ZiChunk.format img.order img.ziChunks ++ blobs.flatMap filledBlob)

theorem encode_eq_body (img : Image) (blobs : List Bytes) :
    img.encode blobs = img.header.encode img.order ++ img.body blobs := by
  rw [encode_eq_tables, body, List.append_assoc, List.append_assoc]

theorem headerSize_le_length_encode (img : Image) (blobs : List Bytes) :
    headerSize ≤ (img.encode blobs).length := by
  rw [encode_eq_body, List.length_append, Header.length_encode]
  omega

theorem decode_take_magic (order : ByteOrder) :
    (ByteOrder.little.decode (order.encode 4 bootMagic.toNat) : Int) = bootMagic ∧
        order = .little ∨
      (ByteOrder.little.decode (order.encode 4 bootMagic.toNat) : Int) ≠ bootMagic ∧
        (ByteOrder.big.decode (order.encode 4 bootMagic.toNat) : Int) = bootMagic ∧
        order = .big := by
  cases order with
  | little => exact Or.inl ⟨by decide, rfl⟩
  | big => exact Or.inr ⟨by decide, by decide, rfl⟩

/-- A file starts with the magic number in a byte order. -/
def HasMagic (order : ByteOrder) (b : Bytes) : Prop := b.take 4 = order.encode 4 bootMagic.toNat

instance (order : ByteOrder) (b : Bytes) : Decidable (HasMagic order b) :=
  inferInstanceAs (Decidable (b.take 4 = order.encode 4 bootMagic.toNat))

theorem hasMagic_of_decode {order : ByteOrder} {b : Bytes} (hlength : 4 ≤ b.length)
    (h : (order.decode (b.take 4) : Int) = bootMagic) : HasMagic order b := by
  have hwidth : (b.take 4).length = 4 := List.length_take_of_le hlength
  have hcode := order.encode_decode (b.take 4)
  rw [hwidth] at hcode
  rw [HasMagic, ← h, Int.toNat_natCast, hcode]

theorem detectOrder?_eq_some_iff {b : Bytes} {order : ByteOrder} :
    detectOrder? b = some order ↔ HasMagic order b := by
  unfold detectOrder?
  constructor
  · intro h
    split at h
    next => cases h
    next hlength =>
      split at h
      next hlittle =>
        cases h
        exact hasMagic_of_decode (by omega) hlittle
      next =>
        split at h
        next hbig =>
          cases h
          exact hasMagic_of_decode (by omega) hbig
        next => cases h
  · intro h
    have hlength : 4 ≤ b.length := by
      have hwidth := congrArg List.length h
      rw [List.length_take, ByteOrder.length_encode] at hwidth
      omega
    rw [if_neg (by omega), show b.take 4 = _ from h]
    rcases decode_take_magic order with ⟨hlittle, horder⟩ | ⟨hlittle, hbig, horder⟩
    · rw [if_pos hlittle, horder]
    · rw [if_neg hlittle, if_pos hbig, horder]

theorem hasMagic_encode (order : ByteOrder) {h : Header} (hmagic : h.magic = bootMagic) (rest : Bytes) :
    HasMagic order (h.encode order ++ rest) := by
  rw [HasMagic, Header.encode, hmagic]
  simp only [List.append_assoc]
  exact List.take_left' (ByteOrder.length_encode order 4 _)

namespace Storable

variable {img : Image} {blobs : List Bytes}

theorem detectOrder?_encode (h : img.Storable blobs) :
    detectOrder? (img.encode blobs) = some img.order := by
  rw [detectOrder?_eq_some_iff, encode_eq_body]
  exact hasMagic_encode img.order h.magic_eq _

/-- Where the tables end, with the regions as they were given. -/
def tablesStop (img : Image) : Nat :=
  headerSize + 40 * (img.chunks.length + 1) + 24 * (img.ziChunks.length + 1)

theorem tablesStop_le_length (img : Image) (blobs : List Bytes) :
    tablesStop img ≤ (img.encode blobs).length := by
  rw [tablesStop, encode_eq_body, body, List.length_append, List.length_append, List.length_append,
    Header.length_encode, Table.length_encode Chunk.lawful, Table.length_encode ZiChunk.lawful]
  simp only [Chunk.format, ZiChunk.format, Layout.chunkEntrySize, Layout.ziEntrySize]
  omega

/-- What stands in front of the second table. -/
theorem length_front (img : Image) :
    (img.header.encode img.order ++ Table.encode Chunk.format img.order img.chunks).length =
      headerSize + 40 * (img.chunks.length + 1) := by
  rw [List.length_append, Header.length_encode, Table.length_encode Chunk.lawful]
  rfl

theorem decode_header (h : img.Storable blobs) :
    Header.decode img.order (img.encode blobs) = img.header.restored := by
  rw [encode_eq_body]
  exact Header.decode_encode h.header_fits img.order _

theorem chunkTableOffset_toNat (h : img.Storable blobs) :
    img.header.chunkTableOffset.toNat = headerSize := by
  rw [h.follows.1, Layout.chunkTableOffset_of_dvd headerSize_dvd, Int.toNat_natCast]

theorem ziTableOffset_toNat (h : img.Storable blobs) :
    img.header.ziTableOffset.toNat = headerSize + 40 * (img.chunks.length + 1) := by
  rw [h.follows.2.1, Layout.ziTableOffset_of_dvd headerSize_dvd, Layout.chunkEntrySize]
  omega

/-- The chunk table is read to its end: no chunk looks like the sentinel. -/
theorem readChunks_encode (h : img.Storable blobs) :
    Table.read Chunk.format img.order (img.encode blobs) headerSize
      (headerSize + 40 * (img.chunks.length + 1)) = .ok img.chunks := by
  have hall : img.chunks.takeWhile (· ≠ Chunk.format.sentinel) = img.chunks :=
    takeWhile_ne_eq_self_iff.mpr h.sentinel_notMem
  have hread := Table.read_encode Chunk.lawful img.order img.chunks h.chunks_fit
    (img.header.encode img.order)
    (Table.encode ZiChunk.format img.order img.ziChunks ++ blobs.flatMap filledBlob)
    (headerSize + 40 * (img.chunks.length + 1))
  rw [hall, Header.length_encode] at hread
  rw [encode_eq_body, body]
  exact hread (Nat.le_refl _)

/-- The other table is read up to its first sentinel. -/
theorem readZiChunks_encode (h : img.Storable blobs) :
    Table.read ZiChunk.format img.order (img.encode blobs)
      (headerSize + 40 * (img.chunks.length + 1)) (tablesStop img) =
        .ok (img.ziChunks.takeWhile (· ≠ ZiChunk.sentinel)) := by
  have hcut := (List.takeWhile_prefix (· ≠ ZiChunk.sentinel) (l := img.ziChunks)).length_le
  have hread := Table.read_encode ZiChunk.lawful img.order img.ziChunks h.ziChunks_fit
    (img.header.encode img.order ++ Table.encode Chunk.format img.order img.chunks)
    (blobs.flatMap filledBlob) (tablesStop img)
  rw [length_front] at hread
  rw [encode_eq_body, body, ← List.append_assoc]
  refine hread ?_
  change _ + 24 * ((img.ziChunks.takeWhile (· ≠ ZiChunk.sentinel)).length + 1) ≤ _
  rw [tablesStop]
  omega

/-- The tables are where the header says, and nothing else of the header is looked at. -/
theorem readTables_encode (h : img.Storable blobs) :
    readTables img.order img.header.restored (img.encode blobs) = .ok img.restored := by
  have hheaderLength := h.follows.2.2.1
  rw [Layout.blobOffset_of_dvd headerSize_dvd] at hheaderLength
  simp only [Layout.chunkEntrySize, Layout.ziEntrySize] at hheaderLength
  have hlength := tablesStop_le_length img blobs
  have hstop : min (img.encode blobs).length img.header.restored.headerLength.toNat =
      tablesStop img := by
    simp only [Header.restored, hheaderLength, tablesStop] at hlength ⊢
    omega
  have hchunkTable : img.header.restored.chunkTableOffset.toNat = headerSize :=
    h.chunkTableOffset_toNat
  have hziTable : img.header.restored.ziTableOffset.toNat =
      headerSize + 40 * (img.chunks.length + 1) := h.ziTableOffset_toNat
  -- The first table is cut off where the second one starts.
  have hchunkStop : min (tablesStop img) (headerSize + 40 * (img.chunks.length + 1)) =
      headerSize + 40 * (img.chunks.length + 1) := by
    rw [tablesStop]
    omega
  unfold readTables
  dsimp only
  rw [hstop, hchunkTable, hziTable, hchunkStop, h.readChunks_encode]
  dsimp only
  rw [h.readZiChunks_encode]
  rfl

theorem read_encode (h : img.Storable blobs) : read (img.encode blobs) = .ok img.restored := by
  have hlength := headerSize_le_length_encode img blobs
  unfold read
  rw [h.detectOrder?_encode]
  dsimp only
  rw [if_neg (by omega), h.decode_header, h.readTables_encode]

/-- What is read back follows the layout just if no region was lost. -/
theorem restored_followsLayout_iff (h : img.Storable blobs) :
    img.restored.FollowsLayout ↔ ZiChunk.sentinel ∉ img.ziChunks := by
  have hstart := List.takeWhile_prefix (· ≠ ZiChunk.sentinel) (l := img.ziChunks)
  constructor
  · rintro ⟨_, _, hheaderLength, _, _⟩ hmem
    -- The length of the header region gives away how many regions there were.
    have hcount : (img.ziChunks.takeWhile (· ≠ ZiChunk.sentinel)).length = img.ziChunks.length := by
      have hstored := h.follows.2.2.1
      have hread : img.header.headerLength = Layout.blobOffset headerSize img.chunks.length
          (img.ziChunks.takeWhile (· ≠ ZiChunk.sentinel)).length := hheaderLength
      rw [Layout.blobOffset_of_dvd headerSize_dvd] at hstored hread
      simp only [Layout.ziEntrySize] at hstored hread
      omega
    exact takeWhile_ne_eq_self_iff.mp (hstart.eq_of_length hcount) hmem
  · intro hmem
    unfold FollowsLayout restored
    rw [takeWhile_ne_eq_self_iff.mpr hmem]
    exact h.follows

/-- Without a key a file is refused only for its layout. -/
theorem verify_encode (h : img.Storable blobs) :
    verify (img.encode blobs) none =
      (if ZiChunk.sentinel ∈ img.ziChunks then .invalidLayout else .ok, some img.restored) := by
  have hlength := headerSize_le_length_encode img blobs
  have himageLength : img.restored.header.imageLength = (img.encode blobs).length := h.length_eq
  have hcrc : (headerCrc (img.encode blobs) : Int) = img.restored.header.headerCrc := by
    rw [encode_eq_body, Header.headerCrc_encode]
    exact h.crc_eq.symm
  unfold verify
  rw [h.detectOrder?_encode]
  dsimp only
  rw [if_neg (by omega), h.read_encode]
  dsimp only
  rw [verdict, if_neg (not_not_intro himageLength)]
  by_cases hsentinel : ZiChunk.sentinel ∈ img.ziChunks
  · have hrefused : ¬img.restored.FollowsLayout := fun hfollows =>
      h.restored_followsLayout_iff.mp hfollows hsentinel
    rw [if_pos hsentinel, if_pos hrefused]
  · rw [if_neg hsentinel, if_neg (not_not_intro (h.restored_followsLayout_iff.mpr hsentinel)),
      if_neg (not_not_intro hcrc)]

end Storable

/-! ## Canonical images -/

/-- An image as readers show it: the zeros at the end of its set name are gone. -/
def shown (img : Image) : Image :=
  { img with header := { img.header with setName := stripZeros img.header.setName } }

section Canonical

variable {order : ByteOrder} {setName : Bytes} {chunks : List Chunk} {ziChunks : List ZiChunk}
  {blobs : List Bytes}

theorem canonical_storable (hchunks : ∀ c ∈ chunks, c.Fits) (hpos : ∀ c ∈ chunks, 0 < c.size)
    (hziChunks : ∀ c ∈ ziChunks, c.Fits)
    (hsizes : chunks.map Chunk.size = blobs.map fun blob => (blob.length : Int))
    (hlength : Layout.imageLength headerSize (chunks.map Chunk.size) ziChunks.length < 2 ^ 64) :
    (canonical order setName chunks ziChunks).Storable blobs where
  magic_eq := rfl
  header_fits := by
    refine sealed_fits (plannedHeader_fits ?_ hlength) order
    intro size hsize
    obtain ⟨c, hc, rfl⟩ := List.mem_map.mp hsize
    exact Int.le_of_lt (hpos c hc)
  chunks_fit := canonical_chunks_fit hchunks hlength
  sentinel_notMem := by
    -- A queued chunk has a size, and the sentinel has none.
    intro hc
    obtain ⟨c, hmem, _, _, heq⟩ := Chunk.mem_place hc
    have hsize : (0 : Int) = c.size := congrArg Chunk.size heq
    have hpositive := hpos c hmem
    omega
  ziChunks_fit := hziChunks
  follows := canonical_followsLayout
  length_eq := (length_encode_canonical hsizes).symm
  crc_eq := by
    have hcrc := Header.headerCrc_encode order
      (plannedHeader setName (chunks.map Chunk.size) ziChunks.length) []
    rw [List.append_nil] at hcrc
    exact congrArg Int.ofNat hcrc

theorem restored_canonical (hname : setName.length ≤ setNameSize) :
    (canonical order setName chunks ziChunks).restored =
      { (canonical order setName chunks ziChunks).shown with
        ziChunks := ziChunks.takeWhile (· ≠ ZiChunk.sentinel) } := by
  have hstrip : stripZeros (fit setNameSize setName) = stripZeros setName := stripZeros_fit hname
  have hdigest : fit 48 (zeros 48) = zeros 48 := fit_of_length_eq (length_zeros 48)
  have hsignature : fit 96 (zeros 96) = zeros 96 := fit_of_length_eq (length_zeros 96)
  simp only [restored, shown, Header.restored, canonical, Header.sealed, plannedHeader, hstrip,
    hdigest, hsignature]

end Canonical

/-- A small image: a chunk of three bytes and a zero-initialised region. -/
def twoParts (order : ByteOrder) : Image := canonical order [] [⟨1, 0, 16, 3, 7⟩] [⟨2, 32, 64⟩]

theorem twoParts_storable (order : ByteOrder) : (twoParts order).Storable [[1, 2, 3]] :=
  canonical_storable (by decide) (by decide) (by decide) rfl (by decide)

theorem verify_twoParts (order : ByteOrder) :
    verify ((twoParts order).encode [[1, 2, 3]]) none = (.ok, some (twoParts order).restored) := by
  have hsentinel : ZiChunk.sentinel ∉ (twoParts order).ziChunks :=
    (by decide : ZiChunk.sentinel ∉ [(⟨2, 32, 64⟩ : ZiChunk)])
  rw [(twoParts_storable order).verify_encode, if_neg hsentinel]

end BootSeal.Image
