import BootSeal.Proofs.Image.Reach
/-!
# What can be read

Offsets and lengths in a header may be any numbers, so a table may start in the header record, behind
the end of the file or inside the other table. A reader that asks for every stretch whether the file
has it reads just the same and is never refused one, since the end of each region is at most the end
of the file. What is read are the slots in front of the first sentinel, if that lies in its region.
-/

namespace BootSeal

open Bytes

/-- Why a reader that asks before it looks gives up. -/
inductive ReadFault where
  /-- It was to look behind the end of the file. -/
  | outside
  | refused (e : ImageError)
deriving DecidableEq, Repr

/-- A stretch of a file, if the file has it. -/
def fetch (b : Bytes) (start width : Nat) : Except ReadFault Bytes :=
  if start + width ≤ b.length then .ok (b.slice start (start + width)) else .error .outside

theorem fetch_eq_ok {b : Bytes} {start width : Nat} (h : start + width ≤ b.length) :
    fetch b start width = .ok ((b.drop start).take width) := by
  rw [fetch, if_pos h, slice_eq_take_drop, Nat.add_sub_cancel_left]

namespace Table

variable {α : Type} {f : RecordFormat α} {order : ByteOrder} {b : Bytes} {offset stop : Nat}
  {entries : List α}

/-- The entries in front of the first sentinel, each slot fetched from the file. -/
def fetchEntries (f : RecordFormat α) [DecidableEq α] (order : ByteOrder) (b : Bytes)
    (offset stop : Nat) : Except ReadFault (List α) :=
  if _ : offset + f.size ≤ stop then do
    let code ← fetch b offset f.size
    if f.decode order code = f.sentinel then .ok []
    else
      let entries ← fetchEntries f order b (offset + f.size) stop
      .ok (f.decode order code :: entries)
  else .error (.refused (.unterminatedTable offset))
termination_by stop - offset
decreasing_by have := f.size_pos; omega

/-- A table that lies in a region of the file is read slot by slot within the file. -/
theorem fetchEntries_eq [DecidableEq α] (hstop : stop ≤ b.length) :
    fetchEntries f order b offset stop =
      (read f order b offset stop).mapError fun e => .refused (.unterminatedTable e.offset) := by
  unfold read
  fun_induction fetchEntries f order b offset stop with
  | case1 offset hroom ih =>
      rw [readEntries, dif_pos hroom, fetch_eq_ok (hroom.trans hstop)]
      dsimp only [bind, Except.bind]
      split
      next => rfl
      next =>
        rw [ih, List.drop_drop]
        cases readEntries f order (b.drop (offset + f.size)) (offset + f.size) stop with
        | error e => rfl
        | ok entries => rfl
  | case2 offset hfull =>
      rw [readEntries, dif_neg hfull]
      rfl

/-- The slots of a table in front of its first sentinel, which ends at `stop` at the latest. Where the
file goes on up to there, these are whole slots of it. -/
def Terminated (f : RecordFormat α) (order : ByteOrder) (b : Bytes) (offset stop : Nat)
    (entries : List α) : Prop :=
  ∃ n, IsLeast {i | f.decode order (slot f b offset i) = f.sentinel} n ∧
    offset + f.size * (n + 1) ≤ stop ∧
    entries = (List.range n).map fun i => f.decode order (slot f b offset i)

/-- A table is held just if its entries are the slots in front of the first sentinel. -/
theorem holds_iff_isLeast :
    Holds f order b offset entries ↔
      IsLeast {i | f.decode order (slot f b offset i) = f.sentinel} entries.length ∧
        entries = (List.range entries.length).map fun i => f.decode order (slot f b offset i) := by
  constructor
  · intro h
    refine ⟨⟨h.decode_end, fun i hi => ?_⟩, ?_⟩
    · by_contra hlt
      have hentry := h.decode_slot i (Nat.lt_of_not_le hlt)
      rw [show f.decode order (slot f b offset i) = f.sentinel from hi] at hentry
      exact h.sentinel_notMem (hentry ▸ List.getElem_mem _)
    · apply List.ext_getElem
      · simp
      · intro i hi _
        rw [List.getElem_map, List.getElem_range, h.decode_slot i hi]
  · rintro ⟨⟨hend, hleast⟩, hentries⟩
    refine ⟨?_, ?_, hend⟩
    · intro i hi
      rw [List.getElem_of_eq hentries, List.getElem_map, List.getElem_range]
    · intro hmem
      rw [hentries] at hmem
      obtain ⟨i, hi, hsentinel⟩ := List.mem_map.mp hmem
      have hle : entries.length ≤ i := hleast hsentinel
      rw [List.mem_range] at hi
      omega

theorem read_eq_ok_iff_terminated [DecidableEq α] :
    read f order b offset stop = .ok entries ↔ Terminated f order b offset stop entries := by
  rw [read_eq_ok_iff, holds_iff_isLeast]
  constructor
  · rintro ⟨⟨hleast, hentries⟩, hroom⟩
    exact ⟨entries.length, hleast, hroom, hentries⟩
  · rintro ⟨n, hleast, hroom, hentries⟩
    obtain rfl : n = entries.length := by rw [hentries, List.length_map, List.length_range]
    exact ⟨⟨hleast, hentries⟩, hroom⟩

end Table

namespace Image

def fetchOrder (b : Bytes) : Except ReadFault ByteOrder :=
  if b.length < 4 then .error (.refused .magicMismatch)
  else do
    let code ← fetch b 0 4
    if (ByteOrder.little.decode code : Int) = bootMagic then .ok .little
    else if (ByteOrder.big.decode code : Int) = bootMagic then .ok .big
    else .error (.refused .magicMismatch)

def fetchTables (order : ByteOrder) (h : Header) (b : Bytes) : Except ReadFault Image := do
  let limit := min b.length h.headerLength.toNat
  let chunks ← Table.fetchEntries Chunk.format order b h.chunkTableOffset.toNat
    (min limit h.ziTableOffset.toNat)
  let ziChunks ← Table.fetchEntries ZiChunk.format order b h.ziTableOffset.toNat limit
  .ok ⟨order, h, chunks, ziChunks⟩

/-- Reads an image, and asks for each stretch of the file whether the file has it. -/
def fetchImage (b : Bytes) : Except ReadFault Image := do
  let order ← fetchOrder b
  if b.length < headerSize then .error (.refused .truncatedHeader)
  else
    let code ← fetch b 0 headerSize
    fetchTables order (Header.decode order code) b

/-- What a file has to be for an image to be read from it. -/
structure Readable (b : Bytes) (img : Image) : Prop where
  magic : HasMagic img.order b
  headerSize_le : headerSize ≤ b.length
  header_eq : img.header = Header.decode img.order b
  chunks_terminated : Table.Terminated Chunk.format img.order b img.header.chunkTableOffset.toNat
    (min (min b.length img.header.headerLength.toNat) img.header.ziTableOffset.toNat) img.chunks
  ziChunks_terminated : Table.Terminated ZiChunk.format img.order b img.header.ziTableOffset.toNat
    (min b.length img.header.headerLength.toNat) img.ziChunks

theorem fetchOrder_eq (b : Bytes) :
    fetchOrder b = match detectOrder? b with
      | none => .error (.refused .magicMismatch)
      | some order => .ok order := by
  unfold fetchOrder detectOrder?
  by_cases hshort : b.length < 4
  · rw [if_pos hshort, if_pos hshort]
  · rw [if_neg hshort, if_neg hshort, fetch_eq_ok (by omega), List.drop_zero]
    dsimp only [bind, Except.bind]
    split_ifs <;> rfl

theorem fetchTables_eq (order : ByteOrder) (h : Header) (b : Bytes) :
    fetchTables order h b = (readTables order h b).mapError .refused := by
  have hlimit : min b.length h.headerLength.toNat ≤ b.length := Nat.min_le_left _ _
  unfold fetchTables readTables
  dsimp only
  rw [Table.fetchEntries_eq ((Nat.min_le_left _ _).trans hlimit), Table.fetchEntries_eq hlimit]
  cases Table.read Chunk.format order b h.chunkTableOffset.toNat
      (min (min b.length h.headerLength.toNat) h.ziTableOffset.toNat) with
  | error e => rfl
  | ok chunks =>
      cases Table.read ZiChunk.format order b h.ziTableOffset.toNat
          (min b.length h.headerLength.toNat) with
      | error e => rfl
      | ok ziChunks => rfl

theorem fetchImage_eq (b : Bytes) : fetchImage b = (read b).mapError .refused := by
  unfold fetchImage read
  rw [fetchOrder_eq]
  cases detectOrder? b with
  | none => rfl
  | some order =>
      dsimp only [bind, Except.bind]
      split_ifs with hshort
      · rfl
      · rw [fetch_eq_ok (by omega), List.drop_zero]
        dsimp only
        rw [Header.decode_take, fetchTables_eq]

/-- Reading looks at nothing behind the end of the file, whatever the file holds, and it gives an image
just if the file has the magic number, a whole header, and in the regions that the header gives two
tables with their sentinels; the entries are then the slots in front of the first sentinels. -/
theorem read_eq_ok_iff_readable (b : Bytes) :
    fetchImage b = (read b).mapError .refused ∧ ∀ img, read b = .ok img ↔ Readable b img := by
  refine ⟨fetchImage_eq b, fun img => ?_⟩
  rw [read_eq_ok_iff, readTables_eq_ok_iff, Table.read_eq_ok_iff_terminated,
    Table.read_eq_ok_iff_terminated]
  constructor
  · rintro ⟨hmagic, hlong, hheader, _, _, hchunks, hziChunks⟩
    exact ⟨hmagic, hlong, hheader, hchunks, hziChunks⟩
  · rintro ⟨hmagic, hlong, hheader, hchunks, hziChunks⟩
    exact ⟨hmagic, hlong, hheader, rfl, rfl, hchunks, hziChunks⟩

/-- A small file with a chunk and a zero-initialised region. -/
theorem read_eq_ok_iff_readable_twoParts :
    let file := (twoParts .big).encode [[1, 2, 3]]
    ∃ img, Readable file img ∧ fetchImage file = .ok img ∧
      img.chunks = [⟨1, 576, 16, 3, 7⟩] ∧ img.ziChunks = [⟨2, 32, 64⟩] := by
  intro file
  have hread : read file = .ok (twoParts .big).restored := (twoParts_storable .big).read_encode
  obtain ⟨hfetch, hreadable⟩ := read_eq_ok_iff_readable file
  rw [hread] at hfetch
  exact ⟨_, (hreadable _).mp hread, hfetch, by decide, by decide⟩

end Image

end BootSeal
