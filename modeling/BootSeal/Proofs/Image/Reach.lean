import BootSeal.Proofs.Image.ReadBack
import BootSeal.Proofs.Image.Tiling
/-!
# How far a reader looks

Reading looks at the header record and, for the tables, at nothing behind the length that the header
gives to its region. A file that could be read is therefore read in the same way whatever stands behind
that region, and whatever is put behind the file; more room does not change a table that has its
sentinel already.
-/

namespace BootSeal

open Bytes

namespace Bytes

variable {b b' : Bytes} {n : Nat}

/-- Files that agree up to an offset agree up to every one before it. -/
theorem take_of_take_eq (h : b'.take n = b.take n) {m : Nat} (hm : m ≤ n) :
    b'.take m = b.take m := by
  have hcut := congrArg (List.take m) h
  rwa [List.take_take, List.take_take, Nat.min_eq_left hm] at hcut

theorem slice_of_take_eq (h : b'.take n = b.take n) {start stop : Nat} (hstop : stop ≤ n) :
    b'.slice start stop = b.slice start stop := by
  rw [slice, slice, take_of_take_eq h hstop]

/-- A file that agrees with another one is as long as the agreement goes. -/
theorem le_length_of_take_eq (h : b'.take n = b.take n) (hn : n ≤ b.length) : n ≤ b'.length := by
  have hwidth := congrArg List.length h
  rw [List.length_take, List.length_take] at hwidth
  omega

end Bytes

theorem Header.decode_take (order : ByteOrder) (b : Bytes) :
    Header.decode order (b.take headerSize) = Header.decode order b := by
  simp [Header.decode, slice, List.take_take, headerSize]

namespace Table

variable {α : Type} {f : RecordFormat α} {order : ByteOrder} {b b' : Bytes} {offset n : Nat}
  {entries : List α}

/-- A table that ends where two files still agree is in both of them. -/
theorem Holds.of_take_eq (h : Holds f order b offset entries) (hsame : b'.take n = b.take n)
    (hroom : offset + f.size * (entries.length + 1) ≤ n) : Holds f order b' offset entries := by
  have hslot : ∀ i ≤ entries.length, slot f b' offset i = slot f b offset i := by
    intro i hi
    have hle : f.size * (i + 1) ≤ f.size * (entries.length + 1) := Nat.mul_le_mul_left _ (by omega)
    exact slice_of_take_eq hsame (by omega)
  refine ⟨?_, h.sentinel_notMem, ?_⟩
  · intro i hi
    rw [hslot i (Nat.le_of_lt hi)]
    exact h.decode_slot i hi
  · rw [hslot _ (Nat.le_refl _)]
    exact h.decode_end

variable [DecidableEq α] {stop stop' : Nat}

/-- A table that was read is read again in any larger region. -/
theorem read_of_take_eq (h : read f order b offset stop = .ok entries)
    (hsame : b'.take n = b.take n) (hstop : stop ≤ n) (hmore : stop ≤ stop') :
    read f order b' offset stop' = .ok entries := by
  obtain ⟨hholds, hroom⟩ := read_eq_ok_iff.mp h
  exact read_eq_ok_iff.mpr ⟨hholds.of_take_eq hsame (by omega), by omega⟩

end Table

namespace Image

variable {b b' : Bytes} {img : Image}

/-- How far a reader looks into a file with a given header: to the end of the header record, and to
the end of the region of the tables as far as the file goes. -/
def reach (b : Bytes) (h : Header) : Nat := max headerSize (min b.length h.headerLength.toNat)

theorem reach_le_length (hlong : headerSize ≤ b.length) (h : Header) : reach b h ≤ b.length :=
  Nat.max_le.mpr ⟨hlong, Nat.min_le_left _ _⟩

theorem readTables_of_take_eq {order : ByteOrder} {h : Header} (hread : readTables order h b = .ok img)
    (hlong : headerSize ≤ b.length) (hsame : b'.take (reach b h) = b.take (reach b h)) :
    readTables order h b' = .ok img := by
  obtain ⟨rfl, rfl, hchunks, hziChunks⟩ := readTables_eq_ok_iff.mp hread
  have hlimit : min b.length img.header.headerLength.toNat ≤ reach b img.header := Nat.le_max_right _ _
  have hlength := le_length_of_take_eq hsame (reach_le_length hlong _)
  have hchunks' : Table.read Chunk.format img.order b' img.header.chunkTableOffset.toNat
      (min (min b'.length img.header.headerLength.toNat) img.header.ziTableOffset.toNat) =
        .ok img.chunks :=
    Table.read_of_take_eq hchunks hsame (by omega) (by omega)
  have hziChunks' : Table.read ZiChunk.format img.order b' img.header.ziTableOffset.toNat
      (min b'.length img.header.headerLength.toNat) = .ok img.ziChunks :=
    Table.read_of_take_eq hziChunks hsame hlimit (by omega)
  exact readTables_eq_ok_iff.mpr ⟨rfl, rfl, hchunks', hziChunks'⟩

/-- A file that agrees with one that was read, as far as the reader looks, is read as the same image. -/
theorem read_of_take_eq (h : read b = .ok img)
    (hsame : b'.take (reach b img.header) = b.take (reach b img.header)) : read b' = .ok img := by
  obtain ⟨hmagic, hlong, hheader, htables⟩ := read_eq_ok_iff.mp h
  have hreach : headerSize ≤ reach b img.header := Nat.le_max_left _ _
  have hlong' : headerSize ≤ b'.length :=
    hreach.trans (le_length_of_take_eq hsame (reach_le_length hlong _))
  have hrecord : b'.take headerSize = b.take headerSize := take_of_take_eq hsame hreach
  have hmagic' : HasMagic img.order b' := by
    rw [HasMagic, take_of_take_eq hrecord (by decide)]
    exact hmagic
  have hheader' : img.header = Header.decode img.order b' := by
    rw [← Header.decode_take, hrecord, Header.decode_take, hheader]
  exact read_eq_ok_iff.mpr ⟨hmagic', hlong', hheader', readTables_of_take_eq htables hlong hsame⟩

/-- What is put behind a file that was read is not looked at. -/
theorem read_append (h : read b = .ok img) (rest : Bytes) : read (b ++ rest) = .ok img :=
  read_of_take_eq h (List.take_append_of_le_length (reach_le_length (read_eq_ok h).1 _))

/-- What was read depends neither on what follows the file nor on what the file holds behind the reach of
the reader: on no blob, on no filling behind the tables, and on nothing behind the end of the header
region. A file that agrees up to there is long enough for the tables. -/
theorem read_depends_on_reach (h : read b = .ok img) :
    (∀ rest, read (b ++ rest) = .ok img) ∧
      ∀ b', b'.take (reach b img.header) = b.take (reach b img.header) → read b' = .ok img :=
  ⟨read_append h, fun _ => read_of_take_eq h⟩

/-- Whatever the blobs of an image are, the tables in front of them make one stretch of the file. -/
theorem take_encode_eq (img : Image) (blobs blobs' : List Bytes) {n : Nat} (hn : n ≤ img.blobsStart) :
    (img.encode blobs').take n = (img.encode blobs).take n := by
  have hlength : (img.header.encode img.order ++ Table.encode Chunk.format img.order img.chunks
      ++ Table.encode ZiChunk.format img.order img.ziChunks).length = img.blobsStart := by
    rw [List.length_append, List.length_append, Header.length_encode,
      Table.length_encode Chunk.lawful, Table.length_encode ZiChunk.lawful]
    rfl
  have hfront := hn.trans_eq hlength.symm
  rw [encode_eq_tables, encode_eq_tables, List.take_append_of_le_length hfront,
    List.take_append_of_le_length hfront]

/-- The blob of an image replaced, and the rest cut off. -/
theorem read_depends_on_reach_twoParts :
    read ((twoParts .big).encode [[1, 2, 3]]) = .ok (twoParts .big).restored ∧
      read ((twoParts .big).encode [[1, 2, 3]] ++ [7]) = .ok (twoParts .big).restored ∧
      read (((twoParts .big).encode [[4, 5, 6]]).take 577) = .ok (twoParts .big).restored := by
  have hread := (twoParts_storable .big).read_encode
  obtain ⟨happend, hagree⟩ := read_depends_on_reach hread
  have hreach : reach ((twoParts .big).encode [[1, 2, 3]]) (twoParts .big).restored.header ≤ 576 :=
    Nat.max_le.mpr ⟨by decide, Nat.min_le_right _ 576⟩
  refine ⟨hread, happend [7], hagree _ ?_⟩
  rw [List.take_take, Nat.min_eq_left (by omega)]
  exact take_encode_eq _ _ _ hreach

end Image

end BootSeal
