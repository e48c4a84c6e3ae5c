import BootSeal.Image.Table
import BootSeal.Proofs.Image.Codec
/-!
# Reading back a table

A table has no count of its entries: it ends where the first sentinel stands. So what is read back
from the code of a list is the part of the list in front of its first sentinel, and that is the whole
list just if no entry is a sentinel.
-/

namespace BootSeal

namespace RecordFormat

variable {α : Type}

/-- Every code has the size of the format, and a code of a value in `fits` is read back, whatever
follows it. -/
structure Lawful (f : RecordFormat α) (fits : α → Prop) : Prop where
  length_encode : ∀ order x, (f.encode order x).length = f.size
  decode_encode : ∀ order x, fits x → f.decode order (f.encode order x) = x
  fits_sentinel : fits f.sentinel

end RecordFormat

theorem Chunk.lawful : Chunk.format.Lawful Chunk.Fits where
  length_encode := Chunk.length_encode
  decode_encode order c hc := by
    have h := Chunk.decode_encode hc order []
    rwa [List.append_nil] at h
  fits_sentinel := by decide

theorem ZiChunk.lawful : ZiChunk.format.Lawful ZiChunk.Fits where
  length_encode := ZiChunk.length_encode
  decode_encode order c hc := by
    have h := ZiChunk.decode_encode hc order []
    rwa [List.append_nil] at h
  fits_sentinel := by decide

namespace Table

variable {α : Type} {f : RecordFormat α} {fits : α → Prop}

theorem encode_cons (f : RecordFormat α) (order : ByteOrder) (x : α) (xs : List α) :
    encode f order (x :: xs) = f.encode order x ++ encode f order xs := by
  simp [encode]

theorem encode_eq_append (f : RecordFormat α) (order : ByteOrder) (xs : List α) :
    encode f order xs = xs.flatMap (f.encode order) ++ f.encode order f.sentinel := by
  simp [encode]

theorem length_encode (hf : f.Lawful fits) (order : ByteOrder) (xs : List α) :
    (encode f order xs).length = f.size * (xs.length + 1) := by
  induction xs with
  | nil => simp [encode, hf.length_encode]
  | cons x xs ih =>
      rw [encode_cons, List.length_append, hf.length_encode, ih, List.length_cons, Nat.add_comm,
        ← Nat.mul_succ]

variable [DecidableEq α]

/-- The first slot of what is left decides whether the table goes on. -/
theorem readEntries_append (hf : f.Lawful fits) (order : ByteOrder) {x : α} (hx : fits x)
    (rest : Bytes) {offset stop : Nat} (hstop : offset + f.size ≤ stop) :
    readEntries f order (f.encode order x ++ rest) offset stop =
      if x = f.sentinel then .ok []
      else (readEntries f order rest (offset + f.size) stop).map (x :: ·) := by
  have htake : (f.encode order x ++ rest).take f.size = f.encode order x := by
    rw [← hf.length_encode order x, List.take_left]
  have hdrop : (f.encode order x ++ rest).drop f.size = rest := by
    rw [← hf.length_encode order x, List.drop_left]
  rw [readEntries, dif_pos hstop]
  dsimp only
  rw [htake, hdrop, hf.decode_encode order x hx]
  by_cases hsentinel : x = f.sentinel
  · rw [if_pos hsentinel, if_pos hsentinel]
  · rw [if_neg hsentinel, if_neg hsentinel]
    cases readEntries f order rest (offset + f.size) stop with
    | ok entries => rfl
    | error e => rfl

/-- What is read back from the code of a list, in a region that reaches behind its first sentinel. -/
theorem readEntries_encode (hf : f.Lawful fits) (order : ByteOrder) (xs : List α)
    (hfits : ∀ x ∈ xs, fits x) (rest : Bytes) (offset stop : Nat)
    (hstop : offset + f.size * ((xs.takeWhile (· ≠ f.sentinel)).length + 1) ≤ stop) :
    readEntries f order (encode f order xs ++ rest) offset stop =
      .ok (xs.takeWhile (· ≠ f.sentinel)) := by
  -- The region only has to reach behind the first sentinel, so the offset moves along with it.
  induction xs generalizing offset with
  | nil =>
      have hroom : offset + f.size ≤ stop := by simpa using hstop
      simp only [encode, List.nil_append, List.flatMap_singleton]
      rw [readEntries_append hf order hf.fits_sentinel rest hroom, if_pos rfl]
      rfl
  | cons x xs ih =>
      have hroom : offset + f.size ≤ stop := by
        have hpos : 0 < (List.takeWhile (· ≠ f.sentinel) (x :: xs)).length + 1 := Nat.succ_pos _
        have hle := Nat.le_mul_of_pos_right f.size hpos
        omega
      rw [encode_cons, List.append_assoc,
        readEntries_append hf order (hfits x List.mem_cons_self) _ hroom]
      by_cases hx : x = f.sentinel
      · simp [hx]
      · have hlength : (List.takeWhile (· ≠ f.sentinel) (x :: xs)).length =
            (List.takeWhile (· ≠ f.sentinel) xs).length + 1 := by simp [hx]
        rw [hlength, Nat.mul_succ] at hstop
        rw [if_neg hx, ih (fun y hy => hfits y (List.mem_cons_of_mem _ hy)) _ (by omega)]
        simp [Except.map, hx]

theorem read_encode (hf : f.Lawful fits) (order : ByteOrder) (xs : List α)
    (hfits : ∀ x ∈ xs, fits x) (before rest : Bytes) (stop : Nat)
    (hstop : before.length + f.size * ((xs.takeWhile (· ≠ f.sentinel)).length + 1) ≤ stop) :
    read f order (before ++ (encode f order xs ++ rest)) before.length stop =
      .ok (xs.takeWhile (· ≠ f.sentinel)) := by
  rw [read, List.drop_left]
  exact readEntries_encode hf order xs hfits rest _ _ hstop

end Table

end BootSeal
