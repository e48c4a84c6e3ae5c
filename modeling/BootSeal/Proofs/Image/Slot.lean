import BootSeal.Image.Table
import BootSeal.Proofs.Bytes.Slice
/-!
# What a file holds where a table is read

Reading a table succeeds just if the region has room for it, and then the slots from the offset of the
table on hold its entries, none of which is a sentinel, and a sentinel behind them. So the bytes of a
table that was read are determined by its entries, as far as its slots are.
-/

namespace BootSeal.Table

open Bytes

variable {α : Type} {f : RecordFormat α} {order : ByteOrder} {b : Bytes} {offset stop : Nat}

/-- Slot number `i` of the table at an offset. -/
def slot (f : RecordFormat α) (b : Bytes) (offset i : Nat) : Bytes :=
  b.slice (offset + f.size * i) (offset + f.size * (i + 1))

/-- A file holds a table: its entries in their slots, and behind them the first sentinel. -/
structure Holds (f : RecordFormat α) (order : ByteOrder) (b : Bytes) (offset : Nat)
    (entries : List α) : Prop where
  decode_slot : ∀ i (h : i < entries.length), f.decode order (slot f b offset i) = entries[i]
  sentinel_notMem : f.sentinel ∉ entries
  decode_end : f.decode order (slot f b offset entries.length) = f.sentinel

theorem slot_zero (f : RecordFormat α) (b : Bytes) (offset : Nat) :
    slot f b offset 0 = (b.drop offset).take f.size := by
  rw [slot, slice_eq_take_drop]
  simp

theorem slot_succ (f : RecordFormat α) (b : Bytes) (offset i : Nat) :
    slot f b offset (i + 1) = slot f b (offset + f.size) i := by
  rw [slot, slot]
  congr 1
  · ring
  · ring

theorem length_slot {i : Nat} (h : offset + f.size * (i + 1) ≤ b.length) :
    (slot f b offset i).length = f.size := by
  rw [slot, length_slice_of_le h, Nat.mul_succ]
  omega

/-- A slot in front of another one lies within the file as that one does. -/
theorem slot_le {i n : Nat} (hi : i ≤ n) (h : offset + f.size * (n + 1) ≤ b.length) :
    offset + f.size * (i + 1) ≤ b.length := by
  have hle : f.size * (i + 1) ≤ f.size * (n + 1) := Nat.mul_le_mul_left _ (by omega)
  omega

theorem holds_nil_iff :
    Holds f order b offset [] ↔ f.decode order (slot f b offset 0) = f.sentinel := by
  constructor
  · intro h
    exact h.decode_end
  · intro h
    exact ⟨fun i hi => absurd hi (Nat.not_lt_zero i), List.not_mem_nil, h⟩

theorem holds_cons_iff {x : α} {entries : List α} :
    Holds f order b offset (x :: entries) ↔
      f.decode order (slot f b offset 0) = x ∧ x ≠ f.sentinel ∧
        Holds f order b (offset + f.size) entries := by
  constructor
  · intro h
    obtain ⟨hslots, hmem, hend⟩ := h
    rw [List.mem_cons, not_or] at hmem
    refine ⟨hslots 0 (Nat.succ_pos _), Ne.symm hmem.1, ?_, hmem.2, ?_⟩
    · intro i hi
      rw [← slot_succ]
      exact hslots (i + 1) (Nat.succ_lt_succ hi)
    · rw [← slot_succ]
      exact hend
  · rintro ⟨hfirst, hne, hslots, hmem, hend⟩
    refine ⟨?_, ?_, ?_⟩
    · intro i hi
      cases i with
      | zero => exact hfirst
      | succ i =>
          rw [slot_succ]
          exact hslots i (Nat.lt_of_succ_lt_succ hi)
    · rw [List.mem_cons, not_or]
      exact ⟨Ne.symm hne, hmem⟩
    · rw [List.length_cons, slot_succ]
      exact hend

variable [DecidableEq α]

theorem readEntries_eq_ok_nil_iff {rest : Bytes} :
    readEntries f order rest offset stop = .ok [] ↔
      f.decode order (rest.take f.size) = f.sentinel ∧ offset + f.size ≤ stop := by
  rw [readEntries]
  by_cases hroom : offset + f.size ≤ stop
  · rw [dif_pos hroom]
    dsimp only
    split
    next heq => simp [heq, hroom]
    next hne =>
      cases readEntries f order (rest.drop f.size) (offset + f.size) stop <;> simp [hne]
  · rw [dif_neg hroom]
    simp [hroom]

theorem readEntries_eq_ok_cons_iff {rest : Bytes} {x : α} {entries : List α} :
    readEntries f order rest offset stop = .ok (x :: entries) ↔
      f.decode order (rest.take f.size) = x ∧ x ≠ f.sentinel ∧ offset + f.size ≤ stop ∧
        readEntries f order (rest.drop f.size) (offset + f.size) stop = .ok entries := by
  rw [readEntries]
  by_cases hroom : offset + f.size ≤ stop
  · rw [dif_pos hroom]
    dsimp only
    split
    next heq =>
      rw [heq]
      simp only [Except.ok.injEq, reduceCtorEq, false_iff]
      rintro ⟨rfl, hne, _⟩
      exact hne rfl
    next hne =>
      cases readEntries f order (rest.drop f.size) (offset + f.size) stop with
      | error e => simp
      | ok found =>
          simp only [Except.ok.injEq, List.cons.injEq]
          constructor
          · rintro ⟨rfl, rfl⟩
            exact ⟨rfl, hne, hroom, rfl⟩
          · rintro ⟨hx, _, _, hentries⟩
            exact ⟨hx, hentries⟩
  · rw [dif_neg hroom]
    simp [hroom]

/-- Reading succeeds just if the table is there and lies in its region. -/
theorem read_eq_ok_iff {entries : List α} :
    read f order b offset stop = .ok entries ↔
      Holds f order b offset entries ∧ offset + f.size * (entries.length + 1) ≤ stop := by
  unfold read
  induction entries generalizing offset with
  | nil =>
      rw [readEntries_eq_ok_nil_iff, holds_nil_iff, slot_zero]
      simp
  | cons x entries ih =>
      have hsize : offset + f.size + f.size * (entries.length + 1) =
          offset + f.size * ((x :: entries).length + 1) := by
        rw [List.length_cons]
        ring
      rw [readEntries_eq_ok_cons_iff, holds_cons_iff, List.drop_drop, ih, slot_zero, hsize]
      constructor
      · rintro ⟨hfirst, hne, _, hrest, hroom⟩
        exact ⟨⟨hfirst, hne, hrest⟩, hroom⟩
      · rintro ⟨⟨hfirst, hne, hrest⟩, hroom⟩
        -- The room for the whole table is room for its first slot.
        exact ⟨hfirst, hne, by rw [← hsize] at hroom; omega, hrest, hroom⟩

end BootSeal.Table
