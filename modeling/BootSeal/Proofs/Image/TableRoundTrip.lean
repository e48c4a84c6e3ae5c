import BootSeal.Proofs.Except
import BootSeal.Proofs.Image.Grammar
import BootSeal.Proofs.Image.Reencoding
/-!
# Tables in both directions

A list of descriptors is coded with the sentinel behind it, and reading gives the list back wherever the
code stands, as soon as the region of the table reaches behind the sentinel; in any shorter region reading
stops at the first slot that does not fit. In turn what was read from any bytes has a code, and that is the
bytes that were read with the pads of their slots cleared.
-/

namespace BootSeal

open Bytes

namespace Bytes

/-- A byte string with the bytes at some offsets set to zero. -/
def cleared (p : Nat → Prop) [DecidablePred p] (b : Bytes) : Bytes :=
  b.mapIdx fun i x => if p i then 0 else x

variable {p q : Nat → Prop} [DecidablePred p] [DecidablePred q] {b c : Bytes}

theorem getElem?_cleared (p : Nat → Prop) [DecidablePred p] (b : Bytes) (i : Nat) :
    (cleared p b)[i]? = b[i]?.map fun x => if p i then 0 else x :=
  List.getElem?_mapIdx

theorem cleared_append (p : Nat → Prop) [DecidablePred p] (b c : Bytes) :
    cleared p (b ++ c) = cleared p b ++ cleared (fun i => p (i + b.length)) c :=
  List.mapIdx_append

theorem cleared_congr (h : ∀ i < b.length, p i ↔ q i) : cleared p b = cleared q b := by
  apply List.ext_getElem?
  intro i
  rw [getElem?_cleared, getElem?_cleared]
  rcases Nat.lt_or_ge i b.length with hi | hi
  · simp only [h i hi]
  · rw [List.getElem?_eq_none hi]
    rfl

@[simp] theorem length_cleared (p : Nat → Prop) [DecidablePred p] (b : Bytes) :
    (cleared p b).length = b.length :=
  List.length_mapIdx

/-- A stretch in which nothing is to be cleared stays as it is. -/
theorem slice_cleared_of_forall_not {start stop : Nat} (h : ∀ i, start ≤ i → i < stop → ¬p i) :
    (cleared p b).slice start stop = b.slice start stop := by
  apply slice_congr
  intro i hstart hstop
  rw [getElem?_cleared]
  simp [h i hstart hstop]

/-- Of a stretch in which everything is to be cleared only zeros are left. -/
theorem slice_cleared_of_forall {start stop : Nat} (h : ∀ i, start ≤ i → i < stop → p i)
    (hstop : stop ≤ b.length) : (cleared p b).slice start stop = zeros (stop - start) := by
  apply List.ext_getElem?
  intro i
  rw [getElem?_slice, getElem?_cleared, zeros, List.getElem?_replicate]
  rcases Nat.lt_or_ge (start + i) stop with hi | hi
  · have hlt : start + i < b.length := by omega
    simp [h (start + i) (by omega) hi, hi, hlt, show i < stop - start by omega]
  · rw [if_neg (by omega), if_neg (by omega)]

end Bytes

/-! ## Records -/

/-- The offsets in a descriptor at which nothing is stored. -/
def Chunk.IsPad (i : Nat) : Prop := 4 ≤ i ∧ i < 8 ∨ 36 ≤ i ∧ i < 40

def ZiChunk.IsPad (i : Nat) : Prop := 4 ≤ i ∧ i < 8

instance : DecidablePred Chunk.IsPad := fun i =>
  inferInstanceAs (Decidable (4 ≤ i ∧ i < 8 ∨ 36 ≤ i ∧ i < 40))

instance : DecidablePred ZiChunk.IsPad := fun i => inferInstanceAs (Decidable (4 ≤ i ∧ i < 8))

section Records

variable (order : ByteOrder) {b : Bytes}

/-- A descriptor that was read is coded as it stands, with its pads cleared. -/
theorem Chunk.encode_decode_eq_cleared (hlength : b.length = 40) :
    (Chunk.decode order b).encode order = cleared IsPad b := by
  have hfront : (cleared IsPad b).slice 0 4 = b.slice 0 4 :=
    slice_cleared_of_forall_not fun i _ _ => by unfold IsPad; omega
  have hfirst : (cleared IsPad b).slice 4 8 = zeros 4 :=
    slice_cleared_of_forall (fun i _ _ => by unfold IsPad; omega) (by omega)
  have hfields : (cleared IsPad b).slice 8 36 = b.slice 8 36 :=
    slice_cleared_of_forall_not fun i _ _ => by unfold IsPad; omega
  have hlast : (cleared IsPad b).slice 36 40 = zeros 4 :=
    slice_cleared_of_forall (fun i _ _ => by unfold IsPad; omega) (by omega)
  calc (Chunk.decode order b).encode order
      = b.slice 0 4 ++ zeros 4 ++ b.slice 8 36 ++ zeros 4 :=
        Chunk.encode_decode_eq_slices order hlength
    _ = (cleared IsPad b).slice 0 4 ++ (cleared IsPad b).slice 4 8 ++ (cleared IsPad b).slice 8 36
          ++ (cleared IsPad b).slice 36 40 := by
        rw [hfront, hfirst, hfields, hlast]
    _ = cleared IsPad b := by
        simp (disch := omega) only [slice_append_slice]
        exact slice_of_le_length (by simp [hlength])

theorem ZiChunk.encode_decode_eq_cleared (hlength : b.length = 24) :
    (ZiChunk.decode order b).encode order = cleared IsPad b := by
  have hfront : (cleared IsPad b).slice 0 4 = b.slice 0 4 :=
    slice_cleared_of_forall_not fun i _ _ => by unfold IsPad; omega
  have hpad : (cleared IsPad b).slice 4 8 = zeros 4 :=
    slice_cleared_of_forall (fun i _ _ => by unfold IsPad; omega) (by omega)
  have hfields : (cleared IsPad b).slice 8 24 = b.slice 8 24 :=
    slice_cleared_of_forall_not fun i _ _ => by unfold IsPad; omega
  calc (ZiChunk.decode order b).encode order
      = b.slice 0 4 ++ zeros 4 ++ b.slice 8 24 := ZiChunk.encode_decode_eq_slices order hlength
    _ = (cleared IsPad b).slice 0 4 ++ (cleared IsPad b).slice 4 8
          ++ (cleared IsPad b).slice 8 24 := by
        rw [hfront, hpad, hfields]
    _ = cleared IsPad b := by
        simp (disch := omega) only [slice_append_slice]
        exact slice_of_le_length (by simp [hlength])

end Records

/-- Every whole slot holds a value in `fits`, and the code of the value is the slot with its pads
cleared. -/
structure RecordFormat.Recoded {α : Type} (f : RecordFormat α) (fits : α → Prop) (pad : Nat → Prop)
    [DecidablePred pad] : Prop where
  fits_decode : ∀ order b, b.length = f.size → fits (f.decode order b)
  encode_decode : ∀ order b, b.length = f.size →
    f.encode order (f.decode order b) = cleared pad b

theorem Chunk.recoded : Chunk.format.Recoded Chunk.Fits Chunk.IsPad where
  fits_decode order _ h := Chunk.decode_fits order h
  encode_decode order _ h := Chunk.encode_decode_eq_cleared order h

theorem ZiChunk.recoded : ZiChunk.format.Recoded ZiChunk.Fits ZiChunk.IsPad where
  fits_decode order _ h := ZiChunk.decode_fits order h
  encode_decode order _ h := ZiChunk.encode_decode_eq_cleared order h

/-! ## Tables -/

namespace Table

variable {α : Type} {f : RecordFormat α} {fits : α → Prop} {pad : Nat → Prop} [DecidablePred pad]
  {order : ByteOrder} {b : Bytes} {offset : Nat} {entries : List α}

/-- A slot in the file is cleared at the offsets that are pads within a slot. -/
theorem encode_decode_slot (hf : f.Recoded fits pad) (order : ByteOrder) (b : Bytes) (offset : Nat)
    (hroom : offset + f.size ≤ b.length) :
    f.encode order (f.decode order (slot f b offset 0)) =
      cleared (fun i => pad (i % f.size)) (slot f b offset 0) := by
  have hlength : (slot f b offset 0).length = f.size := length_slot (by omega)
  rw [hf.encode_decode order _ hlength]
  apply cleared_congr
  intro i hi
  rw [Nat.mod_eq_of_lt (by omega)]

/-- What a table is coded again to: its slots, with the pads cleared in each of them. -/
theorem Holds.encode_eq_cleared (h : Holds f order b offset entries) (hf : f.Recoded fits pad)
    (hroom : offset + f.size * (entries.length + 1) ≤ b.length) :
    encode f order entries = cleared (fun i => pad (i % f.size))
      (b.slice offset (offset + f.size * (entries.length + 1))) := by
  induction entries generalizing offset with
  | nil =>
      have hcode := encode_decode_slot hf order b offset (by simpa using hroom)
      rw [holds_nil_iff.mp h] at hcode
      rw [encode, List.nil_append, List.flatMap_singleton, hcode, slot]
      rfl
  | cons x entries ih =>
      rw [List.length_cons, Nat.mul_succ] at hroom
      obtain ⟨hx, _, hrest⟩ := holds_cons_iff.mp h
      have hcode := encode_decode_slot hf order b offset (by omega)
      have hlength : (slot f b offset 0).length = f.size := length_slot (by omega)
      have hsplit : b.slice offset (offset + f.size * ((x :: entries).length + 1)) =
          slot f b offset 0 ++
            b.slice (offset + f.size) (offset + f.size + f.size * (entries.length + 1)) := by
        rw [slot, Nat.mul_zero, Nat.add_zero, Nat.zero_add, Nat.mul_one,
          slice_append_slice b (by omega) (by omega), List.length_cons, Nat.mul_succ f.size]
        congr 1
        omega
      rw [hx] at hcode
      rw [encode_cons, hcode, ih hrest (by omega), hsplit, cleared_append, hlength]
      -- Behind a whole slot the pads are where they are from the start.
      simp only [Nat.add_mod_right]

variable [DecidableEq α] {stop : Nat}

/-- Whoever asks for each slot finds a table just if it is there in front of the end of the file. -/
theorem fetchEntries_eq_ok_iff :
    fetchEntries f order b offset stop = .ok entries ↔
      read f order b offset (min stop b.length) = .ok entries := by
  unfold read
  fun_induction fetchEntries f order b offset stop generalizing entries with
  | case1 offset hroom ih =>
      rcases Nat.lt_or_ge b.length (offset + f.size) with hshort | hinside
      · rw [fetch, if_neg (by omega), readEntries, dif_neg (by omega)]
        simp [bind, Except.bind]
      rw [fetch_eq_ok hinside, readEntries, dif_pos (by omega), List.drop_drop]
      dsimp only [bind, Except.bind]
      split
      next => simp
      next =>
        cases hfetch : fetchEntries f order b (offset + f.size) stop with
        | ok found =>
            rw [ih.mp hfetch]
            simp
        | error e =>
            obtain ⟨e', hread⟩ := (exists_error_congr ih).mp ⟨e, hfetch⟩
            rw [hread]
            simp
  | case2 offset hfull =>
      rw [readEntries, dif_neg (by omega)]
      simp

/-- In a region that ends before the sentinel, the slot that does not fit is the first one that passes
the end of the region. -/
theorem readEntries_cut (hf : f.Lawful fits) (order : ByteOrder) {xs : List α}
    (hfits : ∀ x ∈ xs, fits x) (hxs : f.sentinel ∉ xs) (rest : Bytes) (offset stop : Nat)
    (hstop : stop < offset + f.size * (xs.length + 1)) :
    readEntries f order (encode f order xs ++ rest) offset stop =
      .error ⟨offset + f.size * ((stop - offset) / f.size)⟩ := by
  have hsize := f.size_pos
  induction xs generalizing offset with
  | nil =>
      have hfull : stop - offset < f.size := by simp at hstop; omega
      rw [readEntries, dif_neg (by simp at hstop; omega), Nat.div_eq_of_lt hfull]
      rfl
  | cons x xs ih =>
      rw [List.mem_cons, not_or] at hxs
      rw [List.length_cons, Nat.mul_succ] at hstop
      by_cases hroom : offset + f.size ≤ stop
      · have hquot : (stop - offset) / f.size = (stop - (offset + f.size)) / f.size + 1 := by
          rw [← Nat.add_div_right _ hsize]
          congr 1
          omega
        rw [encode_cons, List.append_assoc, readEntries_append hf order (hfits x List.mem_cons_self) _
          hroom, if_neg (Ne.symm hxs.1), ih (fun y hy => hfits y (List.mem_cons_of_mem _ hy)) hxs.2 _
          (by omega), hquot, Nat.mul_succ, Nat.add_assoc, Nat.add_comm f.size]
        rfl
      · have hfull : stop - offset < f.size := by omega
        rw [readEntries, dif_neg hroom, Nat.div_eq_of_lt hfull]
        rfl

/-- A format by which tables are coded and read without loss, for entries in `fits` and slots with the
pads `pad`. -/
structure Faithful (f : RecordFormat α) (fits : α → Prop) (pad : Nat → Prop) [DecidablePred pad] :
    Prop where
  /-- What is coded behind any bytes and in front of any others is read back from every region that
  reaches behind the sentinel, and from no other one. -/
  read_encode : ∀ order (front rest : Bytes) (entries : List α), (∀ x ∈ entries, fits x) →
    f.sentinel ∉ entries → ∀ stop,
      read f order (front ++ (encode f order entries ++ rest)) front.length stop =
        if front.length + (encode f order entries).length ≤ stop then .ok entries
        else .error ⟨front.length + f.size * ((stop - front.length) / f.size)⟩
  /-- In a region within the file, a reader is never refused a slot by the end of the file. -/
  fetchEntries_eq_read : ∀ order (b : Bytes) (offset stop : Nat), stop ≤ b.length →
    fetchEntries f order b offset stop =
      (read f order b offset stop).mapError fun e => .refused (.unterminatedTable e.offset)
  /-- What was read from any region of any bytes is coded to the bytes that were read, but for pads. -/
  encode_read : ∀ order (b : Bytes) (offset stop : Nat) (entries : List α),
    fetchEntries f order b offset stop = .ok entries →
      f.sentinel ∉ entries ∧ (∀ x ∈ entries, fits x) ∧
        offset + (encode f order entries).length ≤ min stop b.length ∧
        encode f order entries = cleared (fun i => pad (i % f.size))
          (b.slice offset (offset + (encode f order entries).length))

theorem faithful (hf : f.Lawful fits) (hr : f.Recoded fits pad) : Faithful f fits pad where
  read_encode order front rest entries hfits hentries stop := by
    have hall : entries.takeWhile (· ≠ f.sentinel) = entries :=
      List.takeWhile_eq_self_iff.mpr fun x hx => decide_eq_true fun heq => hentries (heq ▸ hx)
    rw [length_encode hf]
    split
    next hroom =>
      have hread := Table.read_encode hf order entries hfits front rest stop (by rwa [hall])
      rwa [hall] at hread
    next hcut =>
      rw [read, List.drop_left]
      exact readEntries_cut hf order hfits hentries rest _ _ (by omega)
  fetchEntries_eq_read _ _ _ _ := fetchEntries_eq
  encode_read order b offset stop entries h := by
    obtain ⟨hholds, hroom⟩ := read_eq_ok_iff.mp (fetchEntries_eq_ok_iff.mp h)
    have hinside : offset + f.size * (entries.length + 1) ≤ b.length := by omega
    rw [length_encode hf]
    exact ⟨hholds.sentinel_notMem, hholds.forall_mem (hr.fits_decode order) hinside, hroom,
      hholds.encode_eq_cleared hr hinside⟩

/-- Both tables of an image are coded and read without loss. A slot of the chunk table has two pads of four
bytes, and one of the other table has one. -/
theorem descriptorTables_faithful :
    Faithful Chunk.format Chunk.Fits Chunk.IsPad ∧
      Faithful ZiChunk.format ZiChunk.Fits ZiChunk.IsPad :=
  ⟨faithful Chunk.lawful Chunk.recoded, faithful ZiChunk.lawful ZiChunk.recoded⟩

/-- A table of one region whose pads are not zero, neither in its entry nor in its sentinel. -/
def filledPads : Bytes :=
  [0, 0, 0, 7, 1, 2, 3, 4, 0, 0, 0, 0, 0, 0, 16, 0, 0, 0, 0, 0, 0, 0, 0, 32] ++
    ([0, 0, 0, 0, 5, 6, 7, 8] ++ zeros 16)

theorem descriptorTables_faithful_one_region :
    read ZiChunk.format .big ([9] ++ (encode ZiChunk.format .big [⟨7, 4096, 32⟩] ++ [9])) 1 49 =
        .ok [⟨7, 4096, 32⟩] ∧
      read ZiChunk.format .big ([9] ++ (encode ZiChunk.format .big [⟨7, 4096, 32⟩] ++ [9])) 1 48 =
        .error ⟨25⟩ ∧
      fetchEntries ZiChunk.format .big filledPads 0 48 = .ok [⟨7, 4096, 32⟩] ∧
      encode ZiChunk.format .big [⟨7, 4096, 32⟩] =
        cleared (fun i => ZiChunk.IsPad (i % 24)) (filledPads.slice 0 48) := by
  obtain ⟨-, hread, hfetch, hencode⟩ := descriptorTables_faithful
  have hfits : ∀ c ∈ [(⟨7, 4096, 32⟩ : ZiChunk)], c.Fits := by decide
  have hsentinel : ZiChunk.format.sentinel ∉ [(⟨7, 4096, 32⟩ : ZiChunk)] := by decide
  have hwhole := hread .big [9] [9] _ hfits hsentinel 49
  have hcut := hread .big [9] [9] _ hfits hsentinel 48
  rw [if_pos (by decide)] at hwhole
  rw [if_neg (by decide)] at hcut
  have hfound : fetchEntries ZiChunk.format .big filledPads 0 48 = .ok [⟨7, 4096, 32⟩] := by
    rw [hfetch .big filledPads 0 48 (by decide)]
    cbv
  obtain ⟨-, -, -, hcode⟩ := hencode .big filledPads 0 48 _ hfound
  exact ⟨hwhole, hcut, hfound, hcode⟩

end Table

end BootSeal
