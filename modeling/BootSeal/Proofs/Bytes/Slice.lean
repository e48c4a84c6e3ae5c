import BootSeal.Proofs.Bytes.Field
/-!
# Stretches of a byte string

A byte string is the concatenation of its stretches between any offsets in ascending order, and a
stretch of a stretch is a stretch of the whole. Two strings that agree on a range of offsets have the
same stretches in it.
-/

namespace BootSeal.Bytes

variable {start mid stop : Nat}

theorem getElem?_slice (b : Bytes) (start stop i : Nat) :
    (b.slice start stop)[i]? = if start + i < stop then b[start + i]? else none := by
  rw [slice, List.getElem?_drop, List.getElem?_take]

theorem slice_eq_take_drop (b : Bytes) (start stop : Nat) :
    b.slice start stop = (b.drop start).take (stop - start) := by
  rw [slice, List.drop_take]

theorem slice_zero (b : Bytes) (stop : Nat) : b.slice 0 stop = b.take stop := by
  rw [slice, List.drop_zero]

theorem slice_of_stop_le (b : Bytes) (h : stop ≤ start) : b.slice start stop = [] := by
  rw [slice_eq_take_drop, Nat.sub_eq_zero_of_le h, List.take_zero]

/-- A stretch that lies within the string has the width of its range. -/
theorem length_slice_of_le {b : Bytes} (h : stop ≤ b.length) :
    (b.slice start stop).length = stop - start := by
  rw [length_slice, Nat.min_eq_left h]

theorem slice_append_slice (b : Bytes) (hstart : start ≤ mid) (hstop : mid ≤ stop) :
    b.slice start mid ++ b.slice mid stop = b.slice start stop := by
  have hwidth : stop - start = (mid - start) + (stop - mid) := by omega
  have hdrop : b.drop mid = (b.drop start).drop (mid - start) := by
    rw [List.drop_drop, Nat.add_sub_cancel' hstart]
  rw [slice_eq_take_drop, slice_eq_take_drop, slice_eq_take_drop, hwidth, hdrop, List.take_add]

theorem slice_slice (b : Bytes) {i j : Nat} (h : start + j ≤ stop) :
    (b.slice start stop).slice i j = b.slice (start + i) (start + j) := by
  apply List.ext_getElem?
  intro k
  rw [getElem?_slice, getElem?_slice, getElem?_slice, Nat.add_assoc]
  by_cases hk : i + k < j
  · rw [if_pos hk, if_pos (by omega), if_pos (by omega)]
  · rw [if_neg hk, if_neg (by omega)]

/-- Strings that agree on a range of offsets have the same stretch there. -/
theorem slice_congr {b b' : Bytes} (h : ∀ i, start ≤ i → i < stop → b[i]? = b'[i]?) :
    b.slice start stop = b'.slice start stop := by
  apply List.ext_getElem?
  intro k
  rw [getElem?_slice, getElem?_slice]
  split
  next hk => exact h _ (by omega) hk
  next => rfl

/-! ## Replaced stretches -/

section Splice

variable {b patch : Bytes}

/-- A stretch is replaced by one of its width. -/
theorem length_splice (hstart : start ≤ stop) (hstop : stop ≤ b.length)
    (hpatch : patch.length = stop - start) : (b.splice start stop patch).length = b.length := by
  rw [splice, List.length_append, List.length_append, List.length_take, List.length_drop, hpatch]
  omega

theorem getElem?_splice (hstart : start ≤ stop) (hstop : stop ≤ b.length)
    (hpatch : patch.length = stop - start) (i : Nat) :
    (b.splice start stop patch)[i]? =
      if i < start ∨ stop ≤ i then b[i]? else patch[i - start]? := by
  have hfront : (b.take start).length = start := List.length_take_of_le (by omega)
  rw [splice]
  rcases Nat.lt_or_ge i start with hbefore | hnotBefore
  · rw [if_pos (Or.inl hbefore), List.append_assoc, List.getElem?_append_left (by omega),
      List.getElem?_take_of_lt hbefore]
  rcases Nat.lt_or_ge i stop with hinside | hbehind
  · rw [if_neg (by omega), List.getElem?_append_left (by rw [List.length_append]; omega),
      List.getElem?_append_right (by omega), hfront]
  · rw [if_pos (Or.inr hbehind), List.getElem?_append_right (by rw [List.length_append]; omega),
      List.getElem?_drop, List.length_append, hfront, hpatch]
    congr 1
    omega

end Splice

/-! ## Pieces -/

section Pieces

variable {k : Nat} {b piece : Bytes}

@[simp] theorem flatten_pieces (k : Nat) (b : Bytes) : (pieces k b).flatten = b := by
  induction b using pieces.induct k with
  | case1 => rw [pieces, List.flatten_nil]
  | case2 x rest ih =>
      rw [pieces, List.flatten_cons, ih, List.cons_append, List.take_append_drop]

theorem length_of_mem_pieces (h : piece ∈ pieces k b) : 0 < piece.length ∧ piece.length ≤ k + 1 := by
  induction b using pieces.induct k with
  | case1 =>
      rw [pieces] at h
      cases h
  | case2 x rest ih =>
      rw [pieces, List.mem_cons] at h
      rcases h with rfl | h
      · simp
      · exact ih h

theorem pieces_ne_nil (h : b ≠ []) : pieces k b ≠ [] := by
  cases b with
  | nil => exact absurd rfl h
  | cons x rest =>
      rw [pieces]
      exact List.cons_ne_nil _ _

/-- Only the last piece can be short. -/
theorem length_of_mem_dropLast_pieces (h : piece ∈ (pieces k b).dropLast) :
    piece.length = k + 1 := by
  induction b using pieces.induct k with
  | case1 =>
      rw [pieces] at h
      cases h
  | case2 x rest ih =>
      rw [pieces] at h
      by_cases hrest : rest.drop k = []
      · rw [hrest, pieces] at h
        cases h
      · rw [List.dropLast_cons_of_ne_nil (pieces_ne_nil hrest), List.mem_cons] at h
        rcases h with rfl | h
        · rw [List.drop_eq_nil_iff] at hrest
          rw [List.length_cons, List.length_take]
          omega
        · exact ih h

end Pieces

end BootSeal.Bytes
