import Mathlib
import BootSeal.Bytes.Integer
/-!
# Fields of a byte string

A record is a row of fields, and a field is read back as the stretch at its offset. A stretch of a
concatenation is made of a stretch of each part, so offsets are settled part by part.
-/

namespace BootSeal

theorem fieldValues_eq_pow (width : Nat) : fieldValues width = 256 ^ width := by
  induction width with
  | zero => rfl
  | succ width ih => rw [fieldValues, ih, pow_succ]

theorem fieldValues_pos (width : Nat) : 0 < fieldValues width := by
  rw [fieldValues_eq_pow]
  positivity

end BootSeal

namespace BootSeal.Bytes

@[simp] theorem zeros_zero : zeros 0 = [] := rfl

theorem slice_append (b c : Bytes) (start stop : Nat) :
    slice (b ++ c) start stop = slice b start stop ++ slice c (start - b.length) (stop - b.length) := by
  unfold slice
  rw [List.take_append, List.drop_append, List.length_take]
  rcases Nat.le_total stop b.length with hle | hle
  · rw [Nat.sub_eq_zero_of_le hle]
    simp
  · rw [Nat.min_eq_right hle]

theorem slice_of_length_le {b : Bytes} {start : Nat} (h : b.length ≤ start) (stop : Nat) :
    slice b start stop = [] := by
  rw [← List.length_eq_zero_iff, length_slice]
  omega

theorem slice_of_le_length {b : Bytes} {stop : Nat} (h : b.length ≤ stop) : slice b 0 stop = b := by
  rw [slice, List.take_of_length_le h, List.drop_zero]

@[simp] theorem slice_zero_zero (b : Bytes) (start : Nat) : slice b start 0 = [] := by
  simp [slice]

theorem fit_of_length_eq {width : Nat} {b : Bytes} (h : b.length = width) : fit width b = b := by
  rw [fit, List.take_of_length_le (Nat.le_of_eq h), h, Nat.sub_self, zeros_zero, List.append_nil]

theorem fit_of_length_le {width : Nat} {b : Bytes} (h : b.length ≤ width) :
    fit width b = b ++ zeros (width - b.length) := by
  rw [fit, List.take_of_length_le h]

theorem stripZeros_append_zeros (b : Bytes) (n : Nat) : stripZeros (b ++ zeros n) = stripZeros b := by
  have hdrop : (zeros n ++ b.reverse).dropWhile (· == 0) = b.reverse.dropWhile (· == 0) := by
    induction n with
    | zero => rfl
    | succ n ih =>
        rw [← ih]
        simp [zeros, List.replicate_succ]
  rw [stripZeros, stripZeros, List.reverse_append, ← hdrop]
  simp [zeros]

/-- Filling a text up with zeros does not change what stands before its zeros. -/
theorem stripZeros_fit {width : Nat} {b : Bytes} (h : b.length ≤ width) :
    stripZeros (fit width b) = stripZeros b := by
  rw [fit_of_length_le h, stripZeros_append_zeros]

/-- Replacing a field leaves what stands around it. -/
theorem splice_field (before field rest patch : Bytes) :
    splice (before ++ field ++ rest) before.length (before.length + field.length) patch =
      before ++ patch ++ rest := by
  have hdrop : (before ++ field ++ rest).drop (before.length + field.length) = rest := by
    rw [← List.length_append, List.drop_left]
  rw [splice, hdrop, List.append_assoc before field rest, List.take_left]

@[simp] theorem ofNatLE_zero (width : Nat) : ofNatLE width 0 = zeros width := by
  induction width with
  | zero => rfl
  | succ width ih =>
      rw [ofNatLE, Nat.zero_div, ih]
      rfl

@[simp] theorem ofNatBE_zero (width : Nat) : ofNatBE width 0 = zeros width := by
  simp [ofNatBE, zeros]

end BootSeal.Bytes

namespace BootSeal.ByteOrder

@[simp] theorem encode_zero (order : ByteOrder) (width : Nat) :
    order.encode width 0 = Bytes.zeros width := by
  cases order
  · exact Bytes.ofNatLE_zero width
  · exact Bytes.ofNatBE_zero width

/-- Fields of one width that hold the same number are the same. -/
theorem eq_of_decode_eq (order : ByteOrder) {b b' : Bytes} (hlength : b.length = b'.length)
    (h : order.decode b = order.decode b') : b = b' := by
  rw [← order.encode_decode b, ← order.encode_decode b', hlength, h]

end BootSeal.ByteOrder
