/-!
# Byte strings

A byte string is a list of octets. Besides the list operations a binary format needs four more:
runs of zeros, fields of a fixed width, the replacement of a stretch, and writing over an offset.
-/

namespace BootSeal

abbrev Bytes := List UInt8

namespace Bytes

def zeros (n : Nat) : Bytes := List.replicate n 0

/-- The bytes from offset `start` up to, not including, offset `stop`. -/
def slice (b : Bytes) (start stop : Nat) : Bytes := (b.take stop).drop start

/-- A field of exactly `width` bytes: longer text is cut, shorter text is filled with zeros. -/
def fit (width : Nat) (b : Bytes) : Bytes := b.take width ++ zeros (width - b.length)

/-- Everything before the run of zeros at the end. -/
def stripZeros (b : Bytes) : Bytes := (b.reverse.dropWhile (· == 0)).reverse

/-- Replaces the stretch from `start` to `stop`, as far as it exists, by `patch`. -/
def splice (b : Bytes) (start stop : Nat) (patch : Bytes) : Bytes :=
  b.take start ++ patch ++ b.drop stop

/-- Writes `patch` over the bytes from offset `start` on; the string grows if it has to, and a gap
before `start` is filled with zeros. -/
def overwrite (b : Bytes) (start : Nat) (patch : Bytes) : Bytes :=
  b.take start ++ zeros (start - b.length) ++ patch ++ b.drop (start + patch.length)

/-- Cuts a byte string into consecutive pieces of `k + 1` bytes; the last one may be shorter. -/
def pieces (k : Nat) : Bytes → List Bytes
  | [] => []
  | b :: rest => (b :: rest.take k) :: pieces k (rest.drop k)
termination_by b => b.length
decreasing_by simp only [List.length_drop, List.length_cons]; omega

@[simp] theorem length_zeros (n : Nat) : (zeros n).length = n := by
  simp [zeros]

@[simp] theorem length_fit (width : Nat) (b : Bytes) : (fit width b).length = width := by
  simp [fit]
  omega

theorem length_slice (b : Bytes) (start stop : Nat) :
    (slice b start stop).length = min stop b.length - start := by
  simp [slice]

/-- A patch written at the front leaves what lies behind it. -/
theorem overwrite_zero (b patch : Bytes) :
    overwrite b 0 patch = patch ++ b.drop patch.length := by
  simp [overwrite, zeros]

end Bytes

end BootSeal
