import BootSeal.Bytes.Basic
/-!
# Fixed-width integers as bytes

An unsigned integer field has a width in bytes and a byte order. Encoding keeps the value modulo
`fieldValues width`; whether a value fits its field at all is the predicate `FitsWidth`.
-/

namespace BootSeal

inductive ByteOrder where
  | little
  | big
deriving DecidableEq, Repr

namespace ByteOrder

def name : ByteOrder → String
  | little => "little"
  | big => "big"

def ofName? : String → Option ByteOrder
  | "little" => some little
  | "big" => some big
  | _ => none

end ByteOrder

namespace Bytes

/-- The `width` base-256 digits of a number, least significant first. -/
def ofNatLE : Nat → Nat → Bytes
  | 0, _ => []
  | width + 1, n => UInt8.ofNat n :: ofNatLE width (n / 256)

def ofNatBE (width n : Nat) : Bytes := (ofNatLE width n).reverse

/-- The number whose base-256 digits are given, least significant first. -/
def toNatLE : Bytes → Nat
  | [] => 0
  | b :: rest => b.toNat + 256 * toNatLE rest

def toNatBE (b : Bytes) : Nat := toNatLE b.reverse

/-- The shortest big-endian form; zero is one zero byte. -/
def ofNatShortest (n : Nat) : Bytes :=
  if n < 256 then [UInt8.ofNat n] else ofNatShortest (n / 256) ++ [UInt8.ofNat n]

end Bytes

namespace ByteOrder

def encode : ByteOrder → Nat → Nat → Bytes
  | little => Bytes.ofNatLE
  | big => Bytes.ofNatBE

def decode : ByteOrder → Bytes → Nat
  | little => Bytes.toNatLE
  | big => Bytes.toNatBE

end ByteOrder

/-- How many numbers a field of `width` bytes tells apart. -/
def fieldValues : Nat → Nat
  | 0 => 1
  | width + 1 => fieldValues width * 256

/-- An integer fits a field of `width` bytes when it is neither negative nor too large. -/
def FitsWidth (width : Nat) (v : Int) : Prop := 0 ≤ v ∧ v < fieldValues width

instance (width : Nat) (v : Int) : Decidable (FitsWidth width v) :=
  inferInstanceAs (Decidable (0 ≤ v ∧ v < fieldValues width))

namespace Bytes

@[simp] theorem length_ofNatLE (width n : Nat) : (ofNatLE width n).length = width := by
  induction width generalizing n with
  | zero => rfl
  | succ width ih => simp [ofNatLE, ih]

@[simp] theorem length_ofNatBE (width n : Nat) : (ofNatBE width n).length = width := by
  simp [ofNatBE]

/-- Decoding undoes encoding for every number that fits the width. -/
theorem toNatLE_ofNatLE (width n : Nat) (h : n < fieldValues width) :
    toNatLE (ofNatLE width n) = n := by
  induction width generalizing n with
  | zero =>
      rw [fieldValues] at h
      rw [ofNatLE, toNatLE]
      omega
  | succ width ih =>
      have hquot : n / 256 < fieldValues width := by
        rw [Nat.div_lt_iff_lt_mul (by decide)]
        exact h
      simp only [ofNatLE, toNatLE, ih _ hquot, UInt8.toNat_ofNat']
      omega

/-- Encoding undoes decoding: every field is the code of the number it holds. -/
theorem ofNatLE_toNatLE (b : Bytes) : ofNatLE b.length (toNatLE b) = b := by
  induction b with
  | nil => rfl
  | cons x rest ih =>
      have hx : x.toNat < 256 := x.toNat_lt
      have hquot : (x.toNat + 256 * toNatLE rest) / 256 = toNatLE rest := by omega
      simp only [List.length_cons, toNatLE, ofNatLE, hquot, ih]
      congr 1
      apply UInt8.toNat_inj.mp
      simp only [UInt8.toNat_ofNat']
      omega

theorem toNatLE_lt (b : Bytes) : toNatLE b < fieldValues b.length := by
  induction b with
  | nil => exact Nat.one_pos
  | cons x rest ih =>
      have hx : x.toNat < 256 := x.toNat_lt
      rw [toNatLE, List.length_cons, fieldValues]
      omega

theorem toNatBE_ofNatBE (width n : Nat) (h : n < fieldValues width) :
    toNatBE (ofNatBE width n) = n := by
  simp [toNatBE, ofNatBE, toNatLE_ofNatLE width n h]

theorem ofNatBE_toNatBE (b : Bytes) : ofNatBE b.length (toNatBE b) = b := by
  have h := ofNatLE_toNatLE b.reverse
  rw [List.length_reverse] at h
  simp [toNatBE, ofNatBE, h]

theorem toNatBE_lt (b : Bytes) : toNatBE b < fieldValues b.length := by
  have h := toNatLE_lt b.reverse
  rwa [List.length_reverse] at h

end Bytes

namespace ByteOrder

@[simp] theorem length_encode (order : ByteOrder) (width n : Nat) :
    (order.encode width n).length = width := by
  cases order <;> simp [encode]

theorem decode_encode (order : ByteOrder) (width n : Nat) (h : n < fieldValues width) :
    order.decode (order.encode width n) = n := by
  cases order
  · exact Bytes.toNatLE_ofNatLE width n h
  · exact Bytes.toNatBE_ofNatBE width n h

theorem encode_decode (order : ByteOrder) (b : Bytes) :
    order.encode b.length (order.decode b) = b := by
  cases order
  · exact Bytes.ofNatLE_toNatLE b
  · exact Bytes.ofNatBE_toNatBE b

theorem decode_lt (order : ByteOrder) (b : Bytes) : order.decode b < fieldValues b.length := by
  cases order
  · exact Bytes.toNatLE_lt b
  · exact Bytes.toNatBE_lt b

end ByteOrder

end BootSeal
