import Mathlib
import BootSeal.Checksum.Crc32
import BootSeal.Proofs.Bytes.Field
/-!
# Bursts of errors

The register takes the next bytes as if they were all added to it at once, as one little-endian number
of at most 32 bits, and were then shifted out. Shifting loses nothing, so two messages that differ in
four consecutive bytes and nowhere else never have the same checksum.
-/

namespace BootSeal.Crc32

open Bytes

/-- What a shift adds for the bit that falls out of the register. -/
def carry (r : UInt32) : Nat := if r.toNat % 2 = 1 then polynomial.toNat else 0

theorem toNat_shift (r : UInt32) : (shift r).toNat = r.toNat / 2 ^^^ carry r := by
  have hodd : r &&& 1 = 1 ↔ r.toNat % 2 = 1 := by
    rw [← UInt32.toNat_inj, UInt32.toNat_and, UInt32.toNat_one, Nat.and_one_is_mod]
  unfold shift carry
  by_cases hbit : r.toNat % 2 = 1
  · rw [if_pos (hodd.mpr hbit), if_pos hbit]
    simp [Nat.shiftRight_eq_div_pow]
  · rw [if_neg (fun h => hbit (hodd.mp h)), if_neg hbit]
    simp [Nat.shiftRight_eq_div_pow]

theorem carry_eq_of_mod_eq {x y : UInt32} (h : x.toNat % 2 = y.toNat % 2) : carry x = carry y := by
  rw [carry, carry, h]

/-- The top bit of a register that was shifted is the bit that fell out. -/
theorem testBit_shift (r : UInt32) : (shift r).toNat.testBit 31 = decide (r.toNat % 2 = 1) := by
  have hhalf : (r.toNat / 2).testBit 31 = false := by
    apply Nat.testBit_lt_two_pow
    have hlt := r.toNat_lt
    omega
  have hpolynomial : polynomial.toNat.testBit 31 = true := by decide
  rw [toNat_shift, Nat.testBit_xor, hhalf, Bool.false_xor]
  unfold carry
  split
  next hbit => simp [hbit, hpolynomial]
  next hbit => simp [hbit]

theorem shift_injective : Function.Injective shift := by
  intro x y h
  have hmod : x.toNat % 2 = y.toNat % 2 := by
    have hbits := testBit_shift x
    rw [h, testBit_shift, decide_eq_decide] at hbits
    omega
  have hhalf : x.toNat / 2 = y.toNat / 2 := by
    have hnat := congrArg UInt32.toNat h
    rw [toNat_shift, toNat_shift, carry_eq_of_mod_eq hmod] at hnat
    exact Nat.xor_left_injective hnat
  apply UInt32.toNat_inj.mp
  omega

/-- A number that is added above the lowest bit moves down with the register. -/
theorem shift_xor_double (r : UInt32) {v : Nat} (hv : 2 * v < UInt32.size) :
    shift (r ^^^ UInt32.ofNat (2 * v)) = shift r ^^^ UInt32.ofNat v := by
  have hadded : (r ^^^ UInt32.ofNat (2 * v)).toNat = r.toNat ^^^ (2 * v) := by
    rw [UInt32.toNat_xor, UInt32.toNat_ofNat_of_lt' hv]
  have hcarry : carry (r ^^^ UInt32.ofNat (2 * v)) = carry r := by
    apply carry_eq_of_mod_eq
    rw [hadded, Nat.xor_mod_two_eq]
    omega
  have hhalf : (r.toNat ^^^ (2 * v)) / 2 = r.toNat / 2 ^^^ v := by
    rw [Nat.xor_div_two]
    congr 1
    omega
  apply UInt32.toNat_inj.mp
  rw [toNat_shift, hcarry, hadded, hhalf, UInt32.toNat_xor, toNat_shift,
    UInt32.toNat_ofNat_of_lt' (by omega), Nat.xor_assoc, Nat.xor_assoc, Nat.xor_comm v]

theorem shift_iterate_xor (n : Nat) (r : UInt32) {v : Nat} (hv : 2 ^ n * v < UInt32.size) :
    shift^[n] (r ^^^ UInt32.ofNat (2 ^ n * v)) = shift^[n] r ^^^ UInt32.ofNat v := by
  induction n generalizing r with
  | zero => simp
  | succ n ih =>
      have hdouble : 2 ^ (n + 1) * v = 2 * (2 ^ n * v) := by ring
      rw [hdouble] at hv
      rw [hdouble, Function.iterate_succ_apply, Function.iterate_succ_apply, shift_xor_double r hv]
      exact ih _ (by omega)

theorem step_eq_iterate (r : UInt32) (b : UInt8) : step r b = shift^[8] (r ^^^ b.toUInt32) := rfl

theorem step_injective (b : UInt8) : Function.Injective fun r => step r b := by
  intro x y h
  have hadded := shift_injective.iterate 8 h
  exact (UInt32.xor_left_inj b.toUInt32).mp hadded

theorem register_injective (b : Bytes) : Function.Injective fun r => register r b := by
  induction b with
  | nil => exact fun _ _ h => h
  | cons x b ih =>
      intro r s h
      apply step_injective x
      apply ih
      exact h

theorem toNatLE_lt_size {b : Bytes} (hb : b.length ≤ 4) : toNatLE b < UInt32.size := by
  have hlt := toNatLE_lt b
  have hle : fieldValues b.length ≤ fieldValues 4 := by
    rw [fieldValues_eq_pow, fieldValues_eq_pow]
    exact Nat.pow_le_pow_right (by decide) hb
  exact Nat.lt_of_lt_of_le hlt hle

theorem xor_mul_of_lt {x : Nat} (hx : x < 256) (n : Nat) : x ^^^ 256 * n = x + 256 * n := by
  have hhigh : (x ^^^ 256 * n) / 2 ^ 8 = n := by
    rw [Nat.xor_div_two_pow, Nat.div_eq_of_lt hx, Nat.zero_xor]
    omega
  have hlow : (x ^^^ 256 * n) % 2 ^ 8 = x := by
    rw [Nat.xor_mod_two_pow, Nat.mod_eq_of_lt hx]
    simp
  omega

/-- Up to four bytes are taken as one number. -/
theorem register_eq_iterate (r : UInt32) {b : Bytes} (hb : b.length ≤ 4) :
    register r b = shift^[8 * b.length] (r ^^^ UInt32.ofNat (toNatLE b)) := by
  induction b generalizing r with
  | nil => simp [register, toNatLE]
  | cons x b ih =>
      have hsum : toNatLE (x :: b) < UInt32.size := toNatLE_lt_size hb
      rw [toNatLE] at hsum
      have hrest : 256 * toNatLE b < UInt32.size := by omega
      -- The first byte is shifted out below the others, which have come down to the bottom then.
      have hbyte : x.toUInt32 ^^^ UInt32.ofNat (256 * toNatLE b) =
          UInt32.ofNat (toNatLE (x :: b)) := by
        have hx : x.toNat < 256 := x.toNat_lt
        apply UInt32.toNat_inj.mp
        rw [UInt32.toNat_xor, UInt8.toNat_toUInt32, UInt32.toNat_ofNat_of_lt' hrest, toNatLE,
          UInt32.toNat_ofNat_of_lt' hsum, xor_mul_of_lt hx]
      calc register r (x :: b) = register (step r x) b := rfl
        _ = shift^[8 * b.length] (step r x ^^^ UInt32.ofNat (toNatLE b)) := ih _ (Nat.le_of_succ_le hb)
        _ = shift^[8 * b.length]
              (shift^[8] (r ^^^ x.toUInt32 ^^^ UInt32.ofNat (2 ^ 8 * toNatLE b))) := by
            rw [step_eq_iterate, ← shift_iterate_xor 8 _ hrest]
        _ = shift^[8 * (b.length + 1)] (r ^^^ UInt32.ofNat (toNatLE (x :: b))) := by
            rw [← Function.iterate_add_apply, ← hbyte, UInt32.xor_assoc]
            rfl

end BootSeal.Crc32

namespace BootSeal

open Bytes Crc32

/-- A message in which up to four consecutive bytes are changed has another checksum. -/
theorem crc32_burst {front rest b c : Bytes} (hlength : b.length = c.length) (hb : b.length ≤ 4)
    (h : crc32 (front ++ b ++ rest) = crc32 (front ++ c ++ rest)) : b = c := by
  have hregister : register (register 0xFFFFFFFF (front ++ b)) rest =
      register (register 0xFFFFFFFF (front ++ c)) rest := by
    have hchecksum := UInt32.toNat_inj.mp h
    unfold checksum at hchecksum
    rwa [UInt32.xor_left_inj, register_append, register_append _ (front ++ c)] at hchecksum
  have hc : c.length ≤ 4 := by omega
  have hwindow := register_injective rest hregister
  rw [register_append, register_append, register_eq_iterate (register _ front) hb,
    register_eq_iterate (register _ front) hc, ← hlength] at hwindow
  -- Nothing is shifted out of either register that is not shifted out of the other.
  have hnumber := (UInt32.xor_right_inj _).mp (shift_injective.iterate _ hwindow)
  have hnat := congrArg UInt32.toNat hnumber
  rw [UInt32.toNat_ofNat_of_lt' (toNatLE_lt_size hb), UInt32.toNat_ofNat_of_lt' (toNatLE_lt_size hc)]
    at hnat
  rw [← ofNatLE_toNatLE b, ← ofNatLE_toNatLE c, hlength, hnat]

end BootSeal
