import Mathlib
import BootSeal.Text.DecimalDigit
import BootSeal.Text.Numeral
/-!
# Digits and the numbers they spell

A number is recovered from its digits, and a digit from its character. A number has a leading zero only
if it is zero.
-/

namespace BootSeal

namespace Numeral

theorem ofDigits_eq (base : Nat) (ds : List Nat) : ofDigits base ds = Nat.ofDigits base ds.reverse := by
  rw [ofDigits, Nat.ofDigits_eq_foldr, List.foldr_reverse]
  congr 1
  funext acc d
  rw [Nat.cast_id, Nat.mul_comm, Nat.add_comm]

variable {base : Nat}

theorem lt_of_mem_digits (hbase : 2 ≤ base) {n d : Nat} (hd : d ∈ digits base n) : d < base := by
  induction n using digits.induct base with
  | case1 n h =>
      rw [digits, dif_pos h, List.mem_singleton] at hd
      omega
  | case2 n h ih =>
      rw [digits, dif_neg h, List.mem_append, List.mem_singleton] at hd
      rcases hd with hd | rfl
      · exact ih hd
      · exact Nat.mod_lt _ (by omega)

theorem digits_ne_nil (base n : Nat) : digits base n ≠ [] := by
  rw [digits]
  split
  next => exact List.cons_ne_nil _ _
  next => exact List.append_ne_nil_of_right_ne_nil _ (List.cons_ne_nil _ _)

theorem ofDigits_digits (base n : Nat) : Nat.ofDigits base (digits base n).reverse = n := by
  induction n using digits.induct base with
  | case1 n h => rw [digits, dif_pos h, List.reverse_singleton, Nat.ofDigits_singleton]
  | case2 n h ih =>
      rw [digits, dif_neg h, List.reverse_append, List.reverse_singleton, List.singleton_append,
        Nat.ofDigits_cons, ih]
      exact Nat.mod_add_div n base

/-- Only zero has a leading zero. -/
theorem head?_digits_ne_zero (hbase : 2 ≤ base) {n : Nat} (hn : 0 < n) :
    (digits base n).head? ≠ some 0 := by
  induction n using digits.induct base with
  | case1 n h =>
      rw [digits, dif_pos h, List.head?_cons, ne_eq, Option.some.injEq]
      omega
  | case2 n h ih =>
      rw [digits, dif_neg h, List.head?_append_of_ne_nil _ (digits_ne_nil _ _)]
      exact ih (Nat.div_pos (by omega) (by omega))

theorem length_digits_le {n width : Nat} (hwidth : 0 < width)
    (hn : n < base ^ width) : (digits base n).length ≤ width := by
  induction n using digits.induct base generalizing width with
  | case1 n h =>
      rw [digits, dif_pos h]
      exact hwidth
  | case2 n h ih =>
      obtain ⟨width, rfl⟩ := Nat.exists_eq_succ_of_ne_zero (Nat.ne_of_gt hwidth)
      have hquot : n / base < base ^ width :=
        Nat.div_lt_of_lt_mul (by rwa [Nat.pow_succ, Nat.mul_comm] at hn)
      have hpos : 0 < width := by
        refine Nat.pos_of_ne_zero fun hzero => h (Or.inl ?_)
        subst hzero
        simpa using hn
      rw [digits, dif_neg h, List.length_append, List.length_singleton]
      exact Nat.succ_le_succ (ih hpos hquot)

/-- The character of a digit, which is an ASCII digit or one of six letters. -/
theorem toNat_digitChar {d : Nat} (hd : d < 16) :
    (digitChar d).toNat = if d < 10 then 0x30 + d else 0x61 + (d - 10) := by
  interval_cases d <;> rfl

theorem digitValue?_digitChar {d : Nat} (hd : d < 16) : digitValue? (digitChar d) = some d := by
  interval_cases d <;> rfl

end Numeral

namespace DecimalDigit

theorem apart_zeros : ∀ z ∈ zeros, ∀ z' ∈ zeros, z < z' → z + 10 ≤ z' := by decide +kernel

theorem value?_eq_some_iff {c : Char} {d : Nat} :
    value? c = some d ↔ d < 10 ∧ ∃ z ∈ zeros, c.toNat = z + d := by
  rw [value?, Option.map_eq_some_iff]
  constructor
  · rintro ⟨z, hfind, rfl⟩
    have hz := List.find?_some hfind
    simp only [Bool.and_eq_true, decide_eq_true_eq] at hz
    exact ⟨by omega, z, List.mem_of_find?_eq_some hfind, by omega⟩
  · rintro ⟨hd, z, hmem, hc⟩
    have hhit : (zeros.find? fun z => z ≤ c.toNat && c.toNat < z + 10).isSome := by
      refine List.find?_isSome.mpr ⟨z, hmem, ?_⟩
      simp only [Bool.and_eq_true, decide_eq_true_eq]
      omega
    obtain ⟨z', hfind⟩ := Option.isSome_iff_exists.mp hhit
    have hz' := List.find?_some hfind
    simp only [Bool.and_eq_true, decide_eq_true_eq] at hz'
    -- Two sets of digits have no character in common.
    have hmem' := List.mem_of_find?_eq_some hfind
    have hzz' : z = z' := by
      rcases Nat.lt_trichotomy z z' with hlt | heq | hlt
      · have hapart := apart_zeros z hmem z' hmem' hlt
        omega
      · exact heq
      · have hapart := apart_zeros z' hmem' z hmem hlt
        omega
    exact ⟨z', hfind, by omega⟩

theorem toNat_toAscii {c : Char} {d : Nat} (h : value? c = some d) :
    (toAscii c).toNat = 0x30 + d := by
  have hd := (value?_eq_some_iff.mp h).1
  rw [toAscii, h]
  interval_cases d <;> rfl

theorem toAscii_eq_self {c : Char} (h : value? c = none) : toAscii c = c := by
  rw [toAscii, h]

/-- Only the digits themselves are turned into ASCII digits. -/
theorem toAscii_eq_iff {c x : Char} (hx : ∀ d < 10, x.toNat ≠ 0x30 + d) (hx' : value? x = none) :
    toAscii c = x ↔ c = x := by
  cases h : value? c with
  | none => rw [toAscii_eq_self h]
  | some d =>
      have hd := (value?_eq_some_iff.mp h).1
      constructor
      · rintro rfl
        exact absurd (toNat_toAscii h) (hx d hd)
      · rintro rfl
        rw [hx'] at h
        cases h

end DecimalDigit

end BootSeal
