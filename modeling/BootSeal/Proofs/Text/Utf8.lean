import Mathlib
import BootSeal.Text.Utf8
/-!
# Texts and their codes

A byte string that is decoded strictly is the code of the text that comes out. The reader never looks
back, so what carries the induction is the front of a character that is not complete yet: whatever
completes it, the code of the character is this front and what completed it.
-/

namespace BootSeal.Utf8

open String

theorem toNat_val_ofNat {n : Nat} (h : n.isValidChar) : (Char.ofNat n).val.toNat = n := by
  have hofNat := Char.toNat_ofNat n
  rwa [if_pos h] at hofNat

theorem ofNat_eq_of_toNat {n : Nat} {x : UInt8} (h : n = x.toNat) : UInt8.ofNat n = x := by
  rw [h, UInt8.ofNat_toNat]

/-! ## Characters from their bytes -/

section Characters

variable {a x y z : UInt8}

theorem utf8EncodeChar_single (ha : a.toNat < 0x80) : utf8EncodeChar (Char.ofNat a.toNat) = [a] := by
  have hval : (Char.ofNat a.toNat).val.toNat = a.toNat := toNat_val_ofNat (Or.inl (by omega))
  unfold utf8EncodeChar
  rw [hval, if_pos (by omega), UInt8.ofNat_toNat]

theorem utf8EncodeChar_two (ha : 0xC2 ≤ a.toNat) (ha' : a.toNat < 0xE0) (hx : 0x80 ≤ x.toNat)
    (hx' : x.toNat ≤ 0xBF) :
    utf8EncodeChar (Char.ofNat ((a.toNat - 0xC0) * 64 + (x.toNat - 0x80))) = [a, x] := by
  have hval := toNat_val_ofNat
    (Or.inl (by omega) : Nat.isValidChar ((a.toNat - 0xC0) * 64 + (x.toNat - 0x80)))
  unfold utf8EncodeChar
  rw [hval, if_neg (by omega), if_pos (by omega), ofNat_eq_of_toNat (x := a) (by omega),
    ofNat_eq_of_toNat (x := x) (by omega)]

/-- Neither a form that is too long nor a surrogate has three bytes. -/
theorem utf8EncodeChar_three (ha : 0xE0 ≤ a.toNat) (ha' : a.toNat < 0xF0) (hx : 0x80 ≤ x.toNat)
    (hx' : x.toNat ≤ 0xBF) (hy : 0x80 ≤ y.toNat) (hy' : y.toNat ≤ 0xBF)
    (hlong : a.toNat = 0xE0 → 0xA0 ≤ x.toNat) (hsurrogate : a.toNat = 0xED → x.toNat ≤ 0x9F) :
    utf8EncodeChar (Char.ofNat
      (((a.toNat - 0xE0) * 64 + (x.toNat - 0x80)) * 64 + (y.toNat - 0x80))) = [a, x, y] := by
  have hvalid : Nat.isValidChar (((a.toNat - 0xE0) * 64 + (x.toNat - 0x80)) * 64 + (y.toNat - 0x80)) := by
    rw [Nat.isValidChar]
    omega
  unfold utf8EncodeChar
  rw [toNat_val_ofNat hvalid, if_neg (by omega), if_neg (by omega), if_pos (by omega),
    ofNat_eq_of_toNat (x := a) (by omega), ofNat_eq_of_toNat (x := x) (by omega),
    ofNat_eq_of_toNat (x := y) (by omega)]

theorem utf8EncodeChar_four (ha : 0xF0 ≤ a.toNat) (ha' : a.toNat ≤ 0xF4) (hx : 0x80 ≤ x.toNat)
    (hx' : x.toNat ≤ 0xBF) (hy : 0x80 ≤ y.toNat) (hy' : y.toNat ≤ 0xBF) (hz : 0x80 ≤ z.toNat)
    (hz' : z.toNat ≤ 0xBF) (hlong : a.toNat = 0xF0 → 0x90 ≤ x.toNat)
    (hlast : a.toNat = 0xF4 → x.toNat ≤ 0x8F) :
    utf8EncodeChar (Char.ofNat
      ((((a.toNat - 0xF0) * 64 + (x.toNat - 0x80)) * 64 + (y.toNat - 0x80)) * 64
        + (z.toNat - 0x80))) = [a, x, y, z] := by
  have hvalid : Nat.isValidChar ((((a.toNat - 0xF0) * 64 + (x.toNat - 0x80)) * 64
      + (y.toNat - 0x80)) * 64 + (z.toNat - 0x80)) := by
    rw [Nat.isValidChar]
    omega
  unfold utf8EncodeChar
  rw [toNat_val_ofNat hvalid, if_neg (by omega), if_neg (by omega), if_neg (by omega),
    ofNat_eq_of_toNat (x := a) (by omega), ofNat_eq_of_toNat (x := x) (by omega),
    ofNat_eq_of_toNat (x := y) (by omega), ofNat_eq_of_toNat (x := z) (by omega)]

end Characters

/-! ## Pending characters -/

/-- The bits of a character after one more byte. -/
def push (bits : Nat) (x : UInt8) : Nat := bits * 64 + (x.toNat - 0x80)

namespace Pending

/-- The bytes complete a pending character. -/
def CompletedBy (p : Pending) : Bytes → Prop
  | [] => False
  | x :: rest =>
      p.owed = rest.length + 1 ∧ (p.least ≤ x ∧ x ≤ p.greatest) ∧
        ∀ y ∈ rest, 0x80 ≤ y ∧ y ≤ 0xBF

/-- The bytes are the front of whatever a pending character turns out to be. -/
def BegunBy (p : Pending) (front : Bytes) : Prop :=
  ∀ tail, p.CompletedBy tail → utf8EncodeChar (Char.ofNat (tail.foldl push p.bits)) = front ++ tail

/-- One more byte that is not the last one. -/
theorem BegunBy.push {p : Pending} {front : Bytes} (h : p.BegunBy front) {x : UInt8}
    (hx : p.least ≤ x ∧ x ≤ p.greatest) :
    BegunBy ⟨Utf8.push p.bits x, p.owed - 1, 0x80, 0xBF⟩ (front ++ [x]) := by
  intro tail htail
  cases tail with
  | nil => exact htail.elim
  | cons y rest =>
      obtain ⟨hlength, hy, hrest⟩ := htail
      dsimp only at hlength hy
      have hcompleted : p.CompletedBy (x :: y :: rest) := by
        refine ⟨?_, hx, ?_⟩
        · rw [List.length_cons]
          omega
        · intro z hz
          rcases List.mem_cons.mp hz with rfl | hmem
          · exact hy
          · exact hrest z hmem
      simpa only [List.foldl_cons, List.append_assoc, List.singleton_append] using h _ hcompleted

end Pending

section Completed

variable {p : Pending} {tail : Bytes}

theorem Pending.CompletedBy.eq_one (h : p.CompletedBy tail) (howed : p.owed = 1) :
    ∃ x, tail = [x] ∧ p.least.toNat ≤ x.toNat ∧ x.toNat ≤ p.greatest.toNat := by
  cases tail with
  | nil => exact h.elim
  | cons x rest =>
      obtain ⟨hlength, hx, _⟩ := h
      have hnil : rest = [] := List.length_eq_zero_iff.mp (by omega)
      exact ⟨x, by rw [hnil], hx⟩

theorem Pending.CompletedBy.eq_two (h : p.CompletedBy tail) (howed : p.owed = 2) :
    ∃ x y, tail = [x, y] ∧ (p.least.toNat ≤ x.toNat ∧ x.toNat ≤ p.greatest.toNat) ∧
      (0x80 ≤ y.toNat ∧ y.toNat ≤ 0xBF) := by
  cases tail with
  | nil => exact h.elim
  | cons x rest =>
      obtain ⟨hlength, hx, hrest⟩ := h
      obtain ⟨y, rfl⟩ : ∃ y, rest = [y] := List.length_eq_one_iff.mp (by omega)
      exact ⟨x, y, rfl, hx, hrest y List.mem_cons_self⟩

theorem Pending.CompletedBy.eq_three (h : p.CompletedBy tail) (howed : p.owed = 3) :
    ∃ x y z, tail = [x, y, z] ∧ (p.least.toNat ≤ x.toNat ∧ x.toNat ≤ p.greatest.toNat) ∧
      (0x80 ≤ y.toNat ∧ y.toNat ≤ 0xBF) ∧ (0x80 ≤ z.toNat ∧ z.toNat ≤ 0xBF) := by
  cases tail with
  | nil => exact h.elim
  | cons x rest =>
      obtain ⟨hlength, hx, hrest⟩ := h
      obtain ⟨y, z, rfl⟩ : ∃ y z, rest = [y, z] := List.length_eq_two.mp (by omega)
      exact ⟨x, y, z, rfl, hx, hrest y (by simp), hrest z (by simp)⟩

end Completed

section Sequences

variable {b least greatest : UInt8}

theorem begunBy_two (hb : 0xC2 ≤ b.toNat) (hb' : b.toNat < 0xE0) (hleast : 0x80 ≤ least.toNat)
    (hgreatest : greatest.toNat ≤ 0xBF) :
    Pending.BegunBy ⟨b.toNat - 0xC0, 1, least, greatest⟩ [b] := by
  intro tail htail
  obtain ⟨x, rfl, hx, hx'⟩ := htail.eq_one rfl
  exact utf8EncodeChar_two hb hb' (Nat.le_trans hleast hx) (Nat.le_trans hx' hgreatest)

theorem begunBy_three (hb : 0xE0 ≤ b.toNat) (hb' : b.toNat < 0xF0) (hleast : 0x80 ≤ least.toNat)
    (hgreatest : greatest.toNat ≤ 0xBF) (hlong : b.toNat = 0xE0 → 0xA0 ≤ least.toNat)
    (hsurrogate : b.toNat = 0xED → greatest.toNat ≤ 0x9F) :
    Pending.BegunBy ⟨b.toNat - 0xE0, 2, least, greatest⟩ [b] := by
  intro tail htail
  obtain ⟨x, y, rfl, ⟨hx, hx'⟩, hy, hy'⟩ := htail.eq_two rfl
  exact utf8EncodeChar_three hb hb' (Nat.le_trans hleast hx) (Nat.le_trans hx' hgreatest) hy hy'
    (fun h => Nat.le_trans (hlong h) hx) (fun h => Nat.le_trans hx' (hsurrogate h))

theorem begunBy_four (hb : 0xF0 ≤ b.toNat) (hb' : b.toNat ≤ 0xF4) (hleast : 0x80 ≤ least.toNat)
    (hgreatest : greatest.toNat ≤ 0xBF) (hlong : b.toNat = 0xF0 → 0x90 ≤ least.toNat)
    (hlast : b.toNat = 0xF4 → greatest.toNat ≤ 0x8F) :
    Pending.BegunBy ⟨b.toNat - 0xF0, 3, least, greatest⟩ [b] := by
  intro tail htail
  obtain ⟨x, y, z, rfl, ⟨hx, hx'⟩, ⟨hy, hy'⟩, hz, hz'⟩ := htail.eq_three rfl
  exact utf8EncodeChar_four hb hb' (Nat.le_trans hleast hx) (Nat.le_trans hx' hgreatest) hy hy' hz
    hz' (fun h => Nat.le_trans (hlong h) hx) (fun h => Nat.le_trans hx' (hlast h))

end Sequences

/-- What a first byte says is borne out: it is a whole character, or the front of one. -/
def Lead.Honest (b : UInt8) : Lead → Prop
  | .single c => utf8EncodeChar c = [b]
  | .sequence p => p.BegunBy [b]
  | .ill => True

theorem lead_honest (b : UInt8) : (lead b).Honest b := by
  unfold lead
  dsimp only
  -- The ranges of first bytes in ascending order.
  by_cases hsingle : b.toNat < 0x80
  · rw [if_pos hsingle]
    exact utf8EncodeChar_single hsingle
  rw [if_neg hsingle]
  by_cases hill : b.toNat < 0xC2
  · rw [if_pos hill]
    trivial
  rw [if_neg hill]
  by_cases htwo : b.toNat < 0xE0
  · rw [if_pos htwo]
    exact begunBy_two (by omega) htwo (by decide) (by decide)
  rw [if_neg htwo]
  by_cases hlong : b.toNat = 0xE0
  · rw [if_pos hlong]
    have hthree := @begunBy_three b 0xA0 0xBF (by omega) (by omega) (by decide) (by decide)
      (fun _ => by decide) (by omega)
    rwa [hlong] at hthree
  rw [if_neg hlong]
  by_cases hsurrogate : b.toNat = 0xED
  · rw [if_pos hsurrogate]
    have hthree := @begunBy_three b 0x80 0x9F (by omega) (by omega) (by decide) (by decide)
      (by omega) (fun _ => by decide)
    rwa [hsurrogate] at hthree
  rw [if_neg hsurrogate]
  by_cases hthree : b.toNat < 0xF0
  · rw [if_pos hthree]
    exact begunBy_three (by omega) hthree (by decide) (by decide) (by omega) (by omega)
  rw [if_neg hthree]
  by_cases hlong' : b.toNat = 0xF0
  · rw [if_pos hlong']
    have hfour := @begunBy_four b 0x90 0xBF (by omega) (by omega) (by decide) (by decide)
      (fun _ => by decide) (by omega)
    rwa [hlong'] at hfour
  rw [if_neg hlong']
  by_cases hfour : b.toNat < 0xF4
  · rw [if_pos hfour]
    exact begunBy_four (by omega) (by omega) (by decide) (by decide) (by omega) (by omega)
  rw [if_neg hfour]
  by_cases hlast : b.toNat = 0xF4
  · rw [if_pos hlast]
    have hfour := @begunBy_four b 0x80 0x8F (by omega) (by omega) (by decide) (by decide)
      (by omega) (fun _ => by decide)
    rwa [hlast] at hfour
  rw [if_neg hlast]
  trivial

/-! ## Whole strings -/

theorem mapM_id_cons {x : Option Char} {xs : List (Option Char)} {l : List Char}
    (h : (x :: xs).mapM id = some l) : ∃ c rest, x = some c ∧ xs.mapM id = some rest ∧ l = c :: rest := by
  rw [List.mapM_cons] at h
  cases x with
  | none => cases h
  | some c =>
      cases hrest : xs.mapM id with
      | none =>
          rw [hrest] at h
          cases h
      | some rest =>
          rw [hrest] at h
          exact ⟨c, rest, rfl, rfl, (Option.some.inj h).symm⟩

/-- The bytes that a state of the scan stands for. -/
def Begun (front : Bytes) : Option Pending → Prop
  | none => front = []
  | some p => p.BegunBy front

/-- One more byte of a scan without a fault: it completes a character, or one is pending behind it. -/
theorem scan_cons {state : Option Pending} {front b : Bytes} {x : UInt8} {l : List Char}
    (hstate : Begun front state) (h : (scan state (x :: b)).mapM id = some l) :
    (∃ c rest, utf8EncodeChar c = front ++ [x] ∧ (scan none b).mapM id = some rest ∧ l = c :: rest) ∨
      ∃ p, Begun (front ++ [x]) (some p) ∧ (scan (some p) b).mapM id = some l := by
  cases state with
  | none =>
      obtain rfl : front = [] := hstate
      rw [scan] at h
      have hhonest := lead_honest x
      cases hlead : lead x with
      | single c =>
          rw [hlead] at h hhonest
          obtain ⟨c', rest, hc, hrest, hl⟩ := mapM_id_cons h
          obtain rfl := Option.some.inj hc
          exact Or.inl ⟨c, rest, hhonest, hrest, hl⟩
      | sequence p =>
          rw [hlead] at h hhonest
          exact Or.inr ⟨p, hhonest, h⟩
      | ill =>
          rw [hlead] at h
          obtain ⟨_, _, hnone, _⟩ := mapM_id_cons h
          cases hnone
  | some p =>
      have hbegun : p.BegunBy front := hstate
      rw [scan] at h
      split at h
      next hx =>
        dsimp only at h
        split at h
        next howed =>
          obtain ⟨c, rest, hc, hrest, hl⟩ := mapM_id_cons h
          have hencode := hbegun [x] ⟨howed, hx, by simp⟩
          unfold push at hencode
          rw [List.foldl_cons, List.foldl_nil, Option.some.inj hc] at hencode
          exact Or.inl ⟨c, rest, hencode, hrest, hl⟩
        next =>
          have hnext := hbegun.push hx
          unfold push at hnext
          exact Or.inr ⟨_, hnext, h⟩
      next =>
        obtain ⟨_, _, hnone, _⟩ := mapM_id_cons h
        cases hnone

/-- What is scanned without a fault is the code of its characters. -/
theorem flatMap_eq_of_scan {state : Option Pending} {front b : Bytes} {l : List Char}
    (hstate : Begun front state) (h : (scan state b).mapM id = some l) :
    l.flatMap utf8EncodeChar = front ++ b := by
  induction b generalizing state front l with
  | nil =>
      cases state with
      | none =>
          obtain rfl : front = [] := hstate
          cases h
          rfl
      | some p =>
          -- A character that is cut off is a fault.
          obtain ⟨_, _, hnone, _⟩ := mapM_id_cons h
          cases hnone
  | cons x b ih =>
      rcases scan_cons hstate h with ⟨c, rest, hencode, hrest, rfl⟩ | ⟨p, hbegun, hscan⟩
      · rw [List.flatMap_cons, hencode, @ih none [] rest rfl hrest, List.nil_append,
          List.append_assoc, List.singleton_append]
      · rw [ih hbegun hscan, List.append_assoc, List.singleton_append]

/-- Decoding is undone by encoding. -/
theorem encode_of_decode?_eq_some {b : Bytes} {s : String} (h : decode? b = some s) :
    encode s = b := by
  rw [decode?, Option.map_eq_some_iff] at h
  obtain ⟨l, hscan, rfl⟩ := h
  rw [encode, String.toList_ofList]
  exact @flatMap_eq_of_scan none [] b l rfl hscan

end BootSeal.Utf8
