import BootSeal.Key.Listing
import BootSeal.Proofs.Bytes.Slice
import BootSeal.Proofs.Except
import BootSeal.Proofs.Text.Ascii
import BootSeal.Proofs.Text.Numeral
/-!
# Listings are read back

A listing is read as text for a compiler: line by line, a row of an array as tokens with blanks around
them, and a constant as the last word of its line. What is read are the bytes row by row and the number
that the constant holds.
-/

namespace BootSeal.Listing

open Utf8 (IsAscii IsInk)

/-! ## Reading -/

def tokenByte? : List Char → Option UInt8
  | ['0', 'x', high, low, ','] => do
      return UInt8.ofNat ((← Numeral.digitValue? high) * 16 + (← Numeral.digitValue? low))
  | _ => none

def words (line : List Char) : List (List Char) := (line.splitOn ' ').filter (· ≠ [])

def rowBytes? (line : List Char) : Option Bytes := (words line).mapM tokenByte?

/-- The value of a decimal numeral. -/
def numeral? (s : List Char) : Option Nat := do
  let digits ← s.mapM Numeral.digitValue?
  guard (digits ≠ [] ∧ ∀ d ∈ digits, d < 10)
  return Numeral.ofDigits 10 digits

/-- The value in the declaration of a constant: its last word, which a semicolon ends. -/
def constantValue? (line : List Char) : Option Nat := do
  let word ← (line.splitOn ' ').getLast?
  guard (word.getLast? = some ';')
  numeral? word.dropLast

def arrayEnd : List Char := ['\x7d', ';']

/-- What a listing tells: the bytes of each row, and how many bytes there are. -/
structure Reading where
  rows : List Bytes
  count : Nat

/-- Reads a listing. The rows stand between the declaration of the array and its end, and behind the end
there is the constant and nothing else. -/
def read? (text : String) : Option Reading :=
  match text.toList.splitOn '\n' with
  | first :: _ :: rest =>
      match rest.dropWhile (· ≠ arrayEnd) with
      | [_, constant, []] => do
          guard (first = note.toList)
          let rows ← (rest.takeWhile (· ≠ arrayEnd)).mapM rowBytes?
          let count ← constantValue? constant
          return ⟨rows, count⟩
      | _ => none
  | _ => none

/-! ## Rows -/

theorem token_eq (b : UInt8) :
    token b =
      ['0', 'x', Numeral.digitChar (b.toNat / 16), Numeral.digitChar (b.toNat % 16), ','] := rfl

/-- A byte has the value of its two digits. -/
theorem byte_of_digitChars (b : UInt8) :
    (do return UInt8.ofNat ((← Numeral.digitValue? (Numeral.digitChar (b.toNat / 16))) * 16
      + (← Numeral.digitValue? (Numeral.digitChar (b.toNat % 16)))) : Option UInt8) = some b := by
  have hb := b.toNat_lt
  rw [Numeral.digitValue?_digitChar (by omega), Numeral.digitValue?_digitChar (by omega)]
  dsimp only [Option.bind_eq_bind, Option.bind_some]
  rw [Nat.div_add_mod', UInt8.ofNat_toNat]
  rfl

theorem isInk_digitChar {d : Nat} (hd : d < 16) : IsInk (Numeral.digitChar d) := by
  interval_cases d <;> decide

theorem isInk_of_mem_token (b : UInt8) : ∀ c ∈ token b, IsInk c := by
  have hb := b.toNat_lt
  have hhigh := isInk_digitChar (d := b.toNat / 16) (by omega)
  have hlow := isInk_digitChar (d := b.toNat % 16) (by omega)
  simp only [token_eq, List.forall_mem_cons, List.not_mem_nil, IsEmpty.forall_iff, implies_true, and_true]
  exact ⟨by decide, by decide, hhigh, hlow, by decide⟩

/-- A blank ends a word, and there are no words across it. -/
theorem words_append_blank (front line : List Char) :
    words (front ++ ' ' :: line) = words front ++ words line := by
  rw [words, List.splitOn_append_cons_self, List.filter_append]
  rfl

theorem words_of_notMem {w : List Char} (hne : w ≠ []) (h : ' ' ∉ w) : words w = [w] := by
  rw [words, List.splitOn_eq_singleton h]
  simp [hne]

/-- A blank in front of a line belongs to no word. -/
@[simp] theorem words_cons_blank (line : List Char) : words (' ' :: line) = words line :=
  words_append_blank [] line

theorem words_blanks_append (n : Nat) (line : List Char) :
    words (List.replicate n ' ' ++ line) = words line := by
  induction n with
  | zero => rfl
  | succ n ih => rw [List.replicate_succ, List.cons_append, words_cons_blank, ih]

/-- A row without the line end in front of it. -/
def rowLine (b : Bytes) : List Char := "    ".toList ++ List.intercalate [' '] (b.map token)

theorem mem_intercalate {ws : List (List Char)} (h : ∀ w ∈ ws, ∀ c ∈ w, IsInk c) :
    ∀ c ∈ List.intercalate [' '] ws, c = ' ' ∨ IsInk c := by
  intro c hc
  induction ws with
  | nil => cases hc
  | cons w ws ih =>
      rw [List.forall_mem_cons] at h
      cases ws with
      | nil =>
          rw [List.intercalate_singleton] at hc
          exact Or.inr (h.1 c hc)
      | cons w' ws =>
          rw [List.intercalate_cons_cons, List.mem_append, List.mem_append, List.mem_singleton] at hc
          rcases hc with (hc | hc) | hc
          · exact Or.inr (h.1 c hc)
          · exact Or.inl hc
          · exact ih h.2 hc

theorem mem_rowLine (b : Bytes) : ∀ c ∈ rowLine b, c = ' ' ∨ IsInk c := by
  intro c hc
  rw [rowLine, List.mem_append] at hc
  rcases hc with hc | hc
  · exact Or.inl (by simpa using hc)
  · refine mem_intercalate (fun w hw => ?_) c hc
    obtain ⟨x, -, rfl⟩ := List.mem_map.mp hw
    exact isInk_of_mem_token x

theorem notMem_rowLine (b : Bytes) : '\n' ∉ rowLine b := fun h =>
  absurd (mem_rowLine b _ h) (by decide)

theorem toList_decimal (n : Nat) : (Numeral.decimal n).toList = Numeral.ofNat 10 n := by
  have hsign : ¬(n : Int) < 0 := by omega
  simp [Numeral.decimal, Numeral.signed, hsign]

theorem numeral?_ofNat (n : Nat) : numeral? (Numeral.ofNat 10 n) = some n := by
  have hlt : ∀ d ∈ Numeral.digits 10 n, d < 10 := fun d hd =>
    Numeral.lt_of_mem_digits (by decide) hd
  have hdigits : (Numeral.ofNat 10 n).mapM Numeral.digitValue? = some (Numeral.digits 10 n) :=
    mapM_map_eq_some fun d hd => Numeral.digitValue?_digitChar (Nat.lt_trans (hlt d hd) (by decide))
  rw [numeral?, hdigits]
  dsimp only [Option.bind_eq_bind, Option.bind_some]
  rw [guard, if_pos ⟨Numeral.digits_ne_nil 10 n, hlt⟩, Numeral.ofDigits_eq, Numeral.ofDigits_digits]
  rfl

theorem isInk_of_mem_ofNat {base : Nat} (hbase : 2 ≤ base) (hbase' : base ≤ 16) (n : Nat) :
    ∀ c ∈ Numeral.ofNat base n, IsInk c := by
  intro c hc
  obtain ⟨d, hd, rfl⟩ := List.mem_map.mp hc
  exact isInk_digitChar (Nat.lt_of_lt_of_le (Numeral.lt_of_mem_digits hbase hd) hbase')

theorem notMem_ofNat {c : Char} (hc : ¬IsInk c) (n : Nat) : c ∉ Numeral.ofNat 10 n := fun h =>
  hc (isInk_of_mem_ofNat (by decide) (by decide) n c h)

/-- A text begins with a line if a line end stands behind it. -/
theorem splitOn_line {line : List Char} (h : '\n' ∉ line) (text : List Char) :
    (line ++ '\n' :: text).splitOn '\n' = line :: text.splitOn '\n' := by
  rw [List.splitOn_append_cons_self, List.splitOn_eq_singleton h, List.singleton_append]

/-- A text that lists the bytes of `b`, eight to a row, and their number. -/
def Tells (text : String) (b : Bytes) : Prop :=
  ∃ rows, read? text = some ⟨rows, b.length⟩ ∧ rows.flatten = b ∧
    (∀ row ∈ rows, row.length ≤ 8) ∧ ∀ row ∈ rows.dropLast, row.length = 8

end BootSeal.Listing
