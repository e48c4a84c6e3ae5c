import BootSeal.CommandLine.Option
import BootSeal.Proofs.Text.IntegerLiteral
/-!
# Integers on the command line

A word is read as an integer just if it denotes one and is not too long; every other word is quoted in
the fault. So an integer written in any of the four bases is read back, a decimal numeral as long as it
has no more digits than are read.
-/

namespace BootSeal.CommandLine

open IntegerLiteral (Denotes Oversized)

theorem readInteger_eq_ok_iff {word : String} {v : Int} :
    readInteger word = .ok v ↔ IntegerLiteral.parse? word = some v := by
  unfold readInteger
  cases IntegerLiteral.parse? word with
  | none => simp
  | some v' => simp

theorem readInteger_eq_error_iff {word : String} {f : ValueFault} :
    readInteger word = .error f ↔ f = .notInteger word ∧ ∀ v, readInteger word ≠ .ok v := by
  unfold readInteger
  cases IntegerLiteral.parse? word with
  | none => simp [eq_comm]
  | some v => simp

/-- The fault of a word that is no integer quotes the word as it stands. -/
theorem message_notInteger (word : String) :
    (ValueFault.notInteger word).message =
      word ++ " is not a valid integer. Please use code literals prefixed with 0b/0B, 0o/0O, or 0x/0X "
        ++ "as necessary." := by
  rw [ValueFault.message, String.append_assoc, String.append_assoc]
  rfl

/-- Integers are read by the grammar of literals and nothing else is; the four renderings of an integer are
read back to it. -/
theorem readInteger_reads_literals :
    (∀ (word : String) (v : Int),
      readInteger word = .ok v ↔ Denotes word v ∧ ¬Oversized word) ∧
    (∀ (word : String) (f : ValueFault),
      readInteger word = .error f ↔
        f = .notInteger word ∧ ∀ v, Denotes word v → Oversized word) ∧
    (∀ word : String, (ValueFault.notInteger word).message =
      word ++ " is not a valid integer. Please use code literals prefixed with 0b/0B, 0o/0O, or 0x/0X "
        ++ "as necessary.") ∧
    ∀ n : Int, readInteger (Numeral.hex n) = .ok n ∧
      readInteger (Numeral.signed "0o" 8 n) = .ok n ∧
      readInteger (Numeral.signed "0b" 2 n) = .ok n ∧
      (readInteger (Numeral.decimal n) = .ok n ↔
        n.natAbs < 10 ^ IntegerLiteral.maxDecimalDigits) := by
  have hread : ∀ (word : String) (v : Int),
      readInteger word = .ok v ↔ Denotes word v ∧ ¬Oversized word := by
    intro word v
    rw [readInteger_eq_ok_iff, IntegerLiteral.parse?_eq_some_iff]
  refine ⟨hread, ?_, message_notInteger, ?_⟩
  · intro word f
    rw [readInteger_eq_error_iff]
    refine and_congr_right fun _ => forall_congr' fun v => ?_
    rw [ne_eq, hread, not_and, not_not]
  · intro n
    simp only [readInteger_eq_ok_iff]
    exact ⟨IntegerLiteral.parse?_signed_marked .hex n, IntegerLiteral.parse?_signed_marked .octal n,
      IntegerLiteral.parse?_signed_marked .binary n, IntegerLiteral.parse?_decimal_iff n⟩

example : readInteger " -0x_fF " = .ok (-255) := by rfl

end BootSeal.CommandLine
