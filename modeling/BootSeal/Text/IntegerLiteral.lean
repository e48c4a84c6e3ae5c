import BootSeal.Text.Blank
import BootSeal.Text.DecimalDigit
import BootSeal.Text.Numeral
/-!
# Integer literals

An integer literal is an optional sign and a magnitude, with blanks allowed around it. The
magnitude is a base mark `0x`, `0o` or `0b` with digits of that base, or a decimal numeral, which
has no leading zero unless all its digits are zero. A single underscore may separate two digits
and may follow a base mark. The decimal digits of every script count as digits.
-/

namespace BootSeal.IntegerLiteral

def maxDecimalDigits : Nat := 4300

def digit? (base : Nat) (c : Char) : Option Nat :=
  (Numeral.digitValue? c).filter (· < base)

/-- The digits of a numeral in base `base`: at least one, with single underscores between them. -/
def digits? (base : Nat) : List Char → Option (List Nat)
  | [] => none
  | [c] => (digit? base c).map fun d => [d]
  | c :: '_' :: rest => do
      let d ← digit? base c
      let ds ← digits? base rest
      return d :: ds
  | c :: rest => do
      let d ← digit? base c
      let ds ← digits? base rest
      return d :: ds

/-- The text after an underscore that follows a base mark. -/
def afterMark : List Char → List Char
  | '_' :: rest => rest
  | s => s

def marked? (base : Nat) (s : List Char) : Option Nat :=
  (digits? base (afterMark s)).map (Numeral.ofDigits base)

def decimal? (s : List Char) : Option Nat := do
  let ds ← digits? 10 s
  if maxDecimalDigits < ds.length then none
  else if ds.head? = some 0 ∧ ds.any (· != 0) then none
  else return Numeral.ofDigits 10 ds

def magnitude? : List Char → Option Nat
  | '0' :: 'x' :: rest => marked? 16 rest
  | '0' :: 'X' :: rest => marked? 16 rest
  | '0' :: 'o' :: rest => marked? 8 rest
  | '0' :: 'O' :: rest => marked? 8 rest
  | '0' :: 'b' :: rest => marked? 2 rest
  | '0' :: 'B' :: rest => marked? 2 rest
  | s => decimal? s

def signed? : List Char → Option Int
  | '-' :: rest => (magnitude? rest).map fun n => -(n : Int)
  | '+' :: rest => (magnitude? rest).map fun n => (n : Int)
  | s => (magnitude? s).map fun n => (n : Int)

/-- The integer a text denotes, or `none` if the text is no integer literal. -/
def parse? (s : String) : Option Int :=
  signed? ((trimBlanks s.toList).map DecimalDigit.toAscii)

end BootSeal.IntegerLiteral
