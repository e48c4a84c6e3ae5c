/-!
# Numerals

Numbers written in a base up to sixteen, with lower-case letters for the digits above nine, a minus
sign where needed, and zeros on the left up to a width.
-/

namespace BootSeal.Numeral

/-- The digits of a number in base `base`, most significant first; zero has one digit. -/
def digits (base n : Nat) : List Nat :=
  if _ : n < base ∨ base < 2 then [n]
  else digits base (n / base) ++ [n % base]
termination_by n
decreasing_by exact Nat.div_lt_self (by omega) (by omega)

def digitChar (d : Nat) : Char :=
  if d < 10 then Char.ofNat (0x30 + d) else Char.ofNat (0x61 + (d - 10))

/-- The value of a digit below sixteen, whichever case its letter has. -/
def digitValue? (c : Char) : Option Nat :=
  let n := c.toNat
  if 0x30 ≤ n ∧ n ≤ 0x39 then some (n - 0x30)
  else if 0x61 ≤ n ∧ n ≤ 0x66 then some (n - 0x61 + 10)
  else if 0x41 ≤ n ∧ n ≤ 0x46 then some (n - 0x41 + 10)
  else none

def ofDigits (base : Nat) (ds : List Nat) : Nat :=
  ds.foldl (fun acc d => acc * base + d) 0

def ofNat (base n : Nat) : List Char := (digits base n).map digitChar

def padLeft (width : Nat) (s : List Char) : List Char :=
  List.replicate (width - s.length) '0' ++ s

/-- An integer in base `base` behind a base mark, the sign in front of both. -/
def signed (mark : String) (base : Nat) (v : Int) : String :=
  (if v < 0 then "-" else "") ++ mark ++ String.ofList (ofNat base v.natAbs)

def decimal (v : Int) : String := signed "" 10 v

def hex (v : Int) : String := signed "0x" 16 v

/-- Hexadecimal digits filled with zeros to a width in which a minus sign counts. -/
def hexFilled (width : Nat) (v : Int) : String :=
  if v < 0 then "-" ++ String.ofList (padLeft (width - 1) (ofNat 16 v.natAbs))
  else String.ofList (padLeft width (ofNat 16 v.natAbs))

def hexUpper (n : Nat) : String :=
  String.ofList ((ofNat 16 n).map Char.toUpper)

end BootSeal.Numeral
