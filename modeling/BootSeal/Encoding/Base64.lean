import BootSeal.Bytes.Basic
/-!
# Base64

The standard alphabet with canonical padding: reading wants whole groups of four characters, padding
only in the last group, and zeros in the bits that the padding cuts off.
-/

namespace BootSeal.Base64

def char (n : Nat) : Char :=
  if n < 26 then Char.ofNat (0x41 + n)
  else if n < 52 then Char.ofNat (0x61 + (n - 26))
  else if n < 62 then Char.ofNat (0x30 + (n - 52))
  else if n = 62 then '+'
  else '/'

def value? (c : Char) : Option Nat :=
  let n := c.toNat
  if 0x41 ≤ n ∧ n ≤ 0x5A then some (n - 0x41)
  else if 0x61 ≤ n ∧ n ≤ 0x7A then some (n - 0x61 + 26)
  else if 0x30 ≤ n ∧ n ≤ 0x39 then some (n - 0x30 + 52)
  else if c = '+' then some 62
  else if c = '/' then some 63
  else none

def encode : Bytes → List Char
  | [] => []
  | [a] =>
      let n := a.toNat
      [char (n / 4), char (n % 4 * 16), '=', '=']
  | [a, b] =>
      let n := a.toNat * 256 + b.toNat
      [char (n / 1024), char (n / 16 % 64), char (n % 16 * 4), '=']
  | a :: b :: c :: rest =>
      let n := (a.toNat * 256 + b.toNat) * 256 + c.toNat
      char (n / 262144) :: char (n / 4096 % 64) :: char (n / 64 % 64) :: char (n % 64)
        :: encode rest

def decode? : List Char → Option Bytes
  | [] => some []
  | [a, b, '=', '='] => do
      let n := (← value? a) * 64 + (← value? b)
      guard (n % 16 = 0)
      return [UInt8.ofNat (n / 16)]
  | [a, b, c, '='] => do
      let n := ((← value? a) * 64 + (← value? b)) * 64 + (← value? c)
      guard (n % 4 = 0)
      return [UInt8.ofNat (n / 1024), UInt8.ofNat (n / 4)]
  | a :: b :: c :: d :: rest => do
      let n := (((← value? a) * 64 + (← value? b)) * 64 + (← value? c)) * 64 + (← value? d)
      let bytes ← decode? rest
      return UInt8.ofNat (n / 65536) :: UInt8.ofNat (n / 256) :: UInt8.ofNat n :: bytes
  | _ => none

end BootSeal.Base64
