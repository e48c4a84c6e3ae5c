import BootSeal.Bytes.Basic
import BootSeal.Text.Numeral
/-!
# Bytes as hexadecimal text

Two lower-case digits for each byte. Reading accepts either case and nothing but digit pairs.
-/

namespace BootSeal.Bytes

def hexPair (b : UInt8) : List Char :=
  [Numeral.digitChar (b.toNat / 16), Numeral.digitChar (b.toNat % 16)]

def toHex (b : Bytes) : String := String.ofList (b.flatMap hexPair)

def ofHexChars? : List Char → Option Bytes
  | [] => some []
  | [_] => none
  | hi :: lo :: rest => do
      let h ← Numeral.digitValue? hi
      let l ← Numeral.digitValue? lo
      let bytes ← ofHexChars? rest
      return UInt8.ofNat (h * 16 + l) :: bytes

def ofHex? (s : String) : Option Bytes := ofHexChars? s.toList

end BootSeal.Bytes
