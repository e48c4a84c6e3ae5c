import BootSeal.Bytes.Integer
import BootSeal.IntelHex.Error
import BootSeal.Text.Hex
/-!
# Intel HEX records

A record is a colon and pairs of hexadecimal digits: the number of data bytes, an address, a type,
the data, and a byte that makes the sum of all bytes zero.
-/

namespace BootSeal.IntelHex

inductive Record where
  | data (address : Nat) (bytes : Bytes)
  | endOfFile
  /-- The offset of the addresses that follow. -/
  | offset (value : Nat)
  /-- Where a program starts, which does not matter here. -/
  | start
deriving DecidableEq, Repr

/-- The bytes of a record: at least the count, the address, the type and the sum. -/
def recordBytes? : List Char → Option Bytes
  | ':' :: digits =>
      match Bytes.ofHexChars? digits with
      | some b => if 5 ≤ b.length then some b else none
      | none => none
  | _ => none

def classify (line kind address : Nat) (data : Bytes) : Except HexError Record :=
  let value := Bytes.toNatBE data
  let plain (size : Nat) : Bool := data.length == size && address == 0
  match kind with
  | 0 => .ok (.data address data)
  | 1 => if data = [] then .ok .endOfFile else .error .invalidEnd
  | 2 => if plain 2 then .ok (.offset (value * 16)) else .error (.invalidSegmentOffset line)
  | 3 => if plain 4 then .ok .start else .error (.invalidSegmentStart line)
  | 4 => if plain 2 then .ok (.offset (value * 65536)) else .error (.invalidLinearOffset line)
  | _ => if plain 4 then .ok .start else .error (.invalidLinearStart line)

/-- The sum of the bytes of a record, of which the last makes it a multiple of 256. -/
def recordSum : Bytes → Nat
  | [] => 0
  | x :: rest => x.toNat + recordSum rest

def record (line : Nat) (s : List Char) : Except HexError Record :=
  match recordBytes? s with
  | none => .error (.invalidRecord line)
  | some b =>
      let count := (b.getD 0 0).toNat
      let kind := (b.getD 3 0).toNat
      if b.length ≠ 5 + count then .error (.invalidLength line)
      else if 5 < kind then .error (.invalidType line)
      else if recordSum b % 256 ≠ 0 then .error (.invalidChecksum line)
      else classify line kind (Bytes.toNatBE (b.slice 1 3)) (b.slice 4 (4 + count))

end BootSeal.IntelHex
