import BootSeal.Bytes.Basic
/-!
# CRC-32

The reflected cyclic redundancy check with polynomial `0x04C11DB7`: the register starts with all
bits set, takes each byte from its least significant bit on, and is complemented at the end.
-/

namespace BootSeal.Crc32

/-- The polynomial with its bits reversed. -/
def polynomial : UInt32 := 0xEDB88320

/-- Moves the register down by one bit and divides the bit that falls out. -/
def shift (r : UInt32) : UInt32 :=
  if r &&& 1 = 1 then (r >>> 1) ^^^ polynomial else r >>> 1

def step (r : UInt32) (b : UInt8) : UInt32 :=
  let r := r ^^^ b.toUInt32
  shift (shift (shift (shift (shift (shift (shift (shift r)))))))

def register (r : UInt32) (b : Bytes) : UInt32 := b.foldl step r

def checksum (b : Bytes) : UInt32 := register 0xFFFFFFFF b ^^^ 0xFFFFFFFF

theorem register_append (r : UInt32) (b c : Bytes) :
    register r (b ++ c) = register (register r b) c := by
  simp [register]

end BootSeal.Crc32

namespace BootSeal

/-- The CRC-32 of a byte string, as a number below `2 ^ 32`. -/
def crc32 (b : Bytes) : Nat := (Crc32.checksum b).toNat

theorem crc32_lt (b : Bytes) : crc32 b < UInt32.size := (Crc32.checksum b).toNat_lt

end BootSeal
