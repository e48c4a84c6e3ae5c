import BootSeal.Text.Numeral
/-!
# Faults in Intel HEX files

Each fault names the line on which the record stands; lines count from one.
-/

namespace BootSeal.IntelHex

inductive HexError where
  | invalidRecord (line : Nat)
  | invalidLength (line : Nat)
  | invalidType (line : Nat)
  | invalidChecksum (line : Nat)
  | overlap (address line : Nat)
  | invalidEnd
  | invalidSegmentOffset (line : Nat)
  | invalidLinearOffset (line : Nat)
  | invalidSegmentStart (line : Nat)
  | invalidLinearStart (line : Nat)
  | repeatedStart (line : Nat)
deriving DecidableEq, Repr

def HexError.message : HexError → String
  | .invalidRecord line => s!"Hex file contains invalid record at line {line}"
  | .invalidLength line => s!"Record at line {line} has invalid length"
  | .invalidType line => s!"Record at line {line} has invalid record type"
  | .invalidChecksum line => s!"Record at line {line} has invalid checksum"
  | .overlap address line =>
      "Hex file has data overlap at address 0x" ++ Numeral.hexUpper address
        ++ s!" on line {line}"
  | .invalidEnd => "File has invalid End-of-File record"
  | .invalidSegmentOffset line => s!"Invalid Extended Segment Address Record at line {line}"
  | .invalidLinearOffset line => s!"Invalid Extended Linear Address Record at line {line}"
  | .invalidSegmentStart line => s!"Invalid Start Segment Address Record at line {line}"
  | .invalidLinearStart line => s!"Invalid Start Linear Address Record at line {line}"
  | .repeatedStart line => s!"Start Address Record appears twice at line {line}"

end BootSeal.IntelHex
