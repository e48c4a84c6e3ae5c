import BootSeal.Text.Hex
/-!
# Events

What the builder tells about its progress. Each event is of one of two levels; the finer ones tell
about single chunks and blobs.
-/

namespace BootSeal

inductive Level where
  | info
  | debug
deriving DecidableEq, Repr

def Level.name : Level → String
  | .info => "INFO"
  | .debug => "DEBUG"

inductive Event where
  | skippedChunk (execAddr : Int)
  | queuedChunk (execAddr size : Int) (crc32 : Nat)
  | queuedZiChunk (execAddr size : Int)
  | output (path : String)
  | header
  | chunkTable
  | chunk (index : Nat) (size position expected : Int)
  | ziTable
  | ziChunk (index : Nat) (size position : Int)
  | endOfHeader (position : Int)
  | blobs
  | blob (index : Nat) (size position : Int)
  | digest (b : Bytes)
  | signature (b : Bytes)
deriving DecidableEq, Repr

namespace Event

def level : Event → Level
  | output _ => .info
  | header => .info
  | chunkTable => .info
  | ziTable => .info
  | blobs => .info
  | _ => .debug

/-- An address or a size in sixteen hexadecimal digits. -/
def wide (v : Int) : String := "0x" ++ Numeral.hexFilled 16 v

def message : Event → String
  | skippedChunk execAddr => "chunk: execAddr = " ++ wide execAddr ++ ", size = 0 => skipping"
  | queuedChunk execAddr size crc32 =>
      "chunk: execAddr = " ++ wide execAddr ++ ", size = " ++ wide size ++ ", CRC32 = "
        ++ String.ofList (Numeral.ofNat 16 crc32)
  | queuedZiChunk execAddr size =>
      "ziChunk: execAddr = " ++ wide execAddr ++ ", size = " ++ wide size
  | output path => "Output filename is " ++ path
  | header => "Outputting payload header"
  | chunkTable => "Outputting code/data chunks"
  | chunk index size position expected =>
      "- Processing chunk " ++ Numeral.decimal index ++ " (" ++ Numeral.decimal size
        ++ " bytes) at file position " ++ Numeral.decimal position ++ " (blob is expected at "
        ++ Numeral.decimal expected ++ ")"
  | ziTable => "Outputting ZI chunks"
  | ziChunk index size position =>
      "- Processing ziChunk " ++ Numeral.decimal index ++ " (" ++ Numeral.decimal size
        ++ " bytes) at file position " ++ Numeral.decimal position
  | endOfHeader position => "End of header is " ++ Numeral.decimal position
  | blobs => "Outputting binary data"
  | blob index size position =>
      "- Processing blob " ++ Numeral.decimal index ++ " (" ++ Numeral.decimal size
        ++ " bytes) at file position " ++ Numeral.decimal position
  | digest b => "SHA384: " ++ b.toHex
  | signature b => "P-384 signature: " ++ b.toHex

end Event

end BootSeal
