import BootSeal.Image.Header
import BootSeal.IntelHex.Error
import BootSeal.Key.Error
import BootSeal.Store
/-!
# Faults in building an image

A fault is a fault of what the caller gave, of a file, or of the writer itself, whose output is
compared with the layout while it is written.
-/

namespace BootSeal

inductive RegionKind where
  | chunk
  | ziChunk
deriving DecidableEq, Repr

def RegionKind.name : RegionKind → String
  | .chunk => "chunk"
  | .ziChunk => "ZI chunk"

inductive RegionField where
  | owner
  | execAddr
  | size
  | crc32
deriving DecidableEq, Repr

namespace RegionField

def name : RegionField → String
  | owner => "owner"
  | execAddr => "exec_addr"
  | size => "size"
  | crc32 => "crc32"

def width : RegionField → Nat
  | owner => 4
  | execAddr => 8
  | size => 8
  | crc32 => 4

end RegionField

/-- Where the output of the writer is not what the layout says. -/
inductive LayoutFault where
  | chunkTable (position : Int)
  | ziTable (position : Int)
  | headerLength (length : Int)
  | blob (index : Nat) (position expected : Int)
  | imageLength (length : Int)
deriving DecidableEq, Repr

def LayoutFault.message : LayoutFault → String
  | .chunkTable position => "chunk table starts at " ++ Numeral.decimal position
  | .ziTable position => "ZI chunk table starts at " ++ Numeral.decimal position
  | .headerLength length =>
      "header length " ++ Numeral.decimal length ++ " does not match its regions"
  | .blob index position expected =>
      "blob " ++ Numeral.decimal index ++ " at " ++ Numeral.decimal position ++ ", expected at "
        ++ Numeral.decimal expected
  | .imageLength length =>
      "boot image length " ++ Numeral.decimal length ++ " does not match the layout"

inductive BuildError where
  | unknownOrder (name : String)
  | longSetName
  /-- The image has been written, or at least its writing has begun. -/
  | closed
  | outOfRange (kind : RegionKind) (field : RegionField) (value : Int)
  /-- The payload of a chunk does not have the size of the chunk. -/
  | payloadSize (size : Int)
  /-- The payload of a chunk does not give its bytes out. -/
  | unreadablePayload
  | missingInput (path : String)
  | unreadableInput (e : FileFault)
  | malformedHex (path : String) (e : IntelHex.HexError)
  | hexNotText
  | missingKey (path : String)
  | unreadableKey (e : FileFault)
  | unusableKey (path : String) (e : KeyError)
  | protectedKey (path : String)
  /-- Only a private key can sign. -/
  | notSigningKey
  | unwritable (path : String) (e : FileFault)
  | layout (f : LayoutFault)
  | overflow
  | shortRead (got expected : Int)
deriving DecidableEq, Repr

def BuildError.message : BuildError → String
  | .unknownOrder name => "Invalid endianness: " ++ name
  | .longSetName => "Set name must be shorter than " ++ Numeral.decimal setNameSize ++ " bytes"
  | .closed => "Image has already been generated"
  | .outOfRange kind field value =>
      kind.name ++ " " ++ field.name ++ " out of range: " ++ Numeral.decimal value
        ++ " (must be 0.." ++ Numeral.hex (fieldValues field.width - 1) ++ ")"
  | .payloadSize size =>
      "Chunk buffer must hold exactly " ++ Numeral.decimal size ++ " bytes"
  | .unreadablePayload => "the payload does not give its bytes out"
  | .missingInput path => "Input file not found (" ++ path ++ ")"
  | .unreadableInput e => e.message
  | .malformedHex path e => "Invalid Intel HEX file " ++ path ++ ": " ++ e.message
  | .hexNotText => "the file is not text"
  | .missingKey path => "Key file not found (" ++ path ++ ")"
  | .unreadableKey e => e.message
  | .unusableKey path e => "Unusable key " ++ path ++ ": " ++ e.message
  | .protectedKey path => "Key " ++ path ++ " is protected by a passphrase"
  | .notSigningKey => "Signing requires an ECDSA P-384 private key"
  | .unwritable path e => "Failed to write " ++ path ++ ": " ++ e.message
  | .layout f => f.message
  | .overflow => "a number does not fit its field"
  | .shortRead got expected =>
      "Short read: got " ++ Numeral.decimal got ++ " of " ++ Numeral.decimal expected ++ " bytes"

end BootSeal
