import BootSeal.Image.Header
import BootSeal.Image.Table
/-!
# Images

An image as its header and its two tables, and how these are read from a file. Reading looks only at
the header and at the region that the header claims for the tables.
-/

namespace BootSeal

/-- The header and the tables of an image. -/
structure Image where
  order : ByteOrder
  header : Header
  chunks : List Chunk
  ziChunks : List ZiChunk
deriving DecidableEq, Repr

inductive ImageError where
  /-- The file does not start with the magic number in either byte order. -/
  | magicMismatch
  | truncatedHeader
  /-- A table has no sentinel before the end of its region. -/
  | unterminatedTable (offset : Nat)
deriving DecidableEq, Repr

def ImageError.message : ImageError → String
  | .magicMismatch => "Invalid image: magic mismatch"
  | .truncatedHeader => "Invalid image: truncated header"
  | .unterminatedTable offset =>
      "Invalid image: unterminated descriptor table at " ++ Numeral.hex offset

namespace Image

/-- The byte order in which a file starts with the magic number. -/
def detectOrder? (b : Bytes) : Option ByteOrder :=
  if b.length < 4 then none
  else if (ByteOrder.little.decode (b.take 4) : Int) = bootMagic then some .little
  else if (ByteOrder.big.decode (b.take 4) : Int) = bootMagic then some .big
  else none

/-- The tables that a header points to. The chunk table must end before the second table begins, and
both before the end of the header region and of the file. -/
def readTables (order : ByteOrder) (h : Header) (b : Bytes) : Except ImageError Image :=
  let limit := min b.length h.headerLength.toNat
  let chunkStop := min limit h.ziTableOffset.toNat
  match Table.read Chunk.format order b h.chunkTableOffset.toNat chunkStop with
  | .error e => .error (.unterminatedTable e.offset)
  | .ok chunks =>
      match Table.read ZiChunk.format order b h.ziTableOffset.toNat limit with
      | .error e => .error (.unterminatedTable e.offset)
      | .ok ziChunks => .ok ⟨order, h, chunks, ziChunks⟩

def read (b : Bytes) : Except ImageError Image :=
  match detectOrder? b with
  | none => .error .magicMismatch
  | some order =>
      if b.length < headerSize then .error .truncatedHeader
      else readTables order (Header.decode order b) b

def sizes (img : Image) : List Int := img.chunks.map Chunk.size

/-- The offsets stored in an image are those of the layout planner. -/
def FollowsLayout (img : Image) : Prop :=
  img.header.chunkTableOffset = Layout.chunkTableOffset headerSize
    ∧ img.header.ziTableOffset = Layout.ziTableOffset headerSize img.chunks.length
    ∧ img.header.headerLength
        = Layout.blobOffset headerSize img.chunks.length img.ziChunks.length
    ∧ img.header.imageLength = Layout.imageLength headerSize img.sizes img.ziChunks.length
    ∧ img.chunks.map Chunk.loadAddr
        = Layout.loadAddresses headerSize img.sizes img.ziChunks.length

instance (img : Image) : Decidable img.FollowsLayout :=
  inferInstanceAs (Decidable (_ ∧ _ ∧ _ ∧ _ ∧ _))

end Image

end BootSeal
