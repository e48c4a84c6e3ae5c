import BootSeal.Image.Basic
import BootSeal.Text.Hex
import BootSeal.Text.Utf8
import BootSeal.Yaml.Outline
/-!
# The content of an image under names

The fields of descriptors and of the header under the names by which reports show them, and the
whole image as an outline.
-/

namespace BootSeal

/-- The fields of a chunk, in the order of its descriptor. -/
def Chunk.fields (c : Chunk) : List (String × Int) :=
  [("owner", c.owner), ("load_addr", c.loadAddr), ("exec_addr", c.execAddr), ("size", c.size),
   ("crc32", c.crc32)]

def ZiChunk.fields (c : ZiChunk) : List (String × Int) :=
  [("owner", c.owner), ("exec_addr", c.execAddr), ("size", c.size)]

def Header.setNameText (h : Header) : String := Utf8.decodeLossy h.setName

def Header.fields (h : Header) : OutlineRecord :=
  [("magic", .number h.magic), ("version", .number h.version),
   ("header_length", .number h.headerLength), ("header_crc", .number h.headerCrc),
   ("chunk_table_offset", .number h.chunkTableOffset),
   ("zi_chunk_table_offset", .number h.ziTableOffset), ("set_name", .text h.setNameText),
   ("boot_image_length", .number h.imageLength)]

def OutlineRecord.ofFields (fields : List (String × Int)) : OutlineRecord :=
  fields.map fun f => (f.1, .number f.2)

def Image.outline (img : Image) : Outline :=
  [("endian", .value (.text img.order.name)),
   ("header", .record img.header.fields),
   ("signature", .record
     [("digest", .text img.header.digest.toHex), ("ecdsa_sig", .text img.header.signature.toHex)]),
   ("chunks", .table (img.chunks.map fun c => .ofFields c.fields)),
   ("zi_chunks", .table (img.ziChunks.map fun c => .ofFields c.fields))]

end BootSeal
