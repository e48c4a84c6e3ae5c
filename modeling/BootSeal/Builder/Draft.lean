import BootSeal.Builder.Basic
import BootSeal.Image.Integrity
import BootSeal.Image.Table
import BootSeal.Key.Library
/-!
# Drafts of the output

The output grows part by part: the header, the two tables, the blobs. Only then is the header
complete, and it is written again with its checksum and, if the image is signed, once more with the
signature. Each step compares the place it has reached with the layout, and a step that cannot go on
leaves the draft as it was then.
-/

namespace BootSeal

/-- The output so far, with the header and the descriptors that the next writing would use. -/
structure Draft where
  header : Header
  chunks : List Chunk
  out : Bytes := []
  events : List Event := []
deriving DecidableEq, Repr

/-- The writing has come to an end too early. -/
structure Stopped where
  draft : Draft
  error : BuildError
deriving DecidableEq, Repr

namespace Draft

abbrev Step := Except Stopped Draft

def position (d : Draft) : Int := d.out.length

def tell (d : Draft) (events : List Event) : Draft := { d with events := d.events ++ events }

def append (d : Draft) (b : Bytes) : Draft := { d with out := d.out ++ b }

/-- The zeros that fill up a part of the given size. -/
def fill (size : Int) : Bytes := Bytes.zeros (Layout.padding size).toNat

def putHeader (order : ByteOrder) (d : Draft) : Step :=
  let d := d.tell [.header]
  match d.header.encode? order with
  | none => .error ⟨d, .overflow⟩
  | some b => .ok { d with out := d.out.overwrite 0 (b ++ fill headerSize) }

/-- Gives every chunk the address of its blob; the first blob is at `address`. -/
def locate (address : Int) : List Chunk → List Chunk
  | [] => []
  | c :: rest =>
      { c with loadAddr := address } :: locate (address + (c.size + Layout.padding c.size)) rest

/-- Where the first blob will be, for a chunk table that starts at `start`. -/
def blobBase (start chunks ziChunks : Int) : Int :=
  start + chunks * Layout.chunkEntrySize + Layout.chunkEntrySize
    + Layout.padding (Layout.chunkEntrySize * (chunks + 1))
    + ziChunks * Layout.ziEntrySize + Layout.ziEntrySize
    + Layout.padding (Layout.ziEntrySize * (ziChunks + 1))

/-- What is told about the descriptors of chunks, the first of which is number `index` and goes to
`position`. -/
def chunkEvents (index : Nat) (position : Int) : List Chunk → List Event
  | [] => []
  | c :: rest =>
      .chunk index c.size position c.loadAddr
        :: chunkEvents (index + 1) (position + Layout.chunkEntrySize) rest

def ziChunkEvents (index : Nat) (position : Int) : List ZiChunk → List Event
  | [] => []
  | c :: rest =>
      .ziChunk index c.size position
        :: ziChunkEvents (index + 1) (position + Layout.ziEntrySize) rest

/-- A chunk table that cannot be written to its end. Descriptors are put out one by one, up to the
one that does not fit, and the chunks behind that one have no address yet. -/
def putDescriptors (order : ByteOrder) (start : Int) (chunks : List Chunk) (d : Draft) : Draft :=
  let fitting := chunks.takeWhile fun c => c.Fits
  let reached := chunks.take (fitting.length + 1)
  ({ d with chunks := reached ++ d.chunks.drop reached.length }.tell
    (chunkEvents 0 start reached)).append (fitting.flatMap (Chunk.encode order))

def putChunkTable (order : ByteOrder) (ziChunks : List ZiChunk) (d : Draft) : Step :=
  let start := d.position
  let d := d.tell [.chunkTable]
  let d := { d with header := { d.header with chunkTableOffset := start } }
  -- The writer compares the place it has reached with its own sum, not with the planner.
  if start ≠ headerSize + Layout.padding headerSize then
    .error ⟨d, .layout (.chunkTable start)⟩
  else
    let chunks := locate (blobBase start d.chunks.length ziChunks.length) d.chunks
    if chunks.all (fun c => c.Fits) then
      let d := { d with chunks := chunks }.tell (chunkEvents 0 start chunks)
      .ok (d.append (Table.encode Chunk.format order chunks
        ++ fill (Layout.chunkEntrySize * (chunks.length + 1))))
    else .error ⟨d.putDescriptors order start chunks, .overflow⟩

def putZiTable (order : ByteOrder) (ziChunks : List ZiChunk) (d : Draft) : Step :=
  let start := d.position
  let d := d.tell [.ziTable]
  let d := { d with header := { d.header with ziTableOffset := start } }
  if start ≠ d.header.chunkTableOffset + d.chunks.length * Layout.chunkEntrySize
      + Layout.chunkEntrySize + Layout.padding (Layout.chunkEntrySize * (d.chunks.length + 1)) then
    .error ⟨d, .layout (.ziTable start)⟩
  else
    let d := d.tell (ziChunkEvents 0 start ziChunks)
    if ziChunks.all (fun c => c.Fits) then
      .ok (d.append (Table.encode ZiChunk.format order ziChunks
        ++ fill (Layout.ziEntrySize * (ziChunks.length + 1))))
    else .error ⟨d, .overflow⟩

/-- Notes where the header region, the tables included, ends. The three parts have the sizes that
the places between them give. -/
def endHeader (d : Draft) : Step :=
  let length := d.position
  let d := { d with header := { d.header with headerLength := length } }
  let chunkPart := d.header.ziTableOffset - d.header.chunkTableOffset
  let ziPart := length - d.header.ziTableOffset
  if length ≠ headerSize + Layout.padding headerSize + chunkPart + ziPart then
    .error ⟨d, .layout (.headerLength length)⟩
  else .ok (d.tell [.endOfHeader length])

def putBlob (index : Nat) (c : Chunk) (p : Payload) (d : Draft) : Step :=
  let position := d.position
  if position ≠ c.loadAddr then .error ⟨d, .layout (.blob index position c.loadAddr)⟩
  else
    let d := d.tell [.blob index c.size position]
    match p.bytes? with
    | none => .error ⟨d, .unreadablePayload⟩
    | some b => .ok (d.append (b ++ fill c.size))

def putBlobs (index : Nat) (blobs : List (Chunk × Payload)) (d : Draft) : Step :=
  match blobs with
  | [] => .ok d
  | (c, p) :: rest =>
      match d.putBlob index c p with
      | .error e => .error e
      | .ok d => d.putBlobs (index + 1) rest

/-- Notes where the image ends. -/
def endImage (ziChunks : List ZiChunk) (d : Draft) : Step :=
  let length := d.position
  let d := { d with header := { d.header with imageLength := length } }
  if length ≠ Layout.imageLength headerSize (d.chunks.map Chunk.size) ziChunks.length then
    .error ⟨d, .layout (.imageLength length)⟩
  else .ok d

def setChecksum (order : ByteOrder) (d : Draft) : Step :=
  match d.header.encode? order with
  | none => .error ⟨d, .overflow⟩
  | some b => .ok { d with header := { d.header with headerCrc := headerCrc b } }

/-- Signs what can be read back from the output and writes the header with the signature. -/
def sign [KeyLibrary] (order : ByteOrder) (k : PrivateKey) (readBack : Bytes) (d : Draft) : Step :=
  let length := d.header.imageLength
  let covered := readBack.take length.toNat
  -- A negative length takes nothing, and it is then a short read too.
  if (covered.length : Int) ≠ length then .error ⟨d, .shortRead covered.length length⟩
  else
    let digest := sha384 covered
    let signature := k.sign digest
    let d := { d with header := { d.header with digest := digest, signature := signature } }
    (d.tell [.digest digest, .signature signature]).putHeader order

end Draft

namespace Builder

def blank (b : Builder) : Draft := { header := b.header, chunks := b.chunks }

/-- The first writing of all parts: the header is there, but not complete. -/
def layOut (b : Builder) (payloads : List Payload) : Draft.Step := do
  let d ← b.blank.putHeader b.order
  let d ← d.putChunkTable b.order b.ziChunks
  let d ← d.putZiTable b.order b.ziChunks
  let d ← d.endHeader
  let d := d.tell [.blobs]
  let d ← d.putBlobs 0 (d.chunks.zip payloads)
  d.endImage b.ziChunks

def compose (b : Builder) (payloads : List Payload) : Draft.Step := do
  let d ← b.layOut payloads
  let d ← d.setChecksum b.order
  d.putHeader b.order

/-- The whole output; `readBack` is what a file that was given some bytes gives back. -/
def finish [KeyLibrary] (b : Builder) (payloads : List Payload) (signer : Option PrivateKey)
    (readBack : Bytes → Bytes) : Draft.Step :=
  match signer with
  | none => b.compose payloads
  | some k => do
      let d ← b.compose payloads
      d.sign b.order k (readBack d.out)

end Builder

end BootSeal
