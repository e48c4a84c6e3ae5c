import BootSeal.Builder.Error
import BootSeal.Builder.Event
import BootSeal.Checksum.Crc32
import BootSeal.Image.Descriptor
import BootSeal.Text.Utf8
/-!
# Builders

A builder queues chunks with their payloads, and zero-initialised regions, until it is written,
which happens once. The two tables grow independently of each other. What becomes of the builder is
told for refused additions too: one of them, that of a payload which does not give its bytes out, is
noticed only when the chunk has been queued.
-/

namespace BootSeal

/-- The content of a chunk: its bytes, and the number of items that its owner counts in it. For
plain bytes the two numbers agree. A text or a list counts its items too, but gives no bytes out. -/
structure Payload where
  bytes? : Option Bytes
  itemCount : Nat
deriving DecidableEq, Repr

namespace Payload

def bytes (p : Payload) : Bytes := p.bytes?.getD []

/-- A payload that gives its bytes out. -/
def IsReadable (p : Payload) : Prop := p.bytes?.isSome

instance (p : Payload) : Decidable p.IsReadable :=
  inferInstanceAs (Decidable (p.bytes?.isSome = true))

theorem IsReadable.bytes?_eq {p : Payload} (h : p.IsReadable) : p.bytes? = some p.bytes := by
  obtain ⟨b, hb⟩ := Option.isSome_iff_exists.mp h
  rw [bytes, hb]
  rfl

def ofBytes (b : Bytes) : Payload := ⟨some b, b.length⟩

end Payload

structure Builder where
  order : ByteOrder
  header : Header
  chunks : List Chunk := []
  ziChunks : List ZiChunk := []
  /-- The payload of every chunk; nothing once the writing has begun. -/
  queue : Option (List Payload) := some []
deriving DecidableEq, Repr

namespace Builder

def empty (order : ByteOrder) (setName : Bytes) : Builder where
  order := order
  header := { setName := setName }

/-- A new builder. The set name is stored with at least one zero behind it. -/
def named (order : ByteOrder) (setName : String) : Except BuildError Builder :=
  let name := Utf8.encode setName
  if setNameSize ≤ name.length then .error .longSetName else .ok (empty order name)

def start (orderName setName : String) : Except BuildError Builder :=
  match ByteOrder.ofName? orderName with
  | none => .error (.unknownOrder orderName)
  | some order => named order setName

def isWritten (b : Builder) : Bool := b.queue.isNone

def firstMisfit (fields : List (RegionField × Int)) : Option (RegionField × Int) :=
  fields.find? fun f => ¬FitsWidth f.1.width f.2

/-- What a row of additions leaves: the builder with everything that was queued, and the refusal that
ended the row, if there was one. -/
structure Attempt where
  builder : Builder
  refusal : Option BuildError := none
deriving DecidableEq, Repr

/-- The builder that a row of additions makes, if none is refused. -/
def Attempt.outcome (a : Attempt) : Except BuildError Builder :=
  match a.refusal with
  | none => .ok a.builder
  | some e => .error e

/-- Queues a chunk. A chunk of size zero is left out, whatever its payload. -/
def queueChunk (b : Builder) (owner execAddr size crc32 : Int) (payload : Option Payload) :
    Attempt :=
  match b.queue with
  | none => ⟨b, some .closed⟩
  | some queue =>
      match firstMisfit
          [(.owner, owner), (.execAddr, execAddr), (.size, size), (.crc32, crc32)] with
      | some (field, value) => ⟨b, some (.outOfRange .chunk field value)⟩
      | none =>
          if size = 0 then ⟨b, none⟩
          else
            match payload with
            | none => ⟨b, some (.payloadSize size)⟩
            | some p =>
                if (p.itemCount : Int) ≠ size then ⟨b, some (.payloadSize size)⟩
                else
                  -- The bytes are asked for only to tell their checksum, when the chunk is queued.
                  { builder := { b with
                      chunks := b.chunks ++ [⟨owner, 0, execAddr, size, crc32⟩]
                      queue := some (queue ++ [p]) }
                    refusal := if p.IsReadable then none else some .unreadablePayload }

def addChunk (b : Builder) (owner execAddr size crc32 : Int) (payload : Option Payload) :
    Except BuildError Builder :=
  (b.queueChunk owner execAddr size crc32 payload).outcome

def chunkEvent (execAddr size : Int) (payload : Option Payload) : Event :=
  match payload with
  | some p =>
    if size = 0 then .skippedChunk execAddr
    else .queuedChunk execAddr size (crc32 p.bytes)
  | none => .skippedChunk execAddr

/-- Queues plain bytes as a chunk of their size and checksum. -/
def queueBytes (b : Builder) (owner execAddr : Int) (content : Bytes) : Attempt :=
  b.queueChunk owner execAddr content.length (crc32 content) (some (.ofBytes content))

def addBytes (b : Builder) (owner execAddr : Int) (content : Bytes) : Except BuildError Builder :=
  (b.queueBytes owner execAddr content).outcome

/-- Queues a zero-initialised region, also one of size zero. -/
def queueZiChunk (b : Builder) (owner execAddr size : Int) : Attempt :=
  match b.queue with
  | none => ⟨b, some .closed⟩
  | some _ =>
      match firstMisfit [(.owner, owner), (.execAddr, execAddr), (.size, size)] with
      | some (field, value) => ⟨b, some (.outOfRange .ziChunk field value)⟩
      | none => ⟨{ b with ziChunks := b.ziChunks ++ [⟨owner, execAddr, size⟩] }, none⟩

def addZiChunk (b : Builder) (owner execAddr size : Int) : Except BuildError Builder :=
  (b.queueZiChunk owner execAddr size).outcome

def describe (b : Builder) : String :=
  "<Image endian=" ++ b.order.name ++ ", set_name=" ++ Utf8.decodeLossy b.header.setName
    ++ ", chunks=" ++ Numeral.decimal b.chunks.length ++ ", zi_chunks="
    ++ Numeral.decimal b.ziChunks.length ++ ",                 generated="
    ++ (if b.isWritten then "True" else "False") ++ ">"

end Builder

end BootSeal
