import BootSeal.Bytes.Integer
import BootSeal.Layout
/-!
# Descriptors

A chunk is loaded from the image, a zero-initialised region only names memory to be cleared. Both
have descriptors of a fixed size, with four unused bytes behind every 32-bit field, and both kinds
have a sentinel, the descriptor of all zeros.
-/

namespace BootSeal

/-- A form of records in bytes. -/
structure RecordFormat (α : Type) where
  size : Nat
  encode : ByteOrder → α → Bytes
  decode : ByteOrder → Bytes → α
  sentinel : α
  size_pos : 0 < size := by decide

structure Chunk where
  owner : Int
  loadAddr : Int
  execAddr : Int
  size : Int
  crc32 : Int
deriving DecidableEq, Repr

/-- The descriptor of a zero-initialised region. -/
structure ZiChunk where
  owner : Int
  execAddr : Int
  size : Int
deriving DecidableEq, Repr

namespace Chunk

def Fits (c : Chunk) : Prop :=
  FitsWidth 4 c.owner ∧ FitsWidth 8 c.loadAddr ∧ FitsWidth 8 c.execAddr ∧ FitsWidth 8 c.size
    ∧ FitsWidth 4 c.crc32

instance (c : Chunk) : Decidable c.Fits :=
  inferInstanceAs (Decidable (FitsWidth 4 c.owner ∧ FitsWidth 8 c.loadAddr
    ∧ FitsWidth 8 c.execAddr ∧ FitsWidth 8 c.size ∧ FitsWidth 4 c.crc32))

/-- The end of a chunk table. -/
def sentinel : Chunk := ⟨0, 0, 0, 0, 0⟩

def encode (order : ByteOrder) (c : Chunk) : Bytes :=
  order.encode 4 c.owner.toNat ++ Bytes.zeros 4 ++ order.encode 8 c.loadAddr.toNat
    ++ order.encode 8 c.execAddr.toNat ++ order.encode 8 c.size.toNat
    ++ order.encode 4 c.crc32.toNat ++ Bytes.zeros 4

/-- The descriptor that a slot of 40 bytes holds. -/
def decode (order : ByteOrder) (b : Bytes) : Chunk where
  owner := order.decode (b.slice 0 4)
  loadAddr := order.decode (b.slice 8 16)
  execAddr := order.decode (b.slice 16 24)
  size := order.decode (b.slice 24 32)
  crc32 := order.decode (b.slice 32 36)

def format : RecordFormat Chunk where
  size := Layout.chunkEntrySize
  encode := encode
  decode := decode
  sentinel := sentinel

@[simp] theorem length_encode (order : ByteOrder) (c : Chunk) :
    (c.encode order).length = Layout.chunkEntrySize := by
  simp [encode, Layout.chunkEntrySize]

end Chunk

namespace ZiChunk

def Fits (c : ZiChunk) : Prop :=
  FitsWidth 4 c.owner ∧ FitsWidth 8 c.execAddr ∧ FitsWidth 8 c.size

instance (c : ZiChunk) : Decidable c.Fits :=
  inferInstanceAs (Decidable (FitsWidth 4 c.owner ∧ FitsWidth 8 c.execAddr ∧ FitsWidth 8 c.size))

def sentinel : ZiChunk := ⟨0, 0, 0⟩

def encode (order : ByteOrder) (c : ZiChunk) : Bytes :=
  order.encode 4 c.owner.toNat ++ Bytes.zeros 4 ++ order.encode 8 c.execAddr.toNat
    ++ order.encode 8 c.size.toNat

def decode (order : ByteOrder) (b : Bytes) : ZiChunk where
  owner := order.decode (b.slice 0 4)
  execAddr := order.decode (b.slice 8 16)
  size := order.decode (b.slice 16 24)

def format : RecordFormat ZiChunk where
  size := Layout.ziEntrySize
  encode := encode
  decode := decode
  sentinel := sentinel

@[simp] theorem length_encode (order : ByteOrder) (c : ZiChunk) :
    (c.encode order).length = Layout.ziEntrySize := by
  simp [encode, Layout.ziEntrySize]

end ZiChunk

end BootSeal
