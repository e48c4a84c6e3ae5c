import BootSeal.Bytes.Integer
import BootSeal.Text.Numeral
/-!
# The header record

The record of 448 bytes at the front of every image. Its integer fields may hold any integer; only a
record whose integers fit their fields has a form in bytes. The set name and the two parts of the
signature are fields of a fixed width.
-/

namespace BootSeal

/-- The number by which an image is recognised. -/
def bootMagic : Int := 0xB007C0DE

def bootVersion : Int := 1

def headerSize : Nat := 448

def setNameSize : Nat := 256

structure Header where
  magic : Int := bootMagic
  version : Int := bootVersion
  headerLength : Int := 0
  headerCrc : Int := 0
  chunkTableOffset : Int := 0
  ziTableOffset : Int := 0
  setName : Bytes := []
  imageLength : Int := 0
  digest : Bytes := Bytes.zeros 48
  signature : Bytes := Bytes.zeros 96
deriving DecidableEq, Repr

namespace Header

/-- A record is signed when its signature block is not all zero. -/
def isSigned (h : Header) : Bool := h.digest.any (· != 0) || h.signature.any (· != 0)

def Fits (h : Header) : Prop :=
  FitsWidth 4 h.magic ∧ FitsWidth 4 h.version ∧ FitsWidth 8 h.headerLength
    ∧ FitsWidth 4 h.headerCrc ∧ FitsWidth 8 h.chunkTableOffset ∧ FitsWidth 8 h.ziTableOffset
    ∧ FitsWidth 8 h.imageLength

instance (h : Header) : Decidable h.Fits :=
  inferInstanceAs (Decidable (FitsWidth 4 h.magic ∧ FitsWidth 4 h.version
    ∧ FitsWidth 8 h.headerLength ∧ FitsWidth 4 h.headerCrc ∧ FitsWidth 8 h.chunkTableOffset
    ∧ FitsWidth 8 h.ziTableOffset ∧ FitsWidth 8 h.imageLength))

/-- The form of a record whose integers fit. -/
def encode (order : ByteOrder) (h : Header) : Bytes :=
  -- Four bytes behind the checksum bring the next field to a multiple of eight.
  order.encode 4 h.magic.toNat ++ order.encode 4 h.version.toNat
    ++ order.encode 8 h.headerLength.toNat ++ order.encode 4 h.headerCrc.toNat ++ Bytes.zeros 4
    ++ order.encode 8 h.chunkTableOffset.toNat ++ order.encode 8 h.ziTableOffset.toNat
    ++ Bytes.fit setNameSize h.setName ++ order.encode 8 h.imageLength.toNat
    ++ Bytes.fit 48 h.digest ++ Bytes.fit 96 h.signature

def encode? (order : ByteOrder) (h : Header) : Option Bytes :=
  if h.Fits then some (h.encode order) else none

/-- The record at the front of a byte string, which is taken to be long enough. The set name ends
where its zeros begin. -/
def decode (order : ByteOrder) (b : Bytes) : Header where
  magic := order.decode (b.slice 0 4)
  version := order.decode (b.slice 4 8)
  headerLength := order.decode (b.slice 8 16)
  headerCrc := order.decode (b.slice 16 20)
  chunkTableOffset := order.decode (b.slice 24 32)
  ziTableOffset := order.decode (b.slice 32 40)
  setName := (b.slice 40 296).stripZeros
  imageLength := order.decode (b.slice 296 304)
  digest := b.slice 304 352
  signature := b.slice 352 448

def decode? (order : ByteOrder) (b : Bytes) : Option Header :=
  if headerSize ≤ b.length then some (decode order b) else none

@[simp] theorem length_encode (order : ByteOrder) (h : Header) :
    (h.encode order).length = headerSize := by
  simp [encode, headerSize, setNameSize]

def describe (h : Header) : String :=
  let gap := "                "
  "<BootImageHeader magic=0x" ++ Numeral.hexFilled 8 h.magic ++ ", version="
    ++ Numeral.decimal h.version ++ ", " ++ gap ++ "header_length="
    ++ Numeral.decimal h.headerLength ++ ", header_crc=0x" ++ Numeral.hexFilled 8 h.headerCrc
    ++ ", " ++ gap ++ "chunk_table_offset=" ++ Numeral.decimal h.chunkTableOffset
    ++ ", zi_chunk_table_offset=" ++ Numeral.decimal h.ziTableOffset ++ ", " ++ gap
    ++ "boot_image_length=" ++ Numeral.decimal h.imageLength ++ ">"

end Header

end BootSeal
