import BootSeal.IntelHex.AddressMap
import BootSeal.IntelHex.Record
import BootSeal.Text.Utf8
/-!
# Intel HEX files

The records of a file are taken line by line. A data record puts its bytes at its address behind the
offset in force, without wrapping; a record that ends the file ends the reading, but the file need
not have one. Text is decoded in blocks, and a line is taken as soon as it is complete.
-/

namespace BootSeal.IntelHex

inductive ReadError where
  | notText
  | malformed (e : HexError)
deriving DecidableEq, Repr

/-- The lines of a text: a line feed, a carriage return, and the two together end a line. -/
def lines : List Char → List (List Char)
  | [] => [[]]
  | '\r' :: '\n' :: rest => [] :: lines rest
  | c :: rest =>
      if c = '\n' ∨ c = '\r' then [] :: lines rest
      else
        match lines rest with
        | [] => [[c]]
        | l :: more => (c :: l) :: more

def blockSize : Nat := 8192

/-- What is decoded before it shows, at some offset, that the file is not text: the blocks before
the one with the offset. A character that is cut off shows only behind the last block. -/
def blocksBefore (offset : Nat) (b : Bytes) : Bytes :=
  if offset = b.length then b else b.take (offset / blockSize * blockSize)

/-- The lines of a text that goes on: those whose ends have been seen. A carriage return at the end
may be half of a line end. -/
def completeLines (s : List Char) : List (List Char) :=
  (lines (if s.getLast? = some '\r' then s.dropLast else s)).dropLast

/-- What has been read: the offset in force, the bytes, whether a start address was given, and
whether the file has been ended. -/
structure Progress where
  offset : Nat := 0
  bytes : AddressMap := ∅
  isStarted : Bool := false
  isEnded : Bool := false

def Progress.take (p : Progress) (line : Nat) : Record → Except HexError Progress
  | .data address data =>
      match AddressMap.insertAll p.bytes (p.offset + address) data with
      | .ok bytes => .ok { p with bytes := bytes }
      | .error address => .error (.overlap address line)
  | .endOfFile => .ok { p with isEnded := true }
  | .offset value => .ok { p with offset := value }
  | .start =>
      if p.isStarted then .error (.repeatedStart line) else .ok { p with isStarted := true }

/-- Takes the lines from number `line` on, until the file is ended; empty ones are passed over. -/
def readLines (p : Progress) (line : Nat) : List (List Char) → Except HexError Progress
  | [] => .ok p
  | [] :: rest => readLines p (line + 1) rest
  | s :: rest =>
      match record line s with
      | .error e => .error e
      | .ok r =>
          match p.take line r with
          | .error e => .error e
          | .ok p => if p.isEnded then .ok p else readLines p (line + 1) rest

/-- The bytes of a file. -/
def read (b : Bytes) : Except ReadError AddressMap :=
  match Utf8.fault? b with
  | none =>
      match readLines {} 1 (lines (Utf8.wellFormedPart b)) with
      | .error e => .error (.malformed e)
      | .ok p => .ok p.bytes
  | some offset =>
      -- The lines that are complete before the fault shows may hold another one, or end the file.
      match readLines {} 1 (completeLines (Utf8.wellFormedPart (blocksBefore offset b))) with
      | .error e => .error (.malformed e)
      | .ok p => if p.isEnded then .ok p.bytes else .error .notText

end BootSeal.IntelHex
