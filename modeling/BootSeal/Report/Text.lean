import BootSeal.Report.Fields
/-!
# Reports in text

A report is set in lines of sixty characters: rows and frames of number signs around sections, bytes
in rows of eight, and the fields of descriptors one to a line. Longer text makes longer lines.
-/

namespace BootSeal.Report

def lineLength : Nat := 60

/-- The space in front of an indented line. -/
def indent : Nat := lineLength / 8

def fill (c : Char) (n : Nat) : String := String.ofList (List.replicate n c)

def rule : String := fill '#' lineLength ++ "\n"

def row (title : String) : String :=
  let head := "#### " ++ title ++ " "
  head ++ fill '#' (lineLength - head.length) ++ "\n"

def frame (title content : String) : String :=
  let blank := "|" ++ fill ' ' (lineLength - 2) ++ "|\n"
  let left := "|" ++ fill ' ' ((lineLength - content.length) / 2 - 1)
  let right := fill ' ' (lineLength - left.length - content.length - 1) ++ "|\n"
  row title ++ blank ++ left ++ content ++ right ++ blank ++ rule

def byteToken (b : UInt8) : List Char := '0' :: 'x' :: Bytes.hexPair b ++ [' ']

def byteRow (b : Bytes) : List Char := b.flatMap byteToken

/-- Bytes under a name, eight to a line; the lines that follow the first are indented to it. -/
def hexBlock (name : String) (b : Bytes) : String :=
  let margin := '\n' :: List.replicate (indent + name.length + 3) ' '
  fill ' ' (indent + 1) ++ name ++ ": "
    ++ String.ofList (List.intercalate margin ((Bytes.pieces 7 b).map byteRow)) ++ "\n"

def fieldLine (f : String × Int) : String :=
  fill ' ' (indent + 1) ++ f.1 ++ ": " ++ fill ' ' (10 - f.1.length) ++ " " ++ Numeral.hex f.2
    ++ "\n"

def descriptor (index : Nat) (fields : List (String × Int)) : String :=
  fill ' ' (indent + 1) ++ fill '-' 45 ++ "\n"
    ++ fill ' ' (indent + 1) ++ "index: " ++ Numeral.decimal index ++ "\n"
    ++ String.join (fields.map fieldLine)

def descriptorsFrom (index : Nat) : List (List (String × Int)) → String
  | [] => ""
  | fields :: rest => descriptor index fields ++ descriptorsFrom (index + 1) rest

def descriptors (entries : List (List (String × Int))) : String := descriptorsFrom 0 entries

def headerLine (f : String × OutlineValue) : String :=
  let value := match f.2 with
    | .number v => Numeral.hex v
    | .text s => s
  f.1 ++ ":" ++ fill ' ' (22 - f.1.length) ++ value ++ "\n"

def header (img : Image) : String :=
  row "Image header (offset: 0x0)" ++ String.join (img.header.fields.map headerLine)
    ++ "endian:" ++ fill ' ' 16 ++ img.order.name ++ "\n"
    ++ (if img.header.isSigned then
          hexBlock "digest" img.header.digest ++ hexBlock "ecdsa_sig" img.header.signature
        else "signature:" ++ fill ' ' 13 ++ "none\n")
    ++ rule

def table (name : String) (offset : Int) (entries : List (List (String × Int))) : String :=
  row (name ++ " (offset: " ++ Numeral.hex offset ++ ")")
    ++ "entries: " ++ Numeral.decimal entries.length ++ "\n" ++ descriptors entries ++ rule

def blob (index : Nat) (c : Chunk) : String :=
  frame ("Blob " ++ Numeral.decimal index ++ " (offset: " ++ Numeral.hex c.loadAddr ++ ")")
    ("chunk data (size: " ++ Numeral.hex c.size ++ " Bytes, pad: "
      ++ Numeral.decimal (Layout.padding c.size) ++ ")")

def blobsFrom (index : Nat) : List Chunk → String
  | [] => ""
  | c :: rest => blob index c ++ blobsFrom (index + 1) rest

def baseName (path : String) : String :=
  String.ofList (path.toList.reverse.takeWhile (· ≠ '/')).reverse

def ofImage (path : String) (img : Image) : String :=
  "Printing content of boot image: " ++ baseName path ++ " \n\n"
    ++ header img
    ++ table "Chunk table" img.header.chunkTableOffset (img.chunks.map Chunk.fields)
    ++ table "ZI chunk table" img.header.ziTableOffset (img.ziChunks.map ZiChunk.fields)
    ++ blobsFrom 0 img.chunks
    ++ row ("End of Image (offset: " ++ Numeral.hex img.header.imageLength ++ ") ")

end BootSeal.Report
