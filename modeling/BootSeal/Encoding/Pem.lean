import BootSeal.Encoding.Base64
import BootSeal.Text.Blank
import BootSeal.Text.Utf8
/-!
# Labelled blocks of base64 text

A file may hold any number of blocks, each between a line that begins and a line that ends it, with
other text around them. A block is a label, header lines with a name and a value, and bytes. A text
in which some block is not in order has no blocks at all; a block that never ends is not one.
-/

namespace BootSeal.Pem

structure Block where
  label : String
  headers : List (String × String)
  data : Bytes

/-- Looks for a marker from left to right: `pending` is what is still missing of it and `before` the
text passed so far, reversed. After a mismatch the search goes on with the whole marker behind the
character that did not match. -/
def seek (marker : Bytes) : Bytes → Bytes → Bytes → Option (Bytes × Bytes)
  | [], before, rest => some ((before.drop marker.length).reverse, rest)
  | _ :: _, _, [] => none
  | m :: pending, before, x :: rest =>
      if x = m then seek marker pending (x :: before) rest
      else seek marker marker (x :: before) rest

def splitAt? (marker text : Bytes) : Option (Bytes × Bytes) := seek marker marker [] text

theorem seek_length {marker pending before text : Bytes} {found : Bytes × Bytes}
    (h : seek marker pending before text = some found) (hle : pending.length ≤ marker.length) :
    found.2.length + pending.length ≤ text.length := by
  fun_induction seek marker pending before text with
  | case1 before rest =>
      simp only [Option.some.injEq] at h
      subst h
      simp
  | case2 => cases h
  | case3 before x rest pending ih =>
      have hshort := ih h (by simp only [List.length_cons] at hle; omega)
      simp only [List.length_cons]
      omega
  | case4 m pending before x rest hne ih =>
      have hwhole := ih h (Nat.le_refl _)
      simp only [List.length_cons] at hle ⊢
      omega

theorem splitAt?_length {marker text : Bytes} {found : Bytes × Bytes}
    (h : splitAt? marker text = some found) :
    found.2.length + marker.length ≤ text.length :=
  seek_length h (Nat.le_refl _)

def mark (s : String) : Bytes := Utf8.encode s

/-- Whether a byte may stand between a mark and what follows it. -/
def isGap (b : UInt8) : Bool := b == 0x20 || b == 0x09 || b == 0x0A || b == 0x0D

structure Frame where
  beginLabel : Bytes
  body : Bytes
  endLabel : Bytes

/-- The first block of a text and the text behind it. -/
def frame? (text : Bytes) : Option (Frame × Bytes) := do
  let (_, text) ← splitAt? (mark "-----BEGIN ") text
  let (beginLabel, text) ← splitAt? (mark "-----") text
  let (body, text) ← splitAt? (mark "-----END ") (text.dropWhile isGap)
  let (endLabel, text) ← splitAt? (mark "-----") text
  return (⟨beginLabel, body, endLabel⟩, text.dropWhile isGap)

def framesFrom : Nat → Bytes → List Frame
  | 0, _ => []
  | fuel + 1, text =>
      match frame? text with
      | none => []
      | some (f, rest) => f :: framesFrom fuel rest

/-- The blocks of a text as they stand. A block takes up more than one byte, so the length of the
text bounds their number. -/
def frames (text : Bytes) : List Frame := framesFrom text.length text

/-- The header lines and the data lines of a body, which an empty line separates. -/
def sections (body : Bytes) : Bytes × Bytes :=
  match splitAt? [0x0A, 0x0A] body with
  | some parts => parts
  | none =>
      match splitAt? [0x0D, 0x0A, 0x0D, 0x0A] body with
      | some parts => parts
      | none => ([], body)

/-- The lines of a text, without their ends; a line end at the end of the text starts no line. -/
def lines (s : String) : List (List Char) :=
  let parts := s.toList.splitOn '\n'
  let parts := if parts.getLast? = some [] then parts.dropLast else parts
  parts.map fun l => if l.getLast? = some '\r' then l.dropLast else l

def header? (line : List Char) : Option (String × String) :=
  match line.dropWhile (· != ':') with
  | [] => none
  | _ :: value =>
      some (String.ofList (trimBlanks (line.takeWhile (· != ':'))),
        String.ofList (trimBlanks value))

/-- The block of a frame, if its labels agree, its header lines are in order, and its data is
base64. -/
def Frame.block? (f : Frame) : Option Block := do
  let label ← Utf8.decode? f.beginLabel
  let endLabel ← Utf8.decode? f.endLabel
  guard (label ≠ "" ∧ label = endLabel)
  let (headers, data) := sections f.body
  let data ← Utf8.decode? data
  let bytes ← Base64.decode? ((lines data).map trimBlanksRight).flatten
  let headers ← Utf8.decode? headers
  let headers ← (lines headers).mapM header?
  return ⟨label, headers, bytes⟩

def blocks? (text : Bytes) : Option (List Block) := (frames text).mapM Frame.block?

/-- The value of the last header line with a given name. -/
def Block.header? (b : Block) (name : String) : Option String :=
  (b.headers.reverse.find? fun h => h.1 = name).map Prod.snd

def wrap : List Char → List Char
  | [] => []
  | c :: rest => c :: rest.take 63 ++ '\n' :: wrap (rest.drop 63)
termination_by s => s.length
decreasing_by simp only [List.length_drop, List.length_cons]; omega

def render (label : String) (data : Bytes) : String :=
  "-----BEGIN " ++ label ++ "-----\n" ++ String.ofList (wrap (Base64.encode data))
    ++ "-----END " ++ label ++ "-----\n"

end BootSeal.Pem
