import BootSeal.Bytes.Basic
/-!
# UTF-8 text

Encoding is the standard one. Decoding scans the bytes once, with the state of a sequence that has
begun; `scan` gives one entry for each character and one for each ill-formed stretch. A stretch is
the longest start of a character that can still be continued, or else a single byte, so the strict
and the replacing reader differ only in what they do with such an entry.
-/

namespace BootSeal.Utf8

def encode (s : String) : Bytes := s.toList.flatMap String.utf8EncodeChar

/-- A character whose first bytes have been read: the bits so far, the number of bytes that are
still owed, and the range in which the next of them must lie. -/
structure Pending where
  bits : Nat
  owed : Nat
  least : UInt8
  greatest : UInt8

inductive Lead where
  | single (c : Char)
  | sequence (p : Pending)
  /-- No character starts with this byte. -/
  | ill

/-- Classifies a first byte, which may narrow the range of the second one. -/
def lead (b : UInt8) : Lead :=
  let n := b.toNat
  if n < 0x80 then .single (Char.ofNat n)
  else if n < 0xC2 then .ill
  else if n < 0xE0 then .sequence ⟨n - 0xC0, 1, 0x80, 0xBF⟩
  -- A second byte below `A0` would have a form of two bytes.
  else if n = 0xE0 then .sequence ⟨0, 2, 0xA0, 0xBF⟩
  -- Surrogates lie from `A0` on.
  else if n = 0xED then .sequence ⟨0xD, 2, 0x80, 0x9F⟩
  else if n < 0xF0 then .sequence ⟨n - 0xE0, 2, 0x80, 0xBF⟩
  -- A second byte below `90` would have a form of three bytes.
  else if n = 0xF0 then .sequence ⟨0, 3, 0x90, 0xBF⟩
  else if n < 0xF4 then .sequence ⟨n - 0xF0, 3, 0x80, 0xBF⟩
  -- The code space ends here.
  else if n = 0xF4 then .sequence ⟨4, 3, 0x80, 0x8F⟩
  else .ill

/-- The characters of a byte string in order, `none` standing for an ill-formed stretch. -/
def scan : Option Pending → Bytes → List (Option Char)
  | none, [] => []
  | some _, [] => [none]
  | none, b :: rest =>
      match lead b with
      | .single c => some c :: scan none rest
      | .sequence p => scan (some p) rest
      | .ill => none :: scan none rest
  | some p, b :: rest =>
      if p.least ≤ b ∧ b ≤ p.greatest then
        let bits := p.bits * 64 + (b.toNat - 0x80)
        if p.owed = 1 then some (Char.ofNat bits) :: scan none rest
        else scan (some ⟨bits, p.owed - 1, 0x80, 0xBF⟩) rest
      else
        none :: match lead b with
          | .single c => some c :: scan none rest
          | .sequence q => scan (some q) rest
          | .ill => none :: scan none rest

/-- The offset of the byte that shows the first ill-formed stretch to be one, where `offset` is
that of the first byte given. A character that is cut off shows at the end of the bytes. -/
def faultFrom (offset : Nat) : Option Pending → Bytes → Option Nat
  | none, [] => none
  | some _, [] => some offset
  | none, b :: rest =>
      match lead b with
      | .single _ => faultFrom (offset + 1) none rest
      | .sequence p => faultFrom (offset + 1) (some p) rest
      | .ill => some offset
  | some p, b :: rest =>
      if p.least ≤ b ∧ b ≤ p.greatest then
        if p.owed = 1 then faultFrom (offset + 1) none rest
        else faultFrom (offset + 1) (some ⟨0, p.owed - 1, 0x80, 0xBF⟩) rest
      else some offset

def fault? (b : Bytes) : Option Nat := faultFrom 0 none b

def wellFormedPart (b : Bytes) : List Char := (scan none b).filterMap id

def decode? (b : Bytes) : Option String :=
  ((scan none b).mapM id).map String.ofList

/-- The text of any byte string, with U+FFFD for each ill-formed stretch. -/
def decodeLossy (b : Bytes) : String :=
  String.ofList ((scan none b).map fun c => c.getD '\uFFFD')

end BootSeal.Utf8
