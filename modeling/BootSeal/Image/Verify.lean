import BootSeal.Image.Basic
import BootSeal.Image.Integrity
import BootSeal.Key.Basic
/-!
# Verification

The verdict on a file is that of the first check that fails. The checks on the file itself come
first; the signature block is looked at only when there is a key.
-/

namespace BootSeal

inductive Verdict where
  | ok
  | invalidMagic
  | invalidLength
  | invalidLayout
  | invalidCrc
  | invalidHash
  | invalidSignature
  | unsigned
deriving DecidableEq, Repr

namespace Verdict

/-- All verdicts, in the order of their numbers, which count from one. -/
def all : List Verdict :=
  [ok, invalidMagic, invalidLength, invalidLayout, invalidCrc, invalidHash, invalidSignature,
   unsigned]

def name : Verdict → String
  | ok => "OK"
  | invalidMagic => "INVALID_MAGIC"
  | invalidLength => "INVALID_LENGTH"
  | invalidLayout => "INVALID_LAYOUT"
  | invalidCrc => "INVALID_CRC"
  | invalidHash => "INVALID_HASH"
  | invalidSignature => "INVALID_SIGNATURE"
  | unsigned => "UNSIGNED"

/-- What a refusal tells the user. -/
def explanation : Verdict → String
  | ok => "Image was correctly validated"
  | invalidMagic => "Invalid image magic; is this a boot image?"
  | invalidLength => "Image length does not match the header"
  | invalidLayout => "Image tables do not match the layout rules"
  | invalidCrc => "Image header has an invalid CRC"
  | invalidHash => "Image has an invalid hash"
  | invalidSignature => "Signature does not match the given key"
  | unsigned => "Image is not signed"

end Verdict

namespace Image

def signatureVerdict (img : Image) (b : Bytes) (k : PublicKey) : Verdict :=
  if !img.header.isSigned then .unsigned
  else if imageDigest b img.header.imageLength ≠ img.header.digest then .invalidHash
  else if !k.accepts img.header.signature img.header.digest then .invalidSignature
  else .ok

def verdict (img : Image) (b : Bytes) (key : Option PublicKey) : Verdict :=
  if img.header.imageLength ≠ b.length then .invalidLength
  else if ¬img.FollowsLayout then .invalidLayout
  -- The checksum is computed from the bytes of the file, not from the fields.
  else if (headerCrc b : Int) ≠ img.header.headerCrc then .invalidCrc
  else
    match key with
    -- Without a key nobody looks at the digest either.
    | none => .ok
    | some k => img.signatureVerdict b k

/-- Verifies a file; the image is given too if the file could be read. -/
def verify (b : Bytes) (key : Option PublicKey) : Verdict × Option Image :=
  match detectOrder? b with
  | none => (.invalidMagic, none)
  | some _ =>
      if b.length < headerSize then (.invalidLength, none)
      else
        match read b with
        -- Magic and size are in order, so only a table can be at fault.
        | .error _ => (.invalidLayout, none)
        | .ok img => (img.verdict b key, some img)

end Image

end BootSeal
