import BootSeal.Proofs.Image.Authenticity
import BootSeal.Proofs.Image.ReadBack
/-!
# Signed images

Signing fills the signature block and changes nothing else. So the file of a signed image is read back
as that of the image was, with the block, and clearing the block gives the file that was signed.
-/

namespace BootSeal.Image

open Bytes

/-- An image with a signature block. -/
def withBlock (img : Image) (digest signature : Bytes) : Image :=
  { img with header := { img.header with digest := digest, signature := signature } }

/-- An image that is signed together with its blobs. -/
def signed [KeyLibrary] (img : Image) (blobs : List Bytes) (k : PrivateKey) : Image :=
  img.withBlock (sha384 (img.encode blobs)) (k.sign (sha384 (img.encode blobs)))

variable {img : Image} {blobs : List Bytes} {digest signature : Bytes}

theorem length_encode_withBlock :
    ((img.withBlock digest signature).encode blobs).length = (img.encode blobs).length := by
  rw [encode_eq_body, encode_eq_body, List.length_append, List.length_append, Header.length_encode,
    Header.length_encode]
  rfl

/-- The reader does not rely on what is in the block. -/
theorem Storable.withBlock (h : img.Storable blobs) :
    (img.withBlock digest signature).Storable blobs where
  magic_eq := h.magic_eq
  header_fits := h.header_fits
  chunks_fit := h.chunks_fit
  sentinel_notMem := h.sentinel_notMem
  ziChunks_fit := h.ziChunks_fit
  follows := h.follows
  length_eq := by
    rw [length_encode_withBlock]
    exact h.length_eq
  crc_eq := h.crc_eq

/-- A block of the right size is read back as it is. -/
theorem restored_withBlock (hdigest : digest.length = 48) (hsignature : signature.length = 96)
    (h : img.restored = img.shown) :
    (img.withBlock digest signature).restored = (img.withBlock digest signature).shown := by
  have hsetName : stripZeros (fit setNameSize img.header.setName) = stripZeros img.header.setName :=
    congrArg (fun i => i.header.setName) h
  have hziChunks : img.ziChunks.takeWhile (· ≠ ZiChunk.sentinel) = img.ziChunks :=
    congrArg Image.ziChunks h
  simp only [restored, shown, withBlock, Header.restored, hsetName, hziChunks,
    fit_of_length_eq hdigest, fit_of_length_eq hsignature]

/-- What was signed is what the file becomes again when its block is cleared. -/
theorem unsigned_encode_withBlock (hdigest : img.header.digest = zeros 48)
    (hsignature : img.header.signature = zeros 96) :
    unsigned ((img.withBlock digest signature).encode blobs) = img.encode blobs := by
  rw [encode_eq_body, unsigned_encode, encode_eq_body,
    Header.encode_eq_front_zeros img.order hdigest hsignature, List.append_assoc]
  rfl

/-- A file with its digest and some signature in its block is authentic under just those keys that
accept the signature. -/
theorem authentic_withBlock_iff (hdigest : img.header.digest = zeros 48)
    (hsignature : img.header.signature = zeros 96) (hlength : signature.length = signatureSize)
    {q : PublicKey} :
    Authentic ((img.withBlock (sha384 (img.encode blobs)) signature).encode blobs) q ↔
      q.accepts signature (sha384 (img.encode blobs)) = true := by
  have hunsigned : unsigned ((img.withBlock (sha384 (img.encode blobs)) signature).encode blobs) =
      img.encode blobs := unsigned_encode_withBlock hdigest hsignature
  have hdigestField : digestField
      ((img.withBlock (sha384 (img.encode blobs)) signature).encode blobs) =
        sha384 (img.encode blobs) := by
    rw [encode_eq_body, digestField_encode]
    exact fit_of_length_eq (length_sha384 _)
  have hsignatureField : signatureField
      ((img.withBlock (sha384 (img.encode blobs)) signature).encode blobs) = signature := by
    rw [encode_eq_body, signatureField_encode]
    exact fit_of_length_eq hlength
  constructor
  · intro h
    have haccepts := h.accepts_signature
    rwa [hdigestField, hsignatureField] at haccepts
  · intro h
    constructor
    · rw [hdigestField, hunsigned]
    · rwa [hdigestField, hsignatureField]

/-- A signed file is authentic under just those keys that accept its signature. -/
theorem authentic_signed_iff [KeyLibrary] (hdigest : img.header.digest = zeros 48)
    (hsignature : img.header.signature = zeros 96) {k : PrivateKey} {q : PublicKey} :
    Authentic ((img.signed blobs k).encode blobs) q ↔
      q.accepts (k.sign (sha384 (img.encode blobs))) (sha384 (img.encode blobs)) = true :=
  authentic_withBlock_iff hdigest hsignature (PrivateKey.length_sign k _)

end BootSeal.Image
