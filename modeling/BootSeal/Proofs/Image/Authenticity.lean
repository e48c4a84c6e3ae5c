import BootSeal.Image.Verify
import BootSeal.Key.Library
import BootSeal.Proofs.Image.Integrity
/-!
# What a verification under a key establishes

A verification under a key accepts a file just if the one without a key does and the signature block
holds the digest of everything else and a signature of it. The verdict is computed from the header as
it was read; here it is told in terms of the bytes of the file.
-/

namespace BootSeal

open Bytes

namespace Image

/-- A file with its signature block cleared. -/
def unsigned (b : Bytes) : Bytes :=
  b.splice signatureOffset headerSize (zeros signatureBlockSize)

def digestField (b : Bytes) : Bytes := b.slice signatureOffset (signatureOffset + digestSize)

def signatureField (b : Bytes) : Bytes := b.slice (signatureOffset + digestSize) headerSize

/-- The digest in a file is that of the file, and the signature is one of the digest. -/
structure Authentic (b : Bytes) (k : PublicKey) : Prop where
  digest_eq : digestField b = sha384 (unsigned b)
  accepts_signature : k.accepts (signatureField b) (digestField b) = true

/-- The digest in a file is that of the file, and the signature is made of it with a private key. -/
structure SignedBy [KeyLibrary] (b : Bytes) (k : PrivateKey) : Prop where
  digest_eq : digestField b = sha384 (unsigned b)
  signature_eq : signatureField b = k.sign (digestField b)

/-! ## The signature block behind the front of a header -/

section Encoded

variable (order : ByteOrder) (h : Header) (rest : Bytes)

theorem unsigned_encode :
    unsigned (h.encode order ++ rest) =
      h.front order ++ (zeros signatureBlockSize ++ rest) := by
  have hfield := splice_field (h.front order) (fit 48 h.digest ++ fit 96 h.signature) rest
    (zeros signatureBlockSize)
  rw [List.length_append, length_fit, length_fit, Header.length_front] at hfield
  rw [unsigned, Header.encode_eq_front, ← List.append_assoc (h.front order) (zeros _), ← hfield]
  rfl

theorem digestField_encode : digestField (h.encode order ++ rest) = fit 48 h.digest := by
  have hfront := Header.length_front order h
  rw [digestField, Header.encode_eq_front]
  simp only [slice_append, List.length_append, hfront, length_fit, signatureOffset, digestSize]
  simp [slice_of_length_le, slice_of_le_length, hfront, signatureOffset]

theorem signatureField_encode : signatureField (h.encode order ++ rest) = fit 96 h.signature := by
  have hfront := Header.length_front order h
  rw [signatureField, Header.encode_eq_front]
  simp only [slice_append, List.length_append, hfront, length_fit, signatureOffset, digestSize,
    headerSize]
  simp [slice_of_length_le, slice_of_le_length, hfront, signatureOffset]

end Encoded

/-- What is hashed for a whole file is the file with its signature block cleared. -/
theorem digestInput_length (b : Bytes) : digestInput b b.length = unsigned b := by
  have hend : endOffset b.length b.length = b.length := by
    rw [endOffset, if_neg (by omega), Int.toNat_natCast]
  rw [digestInput, hend, clearedHeader, unsigned, splice, slice, List.take_length]

/-- The digest of a whole file covers everything but the signature block. -/
theorem imageDigest_length (b : Bytes) :
    imageDigest b b.length = sha384 (unsigned b) := by
  rw [imageDigest, digestInput_length]

/-- A signature of zeros is never accepted. -/
theorem any_ne_zero_of_accepts {k : PublicKey} {signature digest : Bytes}
    (h : k.accepts signature digest = true) : signature.any (· != 0) = true := by
  refine Decidable.byContradiction fun hzero => ?_
  have hall : ∀ x ∈ signature, x = 0 := by simpa using hzero
  have htake : signature.take signatureHalf = zeros (signature.take signatureHalf).length :=
    List.eq_replicate_iff.mpr ⟨rfl, fun x hx => hall x (List.mem_of_mem_take hx)⟩
  -- The first number of the signature is zero, and no such signature is valid.
  have hr : toNatBE (signature.take signatureHalf) = 0 := by
    rw [htake, ← ofNatBE_zero]
    exact toNatBE_ofNatBE _ 0 (fieldValues_pos _)
  unfold PublicKey.accepts Signature.ofBytes? at h
  split at h
  next => cases h
  next sig hsig =>
    split at hsig
    next =>
      cases hsig
      rw [Ecdsa.verify, if_neg (by dsimp only; omega)] at h
      cases h
    next => cases hsig

/-! ## Verdicts -/

theorem read_eq_ok {b : Bytes} {img : Image} (h : read b = .ok img) :
    headerSize ≤ b.length ∧ detectOrder? b = some img.order ∧
      img.header = Header.decode img.order b := by
  unfold read at h
  split at h
  next => cases h
  next order horder =>
    split at h
    next => cases h
    next hlength =>
      unfold readTables at h
      dsimp only at h
      split at h
      next => cases h
      next =>
        split at h
        next => cases h
        next =>
          cases h
          exact ⟨by omega, horder, rfl⟩

/-- What is read from a file with a whole header are the tables that the header points to. -/
theorem read_eq_readTables {b : Bytes} {order : ByteOrder} (horder : detectOrder? b = some order)
    (hlength : headerSize ≤ b.length) : read b = readTables order (Header.decode order b) b := by
  unfold read
  rw [horder]
  dsimp only
  rw [if_neg (by omega)]

theorem readTables_of_read {b : Bytes} {img : Image} (h : read b = .ok img) :
    readTables img.order img.header b = .ok img := by
  obtain ⟨hlength, horder, hheader⟩ := read_eq_ok h
  rw [hheader, ← read_eq_readTables horder hlength]
  exact h

theorem verify_eq_ok_iff {b : Bytes} {key : Option PublicKey} {img : Image} :
    verify b key = (.ok, some img) ↔ read b = .ok img ∧ img.verdict b key = .ok := by
  constructor
  · intro h
    unfold verify at h
    split at h
    next => cases h
    next =>
      split at h
      next => cases h
      next =>
        split at h
        next => cases h
        next read hread =>
          simp only [Prod.mk.injEq, Option.some.injEq] at h
          obtain ⟨hverdict, rfl⟩ := h
          exact ⟨hread, hverdict⟩
  · rintro ⟨hread, hverdict⟩
    obtain ⟨hlength, horder, _⟩ := read_eq_ok hread
    unfold verify
    rw [horder]
    dsimp only
    rw [if_neg (by omega), hread]
    dsimp only
    rw [hverdict]

theorem signatureVerdict_eq_ok_iff {b : Bytes} {img : Image} {k : PublicKey}
    (hread : read b = .ok img) (hlength : img.header.imageLength = b.length) :
    img.signatureVerdict b k = .ok ↔ Authentic b k := by
  obtain ⟨_, _, hheader⟩ := read_eq_ok hread
  have hdigest : img.header.digest = digestField b := congrArg Header.digest hheader
  have hsignature : img.header.signature = signatureField b := congrArg Header.signature hheader
  unfold signatureVerdict
  rw [hlength, imageDigest_length, hdigest, hsignature]
  constructor
  · intro h
    split at h
    next => cases h
    next =>
      split at h
      next => cases h
      next heq =>
        split at h
        next => cases h
        next haccepts => exact ⟨(Decidable.not_not.mp heq).symm, by simpa using haccepts⟩
  -- The check that the block is not all zero follows from the other two.
  · rintro ⟨heq, haccepts⟩
    have hsigned : img.header.isSigned = true := by
      rw [Header.isSigned, hsignature, any_ne_zero_of_accepts haccepts, Bool.or_true]
    rw [hsigned, haccepts, if_neg (by decide), if_neg (not_not_intro heq.symm), if_neg (by decide)]

theorem verdict_some_eq_ok_iff {b : Bytes} {img : Image} {k : PublicKey}
    (hread : read b = .ok img) :
    img.verdict b (some k) = .ok ↔ img.verdict b none = .ok ∧ Authentic b k := by
  unfold verdict
  by_cases hlength : img.header.imageLength = b.length
  · rw [if_neg (not_not_intro hlength), if_neg (not_not_intro hlength)]
    split
    next => simp
    next =>
      split
      next => simp
      next =>
        dsimp only
        rw [signatureVerdict_eq_ok_iff hread hlength]
        exact ⟨fun h => ⟨rfl, h⟩, fun h => h.2⟩
  · rw [if_pos hlength, if_pos hlength]
    simp

/-- Under a key a file is accepted just if it is accepted without one and authentic. -/
theorem verify_some_eq_ok_iff {b : Bytes} {k : PublicKey} {img : Image} :
    verify b (some k) = (.ok, some img) ↔ verify b none = (.ok, some img) ∧ Authentic b k := by
  rw [verify_eq_ok_iff, verify_eq_ok_iff]
  constructor
  · rintro ⟨hread, hverdict⟩
    obtain ⟨hplain, hauthentic⟩ := (verdict_some_eq_ok_iff hread).mp hverdict
    exact ⟨⟨hread, hplain⟩, hauthentic⟩
  · rintro ⟨⟨hread, hplain⟩, hauthentic⟩
    exact ⟨hread, (verdict_some_eq_ok_iff hread).mpr ⟨hplain, hauthentic⟩⟩

end Image

end BootSeal
