import BootSeal.Proofs.Image.Intact
import BootSeal.Proofs.Image.Signed
/-!
# What the digest binds

The digest covers every byte of a file but those of the signature block, each of them once and at its
place. So accepted files with one digest agree outside their blocks, unless two byte strings with one
digest have been found. In turn neither the checksum nor the digest sees what the block holds.
-/

namespace BootSeal

open Bytes

/-- Two byte strings that show the digest not to be injective. -/
structure Collision (x y : Bytes) : Prop where
  ne : x ≠ y
  sha384_eq : sha384 x = sha384 y

namespace Image

/-- Files of one length that differ at most in their signature blocks. -/
structure AgreeOutsideBlock (b b' : Bytes) : Prop where
  length_eq : b'.length = b.length
  outside_eq : ∀ i, i < signatureOffset ∨ headerSize ≤ i → b'[i]? = b[i]?

variable {b b' : Bytes}

theorem AgreeOutsideBlock.symm (h : AgreeOutsideBlock b b') : AgreeOutsideBlock b' b :=
  ⟨h.length_eq.symm, fun i hi => (h.outside_eq i hi).symm⟩

/-! ## Files with a cleared block -/

theorem agreeOutsideBlock_splice {block : Bytes} (hlength : headerSize ≤ b.length)
    (hblock : block.length = signatureBlockSize) :
    AgreeOutsideBlock b (b.splice signatureOffset headerSize block) := by
  have horder : signatureOffset ≤ headerSize := by decide
  refine ⟨length_splice horder hlength hblock, ?_⟩
  intro i hi
  rw [getElem?_splice horder hlength hblock, if_pos hi]

/-- Clearing the blocks makes two files equal just if they agree outside their blocks. -/
theorem unsigned_eq_iff (hlength : headerSize ≤ b.length) (hlength' : headerSize ≤ b'.length) :
    unsigned b' = unsigned b ↔ AgreeOutsideBlock b b' := by
  have horder : signatureOffset ≤ headerSize := by decide
  have hzeros : (zeros signatureBlockSize).length = headerSize - signatureOffset := length_zeros _
  constructor
  · intro h
    constructor
    · have hsame := congrArg List.length h
      rwa [unsigned, unsigned, length_splice horder hlength hzeros,
        length_splice horder hlength' hzeros] at hsame
    · intro i hi
      have hsame := congrArg (fun x => x[i]?) h
      rwa [unsigned, unsigned, getElem?_splice horder hlength hzeros,
        getElem?_splice horder hlength' hzeros, if_pos hi, if_pos hi] at hsame
  · intro h
    apply List.ext_getElem?
    intro i
    rw [unsigned, unsigned, getElem?_splice horder hlength hzeros,
      getElem?_splice horder hlength' hzeros]
    split
    next hi => exact h.outside_eq i hi
    next => rfl

/-- Files that agree outside their blocks have one checksum. -/
theorem AgreeOutsideBlock.headerCrc_eq (h : AgreeOutsideBlock b b')
    (hlength : headerSize ≤ b.length) : headerCrc b' = headerCrc b := by
  have hfront : signatureOffset ≤ b.length := Nat.le_trans (by decide) hlength
  have hfront' : signatureOffset ≤ b'.length := h.length_eq ▸ hfront
  have hslice : ∀ start stop, stop ≤ signatureOffset → b'.slice start stop = b.slice start stop := by
    intro start stop hstop
    exact slice_congr fun i _ hi => h.outside_eq i (Or.inl (Nat.lt_of_lt_of_le hi hstop))
  rw [headerCrc_eq_slices hfront, headerCrc_eq_slices hfront', hslice 0 16 (by decide),
    hslice 20 304 (by decide)]

/-! ## Accepted files -/

/-- A file that is accepted under a key holds the digest of itself with its block cleared. -/
theorem digestField_eq_of_verify {k : PublicKey} (h : (verify b (some k)).1 = .ok) :
    headerSize ≤ b.length ∧ digestField b = sha384 (unsigned b) := by
  obtain ⟨img, hverify, hintact⟩ := intact_of_verify h
  exact ⟨hintact.headerSize_le_length, (verify_some_eq_ok_iff.mp hverify).2.digest_eq⟩

/-- Files that are accepted under some keys and hold one digest agree outside their signature blocks,
or what was hashed for them is a collision; and what is hashed is the whole file with its block
cleared. In turn no block changes the checksum or the digest that is computed of a file. -/
theorem digestField_binds :
    (∀ (b b' : Bytes) (k k' : PublicKey), (verify b (some k)).1 = .ok →
      (verify b' (some k')).1 = .ok → digestField b' = digestField b →
        AgreeOutsideBlock b b' ∨ Collision (digestInput b b.length) (digestInput b' b'.length)) ∧
      (∀ b : Bytes, digestInput b b.length =
        b.splice signatureOffset headerSize (zeros signatureBlockSize)) ∧
      ∀ b block : Bytes, headerSize ≤ b.length → block.length = signatureBlockSize →
        let changed := b.splice signatureOffset headerSize block
        headerCrc changed = headerCrc b ∧
          imageDigest changed changed.length = imageDigest b b.length := by
  refine ⟨?_, digestInput_length, ?_⟩
  · intro b b' k k' h h' hdigest
    obtain ⟨hlength, hfield⟩ := digestField_eq_of_verify h
    obtain ⟨hlength', hfield'⟩ := digestField_eq_of_verify h'
    by_cases hsame : unsigned b' = unsigned b
    · exact Or.inl ((unsigned_eq_iff hlength hlength').mp hsame)
    · right
      rw [digestInput_length, digestInput_length]
      refine ⟨Ne.symm hsame, ?_⟩
      rw [← hfield, ← hfield', hdigest]
  · intro b block hlength hblock changed
    have hagree : AgreeOutsideBlock b changed := agreeOutsideBlock_splice hlength hblock
    have hlength' : headerSize ≤ changed.length := hagree.length_eq ▸ hlength
    refine ⟨hagree.headerCrc_eq hlength, ?_⟩
    rw [imageDigest_length, imageDigest_length, (unsigned_eq_iff hlength hlength').mpr hagree]

/-! ## Two signatures of one file -/

/-- The header of the small image as its checksum covers it. -/
def twoPartsCleared : Bytes := (plannedHeader [] [3] 1).bare.encode .big

set_option maxRecDepth 2000 in
/-- The register behind each quarter of that header. -/
theorem register_twoPartsCleared :
    Crc32.register 0xFFFFFFFF (twoPartsCleared.slice 0 112) = 0x5960e0be ∧
      Crc32.register 0x5960e0be (twoPartsCleared.slice 112 224) = 0xb78c2f1b ∧
      Crc32.register 0xb78c2f1b (twoPartsCleared.slice 224 336) = 0xc642fac8 ∧
      Crc32.register 0xc642fac8 (twoPartsCleared.slice 336 448) = 0xa0273473 := by
  refine ⟨?_, ?_, ?_, ?_⟩ <;> decide +kernel

theorem crc32_twoPartsCleared : crc32 twoPartsCleared = 0x5fd8cb8c := by
  obtain ⟨hfirst, hsecond, hthird, hfourth⟩ := register_twoPartsCleared
  have hquarters : twoPartsCleared.slice 0 112 ++ twoPartsCleared.slice 112 224
      ++ twoPartsCleared.slice 224 336 ++ twoPartsCleared.slice 336 448 = twoPartsCleared := by
    rw [slice_append_slice _ (by decide) (by decide), slice_append_slice _ (by decide) (by decide),
      slice_append_slice _ (by decide) (by decide)]
    exact slice_of_le_length (Nat.le_of_eq (Header.length_encode _ _))
  rw [← hquarters, crc32, Crc32.checksum, Crc32.register_append, Crc32.register_append,
    Crc32.register_append, hfirst, hsecond, hthird, hfourth]
  decide

theorem header_twoParts :
    (twoParts .big).header = { plannedHeader [] [3] 1 with headerCrc := 0x5fd8cb8c } := by
  have hcrc := Header.headerCrc_encode .big (plannedHeader [] [3] 1) []
  rw [List.append_nil] at hcrc
  change Header.sealed .big (plannedHeader [] [3] 1) = _
  rw [Header.sealed, hcrc, ← twoPartsCleared, crc32_twoPartsCleared]
  rfl

/-- The digest of the file of the small image. -/
def twoPartsDigest : Bytes :=
  ofNatBE digestSize
    0x50db6083b3160717d9677d1a9cbbe04f9ec084cebb6b92607ad324d1cc867d5a4f96a7f8401474251e9bb85afd298ad3

theorem sha384_twoParts : sha384 ((twoParts .big).encode [[1, 2, 3]]) = twoPartsDigest := by
  rw [encode_eq_body, header_twoParts]
  decide +kernel

/-- The file of the small image with its digest and a signature. -/
def twoPartsFile (sig : Signature) : Bytes :=
  ((twoParts .big).withBlock twoPartsDigest sig.toBytes).encode [[1, 2, 3]]

theorem verify_twoPartsFile {sig : Signature} {k : PublicKey}
    (h : k.accepts sig.toBytes twoPartsDigest = true) :
    (verify (twoPartsFile sig) (some k)).1 = .ok := by
  have hstorable : ((twoParts .big).withBlock twoPartsDigest sig.toBytes).Storable [[1, 2, 3]] :=
    (twoParts_storable .big).withBlock
  have hsentinel : ZiChunk.sentinel ∉ ((twoParts .big).withBlock twoPartsDigest sig.toBytes).ziChunks :=
    (by decide : ZiChunk.sentinel ∉ [(⟨2, 32, 64⟩ : ZiChunk)])
  have hplain := hstorable.verify_encode
  rw [if_neg hsentinel] at hplain
  have hauthentic : Authentic (((twoParts .big).withBlock (sha384 ((twoParts .big).encode [[1, 2, 3]]))
      sig.toBytes).encode [[1, 2, 3]]) k := by
    refine (authentic_withBlock_iff rfl rfl (Signature.length_toBytes sig)).mpr ?_
    rw [sha384_twoParts]
    exact h
  rw [sha384_twoParts] at hauthentic
  exact congrArg Prod.fst (verify_some_eq_ok_iff.mpr ⟨hplain, hauthentic⟩)

/-- With both numbers equal to the digest, a signature is valid under the point that leads from the base
point to one with the digest as its first coordinate. -/
def evenSignature : Signature := ⟨toNatBE twoPartsDigest, toNatBE twoPartsDigest⟩

def evenKey : PublicKey where
  x :=
    0xeb087523bec7294f435d43103abc5fb1c9a37220065801d5b829b4f680b533f73405b3762884dbb1a912f0eb704ecbe3
  y :=
    0x3bb831b9f6c1ce66890b037e0eaf8b2ca41c298ad192c8e0c7c42b8e8370c37f3da8771eca1340ac25ae5798a69a8081

/-- The same for half of that point, with the base point and the key taken twice each. -/
def halvedSignature : Signature where
  r := toNatBE twoPartsDigest
  s :=
    0xa86db041d98b038becb3be8d4e5df027cf6042675db5c930211b3929e05ed59cd3d85ad544628dd005c3e8e2e4f75a23

def halvedKey : PublicKey where
  x :=
    0xc83308efba70461c5c3aa6c28f828a81cf23c84c439dc58448bae605fb0238a275da5b5ec8600d37b123836dee9d5546
  y :=
    0xf4d5cccb899da114604920ef71dd822184b5f8befdad2037cb9a5401fa1e0a327b66c408acf5f4c8160eb56d9ce75d4f

theorem digestField_binds_two_signatures :
    let file := twoPartsFile evenSignature
    let file' := twoPartsFile halvedSignature
    file ≠ file' ∧ (verify file (some evenKey)).1 = .ok ∧
      (verify file' (some halvedKey)).1 = .ok ∧ digestField file' = digestField file ∧
      (AgreeOutsideBlock file file' ∨
        Collision (digestInput file file.length) (digestInput file' file'.length)) := by
  intro file file'
  have hfile : (verify file (some evenKey)).1 = .ok := verify_twoPartsFile (by decide +kernel)
  have hfile' : (verify file' (some halvedKey)).1 = .ok := verify_twoPartsFile (by decide +kernel)
  have hdigest : digestField file' = digestField file := by
    simp only [file, file', twoPartsFile, encode_eq_body, digestField_encode]
    rfl
  refine ⟨?_, hfile, hfile', hdigest, digestField_binds.1 file file' _ _ hfile hfile' hdigest⟩
  intro heq
  have hsignature := congrArg signatureField heq
  simp only [file, file', twoPartsFile, encode_eq_body, signatureField_encode] at hsignature
  revert hsignature
  decide +kernel

end Image

end BootSeal
