import BootSeal.Builder.Write
import BootSeal.Proofs.Builder.Drafting
import BootSeal.Proofs.Except
import BootSeal.Proofs.Image.Authenticity
import BootSeal.Proofs.Store.ReadBack
/-!
# Writing with a key

Between the first writing of the header and the signature no step touches the signature block, and the
output only grows. So what is signed is the whole file with its signature block cleared, and the file
that is left holds this digest and its signature. This is read off the steps that went through, whatever
was queued.
-/

namespace BootSeal

open Bytes

namespace Draft

/-- A later draft has the same signature block, and its output goes on from the earlier one. -/
structure Extends (d next : Draft) : Prop where
  digest_eq : next.header.digest = d.header.digest
  signature_eq : next.header.signature = d.header.signature
  length_le : d.out.length ≤ next.out.length

theorem Extends.refl (d : Draft) : d.Extends d := ⟨rfl, rfl, Nat.le_refl _⟩

theorem Extends.tell (d : Draft) (events : List Event) : d.Extends (d.tell events) :=
  ⟨rfl, rfl, Nat.le_refl _⟩

theorem Extends.trans {d e f : Draft} (hde : d.Extends e) (hef : e.Extends f) : d.Extends f :=
  ⟨hef.digest_eq.trans hde.digest_eq, hef.signature_eq.trans hde.signature_eq,
    Nat.le_trans hde.length_le hef.length_le⟩

section Steps

variable {d next : Draft} {order : ByteOrder} {ziChunks : List ZiChunk}

theorem putHeader_eq_ok (h : d.putHeader order = .ok next) :
    next.header = d.header ∧ next.out = d.header.encode order ++ d.out.drop headerSize := by
  unfold putHeader at h
  dsimp only [tell] at h
  split at h
  next => cases h
  next b hcode =>
    obtain ⟨_, rfl⟩ := Header.encode?_eq_some_iff.mp hcode
    cases h
    refine ⟨rfl, ?_⟩
    rw [fill_of_dvd Image.headerSize_dvd, List.append_nil, overwrite_zero,
      Header.length_encode]

theorem putChunkTable_extends (h : d.putChunkTable order ziChunks = .ok next) :
    d.Extends next := by
  unfold putChunkTable at h
  dsimp only [tell, append] at h
  split at h
  next => cases h
  next =>
    split at h
    next =>
      cases h
      refine ⟨rfl, rfl, ?_⟩
      simp
    next => cases h

theorem putZiTable_extends (h : d.putZiTable order ziChunks = .ok next) : d.Extends next := by
  unfold putZiTable at h
  dsimp only [tell, append] at h
  split at h
  next => cases h
  next =>
    split at h
    next =>
      cases h
      refine ⟨rfl, rfl, ?_⟩
      simp
    next => cases h

theorem endHeader_extends (h : d.endHeader = .ok next) : d.Extends next := by
  unfold endHeader at h
  dsimp only [tell] at h
  split at h
  next => cases h
  next =>
    cases h
    exact ⟨rfl, rfl, Nat.le_refl _⟩

theorem putBlob_extends {index : Nat} {c : Chunk} {p : Payload}
    (h : d.putBlob index c p = .ok next) : d.Extends next := by
  unfold putBlob at h
  dsimp only [tell, append] at h
  split at h
  next => cases h
  next =>
    split at h
    next => cases h
    next =>
      cases h
      refine ⟨rfl, rfl, ?_⟩
      simp

theorem putBlobs_extends {index : Nat} {blobs : List (Chunk × Payload)}
    (h : d.putBlobs index blobs = .ok next) : d.Extends next := by
  induction blobs generalizing d index with
  | nil =>
      cases h
      exact Extends.refl _
  | cons x rest ih =>
      obtain ⟨c, p⟩ := x
      rw [putBlobs] at h
      split at h
      next => cases h
      next e hput => exact (putBlob_extends hput).trans (ih h)

theorem endImage_eq_ok (h : d.endImage ziChunks = .ok next) :
    d.Extends next ∧ next.header.imageLength = next.out.length := by
  unfold endImage at h
  dsimp only at h
  split at h
  next => cases h
  next =>
    cases h
    exact ⟨⟨rfl, rfl, Nat.le_refl _⟩, rfl⟩

theorem setChecksum_eq_ok (h : d.setChecksum order = .ok next) :
    d.Extends next ∧ next.header.imageLength = d.header.imageLength ∧ next.out = d.out := by
  unfold setChecksum at h
  split at h
  next => cases h
  next =>
    cases h
    exact ⟨⟨rfl, rfl, Nat.le_refl _⟩, rfl, rfl⟩

/-- What is signed is what can be read back, as far as the header says. -/
theorem sign_eq_ok [KeyLibrary] {k : PrivateKey} {readBack : Bytes}
    (h : d.sign order k readBack = .ok next) :
    ((readBack.take d.header.imageLength.toNat).length : Int) = d.header.imageLength ∧
      next.out =
        { d.header with
          digest := sha384 (readBack.take d.header.imageLength.toNat)
          signature := k.sign (sha384 (readBack.take d.header.imageLength.toNat)) }.encode order
          ++ d.out.drop headerSize := by
  unfold sign at h
  dsimp only at h
  split at h
  next => cases h
  next hlength =>
    obtain ⟨_, hout⟩ := putHeader_eq_ok h
    exact ⟨Decidable.not_not.mp hlength, hout⟩

end Steps

/-- Signing an output of the length that its header gives. -/
theorem sign_reaches [KeyLibrary] {d : Draft} {h : Header} {chunks : List Chunk} {out : Bytes}
    (hd : d.Shows h chunks out) (hfits : h.Fits) (hlength : h.imageLength = out.length)
    (order : ByteOrder) (k : PrivateKey) :
    let signed : Header := { h with digest := sha384 out, signature := k.sign (sha384 out) }
    Reaches (d.sign order k d.out) signed chunks (signed.encode order ++ out.drop headerSize) := by
  intro signed
  obtain ⟨rfl, rfl, rfl⟩ := hd
  have hcovered : d.out.take d.header.imageLength.toNat = d.out := by
    rw [hlength, Int.toNat_natCast, List.take_length]
  have hsigned : Shows { d with header := signed } signed d.chunks d.out := ⟨rfl, rfl, rfl⟩
  have hput := putHeader_reaches
    (hsigned.tell [.digest (sha384 d.out), .signature (k.sign (sha384 d.out))]) hfits order
  unfold sign
  dsimp only
  rw [hcovered, if_neg (not_not_intro hlength.symm)]
  exact hput

end Draft

namespace Builder

variable {b : Builder} {payloads : List Payload} {d : Draft}

theorem layOut_eq_ok (h : b.layOut payloads = .ok d) :
    d.header.digest = b.header.digest ∧ d.header.signature = b.header.signature ∧
      headerSize ≤ d.out.length ∧ d.header.imageLength = d.out.length := by
  unfold layOut at h
  obtain ⟨d₁, hheader, h⟩ := bind_eq_ok h
  obtain ⟨d₂, hchunks, h⟩ := bind_eq_ok h
  obtain ⟨d₃, hziChunks, h⟩ := bind_eq_ok h
  obtain ⟨d₄, hend, h⟩ := bind_eq_ok h
  obtain ⟨d₅, hblobs, h⟩ := bind_eq_ok h
  obtain ⟨hkept, hout⟩ := Draft.putHeader_eq_ok hheader
  obtain ⟨hlast, hlength⟩ := Draft.endImage_eq_ok h
  -- The steps behind the first header one after the other.
  have hextends : d₁.Extends d := by
    refine (Draft.putChunkTable_extends hchunks).trans ?_
    refine (Draft.putZiTable_extends hziChunks).trans ?_
    refine (Draft.endHeader_extends hend).trans ?_
    refine (Draft.Extends.tell d₄ [.blobs]).trans ?_
    exact (Draft.putBlobs_extends hblobs).trans hlast
  have hfront : headerSize ≤ d₁.out.length := by
    rw [hout, List.length_append, Header.length_encode]
    omega
  refine ⟨?_, ?_, Nat.le_trans hfront hextends.length_le, hlength⟩
  · rw [hextends.digest_eq, hkept]
    rfl
  · rw [hextends.signature_eq, hkept]
    rfl

theorem compose_eq_ok (h : b.compose payloads = .ok d) :
    d.header.digest = b.header.digest ∧ d.header.signature = b.header.signature ∧
      d.header.imageLength = d.out.length ∧
      d.out = d.header.encode b.order ++ d.out.drop headerSize := by
  unfold compose at h
  obtain ⟨d₁, hlayOut, h⟩ := bind_eq_ok h
  obtain ⟨d₂, hchecksum, h⟩ := bind_eq_ok h
  obtain ⟨hdigest, hsignature, hlong, hlength⟩ := layOut_eq_ok hlayOut
  obtain ⟨hextends, hsame, hout⟩ := Draft.setChecksum_eq_ok hchecksum
  obtain ⟨hkept, hfinal⟩ := Draft.putHeader_eq_ok h
  rw [hout] at hfinal
  have hdrop : d.out.drop headerSize = d₁.out.drop headerSize := by
    rw [hfinal, ← Header.length_encode b.order d₂.header, List.drop_left]
  have hsize : d.out.length = d₁.out.length := by
    rw [hfinal, List.length_append, Header.length_encode, List.length_drop]
    omega
  rw [hkept]
  refine ⟨hextends.digest_eq.trans hdigest, hextends.signature_eq.trans hsignature, ?_, ?_⟩
  · rw [hsame, hlength, hsize]
  · rw [hdrop, hfinal]

/-- A complete output is signed as a whole, and only its header is written again. -/
theorem out_of_sign [KeyLibrary] {k : PrivateKey} {e : Draft} (hcompose : b.compose payloads = .ok e)
    (hsign : e.sign b.order k e.out = .ok d) :
    d.out =
      { e.header with
        digest := sha384 e.out, signature := k.sign (sha384 e.out) }.encode b.order
        ++ e.out.drop headerSize := by
  obtain ⟨_, _, hlength, _⟩ := compose_eq_ok hcompose
  obtain ⟨_, hout⟩ := Draft.sign_eq_ok hsign
  rwa [hlength, Int.toNat_natCast, List.take_length] at hout

/-- Clearing the block of a complete output gives the output before it was signed. -/
theorem unsigned_of_compose (hdigest : b.header.digest = zeros 48)
    (hsignature : b.header.signature = zeros 96) (h : b.compose payloads = .ok d)
    (digest signature : Bytes) :
    Image.unsigned
      ({ d.header with digest := digest, signature := signature }.encode b.order
        ++ d.out.drop headerSize) = d.out := by
  obtain ⟨hkeptDigest, hkeptSignature, _, hout⟩ := compose_eq_ok h
  have hfront := Header.encode_eq_front_zeros b.order (hkeptDigest.trans hdigest)
    (hkeptSignature.trans hsignature)
  rw [Image.unsigned_encode]
  calc _ = d.header.front b.order ++ (zeros signatureBlockSize ++ d.out.drop headerSize) := rfl
    _ = d.out := by
        rw [← List.append_assoc, ← hfront]
        exact hout.symm

/-- A signed file holds the digest of itself and the signature of this digest. -/
theorem finish_eq_ok [KeyLibrary] {k : PrivateKey} (hdigest : b.header.digest = zeros 48)
    (hsignature : b.header.signature = zeros 96) (h : b.finish payloads (some k) id = .ok d) :
    Image.SignedBy d.out k := by
  unfold finish at h
  obtain ⟨e, hcompose, hsign⟩ := bind_eq_ok h
  have hout := out_of_sign hcompose hsign
  -- What was signed is what the file becomes again when its block is cleared.
  have hunsigned : Image.unsigned d.out = e.out := by
    rw [hout]
    exact unsigned_of_compose hdigest hsignature hcompose _ _
  have hfield : Image.digestField d.out = sha384 e.out := by
    rw [hout, Image.digestField_encode]
    exact fit_of_length_eq (length_sha384 _)
  refine ⟨by rw [hunsigned, hfield], ?_⟩
  rw [hfield, hout, Image.signatureField_encode]
  exact fit_of_length_eq (PrivateKey.length_sign k _)

/-- An output that cannot be read back cannot be signed. -/
theorem finish_unreadable_ne_ok [KeyLibrary] {k : PrivateKey} :
    b.finish payloads (some k) (fun _ => []) ≠ .ok d := by
  intro h
  unfold finish at h
  obtain ⟨e, hcompose, hsign⟩ := bind_eq_ok h
  obtain ⟨_, _, hlength, hout⟩ := compose_eq_ok hcompose
  obtain ⟨hcovered, _⟩ := Draft.sign_eq_ok hsign
  -- The header alone is longer than what was read back.
  have hlong := congrArg List.length hout
  have hsize : headerSize = 448 := rfl
  rw [List.length_append, Header.length_encode] at hlong
  rw [List.take_nil, List.length_nil, hlength] at hcovered
  omega

theorem accept_signing {k : PrivateKey} {accepted : List Payload × Option PrivateKey}
    (h : b.accept (some (.signing k)) = .ok accepted) : accepted.2 = some k := by
  unfold accept at h
  split at h
  next => cases h
  next =>
    cases h
    rfl

/-- Only a private key, or none, gets through the checks of a writing. -/
theorem exists_signer_of_write [KeyLibrary] {s : Store} {path : String} {key : Option Key}
    (h : (b.write s path key).error = none) : ∃ signer, signer? key = .ok signer := by
  unfold write accept at h
  split at h
  next => cases h
  next haccept =>
    split at haccept
    next => cases haccept
    next =>
      split at haccept
      next => cases haccept
      next signer hsigner => exact ⟨signer, hsigner⟩

/-- A writing with a private key that goes through leaves a signed file. -/
theorem write_signed [KeyLibrary] {s : Store} {path : String} {k : PrivateKey}
    (hdigest : b.header.digest = zeros 48) (hsignature : b.header.signature = zeros 96)
    (h : (b.write s path (some (.signing k))).error = none) :
    ∃ file, (b.write s path (some (.signing k))).store.read path = .ok file ∧
      Image.SignedBy file k := by
  unfold write at h ⊢
  cases haccept : b.accept (some (.signing k)) with
  | error e =>
      rw [haccept] at h
      cases h
  | ok accepted =>
      obtain ⟨payloads, signer⟩ := accepted
      obtain rfl : signer = some k := accept_signing haccept
      rw [haccept] at h
      dsimp only at h ⊢
      cases htarget : s.target path with
      | error e =>
          rw [htarget] at h
          cases h
      | ok target =>
          rw [htarget] at h
          dsimp only at h ⊢
          cases target with
          | regular route =>
              dsimp only [writeTo] at h ⊢
              cases hfinish : b.finish payloads (some k) id with
              | error e =>
                  rw [hfinish] at h
                  cases h
              | ok d =>
                  exact ⟨d.out, Store.read_putFile htarget d.out,
                    finish_eq_ok hdigest hsignature hfinish⟩
          -- On a device the writing cannot have gone through.
          | sink =>
              dsimp only [writeTo] at h
              cases hfinish : b.finish payloads (some k) (fun _ => []) with
              | error e =>
                  rw [hfinish] at h
                  cases h
              | ok d => exact absurd hfinish finish_unreadable_ne_ok
          | full => cases h

end Builder

end BootSeal
