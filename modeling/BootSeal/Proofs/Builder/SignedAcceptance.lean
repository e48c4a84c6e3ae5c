import BootSeal.Proofs.Builder.Acceptance
import BootSeal.Proofs.Builder.Stopping
import BootSeal.Proofs.Image.Intact
import BootSeal.Proofs.Image.Signed
import BootSeal.Proofs.Key.Signature
/-!
# Verifying what was signed

The file that is written with a private key is the planned file with its signature block filled in. The
digest in it was taken before the block was there, and it is the one that a verification takes with the
block cleared; the checksum was stored before, and the block does not change it.
-/

namespace BootSeal

open Bytes

namespace Builder

variable {order : ByteOrder} {setName : String} {calls : List Call} {b : Builder}

theorem signer?_signing (k : PrivateKey) : signer? (some (.signing k)) = .ok (some k) := rfl

section Library

variable [KeyLibrary]

/-- The planned image, signed. -/
def signedImage (order : ByteOrder) (setName : String) (calls : List Call) (k : PrivateKey) : Image :=
  (plannedImage order setName calls).signed (Call.blobs calls) k

def signedFile (order : ByteOrder) (setName : String) (calls : List Call) (k : PrivateKey) : Bytes :=
  (signedImage order setName calls k).encode (Call.blobs calls)

/-- A signed file is authentic under just those keys that verify the signature of its digest. -/
theorem authentic_signedFile_iff (hsigns : KeyLibrary.SignsInRange) {k : PrivateKey} {q : PublicKey} :
    Image.Authentic (signedFile order setName calls k) q ↔
      Ecdsa.verify Curve.p384 (.affine q.x q.y)
        (toNatBE (signedImage order setName calls k).header.digest)
        (KeyLibrary.sign k (signedImage order setName calls k).header.digest) = true := by
  rw [← PublicKey.accepts_sign hsigns]
  exact Image.authentic_signed_iff rfl rfl

namespace Grown

theorem finish_reaches (hb : Grown order setName calls b) (hplain : Call.Plain calls)
    (k : PrivateKey) :
    Draft.Reaches (b.finish b.payloads (some k) id) (signedImage order setName calls k).header
      (signedImage order setName calls k).chunks (signedFile order setName calls k) := by
  have hfits := (hb.storable hplain).header_fits
  have hlength := (hb.length_plannedFile hplain).symm
  unfold finish
  rw [hb.filled.order_eq]
  refine (hb.compose_reaches hplain).bind fun d hd => ?_
  have hsign := Draft.sign_reaches hd hfits hlength order k
  have hout : (plannedFile order setName calls).drop headerSize =
      (plannedImage order setName calls).body (Call.blobs calls) := by
    rw [plannedFile, Image.encode_eq_body,
      ← Header.length_encode (plannedImage order setName calls).order
        (plannedImage order setName calls).header, List.drop_left]
  rw [hout] at hsign
  rw [signedFile, Image.encode_eq_body]
  exact hsign

end Grown

namespace Grown

variable {s : Store} {path : String} {route : Route} {k : PrivateKey}

theorem write_signing_ok (hb : Grown order setName calls b) (hplain : Call.Plain calls)
    (htarget : s.target path = .ok (.regular route)) :
    (b.write s path (some (.signing k))).error = none ∧
      (b.write s path (some (.signing k))).store =
        s.putFile route (signedFile order setName calls k) ∧
      (b.write s path (some (.signing k))).builder.image = signedImage order setName calls k := by
  have hwrite := hb.filled.write_of_reaches (signer?_signing k) htarget
    (hb.finish_reaches hplain k)
  rw [hb.ziRegions_eq] at hwrite
  exact hwrite

/-- A writing with a private key stops only for a fault of the draft. -/
theorem write_signing_error (hb : Grown order setName calls b)
    (htarget : s.target path = .ok (.regular route)) {e : BuildError}
    (h : (b.write s path (some (.signing k))).error = some e) : Draft.IsFault e := by
  rw [(hb.filled.write_settles (signer?_signing k) htarget).2, settle_error_eq_some_iff] at h
  obtain ⟨stopped, hfinish, rfl⟩ := h
  exact isFault_of_finish hfinish

/-- A writing to an ordinary file that goes through has got to the end of the first writing. -/
theorem compose_of_write (hb : Grown order setName calls b) {key : Option Key}
    {signer : Option PrivateKey} (hsigner : signer? key = .ok signer)
    (htarget : s.target path = .ok (.regular route)) (h : (b.write s path key).error = none) :
    ∃ d, b.compose b.payloads = .ok d := by
  rw [(hb.filled.write_settles hsigner htarget).2, settle_error_eq_none_iff] at h
  obtain ⟨d, hfinish⟩ := h
  exact exists_compose_of_finish hfinish

/-- The planned length of a writing that goes through fits the header. -/
theorem plain_of_write (hb : Grown order setName calls b)
    (hpayloads : ∀ p ∈ Call.payloads calls, p.IsPlain) {key : Option Key}
    {signer : Option PrivateKey} (hsigner : signer? key = .ok signer)
    (htarget : s.target path = .ok (.regular route)) (h : (b.write s path key).error = none) :
    Call.Plain calls := by
  refine ⟨hpayloads, ?_⟩
  obtain ⟨d, hcompose⟩ := hb.compose_of_write hsigner htarget h
  have hlength := imageLength_of_compose hcompose
  rwa [hb.regions_eq.1, hb.ziRegions_eq] at hlength

/-- A writing with a private key goes through just if the planned length fits the header. -/
theorem write_signing_error_eq_none_iff (hb : Grown order setName calls b)
    (hpayloads : ∀ p ∈ Call.payloads calls, p.IsPlain)
    (htarget : s.target path = .ok (.regular route)) :
    (b.write s path (some (.signing k))).error = none ↔ Call.Plain calls := by
  constructor
  · intro h
    exact hb.plain_of_write hpayloads (signer?_signing k) htarget h
  · intro hplain
    exact (hb.write_signing_ok hplain htarget).1

/-- The signed file is read back as the image that was signed, with its block. -/
theorem read_signedFile (hb : Grown order setName calls b) (hplain : Call.Plain calls)
    (hsentinel : ZiChunk.sentinel ∉ Call.ziChunks calls) :
    Image.verify (signedFile order setName calls k) none =
      (.ok, some (signedImage order setName calls k).shown) := by
  have hstorable : (signedImage order setName calls k).Storable (Call.blobs calls) :=
    (hb.storable hplain).withBlock
  have hshown := Image.restored_withBlock (length_sha384 (plannedFile order setName calls))
    (PrivateKey.length_sign k (sha384 (plannedFile order setName calls)))
    (hb.restored_eq_shown hsentinel)
  have hnone : ZiChunk.sentinel ∉ (signedImage order setName calls k).ziChunks := hsentinel
  rw [signedFile, hstorable.verify_encode, if_neg hnone]
  exact congrArg (fun img => (Verdict.ok, some img)) hshown

end Grown

/-- A writing with a private key goes through just if the planned length fits the header, and it never
fails to read back what it signs. The file that it leaves holds its own digest and checksum, it is
accepted without a key, and it is accepted with a key just if the key verifies the signature that was made,
whichever one the library made. -/
theorem verifyFile_write_signing (hsigns : KeyLibrary.SignsInRange) (hb : Grown order setName calls b)
    (hpayloads : ∀ p ∈ Call.payloads calls, p.IsPlain)
    (hsentinel : ZiChunk.sentinel ∉ Call.ziChunks calls) (k : PrivateKey) {s : Store}
    {path : String} {route : Route} (htarget : s.target path = .ok (.regular route)) :
    let w := b.write s path (some (.signing k))
    let img := w.builder.image.shown
    let digest := img.header.digest
    (∀ got expected, w.error ≠ some (.shortRead got expected)) ∧
      (w.error = none ↔
        Layout.imageLength headerSize ((Call.chunks calls).map Chunk.size)
          (Call.ziChunks calls).length < 2 ^ 64) ∧
      (w.error = none → ∃ file, w.store.read path = .ok file ∧
        Image.read file = .ok img ∧
        img.header.imageLength = file.length ∧
        digest = imageDigest file img.header.imageLength ∧
        (headerCrc file : Int) = img.header.headerCrc ∧
        Image.verifyFile w.store path none = .ok (.ok, some img) ∧
        ∀ key : Key, key.publicKey = k.publicKey →
          (Image.verifyFile w.store path (some key.publicKey) = .ok (.ok, some img) ↔
            Ecdsa.verify Curve.p384 (.affine k.publicKey.x k.publicKey.y) (toNatBE digest)
              (KeyLibrary.sign k digest) = true)) := by
  intro w img digest
  refine ⟨?_, ?_, ?_⟩
  · intro got expected herror
    cases hb.write_signing_error htarget herror
  · rw [hb.write_signing_error_eq_none_iff hpayloads htarget]
    exact ⟨fun hplain => hplain.length_lt, fun hlength => ⟨hpayloads, hlength⟩⟩
  · intro herror
    have hplain := (hb.write_signing_error_eq_none_iff hpayloads htarget).mp herror
    obtain ⟨_, hstore, himage⟩ := hb.write_signing_ok (k := k) hplain htarget
    have himg : img = (signedImage order setName calls k).shown := congrArg Image.shown himage
    have hverify := hb.read_signedFile (k := k) hplain hsentinel
    rw [← himg] at hverify
    have hintact := Image.verify_none_eq_ok_iff.mp hverify
    have hfile : w.store.read path = .ok (signedFile order setName calls k) := by
      rw [hstore]
      exact Store.read_putFile htarget _
    have hverifyFile : ∀ key, Image.verifyFile w.store path key =
        .ok (Image.verify (signedFile order setName calls k) key) := by
      intro key
      rw [Image.verifyFile, Image.readFile, hfile]
    have hdigest : digest = (signedImage order setName calls k).header.digest :=
      congrArg (fun i => i.header.digest) himg
    refine ⟨_, hfile, hintact.read_eq, hintact.length_eq, ?_, hintact.crc_eq, ?_, ?_⟩
    · rw [hintact.length_eq, Image.imageDigest_length, hdigest]
      exact congrArg sha384 (Image.unsigned_encode_withBlock rfl rfl).symm
    · rw [hverifyFile, hverify]
    · intro key hkey
      rw [hverifyFile, Except.ok.injEq, Image.verify_some_eq_ok_iff, hkey,
        authentic_signedFile_iff hsigns, ← hdigest]
      exact ⟨fun h => h.2, fun h => ⟨hverify, h⟩⟩

end Library

set_option maxRecDepth 100000 in
/-- The signature of the two regions under the secret one is valid. -/
theorem verify_sign_twoRegions :
    Ecdsa.verify Curve.p384
      (.affine (PrivateKey.publicKey ⟨1⟩).x (PrivateKey.publicKey ⟨1⟩).y)
      (toNatBE (signedImage .big "demo" twoRegions ⟨1⟩).shown.header.digest)
      (KeyLibrary.sign ⟨1⟩ (signedImage .big "demo" twoRegions ⟨1⟩).shown.header.digest) = true := by
  decide +kernel

/-- The signature that the first private key makes is accepted under its public half. -/
theorem verifyFile_write_signing_two_regions :
    ∃ b img, KeyLibrary.SignsInRange ∧ Grown .big "demo" twoRegions b ∧
      (b.write {} "out.bin" (some (.signing ⟨1⟩))).error = none ∧
      Image.verifyFile (b.write {} "out.bin" (some (.signing ⟨1⟩))).store "out.bin" none =
        .ok (.ok, some img) ∧
      Image.verifyFile (b.write {} "out.bin" (some (.signing ⟨1⟩))).store "out.bin"
        (some (PrivateKey.publicKey ⟨1⟩)) = .ok (.ok, some img) := by
  obtain ⟨b, hb⟩ := exists_grown_twoRegions
  obtain ⟨_, hgoes, hfile⟩ := verifyFile_write_signing KeyLibrary.signsInRange_standard hb
    twoRegions_plain.payloads_plain (by decide) ⟨1⟩ target_out
  have herror := hgoes.mpr twoRegions_plain.length_lt
  obtain ⟨_, _, _, _, _, _, hverify, hkey⟩ := hfile herror
  have himage := (hb.write_signing_ok (k := ⟨1⟩) twoRegions_plain target_out).2.2
  have haccepted := verify_sign_twoRegions
  rw [← himage] at haccepted
  exact ⟨b, _, KeyLibrary.signsInRange_standard, hb, herror, hverify,
    (hkey (.signing ⟨1⟩) rfl).mpr haccepted⟩

end Builder

end BootSeal
