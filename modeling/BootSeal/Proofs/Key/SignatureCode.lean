import BootSeal.Proofs.Key.Material
import BootSeal.Proofs.Key.Passphrase
import BootSeal.Proofs.Key.PublicFile
import BootSeal.Proofs.Key.Signature
/-!
# Signatures and their codes

Pairs of numbers of 384 bits and strings of 96 bytes are in one-to-one correspondence, and a string of
another size is refused as a signature. The numbers of a signature that is made lie below the order of the
curve's group, so every digest is signed, and a public key sees the very numbers that were made.
-/

namespace BootSeal

open Bytes

theorem fieldValues_signatureHalf : fieldValues signatureHalf = 2 ^ 384 := by
  rw [fieldValues_eq_pow]
  decide +kernel

namespace Signature

/-- Both numbers have room in their halves of the code. -/
def Fits (sig : Signature) : Prop := sig.r < 2 ^ 384 ∧ sig.s < 2 ^ 384

variable {sig sig' : Signature} {b : Bytes}

theorem Fits.ofBytes?_toBytes (h : sig.Fits) : ofBytes? sig.toBytes = some sig := by
  rw [Fits, ← fieldValues_signatureHalf] at h
  exact Signature.ofBytes?_toBytes h.1 h.2

theorem Fits.toBytes_inj (h : sig.Fits) (h' : sig'.Fits) (heq : sig.toBytes = sig'.toBytes) :
    sig = sig' := by
  have hcode := h.ofBytes?_toBytes
  rw [heq, h'.ofBytes?_toBytes] at hcode
  exact (Option.some.inj hcode).symm

/-- Every string of the right size is the code of the numbers in its halves. -/
theorem exists_toBytes_eq (h : b.length = signatureSize) :
    ∃ sig : Signature, sig.Fits ∧ sig.toBytes = b := by
  have hfirst : (b.take signatureHalf).length = signatureHalf :=
    List.length_take_of_le (by rw [h]; decide)
  have hsecond : (b.drop signatureHalf).length = signatureHalf := by
    rw [List.length_drop, h]
    rfl
  refine ⟨⟨toNatBE (b.take signatureHalf), toNatBE (b.drop signatureHalf)⟩, ?_, ?_⟩
  · have hr := toNatBE_lt (b.take signatureHalf)
    have hs := toNatBE_lt (b.drop signatureHalf)
    rw [hfirst, fieldValues_signatureHalf] at hr
    rw [hsecond, fieldValues_signatureHalf] at hs
    exact ⟨hr, hs⟩
  · have hr := ofNatBE_toNatBE (b.take signatureHalf)
    have hs := ofNatBE_toNatBE (b.drop signatureHalf)
    rw [hfirst] at hr
    rw [hsecond] at hs
    rw [toBytes, hr, hs, List.take_append_drop]

theorem existsUnique_toBytes_eq (h : b.length = signatureSize) :
    ∃! sig : Signature, sig.Fits ∧ sig.toBytes = b := by
  obtain ⟨sig, hfits, rfl⟩ := exists_toBytes_eq h
  exact ⟨sig, ⟨hfits, rfl⟩, fun sig' h' => h'.1.toBytes_inj hfits h'.2⟩

end Signature

theorem KeyLibrary.SignsInRange.sign_fits [KeyLibrary] (hlib : SignsInRange) (k : PrivateKey)
    (digest : Bytes) : (sign k digest).Fits := by
  rw [Signature.Fits, ← fieldValues_signatureHalf]
  exact hlib.sign_lt_fieldValues k digest

namespace PublicKey

variable {q : PublicKey} {signature digest : Bytes}

theorem check?_of_length_ne (h : signature.length ≠ signatureSize) :
    q.check? signature digest = some false := if_pos h

/-- The verdict on a signature that was made is that on its numbers. -/
theorem check?_sign [KeyLibrary] (hlib : KeyLibrary.SignsInRange) (q : PublicKey) (k : PrivateKey)
    (h : digest.length = digestSize) :
    q.check? (k.sign digest) digest =
      some (Ecdsa.verify Curve.p384 (.affine q.x q.y) (toNatBE digest) (KeyLibrary.sign k digest)) := by
  rw [check?, if_neg (not_not.mpr (k.length_sign digest)), if_neg (not_not.mpr h), accepts_sign hlib]

end PublicKey

namespace Key

section Library

variable [KeyLibrary] {k : PrivateKey} {q : PublicKey}

/-- The public half of a private key, as the key itself has it or as it is loaded from its file. -/
inductive PublicHalf (k : PrivateKey) : PublicKey → Prop where
  | own : PublicHalf k k.publicKey
  | loaded {s : Store} {path : String} {passphrase : Option Bytes} {q : PublicKey}
      (hread : s.read path = .ok (Utf8.encode k.publicKey.toPem))
      (hload : load s path passphrase = .ok (some (.verifying q))) : PublicHalf k q

theorem PublicHalf.eq (hlib : KeyLibrary.Restores) (h : PublicHalf k q) : q = k.publicKey := by
  cases h with
  | own => rfl
  | loaded hread hload =>
      obtain ⟨hkey, -⟩ := (load_toPem_iff hlib k.publicKey_fits hread _ _).mp hload
      cases hkey
      rfl

/-- The codes of signatures are the strings of one size, each that of one pair of numbers, and no other
string is accepted. A private key that is loaded is one for P-384; it signs every digest with a pair that
fits its code, whichever pair the library takes. Its public half can be saved and loaded, and accepts the
code just if the pair is valid. -/
theorem signatures_faithful (hreads : KeyLibrary.ReadsInRange) (hsigns : KeyLibrary.SignsInRange)
    (hrestores : KeyLibrary.Restores) :
    (∀ sig : Signature, sig.Fits →
      sig.toBytes.length = signatureSize ∧ Signature.ofBytes? sig.toBytes = some sig) ∧
    (∀ sig sig' : Signature, sig.Fits → sig'.Fits → sig.toBytes = sig'.toBytes → sig = sig') ∧
    (∀ b : Bytes, b.length = signatureSize → ∃! sig : Signature, sig.Fits ∧ sig.toBytes = b) ∧
    (∀ (q : PublicKey) (signature digest : Bytes), signature.length ≠ signatureSize →
      q.check? signature digest = some false) ∧
    ∀ (s : Store) (path : String) (passphrase : Option Bytes) (k : PrivateKey),
      load s path passphrase = .ok (some (.signing k)) →
      (∃ text, s.read path = .ok text ∧
        KeyFile.material text passphrase = .ok (some (.privateValue Curve.p384 k.secret))) ∧
      (0 < k.secret ∧ k.secret < Curve.p384.order) ∧
      (∀ (s' : Store) (path' : String) (passphrase' : Option Bytes),
        s'.read path' = .ok (Utf8.encode k.publicKey.toPem) →
        Curve.p384.OnCurve k.publicKey.x k.publicKey.y →
          load s' path' passphrase' = .ok (some (.verifying k.publicKey))) ∧
      ∀ digest : Bytes, digest.length = digestSize →
        let sig := KeyLibrary.sign k digest
        sig.Fits ∧ (k.sign digest).length = signatureSize ∧
          Signature.ofBytes? (k.sign digest) = some sig ∧
          ∀ q, PublicHalf k q →
            (q.check? (k.sign digest) digest = some true ↔
              Ecdsa.verify Curve.p384 (.affine k.publicKey.x k.publicKey.y) (toNatBE digest) sig =
                true) := by
  refine ⟨fun sig h => ⟨sig.length_toBytes, h.ofBytes?_toBytes⟩, fun _ _ h h' => h.toBytes_inj h',
    fun _ => Signature.existsUnique_toBytes_eq, fun _ _ _ => PublicKey.check?_of_length_ne, ?_⟩
  intro s path passphrase k hload
  obtain ⟨hmaterial, hsecret⟩ := load_signing hreads hload
  refine ⟨hmaterial, hsecret, fun s' path' passphrase' hread hcurve => ?_, fun digest hdigest => ?_⟩
  · exact (load_toPem_iff hrestores k.publicKey_fits hread passphrase' _).mpr ⟨rfl, hcurve⟩
  · have hfits := hsigns.sign_fits k digest
    refine ⟨hfits, k.length_sign digest, hfits.ofBytes?_toBytes, fun q hq => ?_⟩
    rw [hq.eq hrestores, PublicKey.check?_sign hsigns _ _ hdigest, Option.some.injEq]

end Library

theorem signatures_faithful_openFile :
    KeyLibrary.ReadsInRange ∧ KeyLibrary.SignsInRange ∧ KeyLibrary.Restores ∧
      load (oneFile openFile) "key.pem" none = .ok (some (.signing ⟨1⟩)) ∧
      Curve.p384.OnCurve (PrivateKey.publicKey ⟨1⟩).x (PrivateKey.publicKey ⟨1⟩).y ∧
      load (oneFile (Utf8.encode (PrivateKey.publicKey ⟨1⟩).toPem)) "key.pem" none =
        .ok (some (.verifying (PrivateKey.publicKey ⟨1⟩))) ∧
      (zeros digestSize).length = digestSize ∧ PublicHalf ⟨1⟩ (PrivateKey.publicKey ⟨1⟩) ∧
      Signature.Fits ⟨1, 1⟩ ∧ Signature.ofBytes? (Signature.toBytes ⟨1, 1⟩) = some ⟨1, 1⟩ ∧
      (∃! sig : Signature, sig.Fits ∧ sig.toBytes = zeros signatureSize) ∧
      (PrivateKey.publicKey ⟨1⟩).check? [] (zeros digestSize) = some false ∧
      (PrivateKey.sign ⟨1⟩ (zeros digestSize)).length = signatureSize := by
  have hload : load (oneFile openFile) "key.pem" none = .ok (some (.signing ⟨1⟩)) := by
    rw [load_openFile, if_pos rfl]
  have hcurve : Curve.p384.OnCurve (PrivateKey.publicKey ⟨1⟩).x (PrivateKey.publicKey ⟨1⟩).y := by
    decide +kernel
  have hone : 1 < 2 ^ 384 := by norm_num
  have hfits : Signature.Fits ⟨1, 1⟩ := ⟨hone, hone⟩
  obtain ⟨hcode, -, hunique, hrefused, hkeys⟩ := signatures_faithful KeyLibrary.readsInRange_standard
    KeyLibrary.signsInRange_standard KeyLibrary.restores_standard
  obtain ⟨-, -, hpublic, hsign⟩ := hkeys _ _ _ _ hload
  exact ⟨KeyLibrary.readsInRange_standard, KeyLibrary.signsInRange_standard,
    KeyLibrary.restores_standard, hload, hcurve, hpublic _ _ none (read_oneFile _) hcurve,
    length_zeros _, .own, hfits, (hcode _ hfits).2, hunique _ (length_zeros _),
    hrefused _ _ _ (by decide), (hsign _ (length_zeros _)).2.1⟩

end Key

end BootSeal
