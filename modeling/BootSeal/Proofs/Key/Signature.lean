import BootSeal.Proofs.Bytes.Field
import BootSeal.Proofs.Key.Library
/-!
# Signatures as bytes

Where the two numbers of a signature lie below the order of the curve's group, they have room in its
code, and a key accepts the code just if the two numbers verify. The standard library makes no other
signatures.
-/

namespace BootSeal

open Bytes

namespace Ecdsa

variable {c : Curve} {d z : Nat}

theorem signWith_lt (horder : 0 < c.order) (k : Nat) :
    (signWith c d z k).r < c.order ∧ (signWith c d z k).s < c.order := by
  unfold signWith
  split
  next => exact ⟨horder, horder⟩
  next => exact ⟨Nat.mod_lt _ horder, Nat.mod_lt _ horder⟩

/-- Whatever candidate is taken, its numbers are remainders modulo the order. -/
theorem signFrom_lt (horder : 0 < c.order) (tries : Nat) (g : NonceState) :
    (signFrom c d z tries g).r < c.order ∧ (signFrom c d z tries g).s < c.order := by
  induction tries generalizing g with
  | zero => exact ⟨horder, horder⟩
  | succ tries ih =>
      rw [signFrom]
      split
      next => exact signWith_lt horder _
      next => exact ih _

theorem sign_lt (horder : 0 < c.order) : (sign c d z).r < c.order ∧ (sign c d z).s < c.order :=
  signFrom_lt horder 128 (nonceState c d z)

end Ecdsa

/-- A signature whose numbers fit is read back from its code. -/
theorem Signature.ofBytes?_toBytes {sig : Signature} (hr : sig.r < fieldValues signatureHalf)
    (hs : sig.s < fieldValues signatureHalf) : ofBytes? sig.toBytes = some sig := by
  have hfirst : sig.toBytes.take signatureHalf = ofNatBE signatureHalf sig.r :=
    List.take_left' (length_ofNatBE signatureHalf sig.r)
  have hsecond : sig.toBytes.drop signatureHalf = ofNatBE signatureHalf sig.s :=
    List.drop_left' (length_ofNatBE signatureHalf sig.r)
  rw [ofBytes?, if_pos (length_toBytes sig), hfirst, hsecond, toNatBE_ofNatBE _ _ hr,
    toNatBE_ofNatBE _ _ hs]

theorem PublicKey.accepts_toBytes (q : PublicKey) (digest : Bytes) {sig : Signature}
    (hr : sig.r < fieldValues signatureHalf) (hs : sig.s < fieldValues signatureHalf) :
    q.accepts sig.toBytes digest =
      Ecdsa.verify Curve.p384 (.affine q.x q.y) (toNatBE digest) sig := by
  rw [accepts, Signature.ofBytes?_toBytes hr hs]

namespace KeyLibrary

theorem signsInRange_standard : SignsInRange where
  sign_lt _ _ := Ecdsa.sign_lt (by decide +kernel)

/-- The numbers of a signature have room in its code. -/
theorem SignsInRange.sign_lt_fieldValues [KeyLibrary] (hlib : SignsInRange) (k : PrivateKey)
    (digest : Bytes) :
    (sign k digest).r < fieldValues signatureHalf ∧ (sign k digest).s < fieldValues signatureHalf := by
  have horder : Curve.p384.order < fieldValues signatureHalf := by
    rw [fieldValues_eq_pow]
    decide +kernel
  obtain ⟨hr, hs⟩ := hlib.sign_lt k digest
  exact ⟨Nat.lt_trans hr horder, Nat.lt_trans hs horder⟩

end KeyLibrary

/-- A key accepts what a private key signed just if the numbers of the signature verify. -/
theorem PublicKey.accepts_sign [KeyLibrary] (hlib : KeyLibrary.SignsInRange) (q : PublicKey)
    (k : PrivateKey) (digest : Bytes) :
    q.accepts (k.sign digest) digest =
      Ecdsa.verify Curve.p384 (.affine q.x q.y) (toNatBE digest) (KeyLibrary.sign k digest) := by
  obtain ⟨hr, hs⟩ := hlib.sign_lt_fieldValues k digest
  exact q.accepts_toBytes digest hr hs

end BootSeal
