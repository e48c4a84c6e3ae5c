import BootSeal.Curve.Ecdsa
/-!
# Keys

Images are signed with keys on one curve, P-384. A private key is its secret value, a public key is
a point of the curve. A signature is written as its two numbers, each in 48 big-endian bytes; that
code is total and faithful on numbers below `2 ^ 384`.
-/

namespace BootSeal

def digestSize : Nat := 48

def signatureHalf : Nat := 48

def signatureSize : Nat := 2 * signatureHalf

namespace Signature

def toBytes (sig : Signature) : Bytes :=
  Bytes.ofNatBE signatureHalf sig.r ++ Bytes.ofNatBE signatureHalf sig.s

/-- The signature of a code, which has exactly one length. -/
def ofBytes? (b : Bytes) : Option Signature :=
  if b.length = signatureSize then
    some ⟨Bytes.toNatBE (b.take signatureHalf), Bytes.toNatBE (b.drop signatureHalf)⟩
  else none

@[simp] theorem length_toBytes (sig : Signature) : sig.toBytes.length = signatureSize := by
  simp [toBytes, signatureSize, signatureHalf]

end Signature

/-- A public key: a point of P-384. -/
structure PublicKey where
  x : Nat
  y : Nat
deriving DecidableEq, Repr

/-- A private key: a multiplier of the base point of P-384. -/
structure PrivateKey where
  secret : Nat
deriving DecidableEq, Repr

namespace PublicKey

def accepts (k : PublicKey) (signature digest : Bytes) : Bool :=
  match Signature.ofBytes? signature with
  | none => false
  | some sig => Ecdsa.verify Curve.p384 (.affine k.x k.y) (Bytes.toNatBE digest) sig

/-- The verdict on a signature code; there is none for a digest of another size, unless the code
itself has a wrong size. -/
def check? (k : PublicKey) (signature digest : Bytes) : Option Bool :=
  if signature.length ≠ signatureSize then some false
  else if digest.length ≠ digestSize then none
  else some (k.accepts signature digest)

end PublicKey

namespace PrivateKey

def publicKey (k : PrivateKey) : PublicKey :=
  match Curve.p384.baseMultiple k.secret with
  | .infinity => ⟨0, 0⟩
  | .affine x y => ⟨x, y⟩

/-- The private key made of random bytes: their value modulo the number of possible secrets. -/
def ofEntropy (b : Bytes) : PrivateKey :=
  ⟨Bytes.toNatBE b % (Curve.p384.order - 1) + 1⟩

end PrivateKey

inductive Key where
  /-- A private key, with which images can be signed and verified. -/
  | signing (k : PrivateKey)
  /-- A public key, with which images can only be verified. -/
  | verifying (k : PublicKey)
deriving DecidableEq, Repr

def Key.publicKey : Key → PublicKey
  | .signing k => k.publicKey
  | .verifying k => k

def Key.kindName : String := "ecdsap384"

end BootSeal
