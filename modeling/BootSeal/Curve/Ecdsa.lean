import BootSeal.Curve.Named
import BootSeal.Digest.Hmac
/-!
# Elliptic curve signatures

Signatures over digests that are as wide as the order of the curve's group. The secret number of a
signature is derived from the key and the digest with a keyed digest, so signing is a function.
-/

namespace BootSeal

structure Signature where
  r : Nat
  s : Nat
deriving DecidableEq, Repr

namespace Ecdsa

/-- Whether a signature of digest `z` is valid under the public point `q`. -/
def verify (c : Curve) (q : Curve.Point) (z : Nat) (sig : Signature) : Bool :=
  if 0 < sig.r ∧ sig.r < c.order ∧ 0 < sig.s ∧ sig.s < c.order then
    let w := Curve.invMod sig.s c.order
    match c.combine (z * w % c.order) q (sig.r * w % c.order) with
    | .infinity => false
    | .affine x _ => x % c.order == sig.r
  else false

def signWith (c : Curve) (d z k : Nat) : Signature :=
  match c.baseMultiple k with
  | .infinity => ⟨0, 0⟩
  | .affine x _ =>
      let r := x % c.order
      ⟨r, Curve.invMod k c.order * (z + r * d) % c.order⟩

/-- The generator of secret numbers: a key and a running value. -/
structure NonceState where
  key : Bytes
  value : Bytes

def NonceState.mix (g : NonceState) (tag : UInt8) (seed : Bytes) : NonceState :=
  let key := Digest.sha384.hmac g.key (g.value ++ tag :: seed)
  ⟨key, Digest.sha384.hmac key g.value⟩

def NonceState.advance (g : NonceState) : NonceState :=
  ⟨g.key, Digest.sha384.hmac g.key g.value⟩

def nonceState (c : Curve) (d z : Nat) : NonceState :=
  let seed := Bytes.ofNatBE c.scalarSize d ++ Bytes.ofNatBE c.scalarSize (z % c.order)
  ((NonceState.mk (Bytes.zeros 48) (List.replicate 48 1)).mix 0 seed).mix 1 seed

/-- Tries candidates until one gives a signature without a zero. -/
def signFrom (c : Curve) (d z : Nat) : Nat → NonceState → Signature
  | 0, _ => ⟨0, 0⟩
  | tries + 1, g =>
      let g := g.advance
      let k := Bytes.toNatBE g.value
      let sig := signWith c d z k
      if 0 < k ∧ k < c.order ∧ sig.r ≠ 0 ∧ sig.s ≠ 0 then sig
      else signFrom c d z tries (g.mix 0 [])

/-- The signature of digest `z` with the private value `d`. A candidate is refused about once in
`2 ^ 194` times, so the bound on their number is never reached. -/
def sign (c : Curve) (d z : Nat) : Signature := signFrom c d z 128 (nonceState c d z)

end Ecdsa

end BootSeal
