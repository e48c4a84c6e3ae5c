import BootSeal.Bytes.Integer
/-!
# Elliptic curves over prime fields

A curve `y² = x³ + ax + b` over the integers modulo a prime, with a base point of prime order.
Field elements are natural numbers below the prime. Multiples of a point are computed in Jacobian
coordinates, where `(x, y, z)` stands for the point with coordinates `x / z²` and `y / z³`, so a
multiple needs a single inversion at its end.
-/

namespace BootSeal

structure Curve where
  name : String
  p : Nat
  a : Nat
  b : Nat
  gx : Nat
  gy : Nat
  order : Nat
  coordinateSize : Nat
  scalarSize : Nat

namespace Curve

/-- A point of the affine plane, or the neutral element of the group. -/
inductive Point where
  | infinity
  | affine (x y : Nat)
deriving DecidableEq, Repr

/-- A point in Jacobian coordinates; `z = 0` is the neutral element. -/
structure Jacobian where
  x : Nat
  y : Nat
  z : Nat

def powMod (b e m : Nat) : Nat :=
  if _ : e = 0 then 1 % m
  else
    let r := powMod (b * b % m) (e / 2) m
    if e % 2 = 1 then r * b % m else r
termination_by e
decreasing_by exact Nat.div_lt_self (by omega) (by omega)

def invMod (x p : Nat) : Nat := powMod x (p - 2) p

def subMod (x y p : Nat) : Nat := (x + p - y) % p

namespace Jacobian

def infinity : Jacobian := ⟨1, 1, 0⟩

def double (c : Curve) (q : Jacobian) : Jacobian :=
  let p := c.p
  let yy := q.y * q.y % p
  let zz := q.z * q.z % p
  let s := 4 * q.x * yy % p
  let m := (3 * q.x * q.x + c.a * (zz * zz % p)) % p
  let x := subMod (m * m % p) (2 * s % p) p
  let y := subMod (m * subMod s x p % p) (8 * (yy * yy % p) % p) p
  ⟨x, y, 2 * q.y * q.z % p⟩

def add (c : Curve) (q r : Jacobian) : Jacobian :=
  if q.z = 0 then r
  else if r.z = 0 then q
  else
    let p := c.p
    let qzz := q.z * q.z % p
    let rzz := r.z * r.z % p
    let u := q.x * rzz % p
    let v := r.x * qzz % p
    let s := q.y * (rzz * r.z % p) % p
    let t := r.y * (qzz * q.z % p) % p
    let h := subMod v u p
    let k := subMod t s p
    -- With one first coordinate in common the points are equal or opposite to each other.
    if h = 0 then if k = 0 then double c q else infinity
    else
      let hh := h * h % p
      let hhh := hh * h % p
      let uhh := u * hh % p
      let x := subMod (subMod (k * k % p) hhh p) (2 * uhh % p) p
      let y := subMod (k * subMod uhh x p % p) (s * hhh % p) p
      ⟨x, y, h * (q.z * r.z % p) % p⟩

def multiply (c : Curve) (q : Jacobian) (k : Nat) : Jacobian :=
  if _ : k = 0 then infinity
  else
    let twice := double c (multiply c q (k / 2))
    if k % 2 = 1 then add c twice q else twice
termination_by k
decreasing_by exact Nat.div_lt_self (by omega) (by omega)

def toPoint (c : Curve) (q : Jacobian) : Point :=
  if q.z = 0 then .infinity
  else
    let inv := invMod q.z c.p
    let inv2 := inv * inv % c.p
    -- The coordinates are `x / z²` and `y / z³`.
    .affine (q.x * inv2 % c.p) (q.y * (inv2 * inv % c.p) % c.p)

def ofPoint : Point → Jacobian
  | .infinity => infinity
  | .affine x y => ⟨x, y, 1⟩

end Jacobian

def baseMultiple (c : Curve) (k : Nat) : Point :=
  (Jacobian.multiply c ⟨c.gx, c.gy, 1⟩ k).toPoint c

/-- The base point times `k` plus the point `q` times `l`. -/
def combine (c : Curve) (k : Nat) (q : Point) (l : Nat) : Point :=
  (Jacobian.add c (Jacobian.multiply c ⟨c.gx, c.gy, 1⟩ k)
    (Jacobian.multiply c (Jacobian.ofPoint q) l)).toPoint c

def cubic (c : Curve) (x : Nat) : Nat := (x * x * x + c.a * x + c.b) % c.p

def OnCurve (c : Curve) (x y : Nat) : Prop :=
  x < c.p ∧ y < c.p ∧ y * y % c.p = c.cubic x

instance (c : Curve) (x y : Nat) : Decidable (c.OnCurve x y) :=
  inferInstanceAs (Decidable (x < c.p ∧ y < c.p ∧ y * y % c.p = c.cubic x))

/-! ## Square roots -/

/-- Splits `n` into an odd part and the exponent of the power of two that remains. -/
def oddPart (n : Nat) : Nat × Nat :=
  if _ : n = 0 ∨ n % 2 = 1 then (n, 0)
  else
    let (q, e) := oddPart (n / 2)
    (q, e + 1)
termination_by n
decreasing_by exact Nat.div_lt_self (by omega) (by omega)

/-- The least exponent `i` below `bound` for which squaring `t` that many times gives one. -/
def squaringsToOne (p : Nat) : Nat → Nat → Nat → Option Nat
  | 0, _, _ => none
  | bound + 1, i, t => if t = 1 then some i else squaringsToOne p bound (i + 1) (t * t % p)

/-- Lowers the order of `t` until it is one; `r` is then a root. -/
def refineRoot (p : Nat) : Nat → Nat → Nat → Nat → Nat → Nat
  | 0, _, _, _, r => r
  | steps + 1, m, w, t, r =>
      match squaringsToOne p m 0 t with
      | none => r
      | some 0 => r
      | some (i + 1) =>
          let g := powMod w (2 ^ (m - (i + 1) - 1)) p
          let gg := g * g % p
          refineRoot p steps (i + 1) gg (t * gg % p) (r * g % p)

/-- A number that has no square root modulo `p`, among the `bound` numbers from `z` on. -/
def nonResidue (p : Nat) : Nat → Nat → Nat
  | 0, z => z
  | bound + 1, z => if powMod z ((p - 1) / 2) p = p - 1 then z else nonResidue p bound (z + 1)

def sqrt? (p n : Nat) : Option Nat :=
  let (q, e) := oddPart (p - 1)
  let w := powMod (nonResidue p 1000 2) q p
  let r := refineRoot p (e + 1) e w (powMod n q p) (powMod n ((q + 1) / 2) p)
  if r * r % p = n % p then some r else none

/-- The point with a given first coordinate whose second coordinate has a given parity. -/
def lift? (c : Curve) (x : Nat) (odd : Bool) : Option Point := do
  guard (x < c.p)
  let r ← sqrt? c.p (c.cubic x)
  let y := if (r % 2 == 1) == odd then r else (c.p - r) % c.p
  guard ((y % 2 == 1) == odd)
  return .affine x y

/-! ## Encoded points -/

/-- The uncompressed form: a mark and both coordinates. -/
def encodePoint (c : Curve) (x y : Nat) : Bytes :=
  4 :: Bytes.ofNatBE c.coordinateSize x ++ Bytes.ofNatBE c.coordinateSize y

/-- Reads an uncompressed or a compressed point. The point must lie on the curve, and the neutral
element has no form that is accepted. -/
def decodePoint? (c : Curve) : Bytes → Option Point
  | [] => none
  | mark :: rest =>
      if mark = 4 then
        let x := Bytes.toNatBE (rest.take c.coordinateSize)
        let y := Bytes.toNatBE (rest.drop c.coordinateSize)
        if rest.length = 2 * c.coordinateSize ∧ c.OnCurve x y then some (.affine x y) else none
      else if (mark = 2 ∨ mark = 3) ∧ rest.length = c.coordinateSize then
        c.lift? (Bytes.toNatBE rest) (mark == 3)
      else none

end Curve

end BootSeal
