import CoinAddress.Curve.Field

/-!
# Points of secp256k1

The points of the curve `y² = x³ + 7` with the usual addition: the sum of three points on a line is
the point at infinity.

* `Point.add` adds two points, `Point.multiply` adds a point to itself a number of times.
* `generator` is the point whose multiples are the public keys; `groupOrder` is the number of its
  multiples.
-/

namespace CoinAddress.Curve

/-- A point of the plane, or the point at infinity. -/
inductive Point where
  | infinity
  | affine (x y : Field)
deriving DecidableEq

/-- Whether two coordinates satisfy the equation of the curve. -/
def OnCurve (x y : Field) : Prop := y * y = x * x * x + 7

instance (x y : Field) : Decidable (OnCurve x y) := inferInstanceAs (Decidable (_ = _))

namespace Point

/-- The third point on the line through `(x₁, y₁)` and some `(x₂, _)` with a given slope,
reflected. -/
def chord (slope x₁ y₁ x₂ : Field) : Point :=
  let x := slope * slope - x₁ - x₂
  affine x (slope * (x₁ - x) - y₁)

/-- A point added to itself. -/
def double : Point → Point
  | infinity => infinity
  | affine x y =>
    if y = 0 then infinity else chord (3 * x * x * (2 * y).inverse) x y x

/-- The sum of two points. -/
def add : Point → Point → Point
  | infinity, q => q
  | p, infinity => p
  | affine x₁ y₁, affine x₂ y₂ =>
    if x₁ = x₂ then
      if y₁ = y₂ then double (affine x₁ y₁) else infinity
    else chord ((y₂ - y₁) * (x₂ - x₁).inverse) x₁ y₁ x₂

/-- The multiple of a point, by repeated doubling. -/
def multiply (n : Nat) (p : Point) : Point :=
  if _h : n = 0 then infinity
  else
    let half := multiply (n / 2) p.double
    if n % 2 = 1 then half.add p else half
termination_by n
decreasing_by exact Nat.div_lt_self (Nat.pos_of_ne_zero _h) (by decide)

end Point

/-- The base point. -/
def generator : Point :=
  .affine 0x79be667ef9dcbbac55a06295ce870b07029bfcdb2dce28d959f2815b16f81798
    0x483ada7726a3c4655da4fbfc0e1108a8fd17b448a68554199c47d08ffb10d4b8

/-- The order of the group that the base point generates. -/
def groupOrder : Nat := 0xfffffffffffffffffffffffffffffffebaaedce6af48a03bbfd25e8cd0364141

end CoinAddress.Curve
