import CoinAddress.Curve.Point

/-!
# Public keys as bytes

A public key is a point of the curve other than the point at infinity. It is written with both
coordinates behind the byte 4, or with the first alone behind the byte 2 or 3, which tells whether
the second is odd.

* `PublicPoint.compressed` and `PublicPoint.uncompressed` write a key, `PublicPoint.ofBytes?` reads
  either form.
* `PublicPoint.ofSecret?` is the key of a secret number.
-/

namespace CoinAddress.Curve

/-- A point of the curve that is not at infinity. -/
structure PublicPoint where
  x : Field
  y : Field
  onCurve : OnCurve x y
deriving DecidableEq

namespace PublicPoint

/-- Two coordinates as a point, if they satisfy the equation. -/
def ofCoordinates? (x y : Field) : Option PublicPoint :=
  if h : OnCurve x y then some ⟨x, y, h⟩ else none

/-- The point with a first coordinate whose second coordinate is odd or even. -/
def lift? (odd : Bool) (x : Field) : Option PublicPoint :=
  let y := (x * x * x + 7).root
  ofCoordinates? x (if y.isOdd = odd then y else -y)

/-- The 33 bytes of a point. -/
def compressed (p : PublicPoint) : Bytes := (if p.y.isOdd then 3 else 2) :: p.x.bytes

/-- The 65 bytes of a point. -/
def uncompressed (p : PublicPoint) : Bytes := 4 :: (p.x.bytes ++ p.y.bytes)

/-- The point that is written as these bytes. -/
def ofBytes? (bs : Bytes) : Option PublicPoint :=
  match bs with
  | [] => none
  | lead :: rest =>
    if (lead = 2 ∨ lead = 3) ∧ rest.length = 32 then do
      lift? (lead == 3) (← Field.ofBytes? rest)
    else if lead = 4 ∧ rest.length = 64 then do
      let x ← Field.ofBytes? (rest.take 32)
      let y ← Field.ofBytes? (rest.drop 32)
      ofCoordinates? x y
    else none

/-- The point of a secret number, which has to lie between zero and the order of the group. -/
def ofSecret? (secret : Bytes) : Option PublicPoint :=
  let n := Radix.value 256 (secret.map UInt8.toNat)
  if 0 < n ∧ n < groupOrder then
    match generator.multiply n with
    | .infinity => none
    | .affine x y => ofCoordinates? x y
  else none

end PublicPoint

end CoinAddress.Curve
