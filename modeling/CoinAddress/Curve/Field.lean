import CoinAddress.Bytes
import CoinAddress.Radix

/-!
# The field of secp256k1

Integers modulo a prime `p` of 256 bits. Inverses come from Euclid's algorithm, which writes 1 as a
combination of `p` and the element. As `p` leaves 3 when divided by 4, a square `x` has the root
`x ^ ((p + 1) / 4)`.

Field elements and secret numbers are written as 32 bytes, the most significant first.
-/

namespace CoinAddress.Curve

/-- The order of the field. -/
def fieldOrder : Nat :=
  0xfffffffffffffffffffffffffffffffffffffffffffffffffffffffefffffc2f

instance : @NeZero Nat Zero.ofOfNat0 fieldOrder := ⟨by decide⟩

/-- The field that the coordinates of points come from. -/
abbrev Field := Fin fieldOrder

namespace Field

/-- The power of a field element, by repeated squaring. -/
def power (x : Field) (n : Nat) : Field :=
  if _h : n = 0 then 1
  else
    let half := power (x * x) (n / 2)
    if n % 2 = 1 then half * x else half
termination_by n
decreasing_by exact Nat.div_lt_self (Nat.pos_of_ne_zero _h) (by decide)

/-- The steps of Euclid's algorithm on `r` and `s`, which are the multiples of one field element by
`u` and `v`. The last remainder that is not zero is its multiple by the result. -/
def euclid (r s : Nat) (u v : Field) : Field :=
  if _h : s = 0 then u else euclid s (r % s) v (u - Fin.ofNat fieldOrder (r / s) * v)
termination_by s
decreasing_by exact Nat.mod_lt _ (Nat.pos_of_ne_zero _h)

/-- The inverse of a field element; that of zero is zero. -/
def inverse (x : Field) : Field := euclid fieldOrder x.val 0 1

/-- The square root of a square. -/
def root (x : Field) : Field := x.power ((fieldOrder + 1) / 4)

/-- Whether the representative below the order is odd. -/
def isOdd (x : Field) : Bool := x.val % 2 == 1

/-- The 32 bytes of a field element. -/
def bytes (x : Field) : Bytes := (Radix.fixedDigits 256 32 x.val).map UInt8.ofNat

/-- The field element with these bytes, if they stand for a number below the order. -/
def ofBytes? (bs : Bytes) : Option Field :=
  let n := Radix.value 256 (bs.map UInt8.toNat)
  if h : n < fieldOrder then some ⟨n, h⟩ else none

end Field

end CoinAddress.Curve
