import CoinAddress.Curve.Point
import CoinAddress.Proofs.Curve.Field
import Mathlib.AlgebraicGeometry.EllipticCurve.Affine.Point

/-!
# The points of secp256k1 are a group

The library knows that the points of an elliptic curve are a commutative group. `Represents` relates
points by their coordinates to points of that group over the residues, and the addition of points is
the addition of the group (`Represents.add`). So what `Point.multiply` computes by doubling is the
multiple in the group (`Represents.multiply`).

The sum of two points is given by the slope of a line through them, for which only an equation is
asked (`exists_add_of_slope`, `exists_double_of_slope`): no division takes part.
-/

namespace CoinAddress.Curve

open WeierstrassCurve.Affine

/-- The curve over the residues modulo the order of the field. -/
def curve : WeierstrassCurve.Affine (ZMod fieldOrder) := ⟨0, 0, 0, 0, 7⟩

/-! ## The group -/

theorem natCast_ne_zero {n : Nat} (hpos : 0 < n) (hlt : n < fieldOrder) :
    (n : ZMod fieldOrder) ≠ 0 := by
  rw [Ne, ZMod.natCast_eq_zero_iff]
  exact Nat.not_dvd_of_pos_of_lt hpos hlt

theorem residue_two_ne_zero : (2 : ZMod fieldOrder) ≠ 0 :=
  natCast_ne_zero (n := 2) (by decide) (by decide)

namespace Group

variable {a b a' b' ℓ : ZMod fieldOrder}

theorem equation_iff : curve.Equation a b ↔ b * b = a * a * a + 7 := by
  rw [WeierstrassCurve.Affine.equation_iff]
  simp only [curve]
  ring_nf

theorem negY_eq : curve.negY a b = -b := by
  simp [negY, curve]

/-- The curve has no singular point, as its discriminant is not zero. -/
theorem nonsingular_iff : curve.Nonsingular a b ↔ b * b = a * a * a + 7 := by
  have hdiscriminant : curve.Δ ≠ 0 := by
    have hΔ : curve.Δ = -(21168 : Nat) := by
      simp [WeierstrassCurve.Δ, WeierstrassCurve.b₂, WeierstrassCurve.b₄, WeierstrassCurve.b₆,
        WeierstrassCurve.b₈, curve]
      norm_num
    rw [hΔ, neg_ne_zero]
    exact natCast_ne_zero (by decide) (by decide)
  rw [← equation_iff_nonsingular_of_Δ_ne_zero hdiscriminant, equation_iff]

/-- A point of the group whose coordinates are written in another way. -/
theorem exists_some_eq (h : curve.Nonsingular a b) (ha : a = a') (hb : b = b') :
    ∃ h', Point.some a b h = .some a' b' h' := by
  subst ha hb
  exact ⟨h, rfl⟩

/-- The third point on a line with a given slope, reflected. -/
theorem exists_some_of_slope
    (h : curve.Nonsingular (curve.addX a a' ℓ) (curve.addY a a' b ℓ)) : ∃ hsum,
      Point.some _ _ h = .some (ℓ * ℓ - a - a') (ℓ * (a - (ℓ * ℓ - a - a')) - b) hsum := by
  apply exists_some_eq
  · simp only [addX, curve]
    ring
  · simp only [addY, negAddY, addX, negY, curve]
    ring

/-- The sum of points with different first coordinates. -/
theorem exists_add_of_slope (h : curve.Nonsingular a b) (h' : curve.Nonsingular a' b')
    (hne : a ≠ a') (hℓ : ℓ * (a' - a) = b' - b) : ∃ hsum,
      Point.some a b h + Point.some a' b' h' =
        .some (ℓ * ℓ - a - a') (ℓ * (a - (ℓ * ℓ - a - a')) - b) hsum := by
  obtain rfl : curve.slope a a' b b' = ℓ := by
    rw [slope_of_X_ne hne, div_eq_iff (sub_ne_zero.2 hne)]
    linear_combination hℓ
  rw [Point.add_of_X_ne hne]
  exact exists_some_of_slope _

theorem ne_negY (hb : b ≠ 0) : b ≠ curve.negY a b := by
  rw [negY_eq, Ne, eq_neg_iff_add_eq_zero, ← two_mul]
  exact mul_ne_zero residue_two_ne_zero hb

/-- The sum of a point and itself. -/
theorem exists_double_of_slope (h : curve.Nonsingular a b) (hb : b ≠ 0)
    (hℓ : ℓ * (2 * b) = 3 * a * a) : ∃ hsum,
      Point.some a b h + Point.some a b h =
        .some (ℓ * ℓ - a - a) (ℓ * (a - (ℓ * ℓ - a - a)) - b) hsum := by
  obtain rfl : curve.slope a a b b = ℓ := by
    rw [slope_of_Y_ne rfl (ne_negY hb), negY_eq, sub_neg_eq_add, ← two_mul,
      div_eq_iff (mul_ne_zero residue_two_ne_zero hb), hℓ]
    simp only [curve]
    ring
  rw [Point.add_self_of_Y_ne (ne_negY hb)]
  exact exists_some_of_slope _

end Group

/-! ## Points by their coordinates -/

/-- A point, given by its coordinates in the field, as a point of the group. -/
inductive Represents : Curve.Point → curve.Point → Prop
  | infinity : Represents .infinity 0
  | affine {x y : Field} (h : curve.Nonsingular x.toZMod y.toZMod) :
      Represents (.affine x y) (.some _ _ h)

namespace Represents

variable {p q : Curve.Point} {P Q : curve.Point} {x y : Field}

theorem affine_of_eq {a b : ZMod fieldOrder} (ha : x.toZMod = a) (hb : y.toZMod = b)
    (h : curve.Nonsingular a b) : Represents (.affine x y) (.some a b h) := by
  subst ha hb
  exact .affine h

theorem nonsingular_toZMod_iff : curve.Nonsingular x.toZMod y.toZMod ↔ OnCurve x y := by
  rw [Group.nonsingular_iff, ← Field.toZMod_literal, ← Field.toZMod_mul, ← Field.toZMod_mul, ← Field.toZMod_mul,
    ← Field.toZMod_add, Field.toZMod_injective.eq_iff, OnCurve]

theorem onCurve (h : Represents (.affine x y) P) : OnCurve x y := by
  cases h with
  | affine h => exact nonsingular_toZMod_iff.1 h

/-- The reflected third point of a chord represents a sum that is given by the slope. -/
theorem chord {slope x' : Field} (h : ∃ hsum,
    P = .some (slope.toZMod * slope.toZMod - x.toZMod - x'.toZMod)
      (slope.toZMod * (x.toZMod - (slope.toZMod * slope.toZMod - x.toZMod - x'.toZMod)) -
        y.toZMod) hsum) : Represents (Point.chord slope x y x') P := by
  obtain ⟨hsum, rfl⟩ := h
  apply affine_of_eq <;> simp only [Field.toZMod_sub, Field.toZMod_mul]

theorem double (h : Represents p P) : Represents p.double (P + P) := by
  cases h with
  | infinity =>
    rw [add_zero]
    exact .infinity
  | @affine x y h =>
    rw [Point.double]
    split
    · next hy =>
      have hvertical : y.toZMod = curve.negY x.toZMod y.toZMod := by
        rw [Group.negY_eq, hy, Field.toZMod_zero, neg_zero]
      rw [WeierstrassCurve.Affine.Point.add_self_of_Y_eq hvertical]
      exact .infinity
    · next hy =>
      have hne := mul_ne_zero residue_two_ne_zero (Field.toZMod_ne_zero hy)
      refine chord (Group.exists_double_of_slope h (Field.toZMod_ne_zero hy) ?_)
      simp only [Field.toZMod_mul, Field.toZMod_inverse, Field.toZMod_literal]
      rw [mul_assoc, inv_mul_cancel₀ hne, mul_one]

/-- **The addition of points is that of the group.** -/
theorem add (hp : Represents p P) (hq : Represents q Q) : Represents (p.add q) (P + Q) := by
  cases hp with
  | infinity =>
    rw [zero_add]
    exact hq
  | @affine x y h =>
    cases hq with
    | infinity =>
      rw [add_zero]
      exact .affine h
    | @affine x' y' h' =>
      rw [Point.add]
      split
      · next hx =>
        subst hx
        split
        · next hy =>
          subst hy
          exact (Represents.affine h).double
        · next hy =>
          have hopposite : y.toZMod = curve.negY x.toZMod y'.toZMod :=
            (Y_eq_of_X_eq h.1 h'.1 rfl).resolve_left fun heq => hy (Field.toZMod_injective heq)
          rw [WeierstrassCurve.Affine.Point.add_of_Y_eq rfl hopposite]
          exact .infinity
      · next hx =>
        have hne : x.toZMod ≠ x'.toZMod := fun heq => hx (Field.toZMod_injective heq)
        refine chord (Group.exists_add_of_slope h h' hne ?_)
        simp only [Field.toZMod_mul, Field.toZMod_inverse, Field.toZMod_sub]
        rw [mul_assoc, inv_mul_cancel₀ (sub_ne_zero.2 hne.symm), mul_one]

/-- **Repeated doubling computes the multiple in the group.** -/
theorem multiply (h : Represents p P) (n : Nat) : Represents (p.multiply n) (n • P) := by
  induction n, p using Point.multiply.induct generalizing P with
  | case1 p =>
    rw [Point.multiply, dif_pos rfl, zero_nsmul]
    exact .infinity
  | case2 n p hne hodd ih =>
    have hn : n • P = (n / 2) • (P + P) + P := by
      rw [← two_nsmul, ← mul_nsmul, ← succ_nsmul, ← hodd, Nat.div_add_mod]
    rw [Point.multiply, dif_neg hne, if_pos hodd, hn]
    exact (ih h.double).add h
  | case3 n p hne heven ih =>
    have hn : n • P = (n / 2) • (P + P) := by
      rw [← two_nsmul, ← mul_nsmul, Nat.mul_div_cancel' (by omega)]
    rw [Point.multiply, dif_neg hne, if_neg heven, hn]
    exact ih h.double

end Represents

end CoinAddress.Curve
