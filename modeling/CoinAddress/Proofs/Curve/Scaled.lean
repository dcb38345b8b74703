import CoinAddress.Proofs.Curve.Group

/-!
# Multiples of a point without division

A triple `(x, y, z)` with `z ≠ 0` stands for the point `(x / z², y / z³)`. The formulas for such
triples take no inverse, and only the last triple of a chain has to be looked at: where a formula
does not hold, as for the sum of a point and itself, it gives `z = 0`, and so does every later one
(`Scaled.StandsFor`). With them a multiple by a number of 256 digits is quick to evaluate.
-/

namespace CoinAddress.Curve

/-- The point `(x / z², y / z³)`. -/
structure Scaled where
  x : Field
  y : Field
  z : Field

namespace Scaled

/-! ## Formulas -/

/-- A point by its coordinates. -/
def ofPoint : Point → Scaled
  | .infinity => ⟨1, 1, 0⟩
  | .affine x y => ⟨x, y, 1⟩

/-- A point added to itself. -/
def double (t : Scaled) : Scaled :=
  let m := 3 * t.x * t.x
  let s := 4 * t.x * t.y * t.y
  let x := m * m - 2 * s
  ⟨x, m * (s - x) - 8 * (t.y * t.y * (t.y * t.y)), 2 * t.y * t.z⟩

/-- The sum with a point by its coordinates. -/
def addPoint (t : Scaled) : Point → Scaled
  | .infinity => t
  | .affine x y =>
    let h := x * (t.z * t.z) - t.x
    let r := y * (t.z * t.z * t.z) - t.y
    let v := t.x * (h * h)
    let x' := r * r - h * h * h - 2 * v
    ⟨x', r * (v - x') - t.y * (h * h * h), t.z * h⟩

/-- The multiple of a point by a number other than zero, by repeated doubling. -/
def multiple (p : Point) (n : Nat) : Scaled :=
  if _h : n ≤ 1 then ofPoint p
  else
    let half := (multiple p (n / 2)).double
    if n % 2 = 1 then half.addPoint p else half
termination_by n
decreasing_by exact Nat.div_lt_self (by omega) (by decide)

/-- Whether a triple is the reflection of a point. -/
def IsOpposite (t : Scaled) : Point → Prop
  | .infinity => False
  | .affine x y => t.z ≠ 0 ∧ t.x = x * (t.z * t.z) ∧ t.y = -(y * (t.z * t.z * t.z))

instance (t : Scaled) (p : Point) : Decidable (t.IsOpposite p) :=
  match p with
  | .infinity => inferInstanceAs (Decidable False)
  | .affine _ _ => inferInstanceAs (Decidable (_ ∧ _))

/-! ## The points of triples -/

/-- A triple stands for a point of the group, unless its last entry is zero. -/
def StandsFor (t : Scaled) (P : curve.Point) : Prop :=
  t.z ≠ 0 → ∃ a b h, P = .some a b h ∧ t.x.toZMod = a * t.z.toZMod ^ 2 ∧
    t.y.toZMod = b * t.z.toZMod ^ 3

variable {t : Scaled} {p : Point} {P Q : curve.Point}

theorem standsFor_ofPoint (h : Represents p P) : (ofPoint p).StandsFor P := by
  intro hz
  cases h with
  | infinity => exact absurd rfl hz
  | @affine x y h =>
    refine ⟨_, _, h, rfl, ?_, ?_⟩
    · show x.toZMod = x.toZMod * Field.toZMod 1 ^ 2
      rw [Field.toZMod_one, one_pow, mul_one]
    · show y.toZMod = y.toZMod * Field.toZMod 1 ^ 3
      rw [Field.toZMod_one, one_pow, mul_one]

theorem z_ne_zero (h : t.z.toZMod ≠ 0) : t.z ≠ 0 := fun hz =>
  h (by rw [hz, Field.toZMod_zero])

theorem StandsFor.double (h : t.StandsFor P) : t.double.StandsFor (P + P) := by
  intro hz
  have hproduct : t.y.toZMod * t.z.toZMod ≠ 0 := by
    have hdouble : (2 * t.y * t.z).toZMod ≠ 0 := Field.toZMod_ne_zero hz
    rw [Field.toZMod_mul, Field.toZMod_mul, mul_assoc] at hdouble
    exact right_ne_zero_of_mul hdouble
  obtain ⟨a, b, hab, rfl, hx, hy⟩ := h (z_ne_zero (right_ne_zero_of_mul hproduct))
  have hb : b ≠ 0 := by
    rintro rfl
    rw [zero_mul] at hy
    exact left_ne_zero_of_mul hproduct hy
  obtain ⟨ℓ, hℓ⟩ : ∃ ℓ, ℓ * (2 * b) = 3 * a * a :=
    ⟨_, div_mul_cancel₀ (3 * a * a) (mul_ne_zero residue_two_ne_zero hb)⟩
  obtain ⟨hsum, heq⟩ := Group.exists_double_of_slope hab hb hℓ
  generalize hzz : t.z.toZMod = z at *
  -- The tangent has the slope of the formula, times a power of `z`.
  have hm : 3 * (a * z ^ 2) * (a * z ^ 2) = ℓ * (2 * b) * z ^ 4 := by
    rw [hℓ]
    ring
  refine ⟨_, _, hsum, heq, ?_, ?_⟩ <;>
    simp only [Scaled.double, Field.toZMod_sub, Field.toZMod_mul, Field.toZMod_literal, hx, hy, hzz,
      hm] <;>
    ring

theorem StandsFor.addPoint (h : t.StandsFor P) (hp : Represents p Q) :
    (t.addPoint p).StandsFor (P + Q) := by
  cases hp with
  | infinity =>
    rw [add_zero]
    exact h
  | @affine x y hxy =>
    intro hz
    have hproduct : (t.z * (x * (t.z * t.z) - t.x)).toZMod ≠ 0 := Field.toZMod_ne_zero hz
    simp only [Field.toZMod_mul, Field.toZMod_sub] at hproduct
    obtain ⟨a, b, hab, rfl, hx, hy⟩ := h (z_ne_zero (left_ne_zero_of_mul hproduct))
    have hne : a ≠ x.toZMod := by
      rintro rfl
      exact right_ne_zero_of_mul hproduct (by rw [hx]; ring)
    obtain ⟨ℓ, hℓ⟩ : ∃ ℓ, ℓ * (x.toZMod - a) = y.toZMod - b :=
      ⟨_, div_mul_cancel₀ (y.toZMod - b) (sub_ne_zero.2 hne.symm)⟩
    obtain ⟨hsum, heq⟩ := Group.exists_add_of_slope hab hxy hne hℓ
    generalize hzz : t.z.toZMod = z at *
    -- The chord has the slope of the formula, times a power of `z`.
    have hr : y.toZMod * (z * z * z) - b * z ^ 3 = ℓ * (x.toZMod - a) * z ^ 3 := by
      rw [hℓ]
      ring
    refine ⟨_, _, hsum, heq, ?_, ?_⟩ <;>
      simp only [Scaled.addPoint, Field.toZMod_sub, Field.toZMod_mul, Field.toZMod_literal, hx, hy,
        hzz, hr] <;>
      ring

/-- **A multiple stands for the multiple in the group.** -/
theorem standsFor_multiple (h : Represents p P) {n : Nat} (hn : 0 < n) :
    (multiple p n).StandsFor (n • P) := by
  induction n using Nat.strong_induction_on with
  | _ n ih =>
    rw [multiple]
    split
    · next hle =>
      obtain rfl : n = 1 := by omega
      rw [one_nsmul]
      exact standsFor_ofPoint h
    · next hle =>
      have hhalf := (ih (n / 2) (by omega) (by omega)).double
      rw [← two_nsmul, ← mul_nsmul'] at hhalf
      dsimp only
      split
      · next hodd =>
        have hsum := hhalf.addPoint h
        rwa [← succ_nsmul, show 2 * (n / 2) + 1 = n by omega] at hsum
      · next heven => rwa [show 2 * (n / 2) = n by omega] at hhalf

theorem StandsFor.eq_neg (h : t.StandsFor P) (hp : Represents p Q) (hopposite : t.IsOpposite p) :
    P = -Q := by
  cases hp with
  | infinity => exact hopposite.elim
  | @affine x y hxy =>
    obtain ⟨hz, htx, hty⟩ := hopposite
    obtain ⟨a, b, hab, rfl, hx, hy⟩ := h hz
    have hzz := Field.toZMod_ne_zero hz
    have ha : a = x.toZMod := by
      apply mul_right_cancel₀ (pow_ne_zero 2 hzz)
      rw [← hx, htx, Field.toZMod_mul, Field.toZMod_mul, pow_two]
    have hb : b = -y.toZMod := by
      apply mul_right_cancel₀ (pow_ne_zero 3 hzz)
      rw [← hy, hty, Field.toZMod_neg, Field.toZMod_mul, Field.toZMod_mul, Field.toZMod_mul]
      ring
    rw [WeierstrassCurve.Affine.Point.neg_some]
    simp only [WeierstrassCurve.Affine.Point.some.injEq]
    exact ⟨ha, hb.trans Group.negY_eq.symm⟩

end Scaled

end CoinAddress.Curve
