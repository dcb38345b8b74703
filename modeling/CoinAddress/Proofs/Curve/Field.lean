import CoinAddress.Curve.Field
import CoinAddress.Proofs.Primality
import CoinAddress.Proofs.Radix
import Mathlib.NumberTheory.LegendreSymbol.Basic
import Mathlib.Tactic.NormNum.Prime

/-!
# The field of secp256k1 is a field

The order of the field is prime (`fieldOrder_prime`), so what the library knows of residues modulo a
prime holds of field elements (`Field.toZMod`).

* `Field.toZMod_inverse`: Euclid's algorithm finds the inverse.
* `Field.root_mul_self`: the root of a square is one of its two roots. They are told apart by their
  parity (`Field.isOdd_neg`).
* `Field.cube_add_seven_ne_zero`: `-7` is no cube, so no point has the second coordinate zero.
* `Field.ofBytes?_eq_some_iff`: an element and its 32 bytes determine each other.
-/

namespace CoinAddress.Curve

open Primality

/-- **The order of the field is prime.** -/
theorem fieldOrder_prime : fieldOrder.Prime := by
  have h₁ : Nat.Prime 173378833005251801 :=
    prime_of_lucas 6 [2, 2, 2, 5, 5, 2621, 24809, 13331831] (by norm_num) (by decide +kernel)
  have h₂ : Nat.Prime 22149492674086928081353 :=
    prime_of_lucas 5 ([2, 2, 2, 3, 5323] ++ [173378833005251801])
      (List.forall_mem_append.2 ⟨by norm_num, List.forall_mem_singleton.2 h₁⟩) (by decide +kernel)
  have h₃ : Nat.Prime 132896956044521568488119 :=
    prime_of_lucas 6 ([2, 3] ++ [22149492674086928081353])
      (List.forall_mem_append.2 ⟨by norm_num, List.forall_mem_singleton.2 h₂⟩) (by decide +kernel)
  have h₄ : Nat.Prime 255515944373312847190720520512484175977 :=
    prime_of_lucas 3
      [2, 2, 2, 7, 7, 11, 1627, 2657, 4423, 41201, 96557, 7240687, 107590001]
      (by norm_num) (by decide +kernel)
  have h₅ : Nat.Prime
      205115282021455665897114700593932402728804164701536103180137503955397371 :=
    prime_of_lucas 10
      ([2, 3, 5, 29, 29, 31, 7723] ++
        [132896956044521568488119, 255515944373312847190720520512484175977])
      (List.forall_mem_append.2
        ⟨by norm_num, List.forall_mem_cons.2 ⟨h₃, List.forall_mem_singleton.2 h₄⟩⟩)
      (by decide +kernel)
  exact prime_of_lucas 3
    ([2, 3, 7, 13441] ++
      [205115282021455665897114700593932402728804164701536103180137503955397371])
    (List.forall_mem_append.2 ⟨by norm_num, List.forall_mem_singleton.2 h₅⟩) (by decide +kernel)

instance : Fact fieldOrder.Prime := ⟨fieldOrder_prime⟩

namespace Field

/-! ## Elements as residues -/

/-- A field element as a residue. -/
def toZMod (x : Field) : ZMod fieldOrder := (x.val : ZMod fieldOrder)

theorem toZMod_injective : Function.Injective toZMod := by
  intro x y h
  rw [toZMod, toZMod, ZMod.natCast_eq_natCast_iff', Nat.mod_eq_of_lt x.isLt,
    Nat.mod_eq_of_lt y.isLt] at h
  exact Fin.ext h

theorem toZMod_zero : toZMod 0 = 0 := Nat.cast_zero

theorem toZMod_one : toZMod 1 = 1 := Nat.cast_one

theorem toZMod_ne_zero {x : Field} (h : x ≠ 0) : x.toZMod ≠ 0 := fun hx =>
  h (toZMod_injective (hx.trans toZMod_zero.symm))

theorem toZMod_add (x y : Field) : (x + y).toZMod = x.toZMod + y.toZMod := by
  rw [toZMod, Fin.val_add, ZMod.natCast_mod, Nat.cast_add, toZMod, toZMod]

theorem toZMod_mul (x y : Field) : (x * y).toZMod = x.toZMod * y.toZMod := by
  rw [toZMod, Fin.val_mul, ZMod.natCast_mod, Nat.cast_mul, toZMod, toZMod]

theorem toZMod_neg (x : Field) : (-x).toZMod = -x.toZMod := by
  rw [eq_neg_iff_add_eq_zero, ← toZMod_add, neg_add_cancel, toZMod_zero]

theorem toZMod_sub (x y : Field) : (x - y).toZMod = x.toZMod - y.toZMod := by
  rw [sub_eq_add_neg, toZMod_add, toZMod_neg, ← sub_eq_add_neg]

theorem toZMod_ofNat (n : Nat) : toZMod (Fin.ofNat fieldOrder n) = n := by
  rw [toZMod, Fin.val_ofNat, ZMod.natCast_mod]

theorem toZMod_literal (n : Nat) [n.AtLeastTwo] : toZMod ofNat(n) = ofNat(n) := toZMod_ofNat n

theorem toZMod_power (x : Field) (n : Nat) : (x.power n).toZMod = x.toZMod ^ n := by
  fun_induction power x n with
  | case1 x => rw [toZMod_one, pow_zero]
  | case2 x n _ half hodd ih =>
    rw [toZMod_mul, ← pow_two x.toZMod, ← pow_mul] at ih
    have hhalf : half.toZMod = x.toZMod ^ (2 * (n / 2)) := ih
    rw [toZMod_mul, hhalf, ← pow_succ, ← hodd, Nat.div_add_mod]
  | case3 x n _ half heven ih =>
    rw [toZMod_mul, ← pow_two x.toZMod, ← pow_mul, Nat.mul_div_cancel' (by omega)] at ih
    exact ih

/-! ## Inverses -/

/-- Each step of Euclid's algorithm makes the next remainder from the same multiples. So what is left
is the greatest common divisor. -/
theorem euclid_mul {r s : Nat} {u v : Field} {x : ZMod fieldOrder} (hr : u.toZMod * x = r)
    (hs : v.toZMod * x = s) : (euclid r s u v).toZMod * x = (Nat.gcd r s : Nat) := by
  fun_induction euclid r s u v with
  | case1 r u v => rw [hr, Nat.gcd_zero_right]
  | case2 r s u v hne ih =>
    have hdiv : (r : ZMod fieldOrder) = s * (r / s : Nat) + (r % s : Nat) := by
      rw [← Nat.cast_mul, ← Nat.cast_add, Nat.div_add_mod]
    have hremainder : (u - Fin.ofNat fieldOrder (r / s) * v).toZMod * x = (r % s : Nat) := by
      rw [toZMod_sub, toZMod_mul, toZMod_ofNat, sub_mul, mul_assoc, hr, hs, hdiv]
      ring
    rw [ih hs hremainder, Nat.gcd_comm s, ← Nat.gcd_rec, Nat.gcd_comm]

/-- **Euclid's algorithm gives the inverse modulo the prime**, and zero for zero. -/
theorem toZMod_inverse (x : Field) : x.inverse.toZMod = x.toZMod⁻¹ := by
  by_cases hx : x = 0
  · have hzero : inverse 0 = 0 := by decide +kernel
    rw [hx, hzero, toZMod_zero, inv_zero]
  · have hpos : 0 < x.val := Nat.pos_of_ne_zero fun h => hx (Fin.ext h)
    have hgcd : Nat.gcd fieldOrder x.val = 1 :=
      fieldOrder_prime.coprime_iff_not_dvd.2 fun h => Nat.not_le.2 x.isLt (Nat.le_of_dvd hpos h)
    have hstart : toZMod 0 * x.toZMod = (fieldOrder : Nat) := by
      rw [toZMod_zero, zero_mul, ZMod.natCast_self]
    have hmul := euclid_mul hstart (show toZMod 1 * x.toZMod = (x.val : Nat) by
      rw [toZMod_one, one_mul, toZMod])
    rw [hgcd, Nat.cast_one] at hmul
    exact eq_inv_of_mul_eq_one_left hmul

/-! ## Roots -/

/-- **The root of a square is one of its two roots.** -/
theorem root_mul_self (y : Field) : (y * y).root = y ∨ (y * y).root = -y := by
  have hexponent : 2 * ((fieldOrder + 1) / 4) = fieldOrder / 2 + 1 := by decide
  have hroot : (y * y).root.toZMod = y.toZMod ^ (fieldOrder / 2) * y.toZMod := by
    rw [root, toZMod_power, toZMod_mul, ← pow_two, ← pow_mul, hexponent, pow_succ]
  by_cases hy : y.toZMod = 0
  · left
    apply toZMod_injective
    rw [hroot, hy, mul_zero]
  · rcases ZMod.pow_div_two_eq_neg_one_or_one fieldOrder hy with hone | hneg
    · left
      apply toZMod_injective
      rw [hroot, hone, one_mul]
    · right
      apply toZMod_injective
      rw [hroot, hneg, neg_one_mul, toZMod_neg]

/-- The two roots of a square other than zero differ in parity, as the order of the field is odd. -/
theorem isOdd_neg {y : Field} (hy : y ≠ 0) : (-y).isOdd = !y.isOdd := by
  have hval : (-y).val = fieldOrder - y.val := by rw [Fin.val_neg, if_neg hy]
  have hlt := y.isLt
  have hodd : fieldOrder % 2 = 1 := by decide
  rw [isOdd, isOdd, hval, Bool.eq_not, Ne, Bool.eq_iff_iff, beq_iff_eq, beq_iff_eq]
  omega

/-- **`-7` is no cube**: its power by a third of `fieldOrder - 1` is not one. -/
theorem cube_add_seven_ne_zero (x : Field) : x * x * x + 7 ≠ 0 := by
  intro h
  have hcube : x.toZMod ^ 3 = toZMod (-7) := by
    rw [toZMod_neg, eq_neg_iff_add_eq_zero, ← toZMod_zero, ← h, toZMod_add, toZMod_mul, toZMod_mul,
      pow_three']
  have hx : x.toZMod ≠ 0 := by
    intro hx
    rw [hx, zero_pow (by decide), ← toZMod_zero] at hcube
    exact absurd (toZMod_injective hcube) (by decide)
  have hexponent : 3 * ((fieldOrder - 1) / 3) = fieldOrder - 1 := by decide
  have hpower : (power (-7) ((fieldOrder - 1) / 3)).toZMod = toZMod 1 := by
    rw [toZMod_power, ← hcube, ← pow_mul, hexponent, ZMod.pow_card_sub_one_eq_one hx, toZMod_one]
  exact absurd (toZMod_injective hpower) (by decide +kernel)

/-! ## Bytes -/

@[simp] theorem length_bytes (x : Field) : x.bytes.length = 32 := by
  rw [bytes, List.length_map, Radix.length_fixedDigits]

theorem map_toNat_bytes (x : Field) :
    x.bytes.map UInt8.toNat = Radix.fixedDigits 256 32 x.val := by
  rw [bytes, List.map_map]
  refine (List.map_congr_left fun d hd => ?_).trans (List.map_id _)
  exact UInt8.toNat_ofNat_of_lt' (Radix.lt_of_mem_fixedDigits (by decide) hd)

/-- **A field element and its 32 bytes determine each other.** -/
theorem ofBytes?_eq_some_iff {bs : Bytes} (hlen : bs.length = 32) {x : Field} :
    ofBytes? bs = some x ↔ bs = x.bytes := by
  have hbytes : (bs.map UInt8.toNat).length = 32 := by rw [List.length_map, hlen]
  constructor
  · intro h
    simp only [ofBytes?] at h
    split at h
    · obtain rfl := Option.some.inj h
      have hlt : ∀ d ∈ bs.map UInt8.toNat, d < 256 :=
        List.forall_mem_map.2 fun b _ => b.toNat_lt
      rw [bytes, ← hbytes, Radix.fixedDigits_value hlt, List.map_map]
      exact ((List.map_congr_left fun b _ => UInt8.ofNat_toNat).trans (List.map_id _)).symm
    · cases h
  · intro h
    have hvalue : Radix.value 256 (bs.map UInt8.toNat) = x.val := by
      rw [h, map_toNat_bytes, Radix.value_fixedDigits,
        Nat.mod_eq_of_lt (Nat.lt_trans x.isLt (by decide))]
    simp only [ofBytes?, hvalue, x.isLt, dif_pos]

/-- The last byte has the parity of the element. -/
theorem isOdd_eq_getLastD (x : Field) : x.isOdd = ((x.bytes.getLastD 0).toNat % 2 == 1) := by
  have hlast : (x.bytes.getLastD 0).toNat = x.val % 256 := by
    rw [bytes, Radix.fixedDigits, List.map_append, List.map_singleton, List.getLastD_concat]
    exact UInt8.toNat_ofNat_of_lt' (Nat.mod_lt _ (by decide))
  rw [isOdd, hlast, Nat.mod_mod_of_dvd _ (by decide)]

end Field

end CoinAddress.Curve
