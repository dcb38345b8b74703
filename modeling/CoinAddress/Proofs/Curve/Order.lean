import CoinAddress.Curve.Encoding
import CoinAddress.Proofs.Curve.Scaled
import Mathlib.GroupTheory.OrderOfElement

/-!
# The order of the base point

The multiple of the base point by `groupOrder` is the point at infinity, and as `groupOrder` is
prime (`groupOrder_prime`), no smaller multiple is (`multiply_generator_eq_infinity_iff`). So the secret
numbers that have a public key are all those between zero and the order
(`PublicPoint.exists_ofSecret?_iff`).
-/

namespace CoinAddress.Curve

open Primality

/-- **The order of the group is prime.** -/
theorem groupOrder_prime : groupOrder.Prime := by
  have h₁ : Nat.Prime 107361793816595537 :=
    prime_of_lucas 3 [2, 2, 2, 2, 16699, 85831, 4681609] (by norm_num) (by decide +kernel)
  have h₂ : Nat.Prime 174723607534414371449 :=
    prime_of_lucas 3 [2, 2, 2, 17, 59, 4051, 120233, 44706919] (by norm_num) (by decide +kernel)
  have h₃ : Nat.Prime 545358713 :=
    prime_of_lucas 5 [2, 2, 2, 41, 59, 28181] (by norm_num) (by decide +kernel)
  have h₄ : Nat.Prime 297159362677 :=
    prime_of_lucas 2 [2, 2, 3, 3, 11, 461, 1627771] (by norm_num) (by decide +kernel)
  have h₅ : Nat.Prime 29047611873442575647497758179 :=
    prime_of_lucas 2 ([2, 293, 305873] ++ [545358713, 297159362677])
      (List.forall_mem_append.2
        ⟨by norm_num, List.forall_mem_cons.2 ⟨h₃, List.forall_mem_singleton.2 h₄⟩⟩)
      (by decide +kernel)
  have h₆ : Nat.Prime 341948486974166000522343609283189 :=
    prime_of_lucas 2 ([2, 2, 3, 3, 3, 109] ++ [29047611873442575647497758179])
      (List.forall_mem_append.2 ⟨by norm_num, List.forall_mem_singleton.2 h₅⟩) (by decide +kernel)
  exact prime_of_lucas 7
    ([2, 2, 2, 2, 2, 2, 3, 149, 631] ++
      [107361793816595537, 174723607534414371449, 341948486974166000522343609283189])
    (List.forall_mem_append.2 ⟨by norm_num, List.forall_mem_cons.2
      ⟨h₁, List.forall_mem_cons.2 ⟨h₂, List.forall_mem_singleton.2 h₆⟩⟩⟩)
    (by decide +kernel)

instance : Fact groupOrder.Prime := ⟨groupOrder_prime⟩

/-! ## Multiples of the base point -/

theorem exists_represents_generator : ∃ G, Represents generator G :=
  ⟨_, .affine (Represents.nonsingular_toZMod_iff.2 (by decide +kernel))⟩

theorem Represents.eq_infinity_iff {p : Point} {P : curve.Point} (h : Represents p P) :
    p = .infinity ↔ P = 0 := by
  cases h with
  | infinity => exact iff_of_true rfl rfl
  | affine h => exact iff_of_false nofun (WeierstrassCurve.Affine.Point.some_ne_zero h)

/-- **The base point has the order of the group.** -/
theorem addOrderOf_generator {G : curve.Point} (h : Represents generator G) :
    addOrderOf G = groupOrder := by
  refine addOrderOf_eq_prime ?_ (mt h.eq_infinity_iff.2 nofun)
  -- The multiple before the last is the reflection of the base point.
  have hopposite : (Scaled.multiple generator (groupOrder - 1)).IsOpposite generator := by
    decide +kernel
  have hneg := (Scaled.standsFor_multiple h (by decide : 0 < groupOrder - 1)).eq_neg h hopposite
  have hsucc : groupOrder = groupOrder - 1 + 1 := by decide
  rw [hsucc, succ_nsmul, hneg, neg_add_cancel]

/-- **The multiples at infinity are those by multiples of the order.** -/
theorem multiply_generator_eq_infinity_iff {n : Nat} :
    generator.multiply n = .infinity ↔ groupOrder ∣ n := by
  obtain ⟨G, hG⟩ := exists_represents_generator
  rw [(hG.multiply n).eq_infinity_iff, ← addOrderOf_generator hG, addOrderOf_dvd_iff_nsmul_eq_zero]

/-! ## Keys of secret numbers -/

/-- **A secret number has a public key if and only if it lies between zero and the order.** -/
theorem PublicPoint.exists_ofSecret?_iff {secret : Bytes} :
    (∃ p, ofSecret? secret = some p) ↔ 0 < Radix.value 256 (secret.map UInt8.toNat) ∧
      Radix.value 256 (secret.map UInt8.toNat) < groupOrder := by
  rw [ofSecret?]
  split
  · next hrange =>
    refine iff_of_true ?_ hrange
    obtain ⟨G, hG⟩ := exists_represents_generator
    have hmultiple := hG.multiply (Radix.value 256 (secret.map UInt8.toNat))
    cases heq : generator.multiply (Radix.value 256 (secret.map UInt8.toNat)) with
    | infinity =>
      have hdvd := multiply_generator_eq_infinity_iff.1 heq
      exact absurd hrange.2 (Nat.not_lt.2 (Nat.le_of_dvd hrange.1 hdvd))
    | affine x y =>
      rw [heq] at hmultiple
      exact ⟨_, dif_pos hmultiple.onCurve⟩
  · next hrange => exact iff_of_false (fun ⟨_, h⟩ => nomatch h) hrange

end CoinAddress.Curve
