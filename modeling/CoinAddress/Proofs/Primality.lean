import Mathlib.Data.List.Prime
import Mathlib.NumberTheory.LucasPrimality

/-!
# Primes of many digits

Lucas's test shows a number `p` to be prime by a base whose powers modulo `p` return to one at the
exponent `p - 1` and not before. It asks for the prime factors of `p - 1`, which are shown to be prime
in the same way, down to factors that can be told by trial division.

* `powerMod` is a power modulo `p`, short enough to be evaluated.
* `prime_of_lucas` is the test.
-/

namespace CoinAddress.Primality

/-- The power `a ^ n` modulo `m`, by repeated squaring. -/
def powerMod (m a n : Nat) : Nat :=
  if _h : n = 0 then 1 % m
  else
    let half := powerMod m (a * a % m) (n / 2)
    if n % 2 = 1 then half * a % m else half
termination_by n
decreasing_by exact Nat.div_lt_self (Nat.pos_of_ne_zero _h) (by decide)

theorem powerMod_eq (m a n : Nat) : powerMod m a n = a ^ n % m := by
  fun_induction powerMod m a n with
  | case1 a => rw [Nat.pow_zero]
  | case2 a n _ half hodd ih =>
    have hhalf : half = (a * a) ^ (n / 2) % m := ih.trans (Nat.pow_mod ..).symm
    have hn : a ^ n = (a * a) ^ (n / 2) * a := by
      rw [← pow_two, ← pow_mul, ← pow_succ, ← hodd, Nat.div_add_mod]
    rw [hhalf, hn, Nat.mod_mul_mod]
  | case3 a n _ half heven ih =>
    have hn : a ^ n = (a * a) ^ (n / 2) := by
      rw [← pow_two, ← pow_mul, Nat.mul_div_cancel' (by omega)]
    rw [hn]
    exact ih.trans (Nat.pow_mod ..).symm

theorem natCast_pow_eq_one_iff {p : Nat} (hp : 2 ≤ p) (a n : Nat) :
    (a : ZMod p) ^ n = 1 ↔ powerMod p a n = 1 := by
  rw [powerMod_eq, ← Nat.cast_pow, ← Nat.cast_one, ZMod.natCast_eq_natCast_iff',
    Nat.mod_eq_of_lt hp]

/-- Whether a base passes Lucas's test for `p`, where `p - 1` has the given factors. -/
def PassesLucas (p a : Nat) (factors : List Nat) : Prop :=
  2 ≤ p ∧ factors.prod = p - 1 ∧ powerMod p a (p - 1) = 1 ∧
    ∀ q ∈ factors, powerMod p a ((p - 1) / q) ≠ 1

instance (p a : Nat) (factors : List Nat) : Decidable (PassesLucas p a factors) :=
  inferInstanceAs (Decidable (_ ∧ _))

/-- **Lucas's test**: if a base passes it and all factors are prime, then so is the number. -/
theorem prime_of_lucas {p : Nat} (a : Nat) (factors : List Nat) (hprime : ∀ q ∈ factors, q.Prime)
    (h : PassesLucas p a factors) : p.Prime := by
  obtain ⟨hp, hprod, hone, hne⟩ := h
  refine lucas_primality p a ((natCast_pow_eq_one_iff hp a _).2 hone) fun q hq hdvd => ?_
  rw [← hprod] at hdvd
  have hmem : q ∈ factors := by
    obtain ⟨r, hr, hqr⟩ := (Prime.dvd_prod_iff hq.prime).1 hdvd
    rwa [(Nat.prime_dvd_prime_iff_eq hq (hprime r hr)).1 hqr]
  rw [Ne, natCast_pow_eq_one_iff hp]
  exact hne q hmem

end CoinAddress.Primality
