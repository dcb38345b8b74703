/-!
# Positional numerals

Numerals are lists of digits, the most significant first, in any base of at least two.

* `value b ds` is the number that the digits stand for.
* `digits b n` is the numeral of `n` without leading zeros; zero has no digits.
* `fixedDigits b w n` are the `w` least significant digits of `n`, with leading zeros.
-/

namespace CoinAddress.Radix

/-- The number whose digits in base `b` are `ds`. -/
def value (b : Nat) (ds : List Nat) : Nat := ds.foldl (fun n d => n * b + d) 0

/-- The digits of a number in base `b`, without leading zeros. -/
def digits (b n : Nat) : List Nat :=
  if _h : 2 ≤ b ∧ 0 < n then digits b (n / b) ++ [n % b] else []
termination_by n
decreasing_by exact Nat.div_lt_self _h.2 _h.1

/-- The `w` least significant digits of a number in base `b`. -/
def fixedDigits (b : Nat) : Nat → Nat → List Nat
  | 0, _ => []
  | w + 1, n => fixedDigits b w (n / b) ++ [n % b]

theorem length_fixedDigits (b w n : Nat) : (fixedDigits b w n).length = w := by
  induction w generalizing n with
  | zero => rfl
  | succ w ih => simp [fixedDigits, ih]

theorem value_append_singleton (b : Nat) (ds : List Nat) (d : Nat) :
    value b (ds ++ [d]) = value b ds * b + d := by
  simp [value]

theorem value_digits {b : Nat} (hb : 2 ≤ b) (n : Nat) : value b (digits b n) = n := by
  fun_induction digits b n with
  | case1 n _ ih => rw [value_append_singleton, ih, Nat.mul_comm, Nat.div_add_mod]
  | case2 n h =>
    have : n = 0 := by omega
    simp [this, value]

end CoinAddress.Radix
