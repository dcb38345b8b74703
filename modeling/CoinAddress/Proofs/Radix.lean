import CoinAddress.Radix
import Mathlib.Data.List.TakeWhile
import Mathlib.Data.Nat.Digits.Lemmas

/-!
# Numerals and the numbers they stand for

A numeral without leading zeros is determined by its number, and so is a numeral of a known length.

* `digits_value` writes the number of a numeral again: only the leading zeros are lost.
* `convert b c` changes the base of a numeral and keeps its leading zeros and its number, which
  determine the result (`eq_convert_iff`). Changing the base back gives the numeral
  (`convert_convert`), so nothing is lost and every numeral is reached. `length_convert_le` bounds
  how much longer it gets.
* `fixedDigits_value` and `value_fixedDigits` say the same of numerals of a fixed length, and
  `fixedDigits_mul_add` cuts one into two.
-/

namespace CoinAddress.Radix

variable {b c : Nat}

/-! ## The library's numerals, which have the least significant digit first -/

theorem value_eq_ofDigits (b : Nat) (ds : List Nat) : value b ds = Nat.ofDigits b ds.reverse := by
  induction ds using List.reverseRecOn with
  | nil => rfl
  | append_singleton ds d ih =>
    rw [value_append_singleton, ih, List.reverse_append, List.reverse_singleton,
      List.singleton_append, Nat.ofDigits_cons, Nat.mul_comm, Nat.add_comm]

theorem digits_eq_reverse (hb : 2 ≤ b) (n : Nat) : digits b n = (Nat.digits b n).reverse := by
  fun_induction digits b n with
  | case1 n h ih => rw [ih, Nat.digits_def' h.1 h.2, List.reverse_cons]
  | case2 n h =>
    obtain rfl : n = 0 := by omega
    rw [Nat.digits_zero, List.reverse_nil]

/-! ## Values -/

theorem value_cons_zero (b : Nat) (ds : List Nat) : value b (0 :: ds) = value b ds := by
  simp [value]

theorem value_replicate_zero_append (b k : Nat) (ds : List Nat) :
    value b (List.replicate k 0 ++ ds) = value b ds := by
  induction k with
  | zero => rfl
  | succ k ih => rw [List.replicate_succ, List.cons_append, value_cons_zero, ih]

theorem value_lt (hb : 2 ≤ b) {ds : List Nat} (h : ∀ d ∈ ds, d < b) :
    value b ds < b ^ ds.length := by
  rw [value_eq_ofDigits, ← List.length_reverse]
  exact Nat.ofDigits_lt_base_pow_length hb (by simpa using h)

/-! ## Numerals without leading zeros -/

theorem lt_of_mem_digits (hb : 2 ≤ b) {n d : Nat} (h : d ∈ digits b n) : d < b := by
  rw [digits_eq_reverse hb, List.mem_reverse] at h
  exact Nat.digits_lt_base hb h

theorem takeWhile_digits (hb : 2 ≤ b) (n : Nat) : (digits b n).takeWhile (· == 0) = [] := by
  rw [digits_eq_reverse hb]
  by_cases hn : n = 0
  · subst hn
    simp
  · have hne : Nat.digits b n ≠ [] := Nat.digits_ne_nil_iff_ne_zero.2 hn
    have hlast := Nat.getLast_digit_ne_zero b hn
    rw [← List.dropLast_append_getLast hne, List.reverse_append, List.reverse_singleton,
      List.singleton_append, List.takeWhile_cons_of_neg (by simpa using hlast)]

/-- **Writing the number of a numeral loses its leading zeros and nothing else.** -/
theorem digits_value (hb : 2 ≤ b) {ds : List Nat} (h : ∀ d ∈ ds, d < b) :
    digits b (value b ds) = ds.dropWhile (· == 0) := by
  induction ds with
  | nil => simp [value, digits]
  | cons d ds ih =>
    by_cases hd : d = 0
    · subst hd
      rw [value_cons_zero, ih fun e he => h e (List.mem_cons_of_mem _ he),
        List.dropWhile_cons_of_pos rfl]
    · rw [digits_eq_reverse hb, value_eq_ofDigits, List.dropWhile_cons_of_neg (by simpa using hd),
        Nat.digits_ofDigits b hb, List.reverse_reverse]
      · intro e he
        exact h e (List.mem_reverse.1 he)
      · intro hne
        simpa using hd

theorem length_digits_le (hb : 2 ≤ b) {n k : Nat} (h : n < b ^ k) : (digits b n).length ≤ k := by
  rw [digits_eq_reverse hb, List.length_reverse]
  exact (Nat.digits_length_le_iff hb n).2 h

/-! ## Changing the base -/

/-- The numeral in base `c` of the number that a numeral in base `b` stands for, with the same
number of leading zeros. -/
def convert (b c : Nat) (ds : List Nat) : List Nat :=
  List.replicate (ds.takeWhile (· == 0)).length 0 ++ digits c (value b ds)

theorem lt_of_mem_convert (hc : 2 ≤ c) {ds : List Nat} {d : Nat} (h : d ∈ convert b c ds) :
    d < c := by
  rcases List.mem_append.1 h with hz | hd
  · rw [List.eq_of_mem_replicate hz]
    omega
  · exact lt_of_mem_digits hc hd

/-- A converted numeral has the leading zeros that it was given. -/
theorem takeWhile_convert (hc : 2 ≤ c) (b : Nat) (ds : List Nat) :
    (convert b c ds).takeWhile (· == 0) =
      List.replicate (ds.takeWhile (· == 0)).length 0 := by
  rw [convert, List.takeWhile_append_of_pos, takeWhile_digits hc, List.append_nil]
  intro d hd
  simpa using List.eq_of_mem_replicate hd

theorem value_convert (hc : 2 ≤ c) (b : Nat) (ds : List Nat) :
    value c (convert b c ds) = value b ds := by
  rw [convert, value_replicate_zero_append, value_digits hc]

theorem replicate_length_takeWhile (ds : List Nat) :
    List.replicate (ds.takeWhile (· == 0)).length 0 = ds.takeWhile (· == 0) := by
  refine (List.eq_replicate_of_mem fun d hd => ?_).symm
  simpa using List.mem_takeWhile_imp hd

/-- **A converted numeral is the only one with its leading zeros and its number.** -/
theorem eq_convert_iff (hc : 2 ≤ c) {ds es : List Nat} :
    es = convert b c ds ↔ (∀ e ∈ es, e < c) ∧
      (es.takeWhile (· == 0)).length = (ds.takeWhile (· == 0)).length ∧
        value c es = value b ds := by
  constructor
  · rintro rfl
    refine ⟨fun e => lt_of_mem_convert hc, ?_, value_convert hc b ds⟩
    rw [takeWhile_convert hc, List.length_replicate]
  · rintro ⟨hlt, hzeros, hvalue⟩
    rw [convert, ← hzeros, ← hvalue, replicate_length_takeWhile, digits_value hc hlt,
      List.takeWhile_append_dropWhile]

/-- **Changing the base and changing it back gives the numeral.** -/
theorem convert_convert (hb : 2 ≤ b) (hc : 2 ≤ c) {ds : List Nat} (h : ∀ d ∈ ds, d < b) :
    convert c b (convert b c ds) = ds := by
  refine ((eq_convert_iff hb).2 ⟨h, ?_, (value_convert hc b ds).symm⟩).symm
  rw [takeWhile_convert hc, List.length_replicate]

theorem convert_cons_zero (b c : Nat) (ds : List Nat) :
    convert b c (0 :: ds) = 0 :: convert b c ds := by
  rw [convert, List.takeWhile_cons_of_pos rfl, List.length_cons, List.replicate_succ,
    value_cons_zero, List.cons_append, convert]

/-- A digit becomes at most `m` digits of a base whose `m`-th power is not below the first. -/
theorem length_convert_le (hb : 2 ≤ b) (hc : 2 ≤ c) {m : Nat} (hm : b ≤ c ^ m) {ds : List Nat}
    (h : ∀ d ∈ ds, d < b) : (convert b c ds).length ≤ m * ds.length := by
  induction ds with
  | nil => simp [convert, value, digits]
  | cons d ds ih =>
    by_cases hd : d = 0
    · subst hd
      have hpos : m ≠ 0 := by
        rintro rfl
        rw [Nat.pow_zero] at hm
        omega
      have hrest := ih fun e he => h e (List.mem_cons_of_mem _ he)
      rw [convert_cons_zero, List.length_cons, List.length_cons, Nat.mul_succ]
      omega
    · have hvalue : value b (d :: ds) < c ^ (m * (d :: ds).length) :=
        calc value b (d :: ds) < b ^ (d :: ds).length := value_lt hb h
          _ ≤ (c ^ m) ^ (d :: ds).length := Nat.pow_le_pow_left hm _
          _ = c ^ (m * (d :: ds).length) := (Nat.pow_mul c m _).symm
      rw [convert, List.takeWhile_cons_of_neg (by simpa using hd)]
      exact length_digits_le hc hvalue

/-! ## Numerals of a fixed length -/

theorem value_fixedDigits (b w n : Nat) : value b (fixedDigits b w n) = n % b ^ w := by
  induction w generalizing n with
  | zero => simp [fixedDigits, value, Nat.mod_one]
  | succ w ih =>
    rw [fixedDigits, value_append_singleton, ih, Nat.pow_succ', Nat.mod_mul, Nat.mul_comm,
      Nat.add_comm]

theorem lt_of_mem_fixedDigits (hb : 0 < b) {w n d : Nat} (h : d ∈ fixedDigits b w n) : d < b := by
  induction w generalizing n with
  | zero => exact absurd h List.not_mem_nil
  | succ w ih =>
    rcases List.mem_append.1 h with h | h
    · exact ih h
    · rw [List.mem_singleton.1 h]
      exact Nat.mod_lt n hb

theorem fixedDigits_value {ds : List Nat} (h : ∀ d ∈ ds, d < b) :
    fixedDigits b ds.length (value b ds) = ds := by
  induction ds using List.reverseRecOn with
  | nil => rfl
  | append_singleton ds d ih =>
    have hd : d < b := h d (by simp)
    have hrest : ∀ e ∈ ds, e < b := fun e he => h e (by simp [he])
    have hdiv : (value b ds * b + d) / b = value b ds := by
      rw [Nat.add_comm, Nat.add_mul_div_right _ _ (by omega), Nat.div_eq_of_lt hd, Nat.zero_add]
    rw [List.length_append, List.length_singleton, fixedDigits, value_append_singleton, hdiv,
      Nat.mul_add_mod_of_lt hd, ih hrest]

/-- The digits of a number are those of its upper part before those of its lower part. -/
theorem fixedDigits_mul_add (m n x : Nat) {y : Nat} (hy : y < b ^ n) :
    fixedDigits b (m + n) (x * b ^ n + y) = fixedDigits b m x ++ fixedDigits b n y := by
  induction n generalizing y with
  | zero =>
    obtain rfl : y = 0 := by simpa using hy
    simp [fixedDigits]
  | succ n ih =>
    have hb : 0 < b := Nat.pos_of_ne_zero fun h => by simp [h] at hy
    have hlow : y / b < b ^ n := by
      rw [Nat.div_lt_iff_lt_mul hb, ← Nat.pow_succ]
      exact hy
    have hdiv : (x * b ^ (n + 1) + y) / b = x * b ^ n + y / b := by
      rw [Nat.pow_succ, ← Nat.mul_assoc, Nat.add_comm, Nat.add_mul_div_right _ _ hb, Nat.add_comm]
    have hmod : (x * b ^ (n + 1) + y) % b = y % b := by
      rw [Nat.pow_succ, ← Nat.mul_assoc, Nat.add_comm, Nat.add_mul_mod_self_right]
    rw [← Nat.add_assoc, fixedDigits, hdiv, hmod, ih hlow, fixedDigits, List.append_assoc]

theorem fixedDigits_zero (b w : Nat) : fixedDigits b w 0 = List.replicate w 0 := by
  induction w with
  | zero => rfl
  | succ w ih => rw [fixedDigits, Nat.zero_div, ih, Nat.zero_mod, List.replicate_succ']

end CoinAddress.Radix
