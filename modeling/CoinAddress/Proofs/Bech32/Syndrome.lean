import CoinAddress.Proofs.Bech32.Register

/-!
# The register after one or two symbols among zeros

Symbols of which one or two are not zero, at most eighty-eight of them, take the empty register
neither back to zero nor to the difference of the two constants (`run_zero_of_countP_one`,
`run_zero_of_countP_two`).

A zero takes the register to another one without loss (`step_zero_injective`), so the zeros behind
the last symbol can be taken away on both sides. What is left is the last symbol, on the register
that zeros make of the first; above its last symbol it is one of a list of numbers (`symbolOrbits`).
The difference of the constants is what eighty-seven zeros make of `gapOrigin`, so fewer zeros are
taken away by following the orbit of `gapOrigin`. The lists have no number in common
(`orbits_apart`).
-/

namespace CoinAddress.Bech32

/-! ## Zeros -/

/-- The register after `n` zeros. -/
def shift (n : Nat) (r : BitVec 30) : BitVec 30 := run r (List.replicate n 0)

theorem shift_succ (n : Nat) (r : BitVec 30) : shift (n + 1) r = shift n (step r 0) := rfl

theorem run_append (r : BitVec 30) (ds es : List Symbol) : run r (ds ++ es) = run (run r ds) es :=
  List.foldl_append

theorem shift_add (m n : Nat) (r : BitVec 30) : shift (m + n) r = shift n (shift m r) := by
  rw [shift, List.replicate_add, run_append]
  rfl

@[simp] theorem shift_of_zero (n : Nat) : shift n 0 = 0 := by
  induction n with
  | zero => rfl
  | succ n ih => rw [shift_succ, show step 0 0 = 0 by decide +kernel, ih]

theorem step_zero (r : BitVec 30) :
    step r 0 = (r <<< 5) ^^^ feedback (BitVec.ofNat 5 (r.toNat / 2 ^ 25)) := by
  have htop : (r >>> 25).setWidth 5 = BitVec.ofNat 5 (r.toNat / 2 ^ 25) := by
    apply BitVec.eq_of_toNat_eq
    rw [BitVec.toNat_setWidth, BitVec.toNat_ushiftRight, Nat.shiftRight_eq_div_pow,
      BitVec.toNat_ofNat]
  have hzero : (0 : Symbol).setWidth 30 = 0#30 := by decide
  rw [step, htop, hzero, BitVec.xor_zero]

theorem step_eq_xor (r : BitVec 30) (d : Symbol) : step r d = step r 0 ^^^ d.setWidth 30 := by
  have hzero : (0 : Symbol).setWidth 30 = 0#30 := by decide
  rw [step, step, hzero, BitVec.xor_zero]
  ac_rfl

/-! ## Numbers -/

/-- What the register takes back for each symbol it drops, as numbers. -/
def feedbackTable : List Nat := (List.range 32).map fun t => (feedback (BitVec.ofNat 5 t)).toNat

/-- The number of the register after a zero. -/
def advance (m : Nat) : Nat := (m % 2 ^ 25 * 32) ^^^ feedbackTable.getD (m / 2 ^ 25) 0

theorem toNat_feedback {t : Nat} (ht : t < 32) :
    (feedback (BitVec.ofNat 5 t)).toNat = feedbackTable.getD t 0 := by
  simp [feedbackTable, ht]

theorem toNat_shiftLeft_five (r : BitVec 30) : (r <<< 5).toNat = r.toNat % 2 ^ 25 * 32 := by
  rw [BitVec.toNat_shiftLeft, Nat.shiftLeft_eq]
  omega

theorem toNat_step_zero (r : BitVec 30) : (step r 0).toNat = advance r.toNat := by
  rw [step_zero, BitVec.toNat_xor, toNat_shiftLeft_five,
    toNat_feedback (Nat.div_lt_of_lt_mul r.isLt), advance]

/-- **A zero loses nothing of the register**: the symbol that is dropped is told by the last symbol
of what is taken back for it. -/
theorem eq_zero_of_step_zero {r : BitVec 30} (h : step r 0 = 0#30) : r = 0#30 := by
  have hlt : r.toNat / 2 ^ 25 < 32 := Nat.div_lt_of_lt_mul r.isLt
  rw [step_zero, BitVec.xor_eq_zero_iff] at h
  have hval := congrArg BitVec.toNat h
  rw [toNat_shiftLeft_five, toNat_feedback hlt] at hval
  have hlast : ∀ t < 32, feedbackTable.getD t 0 % 32 = 0 → t = 0 := by decide +kernel
  have htop : r.toNat / 2 ^ 25 = 0 := by
    apply hlast _ hlt
    rw [← hval, Nat.mul_mod_left]
  rw [htop, show feedbackTable.getD 0 0 = 0 by decide +kernel] at hval
  apply BitVec.eq_of_toNat_eq
  rw [BitVec.toNat_zero]
  omega

theorem step_zero_injective : Function.Injective fun r => step r 0 := by
  intro r r' h
  have hxor : step (r ^^^ r') 0 = step r 0 ^^^ step r' 0 := step_xor r r' 0 0
  exact BitVec.xor_eq_zero_iff.1
    (eq_zero_of_step_zero (hxor.trans (BitVec.xor_eq_zero_iff.2 h)))

theorem shift_injective (n : Nat) : Function.Injective (shift n) := by
  induction n with
  | zero => exact Function.injective_id
  | succ n ih => exact ih.comp step_zero_injective

/-! ## Orbits -/

/-- The register after 0, 1, … zeros as numbers, each without the last symbol. -/
def orbit : Nat → Nat → List Nat
  | 0, _ => []
  | n + 1, m => m / 32 :: orbit n (advance m)

theorem mem_orbit {n k : Nat} (hk : k < n) (r : BitVec 30) :
    (shift k r).toNat / 32 ∈ orbit n r.toNat := by
  induction n generalizing k r with
  | zero => exact absurd hk (Nat.not_lt_zero k)
  | succ n ih =>
    rw [orbit]
    cases k with
    | zero => exact List.mem_cons_self
    | succ k =>
      rw [← toNat_step_zero]
      exact List.mem_cons_of_mem _ (ih (Nat.lt_of_succ_lt_succ hk) (step r 0))

/-- What one to eighty-seven zeros make of the symbols other than zero. -/
def symbolOrbits : List Nat := (List.range 31).flatMap fun e => orbit 87 (advance (e + 1))

/-- The difference of the two constants. -/
def gap : BitVec 30 := Variant.bech32.constant ^^^ Variant.bech32m.constant

/-- The register that eighty-seven zeros take to the difference of the constants. -/
def gapOrigin : BitVec 30 := 0x224bab46

theorem shift_gapOrigin : shift 87 gapOrigin = gap := by decide +kernel

/-! ## Lists without a common number -/

/-- The remainders of numbers, marked as the bits of one number. -/
def marks (p : Nat) (as : List Nat) : Nat := as.foldr (fun a m => 2 ^ (a % p) ||| m) 0

/-- Whether no two numbers of two lists have the same remainder. -/
def apartModulo (p : Nat) (as bs : List Nat) : Bool :=
  bs.all fun b => !(marks p as).testBit (b % p)

theorem testBit_marks {p a : Nat} {as : List Nat} (h : a ∈ as) :
    (marks p as).testBit (a % p) = true := by
  induction as with
  | nil => cases h
  | cons b as ih =>
    rw [marks, List.foldr_cons, Nat.testBit_or]
    rcases List.mem_cons.1 h with rfl | h
    · rw [Nat.testBit_two_pow_self, Bool.true_or]
    · exact Bool.or_eq_true_iff.2 (Or.inr (ih h))

theorem ne_of_apartModulo {p a b : Nat} {as bs : List Nat} (h : apartModulo p as bs = true)
    (ha : a ∈ as) (hb : b ∈ bs) : a ≠ b := by
  rintro rfl
  have := List.all_eq_true.1 h a hb
  rw [testBit_marks ha] at this
  cases this

/-- **The orbits of the symbols do not meet that of the difference**, nor zero: the remainders by
27727 are enough to tell them apart. -/
theorem orbits_apart :
    apartModulo 27727 (0 :: orbit 88 gapOrigin.toNat) symbolOrbits = true := by
  decide +kernel

theorem zero_not_mem_orbit_gapOrigin : 0 ∉ orbit 88 gapOrigin.toNat := by decide +kernel

/-! ## One or two symbols -/

theorem toNat_setWidth_symbol (d : Symbol) : (d.setWidth 30).toNat = d.toNat := by
  rw [BitVec.toNat_setWidth, Nat.mod_eq_of_lt (Nat.lt_trans d.isLt (by decide))]

theorem setWidth_ne_zero {d : Symbol} (hd : d ≠ 0) : d.setWidth 30 ≠ 0#30 := by
  intro h
  apply hd
  apply BitVec.eq_of_toNat_eq
  rw [← toNat_setWidth_symbol, h]
  rfl

/-- A symbol changes nothing above itself. -/
theorem toNat_xor_symbol_div (r : BitVec 30) (d : Symbol) :
    (r ^^^ d.setWidth 30).toNat / 32 = r.toNat / 32 := by
  have hd : d.toNat / 2 ^ 5 = 0 := Nat.div_eq_of_lt d.isLt
  rw [BitVec.toNat_xor, toNat_setWidth_symbol, show 32 = 2 ^ 5 by rfl, Nat.xor_div_two_pow, hd,
    Nat.xor_zero]

theorem shift_symbol_mem {d : Symbol} (hd : d ≠ 0) {n : Nat} (hn : n < 87) :
    (shift (n + 1) (d.setWidth 30)).toNat / 32 ∈ symbolOrbits := by
  have hpos : 0 < d.toNat := Nat.pos_of_ne_zero fun h => hd (BitVec.eq_of_toNat_eq h)
  have hval : advance (d.toNat - 1 + 1) = (step (d.setWidth 30) 0).toNat := by
    rw [toNat_step_zero, toNat_setWidth_symbol, Nat.sub_add_cancel hpos]
  refine List.mem_flatMap.2 ⟨d.toNat - 1, List.mem_range.2 ?_, ?_⟩
  · have := d.isLt
    omega
  · rw [hval, shift_succ]
    exact mem_orbit hn _

/-- A register that is not on the orbit of `gapOrigin` does not become the difference of the
constants, however many zeros follow. -/
theorem shift_ne {r : BitVec 30} (hzero : r ≠ 0#30)
    (hgap : r.toNat / 32 ∉ orbit 88 gapOrigin.toNat) {n : Nat} (hn : n ≤ 87) :
    shift n r ≠ 0#30 ∧ shift n r ≠ gap := by
  refine ⟨fun h => hzero (shift_injective n (h.trans (shift_of_zero n).symm)), fun h => hgap ?_⟩
  have horigin : shift n (shift (87 - n) gapOrigin) = gap := by
    rw [← shift_add, Nat.sub_add_cancel hn, shift_gapOrigin]
  rw [shift_injective n (h.trans horigin.symm)]
  exact mem_orbit (by omega) gapOrigin

theorem exists_append_cons_of_countP {α : Type} {p : α → Bool} {l : List α} {n : Nat}
    (h : l.countP p = n + 1) :
    ∃ before a behind, l = before ++ a :: behind ∧ before.countP p = 0 ∧ p a = true ∧
      behind.countP p = n := by
  induction l with
  | nil => cases h
  | cons b l ih =>
    by_cases hb : p b = true
    · rw [List.countP_cons_of_pos hb] at h
      exact ⟨[], b, l, rfl, rfl, hb, Nat.succ.inj h⟩
    · rw [List.countP_cons_of_neg hb] at h
      obtain ⟨before, a, behind, rfl, hbefore, ha, hbehind⟩ := ih h
      refine ⟨b :: before, a, behind, rfl, ?_, ha, hbehind⟩
      rw [List.countP_cons_of_neg hb, hbefore]

/-- Whether a symbol is not zero. -/
def Symbol.isError (d : Symbol) : Bool := d != 0

theorem Symbol.isError_iff {d : Symbol} : d.isError = true ↔ d ≠ 0 := bne_iff_ne

theorem run_replicate {ds : List Symbol} (h : ds.countP Symbol.isError = 0) (r : BitVec 30) :
    run r ds = shift ds.length r := by
  rw [shift, ← List.eq_replicate_of_mem fun d hd => ?_]
  simpa [Symbol.isError] using List.countP_eq_zero.1 h d hd

theorem run_append_cons {zeros : List Symbol} (h : zeros.countP Symbol.isError = 0)
    (r : BitVec 30) (d : Symbol) (behind : List Symbol) :
    run r (zeros ++ d :: behind) = run (shift (zeros.length + 1) r ^^^ d.setWidth 30) behind := by
  rw [run_append, run_replicate h, shift_add]
  show run (step _ d) behind = run (step _ 0 ^^^ d.setWidth 30) behind
  rw [← step_eq_xor]

/-- The zeros in front of the first symbol do nothing. -/
theorem run_zero_append_cons {zeros : List Symbol} (h : zeros.countP Symbol.isError = 0)
    (d : Symbol) (behind : List Symbol) :
    run 0 (zeros ++ d :: behind) = run (d.setWidth 30) behind := by
  rw [run_append_cons h, shift_of_zero]
  congr 1
  exact BitVec.zero_xor

/-- **One symbol among zeros.** -/
theorem run_zero_of_countP_one {errors : List Symbol} (hlen : errors.length ≤ 88)
    (h : errors.countP Symbol.isError = 1) : run 0 errors ≠ 0#30 ∧ run 0 errors ≠ gap := by
  obtain ⟨before, d, behind, rfl, hbefore, hd, hbehind⟩ := exists_append_cons_of_countP h
  have hshort : behind.length ≤ 87 := by
    rw [List.length_append, List.length_cons] at hlen
    omega
  rw [run_zero_append_cons hbefore, run_replicate hbehind]
  refine shift_ne (setWidth_ne_zero (Symbol.isError_iff.1 hd)) ?_ hshort
  rw [toNat_setWidth_symbol, Nat.div_eq_of_lt d.isLt]
  exact zero_not_mem_orbit_gapOrigin

/-- **Two symbols among zeros.** -/
theorem run_zero_of_countP_two {errors : List Symbol} (hlen : errors.length ≤ 88)
    (h : errors.countP Symbol.isError = 2) : run 0 errors ≠ 0#30 ∧ run 0 errors ≠ gap := by
  obtain ⟨before, d, rest, rfl, hbefore, hd, hrest⟩ := exists_append_cons_of_countP h
  obtain ⟨between, e, behind, rfl, hbetween, -, hbehind⟩ := exists_append_cons_of_countP hrest
  have hshort : between.length + behind.length ≤ 86 := by
    simp only [List.length_append, List.length_cons] at hlen
    omega
  -- The last symbol does not reach the bits above it, which are those of an orbit of a symbol.
  have htop : (shift (between.length + 1) (d.setWidth 30) ^^^ e.setWidth 30).toNat / 32 ∈
      symbolOrbits := by
    rw [toNat_xor_symbol_div]
    exact shift_symbol_mem (Symbol.isError_iff.1 hd) (by omega)
  rw [run_zero_append_cons hbefore, run_append_cons hbetween, run_replicate hbehind]
  refine shift_ne (fun hzero => ?_) (fun hmem => ?_) (by omega)
  · rw [hzero] at htop
    exact ne_of_apartModulo orbits_apart List.mem_cons_self htop rfl
  · exact ne_of_apartModulo orbits_apart (List.mem_cons_of_mem _ hmem) htop rfl

end CoinAddress.Bech32
