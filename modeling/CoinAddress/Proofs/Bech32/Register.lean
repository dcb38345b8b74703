import CoinAddress.Bech32.Checksum
import CoinAddress.Proofs.Radix

/-!
# Exactly one checksum

A step of the register is linear (`step_xor`), so what symbols do to it is what zeros do, plus what
the symbols do to the empty register (`run_eq_xor`). Six symbols on the empty register are its thirty
bits, read as a numeral in base 32 (`toNat_run_zero`): every content is reached, by one choice of
symbols. Hence data has exactly one checksum for each variant (`residue_append_eq_constant_iff`).
-/

namespace CoinAddress.Bech32

/-! ## Linearity -/

theorem xor_cancel_right (r r' t : BitVec 30) : (r ^^^ t) ^^^ (r' ^^^ t) = r ^^^ r' := by
  rw [BitVec.xor_comm r' t, BitVec.xor_assoc, ← BitVec.xor_assoc t, BitVec.xor_self,
    BitVec.zero_xor]

/-- The sum of the terms that a condition selects is linear in the condition. -/
theorem foldl_select_xor {α : Type} (term : α → BitVec 30) (p q : α → Bool) (ts : List α)
    (r r' : BitVec 30) :
    ts.foldl (fun r t => if p t ^^ q t then r ^^^ term t else r) (r ^^^ r') =
      ts.foldl (fun r t => if p t then r ^^^ term t else r) r ^^^
        ts.foldl (fun r t => if q t then r ^^^ term t else r) r' := by
  induction ts generalizing r r' with
  | nil => rfl
  | cons t ts ih =>
    have hstep : (if p t ^^ q t then r ^^^ r' ^^^ term t else r ^^^ r') =
        (if p t then r ^^^ term t else r) ^^^ (if q t then r' ^^^ term t else r') := by
      cases p t <;> cases q t
      · rfl
      · exact BitVec.xor_assoc r r' (term t)
      · change r ^^^ r' ^^^ term t = (r ^^^ term t) ^^^ r'
        ac_rfl
      · exact (xor_cancel_right r r' (term t)).symm
    rw [List.foldl_cons, List.foldl_cons, List.foldl_cons, hstep, ih]

theorem feedback_xor (a b : Symbol) : feedback (a ^^^ b) = feedback a ^^^ feedback b := by
  simp only [feedback, BitVec.getLsbD_xor]
  exact foldl_select_xor (fun t => t.1) (fun t => a.getLsbD t.2) (fun t => b.getLsbD t.2)
    feedbackTerms.zipIdx 0 0

theorem step_xor (r r' : BitVec 30) (d d' : Symbol) :
    step (r ^^^ r') (d ^^^ d') = step r d ^^^ step r' d' := by
  simp only [step, BitVec.shiftLeft_xor_distrib, BitVec.ushiftRight_xor_distrib,
    BitVec.setWidth_xor, feedback_xor]
  ac_rfl

/-- **A run of the register is linear** in the register and the symbols. -/
theorem run_xor (r r' : BitVec 30) {ds es : List Symbol} (h : ds.length = es.length) :
    run (r ^^^ r') (List.zipWith (· ^^^ ·) ds es) = run r ds ^^^ run r' es := by
  induction ds generalizing r r' es with
  | nil =>
    obtain rfl : es = [] := List.length_eq_zero_iff.1 h.symm
    rfl
  | cons d ds ih =>
    obtain ⟨e, es, rfl⟩ := List.exists_cons_of_length_eq_add_one h.symm
    have hlen : ds.length = es.length := by simpa using h
    simp only [run, List.zipWith_cons_cons, List.foldl_cons, step_xor] at ih ⊢
    exact ih (step r d) (step r' e) hlen

/-- What symbols do to the register: what zeros do, and what they do to the empty register. -/
theorem run_eq_xor (r : BitVec 30) (ds : List Symbol) :
    run r ds = run r (List.replicate ds.length 0) ^^^ run 0 ds := by
  have hzip : List.zipWith (· ^^^ ·) (List.replicate ds.length 0) ds = ds := by
    induction ds with
    | nil => rfl
    | cons d ds ih =>
      rw [List.length_cons, List.replicate_succ, List.zipWith_cons_cons, ih]
      congr 1
      exact BitVec.zero_xor
  rw [← run_xor r 0 List.length_replicate, hzip]
  congr 1
  exact BitVec.xor_zero.symm

/-! ## Six symbols fill the register -/

theorem xor_eq_mul_add (m : Nat) {d : Nat} (hd : d < 2 ^ 5) : (m <<< 5) ^^^ d = 2 ^ 5 * m + d := by
  apply Nat.eq_of_testBit_eq
  intro i
  rw [Nat.testBit_two_pow_mul_add m hd, Nat.testBit_xor, Nat.testBit_shiftLeft]
  by_cases hi : i < 5
  · simp [hi, Nat.not_le.2 hi]
  · have hdi : d.testBit i = false :=
      Nat.testBit_lt_two_pow (Nat.lt_of_lt_of_le hd (Nat.pow_le_pow_right (by decide) (by omega)))
    simp [hi, hdi, Nat.not_lt.1 hi]

/-- While its top symbol is zero, the register is a numeral that grows by one digit. -/
theorem toNat_step {r : BitVec 30} (h : r.toNat < 2 ^ 25) (d : Symbol) :
    (step r d).toNat = r.toNat * 32 + d.toNat := by
  have htop : (r >>> 25).setWidth 5 = (0 : Symbol) := by
    apply BitVec.eq_of_toNat_eq
    rw [BitVec.toNat_setWidth, BitVec.toNat_ushiftRight, Nat.shiftRight_eq_div_pow,
      Nat.div_eq_of_lt h]
    rfl
  have hshift : (r <<< 5).toNat = r.toNat <<< 5 := by
    rw [BitVec.toNat_shiftLeft, Nat.mod_eq_of_lt]
    rw [Nat.shiftLeft_eq]
    omega
  have hfeedback : feedback 0 = 0#30 := by decide
  have hd : d.toNat < 2 ^ 5 := d.isLt
  have hwide : (d.setWidth 30).toNat = d.toNat := by
    rw [BitVec.toNat_setWidth, Nat.mod_eq_of_lt (by omega)]
  rw [step, htop, hfeedback, BitVec.xor_zero, BitVec.toNat_xor, hshift, hwide,
    xor_eq_mul_add _ hd]
  omega

theorem toNat_lt_of_mem_map {ds : List Symbol} {d : Nat} (h : d ∈ ds.map BitVec.toNat) :
    d < 32 := by
  obtain ⟨e, -, rfl⟩ := List.mem_map.1 h
  exact e.isLt

/-- **Up to six symbols on the empty register are its value in base 32.** -/
theorem toNat_run_zero {ds : List Symbol} (h : ds.length ≤ 6) :
    (run 0 ds).toNat = Radix.value 32 (ds.map BitVec.toNat) := by
  induction ds using List.reverseRecOn with
  | nil => rfl
  | append_singleton ds d ih =>
    rw [List.length_append, List.length_singleton] at h
    have hlow : (run 0 ds).toNat < 2 ^ 25 := by
      rw [ih (by omega)]
      calc Radix.value 32 (ds.map BitVec.toNat)
          < 32 ^ (ds.map BitVec.toNat).length :=
            Radix.value_lt (by decide) fun d => toNat_lt_of_mem_map
        _ ≤ 32 ^ 5 := Nat.pow_le_pow_right (by decide) (by rw [List.length_map]; omega)
        _ = 2 ^ 25 := by decide
    rw [List.map_append, List.map_singleton, Radix.value_append_singleton, ← ih (by omega),
      ← toNat_step hlow, run, List.foldl_append]
    rfl

theorem map_toNat_registerSymbols (r : BitVec 30) :
    (registerSymbols r).map BitVec.toNat = Radix.fixedDigits 32 6 r.toNat := by
  simp [registerSymbols, Radix.fixedDigits, Nat.shiftRight_eq_div_pow, Nat.div_div_eq_div_mul]

theorem run_registerSymbols (r : BitVec 30) : run 0 (registerSymbols r) = r := by
  have hlen : (registerSymbols r).length ≤ 6 := Nat.le_refl 6
  apply BitVec.eq_of_toNat_eq
  rw [toNat_run_zero hlen, map_toNat_registerSymbols, Radix.value_fixedDigits,
    show 32 ^ 6 = 2 ^ 30 by decide, Nat.mod_eq_of_lt r.isLt]

theorem registerSymbols_run {ds : List Symbol} (h : ds.length = 6) :
    registerSymbols (run 0 ds) = ds := by
  have hinj : Function.Injective (BitVec.toNat : Symbol → Nat) := fun _ _ => BitVec.eq_of_toNat_eq
  have hdigits := Radix.fixedDigits_value fun d => @toNat_lt_of_mem_map ds d
  rw [List.length_map, h] at hdigits
  apply List.map_injective_iff.2 hinj
  rw [map_toNat_registerSymbols, toNat_run_zero h.le, hdigits]

/-! ## Checksums -/

theorem residue_append (hrp : List Char) (ds es : List Symbol) :
    residue hrp (ds ++ es) = run (residue hrp ds) es := by
  rw [residue, residue, ← List.append_assoc, run, List.foldl_append]
  rfl

/-- **Data has exactly one checksum for each variant**, whatever its human-readable part. -/
theorem residue_append_eq_constant_iff {variant : Variant} {hrp : List Char}
    {ds sum : List Symbol} (h : sum.length = checksumLength) :
    residue hrp (ds ++ sum) = variant.constant ↔ sum = checksum variant hrp ds := by
  have hrun : residue hrp (ds ++ sum) =
      residue hrp (ds ++ List.replicate checksumLength 0) ^^^ run 0 sum := by
    rw [residue_append, run_eq_xor, h, residue_append]
  rw [hrun, checksum]
  constructor
  · intro hc
    rw [← hc, ← BitVec.xor_assoc, BitVec.xor_self, BitVec.zero_xor, registerSymbols_run h]
  · rintro rfl
    rw [run_registerSymbols, ← BitVec.xor_assoc, BitVec.xor_self, BitVec.zero_xor]

theorem Variant.ofResidue?_eq_some_iff {r : BitVec 30} {variant : Variant} :
    ofResidue? r = some variant ↔ r = variant.constant := by
  constructor
  · intro h
    rw [ofResidue?] at h
    split at h
    · cases h
      assumption
    · split at h
      · cases h
        assumption
      · cases h
  · rintro rfl
    cases variant <;> decide

end CoinAddress.Bech32
