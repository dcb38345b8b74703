import CoinAddress.Proofs.Bech32.Segwit

/-!
# Which witness programs can be written

A witness program has a segwit text if it obeys four rules: on its version, on its length, on the
human-readable part and on the length of the text. `Segwit.Writable` lists them, and `Segwit.Breaks`
gives the error of the first that is broken; every program falls under one of the two
(`Segwit.writable_or_breaks`).

* `Segwit.exists_encode_of_writable`: the rules are all that is needed. The program is regrouped, its
  text keeps to the limits of bech32, and it reads back.
* `Segwit.encode_of_breaks`: a broken rule is reported before the rules behind it are looked at.
* `Segwit.encode_outcome` puts them together, with the texts that are read.
-/

namespace CoinAddress.Bech32.Segwit

open Text

variable {version : UInt8} {program : Bytes} {c : Content} {e : Error}

/-! ## The rules -/

/-- The lengths that a program of a witness version may have. -/
def IsProgramLength (version : UInt8) (n : Nat) : Prop :=
  2 ≤ n ∧ n ≤ 40 ∧ (version = 0 → n = 20 ∨ n = 32)

/-- The human-readable part, the separator, the version, the checksum and a symbol for every five
bits of the program keep to ninety characters. -/
def Fits (c : Content) : Prop :=
  byteLength c.hrp.toList + 8 + (8 * c.program.length) ⌈/⌉ 5 ≤ 90

/-- A content that obeys all rules. -/
structure Writable (c : Content) : Prop where
  version_le : c.version ≤ 16
  isProgramLength : IsProgramLength c.version c.program.length
  validate_hrp : Hrp.validate c.hrp = .ok ()
  fits : Fits c

/-- The first rule that a content breaks, as the error that reports it. -/
inductive Breaks (c : Content) : Error → Prop
  | version (h : 16 < c.version) : Breaks c (.unsupportedWitnessVersion c.version)
  | programLength (hversion : c.version ≤ 16)
      (h : ¬ IsProgramLength c.version c.program.length) :
      Breaks c (.unsupportedProgramLength c.version c.program.length)
  | hrp (hversion : c.version ≤ 16) (hlength : IsProgramLength c.version c.program.length)
      {fault : HrpFault} (h : Hrp.check c.hrp = .error fault) : Breaks c (.invalidHrp fault)
  | textLength (hversion : c.version ≤ 16) (hlength : IsProgramLength c.version c.program.length)
      (hhrp : Hrp.check c.hrp = .ok ()) (h : ¬ Fits c) : Breaks c (.malformed .segwitTooLong)

/-- Every content obeys all rules or breaks a first one. -/
theorem writable_or_breaks (c : Content) : Writable c ∨ ∃ e, Breaks c e := by
  by_cases hversion : c.version ≤ 16
  · by_cases hlength : IsProgramLength c.version c.program.length
    · cases hhrp : Hrp.check c.hrp with
      | error fault => exact Or.inr ⟨_, .hrp hversion hlength hhrp⟩
      | ok u =>
        by_cases hfits : Fits c
        · exact Or.inl ⟨hversion, hlength, mapError_eq_ok.2 hhrp, hfits⟩
        · exact Or.inr ⟨_, .textLength hversion hlength hhrp hfits⟩
    · exact Or.inr ⟨_, .programLength hversion hlength⟩
  · exact Or.inr ⟨_, .version (UInt8.not_le.1 hversion)⟩

/-! ## The checks -/

theorem not_isProgramLength_iff {n : Nat} : ¬ IsProgramLength version n ↔
    n < 2 ∨ 40 < n ∨ (version = 0 ∧ n ≠ 20 ∧ n ≠ 32) := by
  unfold IsProgramLength
  by_cases hversion : version = 0
  · simp only [hversion, true_imp_iff, true_and]
    omega
  · simp only [hversion, false_imp_iff, and_true, false_and, or_false]
    omega

theorem checkProgram_of_lt (h : 16 < version) :
    checkProgram version program = .error (.unsupportedWitnessVersion version) := if_pos h

theorem checkProgram_of_not_isProgramLength (hversion : version ≤ 16)
    (h : ¬ IsProgramLength version program.length) :
    checkProgram version program = .error (.unsupportedProgramLength version program.length) := by
  have hle : ¬ maxVersion < version := UInt8.not_lt.2 hversion
  rw [checkProgram, if_neg hle, if_pos (not_isProgramLength_iff.1 h)]

theorem checkProgram_of_isProgramLength (hversion : version ≤ 16)
    (h : IsProgramLength version program.length) : checkProgram version program = .ok () := by
  have hle : ¬ maxVersion < version := UInt8.not_lt.2 hversion
  rw [checkProgram, if_neg hle, if_neg fun hbad => not_isProgramLength_iff.2 hbad h]

theorem fits_iff : Fits c ↔ ¬ maxLength < textLength c.hrp c.program.length := by
  unfold Fits textLength maxLength checksumLength
  rw [Nat.ceilDiv_eq_add_pred_div]
  omega

/-- **A broken rule is reported**, whatever rules behind it are broken too. -/
theorem encode_of_breaks (h : Breaks c e) : encode c = .error e := by
  cases h with
  | version h => exact bind_of_error (checkProgram_of_lt h) _
  | programLength hversion h =>
    exact bind_of_error (checkProgram_of_not_isProgramLength hversion h) _
  | hrp hversion hlength h =>
    rw [encode, bind_of_ok (checkProgram_of_isProgramLength hversion hlength)]
    exact bind_of_error (by rw [Hrp.validate, h]; rfl) _
  | textLength hversion hlength hhrp h =>
    have hvalid : Hrp.validate c.hrp = .ok () := mapError_eq_ok.2 hhrp
    have hlong : maxLength < textLength c.hrp c.program.length := by
      rw [fits_iff] at h
      exact not_not.1 h
    rw [encode, bind_of_ok (checkProgram_of_isProgramLength hversion hlength), bind_of_ok hvalid,
      if_pos hlong]

/-- The version is too high, the program too short and the human-readable part empty. -/
example : encode ⟨"", 17, []⟩ = .error (.unsupportedWitnessVersion 17) := by decide +kernel

/-! ## Writing -/

/-- The version and the symbols of a program have five bits. -/
theorem toNat_lt_of_regroup {symbols : Bytes} (hversion : version ≤ 16)
    (h : regroup 8 5 true program = .ok symbols) : ∀ b ∈ version :: symbols, b.toNat < 32 := by
  obtain ⟨-, -, -, hsymbols, -⟩ := regroup_pad_eq_ok_iff.1 h
  refine List.forall_mem_cons.2 ⟨?_, hsymbols⟩
  exact Nat.lt_of_le_of_lt (UInt8.le_iff_toNat_le.1 hversion) (by decide)

/-- **What obeys the rules is written.** -/
theorem exists_encode_of_writable (h : Writable c) : ∃ s, encode c = .ok s := by
  obtain ⟨symbols, hsymbols⟩ : ∃ symbols, regroup 8 5 true c.program = .ok symbols :=
    exists_regroup_pad (by decide) (by decide) (narrow_eight c.program)
  have hlen : byteLength c.hrp.toList + 1 + (c.version :: symbols).length + checksumLength ≤
      maxLength := by
    rw [List.length_cons, ← textLength_eq hsymbols]
    exact Nat.not_lt.1 (fits_iff.1 h.fits)
  obtain ⟨s, hwrite⟩ : ∃ s, Bech32.encode ⟨c.hrp, c.version :: symbols, _⟩ = .ok s :=
    exists_encode_of_lt h.validate_hrp (toNat_lt_of_regroup h.version_le hsymbols) hlen
  have hcheck := checkProgram_of_isProgramLength h.version_le h.isProgramLength
  have hprogram := (regroup_strict_eq_ok_iff_pad (by decide)).2 hsymbols
  exact ⟨s, encode_eq_ok_iff.2 ⟨hcheck, symbols, hprogram, hwrite⟩⟩

theorem exists_encode_iff : (∃ s, encode c = .ok s) ↔ Writable c :=
  (outcome_iff (writable_or_breaks c) exists_encode_of_writable fun _ => encode_of_breaks).1

theorem encode_eq_error_iff : encode c = .error e ↔ Breaks c e :=
  (outcome_iff (writable_or_breaks c) exists_encode_of_writable fun _ => encode_of_breaks).2 e

/-- **A witness program is written if and only if it obeys the rules, and refused with the error of
the first that it breaks**; that the text does not read back is no reason. What is read is what is
written, in lower case or in capitals. -/
theorem encode_outcome (c : Content) :
    ((∃ s, encode c = .ok s) ↔ Writable c) ∧ (∀ e, encode c = .error e ↔ Breaks c e) ∧
      encode c ≠ .error (.malformed .notReadBack) ∧
      (∀ s, encode c = .ok s → decode s = .ok c) ∧
      (∀ s, decode s = .ok c → encode c = .ok (lowerAscii s)) ∧
      ∀ s, decode s = .ok c ↔ ∃ t, encode c = .ok t ∧ (s = t ∨ s = upperAscii t) := by
  refine ⟨exists_encode_iff, fun e => encode_eq_error_iff, fun h => ?_, fun s hs => ?_,
    fun s hs => ?_, fun s => ⟨fun hs => ?_, ?_⟩⟩
  · cases encode_eq_error_iff.1 h
  · exact (decode_eq_ok_iff_of_encode hs).2 (Or.inl rfl)
  · exact (decode_eq_ok_iff_encode.1 hs).2
  · have hwrite := (decode_eq_ok_iff_encode.1 hs).2
    exact ⟨_, hwrite, (decode_eq_ok_iff_of_encode hwrite).1 hs⟩
  · rintro ⟨t, ht, hs⟩
    exact (decode_eq_ok_iff_of_encode ht).2 hs

end CoinAddress.Bech32.Segwit
