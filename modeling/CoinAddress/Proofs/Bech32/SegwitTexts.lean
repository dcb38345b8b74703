import CoinAddress.Proofs.Bech32.RegroupRules
import CoinAddress.Proofs.Bech32.SegwitRules
import CoinAddress.Proofs.Bech32.TextRules

/-!
# Why a text is refused as a segwit text

`Segwit.Refuses` gives the first rule that a text breaks: those on bech32 texts come first, then
that there is a version, how high it is, that the checksum is of its variant, and at last those on
the program. `Segwit.decode_eq_error_iff` says that there is no other reason to refuse a text.

The variant is judged before the program is looked at, so under the wrong one it makes no difference
whether the symbols can be regrouped and how many there are (`Segwit.decode_of_variant`).
-/

namespace CoinAddress.Bech32.Segwit

variable {s hrp : String} {version : UInt8} {symbols : Bytes} {variant : Variant} {e : Error}

/-! ## The rules -/

/-- A bech32 text of a version and symbols, with the checksum that the version asks for. -/
structure Versioned (s hrp : String) (version : UInt8) (symbols : Bytes) : Prop where
  decode_eq : Bech32.decode s = .ok ⟨hrp, version :: symbols, Variant.ofWitnessVersion version⟩
  version_le : version ≤ 16

/-- The first rule that a text breaks, as the error that reports it. -/
inductive Refuses (s : String) : Error → Prop
  | text {e : Error} (h : Bech32.Breaks s e) : Refuses s e
  | noVersion {hrp : String} {variant : Variant} (h : Bech32.decode s = .ok ⟨hrp, [], variant⟩) :
      Refuses s (.malformed .noData)
  | version {hrp : String} {version : UInt8} {symbols : Bytes} {variant : Variant}
      (h : Bech32.decode s = .ok ⟨hrp, version :: symbols, variant⟩) (hversion : 16 < version) :
      Refuses s (.unsupportedWitnessVersion version)
  | variant {hrp : String} {version : UInt8} {symbols : Bytes} {variant : Variant}
      (h : Bech32.decode s = .ok ⟨hrp, version :: symbols, variant⟩) (hversion : version ≤ 16)
      (hvariant : variant ≠ Variant.ofWitnessVersion version) : Refuses s .checksumMismatch
  | padding {hrp : String} {version : UInt8} {symbols : Bytes} {e : Error}
      (h : Versioned s hrp version symbols) (hbits : strictGroups 5 8 (bits 5 symbols) = .error e) :
      Refuses s e
  | programLength {hrp : String} {version : UInt8} {symbols program : Bytes}
      (h : Versioned s hrp version symbols)
      (hbits : strictGroups 5 8 (bits 5 symbols) = .ok program)
      (hlength : ¬ IsProgramLength version program.length) :
      Refuses s (.unsupportedProgramLength version program.length)

/-! ## The rules as they are checked -/

theorem decode_of_version (h : Bech32.decode s = .ok ⟨hrp, version :: symbols, variant⟩)
    (hversion : 16 < version) : decode s = .error (.unsupportedWitnessVersion version) := by
  rw [decode, bind_of_ok h]
  exact if_pos hversion

/-- **The variant is judged before the program is looked at.** -/
theorem decode_of_variant (h : Bech32.decode s = .ok ⟨hrp, version :: symbols, variant⟩)
    (hversion : version ≤ 16) (hvariant : variant ≠ Variant.ofWitnessVersion version) :
    decode s = .error .checksumMismatch := by
  have hle : ¬ maxVersion < version := UInt8.not_lt.2 hversion
  rw [decode, bind_of_ok h]
  exact (if_neg hle).trans (if_pos hvariant)

/-- The symbols behind a version that is right are regrouped, and then the program is checked. -/
theorem decode_of_versioned (h : Versioned s hrp version symbols) :
    decode s = (do
      let program ← strictGroups 5 8 (bits 5 symbols)
      checkProgram version program
      .ok ⟨hrp, version, program⟩) := by
  obtain ⟨-, -, -, -, ds, hdata, -⟩ := Bech32.decode_eq_ok_iff.1 h.decode_eq
  have hnarrow : Narrow 5 symbols :=
    (List.forall_mem_cons.1 (exists_map_byte_iff.1 ⟨ds, hdata⟩)).2
  have hle : ¬ maxVersion < version := UInt8.not_lt.2 h.version_le
  rw [← regroup_strict_eq ⟨by decide, by decide⟩ ⟨by decide, by decide⟩ hnarrow, decode,
    bind_of_ok h.decode_eq]
  exact (if_neg hle).trans (if_neg (not_not.2 rfl))

/-- **A broken rule is reported**, whatever rules behind it are broken too. -/
theorem decode_of_refuses (h : Refuses s e) : decode s = .error e := by
  cases h with
  | text h => exact bind_of_error (decode_of_breaks h) _
  | noVersion h =>
    rw [decode, bind_of_ok h]
  | version h hversion => exact decode_of_version h hversion
  | variant h hversion hvariant => exact decode_of_variant h hversion hvariant
  | padding h hbits =>
    rw [decode_of_versioned h]
    exact bind_of_error hbits _
  | programLength h hbits hlength =>
    rw [decode_of_versioned h, bind_of_ok hbits]
    exact bind_of_error (checkProgram_of_not_isProgramLength h.version_le hlength) _

/-! ## All texts -/

/-- Every text is read or breaks a first rule. -/
theorem reads_or_refuses (s : String) : (∃ c, decode s = .ok c) ∨ ∃ e, Refuses s e := by
  cases hread : Bech32.decode s with
  | error e => exact Or.inr ⟨e, .text (Bech32.decode_eq_error_iff.1 hread)⟩
  | ok c =>
    obtain ⟨hrp, data, variant⟩ := c
    cases data with
    | nil => exact Or.inr ⟨_, .noVersion hread⟩
    | cons version symbols =>
      by_cases hversion : version ≤ 16
      · by_cases hvariant : variant = Variant.ofWitnessVersion version
        · have hversioned : Versioned s hrp version symbols := ⟨hvariant ▸ hread, hversion⟩
          cases hbits : strictGroups 5 8 (bits 5 symbols) with
          | error e => exact Or.inr ⟨e, .padding hversioned hbits⟩
          | ok program =>
            by_cases hlength : IsProgramLength version program.length
            · refine Or.inl ⟨⟨hrp, version, program⟩, ?_⟩
              rw [decode_of_versioned hversioned, bind_of_ok hbits]
              exact bind_of_ok (checkProgram_of_isProgramLength hversion hlength) _
            · exact Or.inr ⟨_, .programLength hversioned hbits hlength⟩
        · exact Or.inr ⟨_, .variant hread hversion hvariant⟩
      · exact Or.inr ⟨_, .version hread (UInt8.not_le.1 hversion)⟩

/-- **A text is refused with the error of the first rule that it breaks.** -/
theorem decode_eq_error_iff : decode s = .error e ↔ Refuses s e :=
  (outcome_iff (reads_or_refuses s) id fun _ => decode_of_refuses).2 e

end CoinAddress.Bech32.Segwit
