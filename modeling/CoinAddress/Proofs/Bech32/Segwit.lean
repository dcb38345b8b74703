import CoinAddress.Bech32.Segwit
import CoinAddress.Proofs.Bech32.Encoded
import CoinAddress.Proofs.Bech32.Regroup

/-!
# Segwit texts stand for their witness programs, one for one

`Segwit.decode_eq_ok_iff` and `Segwit.encode_eq_ok_iff` take a segwit text apart into its bech32 text
and the regrouping of its program. The program and its symbols determine each other, so again reading
is the inverse of writing (`Segwit.decode_eq_ok_iff_encode`), and a program has two texts, the one
that is written and its capitals (`Segwit.decode_eq_ok_iff_of_encode`).
-/

namespace CoinAddress.Bech32.Segwit

open Text

theorem version_le_of_checkProgram {version : UInt8} {program : Bytes}
    (h : checkProgram version program = .ok ()) : ¬ maxVersion < version := by
  intro hlt
  rw [checkProgram, if_pos hlt] at h
  cases h

/-- The symbols of a segwit text are its version and those that its program is regrouped from. -/
theorem decode_eq_ok_iff {s : String} {c : Content} : decode s = .ok c ↔
    checkProgram c.version c.program = .ok () ∧
      ∃ symbols, regroup 5 8 false symbols = .ok c.program ∧
        Bech32.decode s = .ok ⟨c.hrp, c.version :: symbols, Variant.ofWitnessVersion c.version⟩ := by
  simp only [decode, bind_eq_ok]
  constructor
  · rintro ⟨⟨hrp, data, variant⟩, hread, h⟩
    cases data with
    | nil => cases h
    | cons version symbols =>
      dsimp only at h
      split at h
      · cases h
      · split at h
        · cases h
        · next hvariant =>
          obtain ⟨program, hprogram, h⟩ := bind_eq_ok.1 h
          obtain ⟨⟨⟩, hcheck, h⟩ := bind_eq_ok.1 h
          cases h
          rw [not_not.1 hvariant] at hread
          exact ⟨hcheck, symbols, hprogram, hread⟩
  · rintro ⟨hcheck, symbols, hprogram, hread⟩
    refine ⟨_, hread, ?_⟩
    dsimp only
    rw [if_neg (version_le_of_checkProgram hcheck), if_neg (not_not.2 rfl)]
    exact bind_eq_ok.2 ⟨_, hprogram, bind_eq_ok.2 ⟨(), hcheck, rfl⟩⟩

/-- The text of a program is as long as its symbols make it. -/
theorem textLength_eq {hrp : String} {program symbols : Bytes}
    (h : regroup 8 5 true program = .ok symbols) :
    textLength hrp program.length =
      byteLength hrp.toList + 1 + (symbols.length + 1) + checksumLength := by
  rw [textLength, length_of_regroup_pad h, Nat.ceilDiv_eq_add_pred_div]
  omega

/-- What is written is the bech32 text of the version and the symbols of the program; the check that
it reads back never fails. -/
theorem encode_eq_ok_iff {c : Content} {s : String} : encode c = .ok s ↔
    checkProgram c.version c.program = .ok () ∧
      ∃ symbols, regroup 5 8 false symbols = .ok c.program ∧
        Bech32.encode ⟨c.hrp, c.version :: symbols, Variant.ofWitnessVersion c.version⟩ = .ok s := by
  simp only [encode, bind_eq_ok]
  constructor
  · rintro ⟨⟨⟩, hcheck, ⟨⟩, -, h⟩
    split at h
    · cases h
    · obtain ⟨symbols, hsymbols, h⟩ := bind_eq_ok.1 h
      obtain ⟨text, hwrite, h⟩ := bind_eq_ok.1 h
      obtain ⟨back, -, h⟩ := bind_eq_ok.1 h
      split at h
      · cases h
        exact ⟨hcheck, symbols, (regroup_strict_eq_ok_iff_pad (by decide)).2 hsymbols, hwrite⟩
      · cases h
  · rintro ⟨hcheck, symbols, hprogram, hwrite⟩
    obtain ⟨hvalid, hlen, -⟩ := Bech32.encode_eq_ok_iff.1 hwrite
    have hsymbols := regroup_back hprogram
    have hback : decode s = .ok c :=
      decode_eq_ok_iff.2 ⟨hcheck, symbols, hprogram, decode_of_encode hwrite⟩
    have htext : ¬ maxLength < textLength c.hrp c.program.length := by
      rw [textLength_eq hsymbols]
      exact Nat.not_lt.2 hlen
    refine ⟨(), hcheck, (), hvalid, ?_⟩
    rw [if_neg htext]
    refine bind_eq_ok.2 ⟨symbols, hsymbols, bind_eq_ok.2 ⟨s, hwrite, bind_eq_ok.2 ⟨c, hback, ?_⟩⟩⟩
    exact if_pos rfl

/-- **A segwit text is determined by its program up to case.** -/
theorem decode_eq_ok_iff_encode {s : String} {c : Content} :
    decode s = .ok c ↔ isOneCase s = true ∧ encode c = .ok (lowerAscii s) := by
  rw [decode_eq_ok_iff, encode_eq_ok_iff]
  constructor
  · rintro ⟨hcheck, symbols, hprogram, hread⟩
    obtain ⟨hcase, hwrite⟩ := Bech32.decode_eq_ok_iff_encode.1 hread
    exact ⟨hcase, hcheck, symbols, hprogram, hwrite⟩
  · rintro ⟨hcase, hcheck, symbols, hprogram, hwrite⟩
    have hread := Bech32.decode_eq_ok_iff_encode.2 ⟨hcase, hwrite⟩
    exact ⟨hcheck, symbols, hprogram, hread⟩

/-- Segwit texts are written in lower case and read in either case. -/
theorem eitherCase : EitherCase encode decode := by
  refine ⟨decode_eq_ok_iff_encode, fun h => ?_⟩
  obtain ⟨-, symbols, -, hwrite⟩ := encode_eq_ok_iff.1 h
  exact Bech32.eitherCase.lowerAscii_eq hwrite

/-- The texts of a program are the one that is written and its capitals. -/
theorem decode_eq_ok_iff_of_encode {c : Content} {t : String} (h : encode c = .ok t) {s : String} :
    decode s = .ok c ↔ s = t ∨ s = upperAscii t := eitherCase.read_eq_ok_iff_of_write h

theorem lowerAscii_hrp_of_decode {s : String} {c : Content} (h : decode s = .ok c) :
    lowerAscii c.hrp = c.hrp := by
  obtain ⟨-, symbols, -, hread⟩ := decode_eq_ok_iff.1 h
  obtain ⟨-, hwrite⟩ := Bech32.decode_eq_ok_iff_encode.1 hread
  obtain ⟨hvalid, -⟩ := Bech32.encode_eq_ok_iff.1 hwrite
  exact Hrp.lowerAscii_of_validate hvalid

/-- The parts of a segwit text in lower case; the first symbol is that of the version. -/
theorem exists_write_of_decode {s : String} {c : Content} (h : decode s = .ok c) :
    ∃ version ds, c.version = Symbol.byte version ∧ (lowerAscii s).toList =
      write (Variant.ofWitnessVersion c.version) c.hrp.toList (version :: ds) := by
  obtain ⟨-, symbols, -, hread⟩ := decode_eq_ok_iff.1 h
  obtain ⟨-, -, -, -, es, hdata, hwrite⟩ := Bech32.decode_eq_ok_iff.1 hread
  obtain ⟨version, ds, rfl, hversion, -⟩ := List.map_eq_cons_iff.1 hdata.symm
  rw [← toList_lowerAscii] at hwrite
  exact ⟨version, ds, hversion.symm, hwrite⟩

/-- The separator, the version and the checksum are always there. -/
theorem le_length_of_decode {s : String} {c : Content} (h : decode s = .ok c) :
    2 + checksumLength ≤ s.toList.length := by
  obtain ⟨version, ds, -, hwrite⟩ := exists_write_of_decode h
  have hlen := congrArg List.length hwrite
  rw [toList_lowerAscii, List.length_map, length_write, List.length_cons] at hlen
  omega

theorem length_le_of_decode {s : String} {c : Content} (h : decode s = .ok c) :
    s.toList.length ≤ maxLength := by
  obtain ⟨-, symbols, -, hread⟩ := decode_eq_ok_iff.1 h
  obtain ⟨hlen, hgraphic, -⟩ := Bech32.decode_eq_ok_iff.1 hread
  rwa [byteLength_of_lt fun c hc => toNat_lt_of_isGraphic (hgraphic c hc)] at hlen

end CoinAddress.Bech32.Segwit
