import CoinAddress.Proofs.Address.Families
import CoinAddress.Proofs.Bech32.Segwit

/-!
# Addresses of witness programs

A witness address keeps its program and the text that is written for it. What is read from a segwit
text is therefore an address with that text in lower case (`Registry.segwitAddress_eq_ok`), and the
lower-case text gives the same address (`Registry.segwitAddress_lowerAscii`).
-/

namespace CoinAddress

open Text

namespace WitnessAddress

theorem ofProgram_eq_ok_iff {hrp : String} {version : UInt8} {program : Bytes}
    {w : WitnessAddress} : ofProgram hrp version program = .ok w ↔
      w.version = version ∧ w.program = program ∧ w.hrp = lowerAscii hrp ∧
        Bech32.Hrp.validate (lowerAscii hrp) = .ok () ∧
          Bech32.Segwit.encode ⟨lowerAscii hrp, version, program⟩ = .ok w.text := by
  simp only [ofProgram, bind_eq_ok]
  constructor
  · rintro ⟨⟨⟩, hvalid, text, htext, h⟩
    cases h
    exact ⟨rfl, rfl, rfl, hvalid, htext⟩
  · obtain ⟨v, p, lower, text⟩ := w
    rintro ⟨rfl, rfl, rfl, hvalid, htext⟩
    exact ⟨(), hvalid, text, htext, rfl⟩

end WitnessAddress

namespace Address

variable {hrp : String} {version : UInt8} {program : Bytes} {a : Address}

/-- **An address of a witness program is that of the program with its text**, and version and length
tell its kind. -/
theorem ofWitnessProgram_eq_ok_iff : ofWitnessProgram hrp version program = .ok a ↔
    ∃ w, WitnessAddress.ofProgram hrp version program = .ok w ∧
      (version = 0 ∧ program.length = 20 ∧ a = .witnessPubKeyHash w ∨
        version = 0 ∧ program.length = 32 ∧ a = .witnessScriptHash w ∨
          version = 1 ∧ program.length = 32 ∧ a = .taproot w) := by
  rw [ofWitnessProgram]
  constructor
  · intro h
    split at h
    · next hshape =>
      obtain ⟨w, hw, rfl⟩ := map_eq_ok.1 h
      exact ⟨w, hw, Or.inl ⟨hshape.1, hshape.2, rfl⟩⟩
    · split at h
      · next hshape =>
        obtain ⟨w, hw, rfl⟩ := map_eq_ok.1 h
        exact ⟨w, hw, Or.inr (Or.inl ⟨hshape.1, hshape.2, rfl⟩)⟩
      · split at h
        · next hshape =>
          obtain ⟨w, hw, rfl⟩ := map_eq_ok.1 h
          exact ⟨w, hw, Or.inr (Or.inr ⟨hshape.1, hshape.2, rfl⟩)⟩
        · split at h <;> cases h
  · rintro ⟨w, hw, ⟨rfl, hlen, rfl⟩ | ⟨rfl, hlen, rfl⟩ | ⟨rfl, hlen, rfl⟩⟩ <;>
      simp [hlen, map_eq_ok, hw]

theorem ofWitnessProgram_eq_ok (h : ofWitnessProgram hrp version program = .ok a) :
    ∃ w, WitnessAddress.ofProgram hrp version program = .ok w ∧
      (a = .witnessPubKeyHash w ∨ a = .witnessScriptHash w ∨ a = .taproot w) := by
  obtain ⟨w, hw, hkind⟩ := ofWitnessProgram_eq_ok_iff.1 h
  exact ⟨w, hw, hkind.imp (·.2.2) (Or.imp (·.2.2) (·.2.2))⟩

end Address

namespace Registry

variable {r : Registry} {default : Network} {s : String} {a : Address}

/-- **A segwit text is the text of its address up to case.** -/
theorem segwitAddress_eq_ok (h : segwitAddress s = .ok a) :
    isOneCase s = true ∧ ∃ w, w.text = lowerAscii s ∧
      (a = .witnessPubKeyHash w ∨ a = .witnessScriptHash w ∨ a = .taproot w) := by
  obtain ⟨c, hread, h⟩ := bind_eq_ok.1 h
  obtain ⟨hcase, hwrite⟩ := Bech32.Segwit.decode_eq_ok_iff_encode.1 hread
  obtain ⟨w, hw, hkind⟩ := Address.ofWitnessProgram_eq_ok h
  obtain ⟨-, -, -, -, htext⟩ := WitnessAddress.ofProgram_eq_ok_iff.1 hw
  rw [Bech32.Segwit.lowerAscii_hrp_of_decode hread] at htext
  exact ⟨hcase, w, Except.ok.inj (htext.symm.trans hwrite), hkind⟩

theorem segwitAddress_lowerAscii (h : segwitAddress s = .ok a) :
    segwitAddress (lowerAscii s) = .ok a := by
  obtain ⟨c, hread, h⟩ := bind_eq_ok.1 h
  exact bind_eq_ok.2 ⟨c, Bech32.Segwit.eitherCase.read_lowerAscii hread, h⟩

/-! ## Letter case and the human-readable part -/

theorem knowsHrp_lowerAscii (hrp : String) :
    r.knowsHrp default (lowerAscii hrp) = r.knowsHrp default hrp := by
  simp only [knowsHrp, withHrp?, sameIgnoringCase_lowerAscii]

/-- The bech32 family claims a text whatever the case of its letters is. -/
theorem claimsSegwit_lowerAscii (s : String) :
    r.claimsSegwit default (lowerAscii s) = r.claimsSegwit default s := by
  have hcut : splitAtLast? Bech32.separator (lowerAscii s).toList =
      (splitAtLast? Bech32.separator s.toList).map
        (Prod.map (List.map Char.toLower) (List.map Char.toLower)) := by
    rw [toList_lowerAscii]
    exact splitAtLast?_map_toLower (by decide) s.toList
  rw [claimsSegwit, claimsSegwit, hcut]
  cases splitAtLast? Bech32.separator s.toList with
  | none => rfl
  | some parts =>
    have hlower : String.ofList (parts.1.map Char.toLower) = lowerAscii (String.ofList parts.1) := by
      rw [lowerAscii, String.toList_ofList]
    show r.knowsHrp default (String.ofList (parts.1.map Char.toLower)) = _
    rw [hlower, knowsHrp_lowerAscii]

end Registry

end CoinAddress
