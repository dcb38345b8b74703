import CoinAddress.Bech32.Encoded
import CoinAddress.Proofs.Except
import CoinAddress.Proofs.Text.Ascii

/-!
# Which texts are human-readable parts

`Hrp.validate_eq_ok_iff` says it by the characters: at least one and at most eighty-three, all of
them visible and none a capital. Such a text has as many bytes as characters.
-/

namespace CoinAddress.Bech32.Hrp

open Text

/-- A character that may stand in a human-readable part. -/
def IsChar (c : Char) : Prop := isGraphic c = true ∧ c.isUpper = false

theorem byteLength_of_isChar {cs : List Char} (h : ∀ c ∈ cs, IsChar c) :
    byteLength cs = cs.length :=
  byteLength_of_lt fun c hc => toNat_lt_of_isGraphic (h c hc).1

theorem any_isUpper_of_isChar {cs : List Char} (h : ∀ c ∈ cs, IsChar c) :
    cs.any Char.isUpper = false :=
  List.any_eq_false.2 fun c hc => by simp [(h c hc).2]

theorem check_eq_ok_iff {hrp : String} : check hrp = .ok () ↔
    hrp.toList ≠ [] ∧ hrp.toList.length ≤ maxLength ∧ ∀ c ∈ hrp.toList, IsChar c := by
  constructor
  · intro h
    simp only [check] at h
    split at h
    · cases h
    · next hlen =>
      obtain ⟨hpos, hmax⟩ := not_or.1 hlen
      split at h
      · cases h
      · next hfind =>
        split at h
        · cases h
        · next hupper =>
          have hchar : ∀ c ∈ hrp.toList, IsChar c := fun c hc => by
            have hgraphic := List.find?_eq_none.1 hfind c hc
            have hcase := List.any_eq_false.1 (Bool.eq_false_iff.2 hupper) c hc
            exact ⟨by simpa using hgraphic, by simpa using hcase⟩
          rw [byteLength_of_isChar hchar] at hpos hmax
          exact ⟨List.ne_nil_of_length_pos (Nat.pos_of_ne_zero hpos), Nat.not_lt.1 hmax, hchar⟩
  · rintro ⟨hne, hmax, hchar⟩
    have hfind : hrp.toList.find? (fun c => !isGraphic c) = none :=
      List.find?_eq_none.2 fun c hc => by simp [(hchar c hc).1]
    have hpos := List.length_pos_iff.2 hne
    simp only [check]
    rw [byteLength_of_isChar hchar, if_neg (by omega), hfind]
    exact if_neg (by rw [any_isUpper_of_isChar hchar]; decide)

theorem validate_eq_ok_iff {hrp : String} : validate hrp = .ok () ↔
    hrp.toList ≠ [] ∧ hrp.toList.length ≤ maxLength ∧ ∀ c ∈ hrp.toList, IsChar c := by
  rw [validate, mapError_eq_ok, check_eq_ok_iff]

/-- A human-readable part is in lower case. -/
theorem lowerAscii_of_validate {hrp : String} (h : validate hrp = .ok ()) :
    lowerAscii hrp = hrp := by
  obtain ⟨-, -, hchar⟩ := validate_eq_ok_iff.1 h
  exact lowerAscii_eq_self (any_isUpper_of_isChar hchar)

end CoinAddress.Bech32.Hrp
