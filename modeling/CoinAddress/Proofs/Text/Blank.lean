import CoinAddress.Proofs.Base58.Numeral
import CoinAddress.Proofs.Text.Hex
import CoinAddress.Text.Basic

/-!
# Texts between white space

Trimming takes the white space off both ends of a text and leaves the text that stands between, if
it has visible characters only (`trim_of_blank`). Digits in base 16 and 58 are visible, so numerals are
read behind and in front of any white space.
-/

namespace CoinAddress.Text

theorem isBlank_of_isGraphic {c : Char} (h : isGraphic c = true) : isBlank c = false := by
  simp only [isGraphic, Bool.and_eq_true, decide_eq_true_eq] at h
  simp only [isBlank, CodeRanges.contains, blankRanges, List.any_eq_false, List.forall_mem_cons,
    Bool.and_eq_true, decide_eq_true_eq, List.not_mem_nil, false_implies, implies_true, and_true]
  omega

/-! ## Trimming -/

section

variable {before cs behind : List Char}

theorem dropWhile_isBlank_append (hbefore : ∀ c ∈ before, isBlank c = true)
    (hcs : ∀ c ∈ cs, isGraphic c = true) (hne : cs ≠ []) :
    (before ++ (cs ++ behind)).dropWhile isBlank = cs ++ behind := by
  rw [List.dropWhile_append_of_pos hbefore]
  cases cs with
  | nil => exact absurd rfl hne
  | cons c cs =>
    have hc := isBlank_of_isGraphic (hcs c List.mem_cons_self)
    exact List.dropWhile_cons_of_neg (by simp [hc])

theorem trimChars_of_blank (hbefore : ∀ c ∈ before, isBlank c = true)
    (hbehind : ∀ c ∈ behind, isBlank c = true) (hcs : ∀ c ∈ cs, isGraphic c = true) :
    trimChars (before ++ (cs ++ behind)) = cs := by
  by_cases hne : cs = []
  · subst hne
    have hall : ∀ c ∈ before ++ behind, isBlank c = true :=
      List.forall_mem_append.2 ⟨hbefore, hbehind⟩
    rw [trimChars, List.nil_append, List.dropWhile_eq_nil_iff.2 hall]
    rfl
  · have hreverse : (behind.reverse ++ (cs.reverse ++ [])).dropWhile isBlank = cs.reverse ++ [] :=
      dropWhile_isBlank_append (fun c hc => hbehind c (List.mem_reverse.1 hc))
        (fun c hc => hcs c (List.mem_reverse.1 hc)) (by simpa using hne)
    rw [List.append_nil] at hreverse
    rw [trimChars, dropWhile_isBlank_append hbefore hcs hne, List.reverse_append, hreverse,
      List.reverse_reverse]

end

/-- **Trimming leaves the text between white space.** -/
theorem trim_of_blank {before s behind : String} (hbefore : ∀ c ∈ before.toList, isBlank c = true)
    (hbehind : ∀ c ∈ behind.toList, isBlank c = true) (hs : ∀ c ∈ s.toList, isGraphic c = true) :
    trim (before ++ s ++ behind) = s := by
  rw [trim, String.toList_append, String.toList_append, List.append_assoc,
    trimChars_of_blank hbefore hbehind hs, String.ofList_toList]

theorem trim_of_isGraphic {s : String} (hs : ∀ c ∈ s.toList, isGraphic c = true) : trim s = s := by
  have hnone : ∀ c ∈ "".toList, isBlank c = true := fun c hc => absurd hc List.not_mem_nil
  simpa using trim_of_blank hnone hnone hs

/-! ## Digits -/

theorem Hex.isGraphic_of_decode {s : String} {key : Bytes} (h : Hex.decode s = .ok key) :
    ∀ c ∈ s.toList, isGraphic c = true := by
  have hall : Hex.alphabet.all isGraphic = true := by decide
  intro c hc
  have hlower : c.toLower ∈ (lowerAscii s).toList := by
    rw [toList_lowerAscii]
    exact List.mem_map_of_mem hc
  rw [← isGraphic_toLower]
  exact List.all_eq_true.1 hall _ (Hex.mem_alphabet_of_decode h hlower)

end Text

theorem Base58.isGraphic_encode (bs : Bytes) :
    ∀ c ∈ (Base58.encode bs).toList, Text.isGraphic c = true := by
  have hall : alphabet.all Text.isGraphic = true := by decide
  exact fun c hc => List.all_eq_true.1 hall c (exists_decode_iff.1 ⟨bs, decode_encode bs⟩ c hc)

end CoinAddress
