import CoinAddress.Json.Reader
import CoinAddress.Json.Record
import CoinAddress.Json.Writer
import Mathlib.Data.List.TakeWhile

/-!
# Strings and numbers in JSON

What is written for a string or a whole number is read back, whatever stands behind it: a string
ends with its closing quote (`exists_writeString_eq`), a number with the first character that cannot
go on a number (`readNumber_toDigits`).

A string may hold any characters. Each is written as itself or as one escape, and both are read as
its number (`readUnits_escapeChar`); as no character is half of a surrogate pair, the numbers give
the characters back (`charsOfUnits_map_toNat`).
-/

namespace CoinAddress.Json

/-! ## Escapes -/

theorem hexValue?_digitChar {n : Nat} (h : n < 16) : hexValue? (Text.Hex.digitChar n) = some n := by
  have all : ∀ m ∈ List.range 16, hexValue? (Text.Hex.digitChar m) = some m := by decide
  exact all n (List.mem_range.2 h)

/-- The four digits of a control character give its number. -/
theorem hexUnit?_of_lt {n : Nat} (h : n < 32) :
    hexUnit? '0' '0' (Text.Hex.digitChar (n / 16)) (Text.Hex.digitChar (n % 16)) = some n := by
  have hzero : hexValue? '0' = some 0 := rfl
  have hvalue : ((0 * 16 + 0) * 16 + n / 16) * 16 + n % 16 = n := by omega
  simp only [hexUnit?, hzero, hexValue?_digitChar (show n / 16 < 16 by omega),
    hexValue?_digitChar (Nat.mod_lt n (show 0 < 16 by decide)), Option.bind_eq_bind,
    Option.bind_some, hvalue, Option.pure_def]

section

variable {c : Char} {n : Nat} (rest : List Char)

/-- A letter behind a backslash stands for one number. -/
theorem readUnits_letter (h : escapedUnit? c = some n) : readUnits ('\\' :: c :: rest) =
    (readUnits rest).map fun r => (n :: r.1, r.2) := by
  have hc : c ≠ 'u' := by
    rintro rfl
    cases h
  rw [readUnits.eq_4 c rest fun _ _ _ _ _ e _ => hc e, h]
  cases readUnits rest <;> rfl

theorem readUnits_digits {a b d e : Char} (h : hexUnit? a b d e = some n) :
    readUnits ('\\' :: 'u' :: a :: b :: d :: e :: rest) =
      (readUnits rest).map fun r => (n :: r.1, r.2) := by
  rw [readUnits, h]
  cases readUnits rest <;> rfl

theorem readUnits_plain (hquote : c ≠ '"') (hslash : c ≠ '\\') (h : 32 ≤ c.toNat) :
    readUnits (c :: rest) = (readUnits rest).map fun r => (c.toNat :: r.1, r.2) := by
  rw [readUnits.eq_5 c rest hquote (fun _ _ _ _ _ e _ => hslash e) (fun _ _ e _ => hslash e),
    if_neg (Nat.not_lt.2 h)]
  cases readUnits rest <;> rfl

end

/-- **Each character is read as its number**, however it is written. -/
theorem readUnits_escapeChar (c : Char) (rest : List Char) :
    readUnits (escapeChar c ++ rest) = (readUnits rest).map fun r => (c.toNat :: r.1, r.2) := by
  rw [escapeChar]
  split_ifs with hquote hslash hline hreturn htab hback hfeed hcontrol
  · exact readUnits_letter rest (by rw [hquote]; rfl)
  · exact readUnits_letter rest (by rw [hslash]; rfl)
  · exact readUnits_letter rest (by rw [hline]; rfl)
  · exact readUnits_letter rest (by rw [hreturn]; rfl)
  · exact readUnits_letter rest (by rw [htab]; rfl)
  · exact readUnits_letter rest (by rw [hback]; rfl)
  · exact readUnits_letter rest (by rw [hfeed]; rfl)
  · exact readUnits_digits rest (hexUnit?_of_lt hcontrol)
  · exact readUnits_plain rest hquote hslash (Nat.not_lt.1 hcontrol)

/-! ## Strings -/

theorem readUnits_flatMap_escapeChar (cs rest : List Char) :
    readUnits (cs.flatMap escapeChar ++ '"' :: rest) = some (cs.map Char.toNat, rest) := by
  induction cs with
  | nil => rfl
  | cons c cs ih =>
    rw [List.flatMap_cons, List.append_assoc, readUnits_escapeChar, ih]
    rfl

/-- No character is half of a surrogate pair. -/
theorem isHighUnit_and_isLowUnit_toNat (c : Char) :
    isHighUnit c.toNat = false ∧ isLowUnit c.toNat = false := by
  have hvalid : c.toNat < 0xD800 ∨ 0xDFFF < c.toNat ∧ c.toNat < 0x110000 := c.valid
  constructor
  · rw [isHighUnit, ← Bool.decide_and, decide_eq_false_iff_not]
    omega
  · rw [isLowUnit, ← Bool.decide_and, decide_eq_false_iff_not]
    omega

theorem charsOfUnits_map_toNat (cs : List Char) : charsOfUnits (cs.map Char.toNat) = some cs := by
  induction cs with
  | nil => rfl
  | cons c cs ih =>
    obtain ⟨hhigh, hlow⟩ := isHighUnit_and_isLowUnit_toNat c
    cases cs with
    | nil => simp [charsOfUnits, hhigh, hlow]
    | cons d cs =>
      rw [List.map_cons] at ih
      simp [charsOfUnits, hhigh, hlow, ih]

/-- **A string is read back**, also one that is no text. -/
theorem exists_writeString_eq (t : StringValue) :
    ∃ body, writeString t = '"' :: body ∧ ∀ rest, readString (body ++ rest) = some (t, rest) := by
  cases t with
  | none =>
    refine ⟨_, rfl, fun rest => ?_⟩
    have hunits : readUnits ('\\' :: 'u' :: 'd' :: '8' :: '0' :: '0' :: '"' :: rest) =
        some ([0xD800], rest) := readUnits_digits ('"' :: rest) (n := 0xD800) rfl
    exact congrArg (Option.map _) hunits
  | some s =>
    refine ⟨_, rfl, fun rest => ?_⟩
    rw [List.append_assoc, List.singleton_append, readString, readUnits_flatMap_escapeChar]
    simp only [Option.map_some, charsOfUnits_map_toNat, String.ofList_toList]

/-! ## Numbers -/

/-- The characters behind a number, of which the first does not go on a number. -/
def EndsNumber (cs : List Char) : Prop :=
  ∀ c ∈ cs.head?, c.isDigit = false ∧ c ≠ '.' ∧ c ≠ 'e' ∧ c ≠ 'E'

theorem endsNumber_nil : EndsNumber [] := fun _ hc => nomatch hc

theorem isDigit_of_mem_toDigits {n : Nat} {c : Char} (h : c ∈ Nat.toDigits 10 n) :
    c.isDigit = true := Nat.isDigit_of_mem_toDigits (by decide) (by decide) h

/-- No number but zero starts with the digit zero. -/
theorem eq_zero_of_toDigits_eq_cons {n : Nat} {ds : List Char} (h : Nat.toDigits 10 n = '0' :: ds) :
    n = 0 := by
  induction n using Nat.strong_induction_on generalizing ds with
  | _ n ih =>
    by_cases hn : n < 10
    · have hdigit : ∀ m ∈ List.range 10, m.digitChar = '0' → m = 0 := by decide
      rw [Nat.toDigits_of_lt_base hn] at h
      exact hdigit n (List.mem_range.2 hn) (List.cons.inj h).1
    · rw [Nat.toDigits_of_base_le (by decide) (Nat.not_lt.1 hn)] at h
      rcases List.append_eq_cons_iff.1 h with ⟨hnil, -⟩ | ⟨es, hes, -⟩
      · exact absurd hnil Nat.toDigits_ne_nil
      · have := ih (n / 10) (by omega) hes
        omega

section

variable {rest : List Char} (h : EndsNumber rest)
include h

theorem readDigits_append {ds : List Char} (hds : ∀ c ∈ ds, c.isDigit = true) (hne : ds ≠ []) :
    readDigits (ds ++ rest) = some (ds, rest) := by
  have hrest : rest.takeWhile Char.isDigit = [] ∧ rest.dropWhile Char.isDigit = rest := by
    cases rest with
    | nil => exact ⟨rfl, rfl⟩
    | cons c rest =>
      have hc := (h c rfl).1
      exact ⟨List.takeWhile_cons_of_neg (by simp [hc]), List.dropWhile_cons_of_neg (by simp [hc])⟩
  rw [readDigits, List.takeWhile_append_of_pos hds, List.dropWhile_append_of_pos hds, hrest.1,
    hrest.2, List.append_nil]
  cases ds with
  | nil => exact absurd rfl hne
  | cons d ds => rfl

theorem readWhole_toDigits (n : Nat) :
    readWhole (Nat.toDigits 10 n ++ rest) = some (Nat.toDigits 10 n, rest) := by
  by_cases hn : n = 0
  · rw [hn, Nat.toDigits_zero]
    rfl
  · rw [readWhole.eq_2, readDigits_append h (fun _ => isDigit_of_mem_toDigits) Nat.toDigits_ne_nil]
    intro cs hcs
    rcases List.append_eq_cons_iff.1 hcs with ⟨hnil, -⟩ | ⟨ds, hds, -⟩
    · exact absurd hnil Nat.toDigits_ne_nil
    · exact hn (eq_zero_of_toDigits_eq_cons hds)

theorem readFraction_of_endsNumber : readFraction rest = some ([], rest) := by
  rw [readFraction.eq_2]
  rintro cs rfl
  exact (h '.' rfl).2.1 rfl

theorem readExponent_of_endsNumber : readExponent rest = some ([], rest) := by
  cases rest with
  | nil => rfl
  | cons c rest =>
    obtain ⟨-, -, he, hE⟩ := h c rfl
    exact if_neg (not_or.2 ⟨he, hE⟩)

/-- **A whole number is read back.** -/
theorem readNumber_toDigits (n : Nat) :
    readNumber (Nat.toDigits 10 n ++ rest) = some (.ofNat n, rest) := by
  have hsign : readSign (Nat.toDigits 10 n ++ rest) = ([], Nat.toDigits 10 n ++ rest) := by
    rw [readSign.eq_2]
    intro cs hcs
    rcases List.append_eq_cons_iff.1 hcs with ⟨hnil, -⟩ | ⟨ds, hds, -⟩
    · exact absurd hnil Nat.toDigits_ne_nil
    · have hminus := isDigit_of_mem_toDigits (n := n) (hds ▸ List.mem_cons_self)
      cases hminus
  simp only [readNumber, hsign, readWhole_toDigits h, readFraction_of_endsNumber h,
    readExponent_of_endsNumber h, Option.bind_eq_bind, Option.bind_some, List.nil_append,
    List.append_nil, ← Nat.toString_eq_ofList_toDigits]
  rfl

end

theorem toList_toString (n : Nat) : (toString n).toList = Nat.toDigits 10 n := by
  rw [Nat.toString_eq_ofList_toDigits, String.toList_ofList]

/-- The digits of a number have its value. -/
theorem natOfDigits?_toString (n : Nat) : natOfDigits? (toString n).toList = some n := by
  have hall : (Nat.toDigits 10 n).all Char.isDigit = true :=
    List.all_eq_true.2 fun _ => isDigit_of_mem_toDigits
  rw [toList_toString, natOfDigits?, if_pos hall]
  exact congrArg some Nat.ofDigitChars_ten_toDigits

end CoinAddress.Json
