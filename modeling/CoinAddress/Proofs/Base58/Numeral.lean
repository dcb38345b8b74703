import CoinAddress.Base58.Numeral
import CoinAddress.Proofs.Except
import CoinAddress.Proofs.Radix
import Mathlib.Data.List.GetD

/-!
# Base-58 text stands for byte strings, one for one

Writing and reading change the base of a numeral between 256 and 58 (`encodeChars_eq`,
`ofDigitValues_eq`), and a change of base is undone by the change back. Hence each byte string has
exactly one text: `decode_eq_ok_iff` says that `encode` writes it. Every text of digits is that of a
byte string (`exists_decode_iff`).
-/

namespace CoinAddress.Base58

open Radix

/-! ## Digits -/

theorem digitChar_of_digitValue? {c : Char} {n : Nat} (h : digitValue? c = some n) :
    n < 58 ∧ digitChar n = c := by
  obtain ⟨hn, hc, -⟩ := List.idxOf?_eq_some_iff.1 h
  refine ⟨hn, ?_⟩
  rw [digitChar, List.getD_eq_getElem _ _ hn, hc]

theorem digitChar_mem {n : Nat} (h : n < 58) : digitChar n ∈ alphabet := by
  have hlt : n < alphabet.length := h
  rw [digitChar, List.getD_eq_getElem _ _ hlt]
  exact List.getElem_mem hlt

theorem digitChar_idxOf {c : Char} (h : c ∈ alphabet) : digitChar (alphabet.idxOf c) = c := by
  have hlt := List.idxOf_lt_length_of_mem h
  rw [digitChar, List.getD_eq_getElem _ _ hlt, List.getElem_idxOf hlt]

theorem toNat_digitChar_lt {n : Nat} (h : n < 58) : (digitChar n).toNat < 128 := by
  have all : ∀ m ∈ List.range 58, (digitChar m).toNat < 128 := by decide
  exact all n (List.mem_range.2 h)

theorem idxOf_digitChar {n : Nat} (h : n < 58) : alphabet.idxOf (digitChar n) = n := by
  rw [List.idxOf_eq_getD_idxOf?, ← digitValue?, digitValue?_digitChar h, Option.getD_some]

theorem toNat_lt_of_mem_alphabet {c : Char} (h : c ∈ alphabet) : c.toNat < 128 := by
  rw [← digitChar_idxOf h]
  exact toNat_digitChar_lt (List.idxOf_lt_length_of_mem h)

theorem digitValue?_of_mem {c : Char} (h : c ∈ alphabet) :
    digitValue? c = some (alphabet.idxOf c) := by
  have hread := digitValue?_digitChar (List.idxOf_lt_length_of_mem h)
  rwa [digitChar_idxOf h] at hread

/-- A text is written with digits if it reads as them. -/
theorem eq_map_digitChar_iff {cs : List Char} {ds : List Nat} (h : ∀ d ∈ ds, d < 58) :
    cs = ds.map digitChar ↔ (∀ c ∈ cs, c ∈ alphabet) ∧ cs.map (alphabet.idxOf ·) = ds := by
  constructor
  · rintro rfl
    refine ⟨List.forall_mem_map.2 fun d hd => digitChar_mem (h d hd), ?_⟩
    rw [List.map_map]
    exact (List.map_congr_left fun d hd => idxOf_digitChar (h d hd)).trans (List.map_id _)
  · rintro ⟨hdigits, rfl⟩
    rw [List.map_map]
    exact ((List.map_congr_left fun c hc => digitChar_idxOf (hdigits c hc)).trans
      (List.map_id _)).symm

/-- The texts that read as digits are those written with them. -/
theorem digitValues_eq_ok_iff {index : Nat} {cs : List Char} {ds : List Nat} :
    digitValues index cs = .ok ds ↔ (∀ d ∈ ds, d < 58) ∧ cs = ds.map digitChar := by
  induction cs generalizing index ds with
  | nil =>
    simp only [digitValues, Except.ok.injEq, List.nil_eq, List.map_eq_nil_iff]
    constructor
    · rintro rfl
      simp
    · exact fun h => h.2
  | cons c cs ih =>
    rw [digitValues]
    constructor
    · intro h
      split at h
      · cases h
      · split at h
        · cases h
        · next d hd =>
          obtain ⟨es, hes, rfl⟩ := map_eq_ok.1 h
          obtain ⟨hlt, rfl⟩ := ih.1 hes
          obtain ⟨hd58, rfl⟩ := digitChar_of_digitValue? hd
          exact ⟨List.forall_mem_cons.2 ⟨hd58, hlt⟩, rfl⟩
    · rintro ⟨hlt, hcs⟩
      obtain ⟨d, es, rfl, rfl, rfl⟩ := List.map_eq_cons_iff.1 hcs.symm
      obtain ⟨hd, hes⟩ := List.forall_mem_cons.1 hlt
      rw [if_neg (Nat.not_le.2 (toNat_digitChar_lt hd)), digitValue?_digitChar hd]
      exact map_eq_ok.2 ⟨es, ih.2 ⟨hes, rfl⟩, rfl⟩

/-! ## Writing and reading as changes of base -/

theorem toNat_lt_of_mem_map {bs : Bytes} {d : Nat} (h : d ∈ bs.map UInt8.toNat) : d < 256 := by
  obtain ⟨b, -, rfl⟩ := List.mem_map.1 h
  exact b.toNat_lt

/-- The zero bytes in front are the zeros in front of the numbers. -/
theorem takeWhile_map_toNat (bs : Bytes) :
    (bs.map UInt8.toNat).takeWhile (· == 0) = (bs.takeWhile (· == 0)).map UInt8.toNat := by
  rw [List.takeWhile_map]
  congr 2
  funext b
  simp [← UInt8.toNat_inj]

theorem encodeChars_eq (bs : Bytes) :
    encodeChars bs = (convert 256 58 (bs.map UInt8.toNat)).map digitChar := by
  rw [encodeChars, convert, List.map_append, List.map_replicate, takeWhile_map_toNat,
    List.length_map]
  rfl

theorem ofDigitValues_eq (ds : List Nat) :
    ofDigitValues ds = (convert 58 256 ds).map UInt8.ofNat := by
  rw [ofDigitValues, convert, List.map_append, List.map_replicate]
  rfl

theorem map_toNat_ofDigitValues (ds : List Nat) :
    (ofDigitValues ds).map UInt8.toNat = convert 58 256 ds := by
  rw [ofDigitValues_eq, List.map_map]
  refine (List.map_congr_left fun d hd => ?_).trans (List.map_id _)
  exact UInt8.toNat_ofNat_of_lt' (lt_of_mem_convert (by decide) hd)

theorem ofDigitValues_convert (bs : Bytes) :
    ofDigitValues (convert 256 58 (bs.map UInt8.toNat)) = bs := by
  rw [ofDigitValues_eq, convert_convert (by decide) (by decide) fun d => toNat_lt_of_mem_map,
    List.map_map]
  refine (List.map_congr_left fun b _ => ?_).trans (List.map_id _)
  exact UInt8.ofNat_toNat

/-! ## Texts -/

/-- **Each byte string has exactly one text, the one that is written for it.** -/
theorem decode_eq_ok_iff {s : String} {bs : Bytes} : decode s = .ok bs ↔ s = encode bs := by
  rw [decode, map_eq_ok]
  constructor
  · rintro ⟨ds, hds, rfl⟩
    obtain ⟨hlt, hs⟩ := digitValues_eq_ok_iff.1 hds
    rw [encode, encodeChars_eq, map_toNat_ofDigitValues, convert_convert (by decide) (by decide) hlt,
      ← hs, String.ofList_toList]
  · rintro rfl
    refine ⟨convert 256 58 (bs.map UInt8.toNat), ?_, ofDigitValues_convert bs⟩
    rw [encode, String.toList_ofList, encodeChars_eq]
    exact digitValues_eq_ok_iff.2 ⟨fun d => lt_of_mem_convert (by decide), rfl⟩

theorem decode_encode (bs : Bytes) : decode (encode bs) = .ok bs := decode_eq_ok_iff.2 rfl

/-- **A text stands for a byte string if and only if all its characters are digits.** -/
theorem exists_decode_iff {s : String} :
    (∃ bs, decode s = .ok bs) ↔ ∀ c ∈ s.toList, c ∈ alphabet := by
  constructor
  · rintro ⟨bs, h⟩
    obtain ⟨ds, hds, -⟩ := map_eq_ok.1 h
    obtain ⟨hlt, hs⟩ := digitValues_eq_ok_iff.1 hds
    exact ((eq_map_digitChar_iff hlt).1 hs).1
  · intro h
    have hlt : ∀ d ∈ s.toList.map (alphabet.idxOf ·), d < 58 :=
      List.forall_mem_map.2 fun c hc => List.idxOf_lt_length_of_mem (h c hc)
    have hs := (eq_map_digitChar_iff hlt).2 ⟨h, rfl⟩
    exact ⟨_, map_eq_ok.2 ⟨_, digitValues_eq_ok_iff.2 ⟨hlt, hs⟩, rfl⟩⟩

/-- A text is refused if and only if it has another character. -/
theorem exists_decode_eq_error_iff {s : String} :
    (∃ fault, decode s = .error fault) ↔ ∃ c ∈ s.toList, c ∉ alphabet := by
  rw [exists_eq_error_iff, exists_decode_iff]
  simp

/-- The digit zero of other numerals is no base-58 digit. -/
theorem zero_not_mem_of_decode {s : String} {bs : Bytes} (h : decode s = .ok bs) :
    '0' ∉ s.toList := by
  intro hmem
  have hzero : '0' ∉ alphabet := by decide
  exact hzero (exists_decode_iff.1 ⟨bs, h⟩ '0' hmem)

/-- A byte takes two digits at most. -/
theorem length_encode_le (bs : Bytes) : (encode bs).toList.length ≤ 2 * bs.length := by
  have hlen : (convert 256 58 (bs.map UInt8.toNat)).length ≤ 2 * (bs.map UInt8.toNat).length :=
    length_convert_le (by decide) (by decide) (by decide) fun d => toNat_lt_of_mem_map
  rw [encode, String.toList_ofList, encodeChars_eq, List.length_map]
  rwa [List.length_map] at hlen

end CoinAddress.Base58
