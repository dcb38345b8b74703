import CoinAddress.Proofs.Base58.Rules
import CoinAddress.Proofs.Text.Ascii
import Mathlib.Data.Set.Function

/-!
# Texts of digits and byte strings correspond, one for one

A text stands for a byte string (`StandsFor`) if it consists of digits, has as many leading `1`s as
there are leading zero bytes, and is the same number in base 58 as the bytes are in base 256. The
reader gives a byte string for a text if and only if the text stands for it
(`decode_eq_ok_iff_standsFor`). It refuses all other texts, each for its first character that is no
digit (`decode_eq_error_iff`).

`decodeRaw_correspondence` puts this together: the reader matches the texts of digits with all byte
strings, and the writer finds the text of each.
-/

namespace CoinAddress.Base58

open Radix Text

variable {s : String} {bs : Bytes}

/-! ## What a text stands for -/

/-- A text and a byte string with the same number and the same zeros in front. -/
structure StandsFor (s : String) (bs : Bytes) : Prop where
  digits : ∀ c ∈ s.toList, c ∈ alphabet
  zeros : (s.toList.takeWhile (· == '1')).length = (bs.takeWhile (· == 0)).length
  number : value 58 (s.toList.map (alphabet.idxOf ·)) = value 256 (bs.map UInt8.toNat)

theorem idxOf_eq_zero_iff {c : Char} : alphabet.idxOf c = 0 ↔ c = '1' := by
  constructor
  · intro h
    have hc : c ∈ alphabet := List.idxOf_lt_length_iff.1 (h.trans_lt (by decide))
    rw [← digitChar_idxOf hc, h]
    decide
  · rintro rfl
    decide

/-- The `1`s in front are the zeros in front of the values. -/
theorem takeWhile_map_idxOf (cs : List Char) :
    (cs.map (alphabet.idxOf ·)).takeWhile (· == 0) =
      (cs.takeWhile (· == '1')).map (alphabet.idxOf ·) := by
  rw [List.takeWhile_map]
  congr 2
  funext c
  simp [idxOf_eq_zero_iff]

/-- **A text is read as the byte string that it stands for.** -/
theorem decode_eq_ok_iff_standsFor : decode s = .ok bs ↔ StandsFor s bs := by
  have hwritten : decode s = .ok bs ↔
      s.toList = (convert 256 58 (bs.map UInt8.toNat)).map digitChar := by
    rw [decode_eq_ok_iff, encode, ← encodeChars_eq, ← String.toList_inj, String.toList_ofList]
  have hzeros : ((s.toList.map (alphabet.idxOf ·)).takeWhile (· == 0)).length =
      ((bs.map UInt8.toNat).takeWhile (· == 0)).length ↔
        (s.toList.takeWhile (· == '1')).length = (bs.takeWhile (· == 0)).length := by
    rw [takeWhile_map_idxOf, takeWhile_map_toNat, List.length_map, List.length_map]
  rw [hwritten, eq_map_digitChar_iff fun d => lt_of_mem_convert (by decide),
    eq_convert_iff (by decide), hzeros]
  constructor
  · rintro ⟨hdigits, -, hzeros, hnumber⟩
    exact ⟨hdigits, hzeros, hnumber⟩
  · rintro ⟨hdigits, hzeros, hnumber⟩
    -- That the values are below 58 is no condition of its own: they are places in the alphabet.
    exact ⟨hdigits, List.forall_mem_map.2 fun c hc => List.idxOf_lt_length_of_mem (hdigits c hc),
      hzeros, hnumber⟩

/-! ## Other characters -/

/-- The fault of a character that is no digit. -/
def Fault.ofChar (c : Char) (index : Nat) : Fault :=
  if 128 ≤ c.toNat then .nonAscii index else .invalidDigit c index

/-- A fault that reports the first character that is no digit, with the number of bytes in front. -/
def Fault.IsFirst (fault : Fault) (s : String) : Prop :=
  ∃ before c behind, s.toList = before ++ c :: behind ∧ (∀ x ∈ before, x ∈ alphabet) ∧
    c ∉ alphabet ∧ fault = .ofChar c (byteLength before)

/-- Digits are passed, and the first other character ends the reading. -/
theorem digitValues_append {before : List Char} {c : Char} (hbefore : ∀ x ∈ before, x ∈ alphabet)
    (h : c ∉ alphabet) (index : Nat) (behind : List Char) :
    digitValues index (before ++ c :: behind) = .error (.ofChar c (index + before.length)) := by
  -- The place moves with the digits that are passed, so the induction is on all places at once.
  induction before generalizing index with
  | nil =>
    rw [List.nil_append, digitValues, digitValue?, List.idxOf?_eq_none_iff.2 h, Fault.ofChar]
    split <;> rfl
  | cons x before ih =>
    obtain ⟨hx, hbefore⟩ := List.forall_mem_cons.1 hbefore
    have hrest := ih hbefore (index + 1)
    rw [Nat.add_right_comm] at hrest
    rw [List.cons_append, digitValues, if_neg (Nat.not_le.2 (toNat_lt_of_mem_alphabet hx)),
      digitValue?_of_mem hx, List.length_cons]
    exact map_eq_error.2 hrest

/-- **The first character that is no digit is reported**, whatever stands behind it. -/
theorem decode_of_isFirst {fault : Fault} (h : fault.IsFirst s) : decode s = .error fault := by
  obtain ⟨before, c, behind, hs, hbefore, hc, rfl⟩ := h
  have hascii : ∀ x ∈ before, x.toNat < 128 := fun x hx => toNat_lt_of_mem_alphabet (hbefore x hx)
  have hread := digitValues_append hbefore hc 0 behind
  rw [← hs, Nat.zero_add, ← byteLength_of_lt hascii] at hread
  exact map_eq_error.2 hread

/-- Every text consists of digits, or a first character is none. -/
theorem digits_or_isFirst (s : String) :
    (∀ c ∈ s.toList, c ∈ alphabet) ∨ ∃ fault : Fault, fault.IsFirst s := by
  by_cases h : ∀ c ∈ s.toList, c ∈ alphabet
  · exact Or.inl h
  · obtain ⟨before, c, behind, hs, hbefore, hc⟩ := exists_first_not h
    exact Or.inr ⟨_, before, c, behind, hs, hbefore, hc, rfl⟩

/-- **A text is refused for its first character that is no digit and for nothing else.** -/
theorem decode_eq_error_iff {fault : Fault} : decode s = .error fault ↔ fault.IsFirst s :=
  (outcome_iff (digits_or_isFirst s) exists_decode_iff.2 fun _ => decode_of_isFirst).2 fault

/-! ## The correspondence -/

namespace Checked

theorem decodeRaw_encode (bs : Bytes) : decodeRaw (Base58.encode bs) = .ok bs :=
  decodeRaw_eq_ok_iff.2 (decode_encode bs)

theorem eq_encode_of_decodeRaw (h : decodeRaw s = .ok bs) : s = Base58.encode bs :=
  decode_eq_ok_iff.1 (decodeRaw_eq_ok_iff.1 h)

theorem exists_decodeRaw_iff : (∃ bs, decodeRaw s = .ok bs) ↔ ∀ c ∈ s.toList, c ∈ alphabet := by
  simp only [decodeRaw_eq_ok_iff, exists_decode_iff]

theorem decodeRaw_eq_error_iff {e : Error} :
    decodeRaw s = .error e ↔ ∃ fault : Fault, fault.IsFirst s ∧ e = .base58 fault := by
  constructor
  · intro h
    cases hbs : Base58.decode s with
    | ok bs => cases (decodeRaw_eq_ok_iff.2 hbs).symm.trans h
    | error fault =>
      cases (decodeRaw_of_error hbs).symm.trans h
      exact ⟨fault, decode_eq_error_iff.1 hbs, rfl⟩
  · rintro ⟨fault, hfault, rfl⟩
    exact decodeRaw_of_error (decode_of_isFirst hfault)

theorem decodeRaw_mapsTo :
    Set.MapsTo decodeRaw {s | ∀ c ∈ s.toList, c ∈ alphabet} (Set.range .ok) := by
  intro s hs
  obtain ⟨bs, hbs⟩ := exists_decodeRaw_iff.2 hs
  exact ⟨bs, hbs.symm⟩

theorem decodeRaw_injOn : Set.InjOn decodeRaw {s | ∀ c ∈ s.toList, c ∈ alphabet} := by
  intro s hs t _ heq
  obtain ⟨bs, hbs⟩ := exists_decodeRaw_iff.2 hs
  rw [eq_encode_of_decodeRaw hbs, eq_encode_of_decodeRaw (heq.symm.trans hbs)]

theorem decodeRaw_surjOn :
    Set.SurjOn decodeRaw {s | ∀ c ∈ s.toList, c ∈ alphabet} (Set.range .ok) := by
  rintro _ ⟨bs, rfl⟩
  exact ⟨Base58.encode bs, exists_decodeRaw_iff.1 ⟨bs, decodeRaw_encode bs⟩, decodeRaw_encode bs⟩

/-- **The reader matches the texts of digits with all byte strings, one for one.** The one text of a
byte string is what `Base58.encode` writes for it, as it does for a version, a payload and their
checksum; it has a leading `1` for each leading zero byte. Every other text is refused for its first
character that is no digit. -/
theorem decodeRaw_correspondence :
    Set.BijOn decodeRaw {s | ∀ c ∈ s.toList, c ∈ alphabet} (Set.range .ok) ∧
    (∀ bs, (∃! s, decodeRaw s = .ok bs) ∧ decodeRaw (Base58.encode bs) = .ok bs) ∧
    (∀ version payload, decodeRaw (encode version payload) =
      .ok (version ++ payload ++ (Hash.checksum (version ++ payload)).toList)) ∧
    (∀ s bs, decodeRaw s = .ok bs ↔ StandsFor s bs) ∧
    (∀ s, (∃ e, decodeRaw s = .error e) ↔ ∃ c ∈ s.toList, c ∉ alphabet) ∧
    ∀ s e, decodeRaw s = .error e ↔ ∃ fault : Fault, fault.IsFirst s ∧ e = .base58 fault := by
  refine ⟨⟨decodeRaw_mapsTo, decodeRaw_injOn, decodeRaw_surjOn⟩, fun bs => ⟨?_, decodeRaw_encode bs⟩,
    fun version payload => decodeRaw_encode _, fun s bs => ?_, fun s => ?_,
    fun s e => decodeRaw_eq_error_iff⟩
  · exact ⟨Base58.encode bs, decodeRaw_encode bs, fun s hs => eq_encode_of_decodeRaw hs⟩
  · rw [decodeRaw_eq_ok_iff, decode_eq_ok_iff_standsFor]
  · rw [exists_eq_error_iff, exists_decodeRaw_iff]
    simp

/-- Two characters are no digits, and the first of them, which is beyond ASCII, is reported. -/
example : decodeRaw "11é0" = .error (.base58 (.nonAscii 2)) := by decide +kernel

end Checked

end CoinAddress.Base58
