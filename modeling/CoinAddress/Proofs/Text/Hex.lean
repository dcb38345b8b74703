import Mathlib.Data.List.GetD
import CoinAddress.Proofs.Except
import CoinAddress.Proofs.Text.Ascii
import CoinAddress.Text.Hex

/-!
# Hexadecimal texts stand for their bytes up to case

`Hex.decode_eq_ok_iff` says that a text reads as the bytes whose hexadecimal text it is in lower
case. A text with other characters than ASCII has a byte that is no digit, so it is never read.
-/

namespace CoinAddress.Text.Hex

/-! ## Digits -/

/-- The character with the number of a byte, in lower case. -/
def lowerChar (b : UInt8) : Char := (Char.ofNat b.toNat).toLower

theorem lt_of_digitValue? {b : UInt8} {n : Nat} (h : digitValue? b = some n) : n < 16 := by
  simp only [digitValue?] at h
  split at h
  · cases h
    omega
  · split at h
    · cases h
      omega
    · split at h
      · cases h
        omega
      · cases h

/-- A byte is a digit if its character is one in lower case. -/
theorem digitValue?_eq_some_iff {b : UInt8} {n : Nat} : digitValue? b = some n ↔
    n < 16 ∧ b.toNat < 128 ∧ lowerChar b = digitChar n := by
  have all : ∀ m ∈ List.range 256, ∀ n ∈ List.range 16, digitValue? (UInt8.ofNat m) = some n ↔
      m < 128 ∧ lowerChar (UInt8.ofNat m) = digitChar n := by decide +kernel
  have hb := all b.toNat (List.mem_range.2 b.toNat_lt) n
  rw [UInt8.ofNat_toNat] at hb
  constructor
  · intro h
    have hn := lt_of_digitValue? h
    exact ⟨hn, (hb (List.mem_range.2 hn)).1 h⟩
  · rintro ⟨hn, h⟩
    exact (hb (List.mem_range.2 hn)).2 h

theorem digitChar_mem {n : Nat} (h : n < 16) : digitChar n ∈ alphabet := by
  have hlt : n < alphabet.length := h
  rw [digitChar, List.getD_eq_getElem _ _ hlt]
  exact List.getElem_mem hlt

theorem toNat_digitChar_lt {n : Nat} (h : n < 16) : (digitChar n).toNat < 128 := by
  have all : ∀ m ∈ List.range 16, (digitChar m).toNat < 128 := by decide
  exact all n (List.mem_range.2 h)

theorem isUpper_digitChar {n : Nat} (h : n < 16) : (digitChar n).isUpper = false := by
  have all : ∀ m ∈ List.range 16, (digitChar m).isUpper = false := by decide
  exact all n (List.mem_range.2 h)

/-! ## Pairs of digits -/

theorem encodeChars_cons (b : UInt8) (bs : Bytes) : encodeChars (b :: bs) =
    digitChar (b.toNat / 16) :: digitChar (b.toNat % 16) :: encodeChars bs := rfl

theorem div_lt_and_mod_lt (b : UInt8) : b.toNat / 16 < 16 ∧ b.toNat % 16 < 16 := by
  have := b.toNat_lt
  omega

theorem length_encodeChars (bs : Bytes) : (encodeChars bs).length = 2 * bs.length := by
  induction bs with
  | nil => rfl
  | cons b bs ih =>
    rw [encodeChars_cons, List.length_cons, List.length_cons, ih, List.length_cons]
    omega

theorem exists_digitChar_of_mem_encodeChars {bs : Bytes} {c : Char} (h : c ∈ encodeChars bs) :
    ∃ n < 16, digitChar n = c := by
  obtain ⟨b, -, hc⟩ := List.mem_flatMap.1 h
  obtain ⟨hhigh, hlow⟩ := div_lt_and_mod_lt b
  rcases List.mem_cons.1 hc with rfl | hc
  · exact ⟨_, hhigh, rfl⟩
  · rw [List.mem_singleton.1 hc]
    exact ⟨_, hlow, rfl⟩

theorem toNat_lt_of_mem_encodeChars {bs : Bytes} {c : Char} (h : c ∈ encodeChars bs) :
    c.toNat < 128 := by
  obtain ⟨n, hn, rfl⟩ := exists_digitChar_of_mem_encodeChars h
  exact toNat_digitChar_lt hn

/-- What is read in pairs are digits, which are written the same way in lower case. -/
theorem encodeChars_of_decodePairs {index : Nat} {bs key : Bytes} (heven : bs.length % 2 = 0)
    (h : decodePairs index bs = .ok key) :
    (∀ b ∈ bs, b.toNat < 128) ∧ encodeChars key = bs.map lowerChar := by
  fun_induction decodePairs index bs generalizing key with
  | case1 => cases h
  | case2 => cases h
  | case3 index high low rest x hhigh y hlow ih =>
    obtain ⟨more, hmore, rfl⟩ := map_eq_ok.1 h
    rw [List.length_cons, List.length_cons] at heven
    obtain ⟨hascii, hrest⟩ := ih (by omega) hmore
    obtain ⟨hx, hhigh, hxc⟩ := digitValue?_eq_some_iff.1 hhigh
    obtain ⟨hy, hlow, hyc⟩ := digitValue?_eq_some_iff.1 hlow
    have hbyte : (UInt8.ofNat (16 * x + y)).toNat = 16 * x + y :=
      UInt8.toNat_ofNat_of_lt' (show 16 * x + y < 256 by omega)
    refine ⟨?_, ?_⟩
    · intro b hb
      rcases List.mem_cons.1 hb with rfl | hb
      · exact hhigh
      · rcases List.mem_cons.1 hb with rfl | hb
        · exact hlow
        · exact hascii b hb
    · have hdiv : (16 * x + y) / 16 = x := by omega
      have hmod : (16 * x + y) % 16 = y := by omega
      rw [encodeChars_cons, hbyte, hdiv, hmod, hrest, ← hxc, ← hyc]
      rfl
  | case4 bs index hpair =>
    cases h
    match bs with
    | [] => exact ⟨fun b hb => absurd hb List.not_mem_nil, rfl⟩
    | [b] => cases heven
    | high :: low :: rest => exact absurd rfl (hpair high low rest)

theorem decodePairs_of_map_lowerChar {index : Nat} {bs key : Bytes}
    (hascii : ∀ b ∈ bs, b.toNat < 128) (h : bs.map lowerChar = encodeChars key) :
    decodePairs index bs = .ok key := by
  induction key generalizing index bs with
  | nil =>
    rw [List.map_eq_nil_iff.1 h]
    rfl
  | cons b key ih =>
    rw [encodeChars_cons] at h
    obtain ⟨high, rest, rfl, hhigh, h⟩ := List.map_eq_cons_iff.1 h
    obtain ⟨low, rest, rfl, hlow, h⟩ := List.map_eq_cons_iff.1 h
    obtain ⟨hascii_high, hascii⟩ := List.forall_mem_cons.1 hascii
    obtain ⟨hascii_low, hascii⟩ := List.forall_mem_cons.1 hascii
    obtain ⟨hdiv, hmod⟩ := div_lt_and_mod_lt b
    rw [decodePairs, digitValue?_eq_some_iff.2 ⟨hdiv, hascii_high, hhigh⟩,
      digitValue?_eq_some_iff.2 ⟨hmod, hascii_low, hlow⟩]
    refine map_eq_ok.2 ⟨key, ih hascii h, ?_⟩
    rw [Nat.div_add_mod, UInt8.ofNat_toNat]

/-! ## Texts -/

theorem map_lowerChar_utf8 {cs : List Char} (h : ∀ c ∈ cs, c.toNat < 128) :
    (utf8 cs).map lowerChar = cs.map Char.toLower := by
  rw [utf8_of_lt h, List.map_map]
  refine List.map_congr_left fun c hc => ?_
  show (Char.ofNat (UInt8.ofNat c.toNat).toNat).toLower = c.toLower
  rw [toNat_ofNat_toNat (h c hc), Char.ofNat_toNat]

/-- **A text reads as the bytes whose text it is in lower case.** -/
theorem decode_eq_ok_iff {s : String} {key : Bytes} :
    decode s = .ok key ↔ encode key = lowerAscii s := by
  have htext : encode key = lowerAscii s ↔ encodeChars key = s.toList.map Char.toLower :=
    String.ofList_inj
  rw [htext, decode]
  constructor
  · intro h
    split at h
    · cases h
    · next heven =>
      obtain ⟨hascii, hkey⟩ := encodeChars_of_decodePairs (by omega) h
      rw [hkey]
      apply map_lowerChar_utf8
      intro c hc
      exact toNat_lt_of_utf8EncodeChar fun b hb => hascii b (List.mem_flatMap.2 ⟨c, hc, hb⟩)
  · intro h
    have hascii : ∀ c ∈ s.toList, c.toNat < 128 := by
      intro c hc
      have hmem : c.toLower ∈ encodeChars key := by
        rw [h]
        exact List.mem_map_of_mem hc
      have hlower := toNat_lt_of_mem_encodeChars hmem
      cases hcase : c.isUpper with
      | false => rwa [toLower_eq_self hcase] at hlower
      | true =>
        have := isUpper_iff.1 hcase
        omega
    have hlen : (utf8 s.toList).length = 2 * key.length := by
      rw [← length_encodeChars, h, utf8_of_lt hascii, List.length_map, List.length_map]
    have hbytes : ∀ b ∈ utf8 s.toList, b.toNat < 128 := by
      rw [utf8_of_lt hascii]
      intro b hb
      obtain ⟨c, hc, rfl⟩ := List.mem_map.1 hb
      rw [toNat_ofNat_toNat (hascii c hc)]
      exact hascii c hc
    rw [hlen, if_neg (by omega)]
    exact decodePairs_of_map_lowerChar hbytes ((map_lowerChar_utf8 hascii).trans h.symm)

/-- What is written is in lower case. -/
theorem lowerAscii_encode (bs : Bytes) : lowerAscii (encode bs) = encode bs := by
  apply lowerAscii_eq_self
  rw [encode, String.toList_ofList, List.any_eq_false]
  intro c hc
  obtain ⟨n, hn, rfl⟩ := exists_digitChar_of_mem_encodeChars hc
  simp [isUpper_digitChar hn]

theorem byteLength_of_lowerAscii {s : String} {key : Bytes} (h : lowerAscii s = encode key) :
    byteLength s.toList = 2 * key.length := by
  have hchars : s.toList.map Char.toLower = encodeChars key := String.ofList_inj.1 h
  rw [← byteLength_map_toLower, hchars, byteLength_of_lt fun c => toNat_lt_of_mem_encodeChars,
    length_encodeChars]

/-- A text that is read has only digits in lower case. -/
theorem mem_alphabet_of_decode {s : String} {key : Bytes} (h : decode s = .ok key) {c : Char}
    (hc : c ∈ (lowerAscii s).toList) : c ∈ alphabet := by
  rw [← decode_eq_ok_iff.1 h, encode, String.toList_ofList] at hc
  obtain ⟨n, hn, rfl⟩ := exists_digitChar_of_mem_encodeChars hc
  exact digitChar_mem hn

/-! ## Bytes in messages -/

/-- A byte is shown by its two digits. -/
theorem hexByte_eq (b : UInt8) : hexByte b = "0x" ++ encode [b] := by
  have hb : b.toNat / 16 % 16 = b.toNat / 16 := Nat.mod_eq_of_lt (by have := b.toNat_lt; omega)
  rw [hexByte, hexNumeral, encode, encodeChars, List.flatMap_singleton]
  simp only [Radix.fixedDigits, hb, List.nil_append, List.cons_append, List.map_cons, List.map_nil]

end CoinAddress.Text.Hex
