import CoinAddress.Proofs.Bounded

/-!
# Which texts are keys, and why others are not

A text is a key if its bytes have the shape of one (`Wif.Shaped`) and end in their checksum
(`Base58.Checked.Sealed`). Otherwise there is a first rule that it breaks, and `Wif.Breaks` gives the
error; every text falls under one of the two (`Wif.shaped_or_breaks`). The shape comes before the
checksum, so bytes that are wrong in both are malformed.

* `Wif.decode_of_breaks`: a broken rule is reported before the rules behind it are looked at.
* `Wif.decode_eq_ok_iff_standsIn`: the parts of a key are the bytes at their places.
* `Wif.decode_rules` puts them together.
-/

namespace CoinAddress.Wif

open Base58.Checked

variable {s : String} {bs : Bytes} {w w' : Wif} {fault : MalformedKey} {e : Error}

/-! ## The rules -/

/-- The bytes have the shape of a key: there are 37, or 38 with the mark behind the key. -/
def Shaped (bs : Bytes) : Prop := bs.length = 37 ∨ bs.length = 38 ∧ bs[33]? = some 1

/-- Why bytes do not have the shape of a key. -/
inductive Misshapen (bs : Bytes) : MalformedKey → Prop
  | length (hplain : bs.length ≠ 37) (hmarked : bs.length ≠ 38) :
      Misshapen bs (.badLength bs.length)
  | suffix (hlength : bs.length = 38) {byte : UInt8} (hbyte : bs[33]? = some byte)
      (h : byte ≠ 1) : Misshapen bs (.badSuffix byte)

/-- The first rule that a text breaks, as the error that reports it. -/
inductive Breaks (s : String) : Error → Prop
  | digits {fault : Base58.Fault} (h : Base58.decode s = .error fault) :
      Breaks s (.malformedKey (.notBase58 fault))
  | shape {bs : Bytes} (hbs : Base58.decode s = .ok bs) {fault : MalformedKey}
      (h : Misshapen bs fault) : Breaks s (.malformedKey fault)
  | checksum {bs : Bytes} (hbs : Base58.decode s = .ok bs) (hshape : Shaped bs)
      (h : ¬ Sealed bs) : Breaks s .checksumMismatch

/-- The parts of a key are the bytes at their places. -/
structure StandsIn (w : Wif) (bs : Bytes) : Prop where
  netId : bs[0]? = some w.netId
  key : (bs.take 33).drop 1 = w.key.toList
  compressed : w.compressed = true ↔ bs.length = 38

/-! ## Shape -/

theorem exists_misshapen_iff : (∃ fault, Misshapen bs fault) ↔
    bs.length ≠ 37 ∧ bs.length ≠ 38 ∨ bs.length = 38 ∧ bs[33]? ≠ some 1 := by
  constructor
  · rintro ⟨fault, ⟨hplain, hmarked⟩ | ⟨hlength, hbyte, h⟩⟩
    · exact Or.inl ⟨hplain, hmarked⟩
    · exact Or.inr ⟨hlength, fun hmark => h (Option.some.inj (hbyte.symm.trans hmark))⟩
  · rintro (⟨hplain, hmarked⟩ | ⟨hlength, h⟩)
    · exact ⟨_, .length hplain hmarked⟩
    · have hlt : 33 < bs.length := by omega
      have hbyte := List.getElem?_eq_getElem hlt
      exact ⟨_, .suffix hlength hbyte fun hmark => h (hbyte.trans (congrArg some hmark))⟩

theorem shaped_or_misshapen (bs : Bytes) : Shaped bs ∨ ∃ fault, Misshapen bs fault := by
  rw [exists_misshapen_iff, Shaped]
  by_cases hplain : bs.length = 37
  · exact Or.inl (Or.inl hplain)
  · by_cases hmarked : bs.length = 38
    · by_cases hmark : bs[33]? = some 1
      · exact Or.inl (Or.inr ⟨hmarked, hmark⟩)
      · exact Or.inr (Or.inr ⟨hmarked, hmark⟩)
    · exact Or.inr (Or.inl ⟨hplain, hmarked⟩)

/-- What 38 bytes are is up to the byte behind the key. -/
theorem compression_of_length_eq (hlength : bs.length = markedLength) {byte : UInt8}
    (hbyte : bs[33]? = some byte) :
    compression bs = if byte = 1 then .ok true else .error (.badSuffix byte) := by
  have hne : bs.length ≠ plainLength := by
    rw [hlength]
    decide
  have hget : bs.getD 33 0 = byte := by
    rw [List.getD_eq_getElem?_getD, hbyte]
    rfl
  rw [compression, if_neg hne, if_pos hlength, hget]
  rfl

theorem exists_compression_of_shaped (h : Shaped bs) : ∃ c, compression bs = .ok c := by
  rcases h with hplain | ⟨hlength, hmark⟩
  · exact ⟨false, if_pos hplain⟩
  · exact ⟨true, by rw [compression_of_length_eq hlength hmark, if_pos rfl]⟩

theorem compression_of_misshapen (h : Misshapen bs fault) : compression bs = .error fault := by
  cases h with
  | length hplain hmarked => exact (if_neg hplain).trans (if_neg hmarked)
  | suffix hlength hbyte h => rw [compression_of_length_eq hlength hbyte, if_neg h]

/-- **The bytes that are accepted are those with the shape of a key**, and all others are refused
with the fault that they have. -/
theorem compression_outcome (bs : Bytes) : ((∃ c, compression bs = .ok c) ↔ Shaped bs) ∧
    ∀ fault, compression bs = .error fault ↔ Misshapen bs fault :=
  outcome_iff (shaped_or_misshapen bs) exists_compression_of_shaped fun _ =>
    compression_of_misshapen

/-! ## Broken rules -/

/-- Every text has bytes with the shape of a key and their checksum, or it breaks a first rule. -/
theorem shaped_or_breaks (s : String) :
    (∃ bs, Base58.decode s = .ok bs ∧ Shaped bs ∧ Sealed bs) ∨ ∃ e, Breaks s e := by
  cases hbs : Base58.decode s with
  | error fault => exact Or.inr ⟨_, .digits hbs⟩
  | ok bs =>
    rcases shaped_or_misshapen bs with hshape | ⟨fault, hfault⟩
    · by_cases hsealed : Sealed bs
      · exact Or.inl ⟨bs, rfl, hshape, hsealed⟩
      · exact Or.inr ⟨_, .checksum hbs hshape hsealed⟩
    · exact Or.inr ⟨_, .shape hbs hfault⟩

/-- What is malformed is not base 58 or has no shape of a key. -/
theorem exists_breaks_malformedKey_iff : (∃ fault, Breaks s (.malformedKey fault)) ↔
    (∃ c ∈ s.toList, c ∉ Base58.alphabet) ∨ ∃ bs, Base58.decode s = .ok bs ∧
      (bs.length ≠ 37 ∧ bs.length ≠ 38 ∨ bs.length = 38 ∧ bs[33]? ≠ some 1) := by
  constructor
  · rintro ⟨fault, h⟩
    cases h with
    | digits h => exact Or.inl (Base58.exists_decode_eq_error_iff.1 ⟨_, h⟩)
    | shape hbs h => exact Or.inr ⟨_, hbs, exists_misshapen_iff.1 ⟨_, h⟩⟩
  · rintro (hother | ⟨bs, hbs, h⟩)
    · obtain ⟨fault, hfault⟩ := Base58.exists_decode_eq_error_iff.2 hother
      exact ⟨_, .digits hfault⟩
    · obtain ⟨fault, hfault⟩ := exists_misshapen_iff.2 h
      exact ⟨fault, .shape hbs hfault⟩

theorem four_le_length (h : Shaped bs) : 4 ≤ bs.length := by
  rcases h with h | ⟨h, -⟩ <;> omega

/-- **A broken rule is reported**, whatever rules behind it are broken too. -/
theorem decode_of_breaks (h : Breaks s e) : decode s = .error e := by
  cases h with
  | digits h => exact decode_of_base58_error h
  | shape hbs h => simp only [decode, hbs, compression_of_misshapen h]
  | checksum hbs hshape h =>
    obtain ⟨c, hc⟩ := exists_compression_of_shaped hshape
    simp only [decode, hbs, hc, verifyChecksum_of_le (four_le_length hshape), if_neg h]

/-! ## The parts of a key -/

theorem standsIn_append (w : Wif) (sum : FixedBytes 4) :
    w.StandsIn (w.netId :: w.payload ++ sum.toList) := by
  have hkey := w.key.length_toList
  refine ⟨rfl, ?_, ?_⟩
  · rw [List.drop_take]
    simp [payload, ← hkey]
  · cases hc : w.compressed <;> simp [hc, sum.length_toList]

/-- Bytes are of one key at most. -/
theorem StandsIn.unique (h : w.StandsIn bs) (h' : w'.StandsIn bs) : w = w' := by
  have hnetId := Option.some.inj (h.netId.symm.trans h'.netId)
  have hkey := h.key.symm.trans h'.key
  have hcompressed := h.compressed.trans h'.compressed.symm
  obtain ⟨⟨key, hlen⟩, c, netId⟩ := w
  obtain ⟨⟨key', hlen'⟩, c', netId'⟩ := w'
  cases hnetId
  cases hkey
  cases Bool.eq_iff_iff.2 hcompressed
  rfl

/-- Bytes with the shape of a key and their checksum are those of the text of a key. -/
theorem exists_encode_of_shaped (hshape : Shaped bs) (hsealed : Sealed bs) :
    ∃ w : Wif, w.StandsIn bs ∧ Base58.encode bs = w.encode := by
  have hbs := hsealed.eq_append
  obtain ⟨c, hc⟩ := exists_compression_of_shaped hshape
  rw [hbs] at hc
  obtain ⟨w, -, hdata⟩ := compression_append_eq_ok_iff.1 hc
  rw [hdata] at hbs
  rw [hbs]
  exact ⟨w, standsIn_append w _, rfl⟩

/-- **The parts of a key that is read are the bytes at their places.** -/
theorem decode_eq_ok_iff_standsIn : decode s = .ok w ↔
    ∃ bs, Base58.decode s = .ok bs ∧ Shaped bs ∧ Sealed bs ∧ w.StandsIn bs := by
  rw [decode_eq_ok_iff]
  constructor
  · rintro rfl
    let sum := Hash.checksum (w.netId :: w.payload)
    have hshape : Shaped (w.netId :: w.payload ++ sum.toList) :=
      (compression_outcome _).1.1 ⟨w.compressed, compression_append_eq_ok_iff.2 ⟨w, rfl, rfl⟩⟩
    exact ⟨_, Base58.decode_encode _, hshape, sealed_append_checksum _, standsIn_append w sum⟩
  · rintro ⟨bs, hbs, hshape, hsealed, hw⟩
    obtain ⟨w', hw', hencode⟩ := exists_encode_of_shaped hshape hsealed
    rw [hw.unique hw', ← hencode]
    exact Base58.decode_eq_ok_iff.1 hbs

theorem exists_decode_of_shaped
    (h : ∃ bs, Base58.decode s = .ok bs ∧ Shaped bs ∧ Sealed bs) : ∃ w, decode s = .ok w := by
  obtain ⟨bs, hbs, hshape, hsealed⟩ := h
  obtain ⟨w, hw, -⟩ := exists_encode_of_shaped hshape hsealed
  exact ⟨w, decode_eq_ok_iff_standsIn.2 ⟨bs, hbs, hshape, hsealed, hw⟩⟩

/-! ## All texts -/

/-- **A text is read as a key if and only if its bytes have the shape of one and end in their
checksum, and refused with the error of the first rule that it breaks.** Texts that are not base 58
and bytes without the shape of a key are malformed, also if their checksum is wrong too; a wrong
checksum is the only other error. No place behind the end of the bytes is ever looked at. -/
theorem decode_rules (s : String) :
    ((∃ fault, decode s = .error (.malformedKey fault)) ↔
      (∃ c ∈ s.toList, c ∉ Base58.alphabet) ∨ ∃ bs, Base58.decode s = .ok bs ∧
        (bs.length ≠ 37 ∧ bs.length ≠ 38 ∨ bs.length = 38 ∧ bs[33]? ≠ some 1)) ∧
    (decode s = .error .checksumMismatch ↔
      ∃ bs, Base58.decode s = .ok bs ∧ Shaped bs ∧ ¬ Sealed bs) ∧
    ((∃ w, decode s = .ok w) ↔ ∃ bs, Base58.decode s = .ok bs ∧ Shaped bs ∧ Sealed bs) ∧
    (∀ w, decode s = .ok w ↔
      ∃ bs, Base58.decode s = .ok bs ∧ Shaped bs ∧ Sealed bs ∧ w.StandsIn bs) ∧
    (∀ e, decode s = .error e → e = .checksumMismatch ∨ ∃ fault, e = .malformedKey fault) ∧
    (∀ e, decode s = .error e ↔ Breaks s e) ∧
    Bounded.decodeKey s = some (decode s) := by
  obtain ⟨hread, hrefused⟩ := outcome_iff (shaped_or_breaks s) exists_decode_of_shaped
    fun _ => decode_of_breaks
  refine ⟨?_, ?_, hread, fun w => decode_eq_ok_iff_standsIn, fun e h => ?_, hrefused,
    Bounded.decodeKey_eq_some s⟩
  · simp only [hrefused, exists_breaks_malformedKey_iff]
  · rw [hrefused]
    constructor
    · intro h
      cases h with
      | checksum hbs hshape h => exact ⟨_, hbs, hshape, h⟩
    · rintro ⟨bs, hbs, hshape, h⟩
      exact .checksum hbs hshape h
  · cases (hrefused e).1 h with
    | digits h => exact Or.inr ⟨_, rfl⟩
    | shape hbs h => exact Or.inr ⟨_, rfl⟩
    | checksum => exact Or.inl rfl

/-- A single byte is wrong in both shape and checksum. -/
example : decode "1" = .error (.malformedKey (.badLength 1)) := by decide +kernel

end CoinAddress.Wif
