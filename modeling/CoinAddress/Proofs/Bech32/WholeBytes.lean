import CoinAddress.Proofs.Bech32.Encoded
import CoinAddress.Proofs.Bech32.Regroup

/-!
# Texts that carry bytes stand for them, one for one

Bytes are regrouped to symbols with padding and back without. There is one list of symbols for each
byte string, so what holds of bech32 texts of symbols holds of those of bytes: reading is the inverse
of writing (`decodeBytes_eq_ok_iff_encodeBytes`). `encodeBytes_outcome` also says which contents can
be written: a text has a symbol for every five bits, the last of which may not be full.
-/

namespace CoinAddress.Bech32

open Text

variable {s : String} {c : Content}

/-- The text of bytes is that of the symbols that they are regrouped to. -/
theorem encodeBytes_eq_ok_iff : encodeBytes c = .ok s ↔
    ∃ symbols, regroup 8 5 true c.data = .ok symbols ∧
      encode ⟨c.hrp, symbols, c.variant⟩ = .ok s := bind_eq_ok

/-- Symbols with other bits behind the last byte than the zeros that pad it are no bytes. -/
theorem decodeBytes_eq_ok_iff : decodeBytes s = .ok c ↔
    ∃ symbols, regroup 8 5 true c.data = .ok symbols ∧
      decode s = .ok ⟨c.hrp, symbols, c.variant⟩ := by
  simp only [decodeBytes, bind_eq_ok]
  constructor
  · rintro ⟨⟨hrp, symbols, variant⟩, hread, data, hdata, h⟩
    cases h
    exact ⟨symbols, regroup_back hdata, hread⟩
  · rintro ⟨symbols, hsymbols, hread⟩
    exact ⟨_, hread, c.data, (regroup_strict_eq_ok_iff_pad (by decide)).2 hsymbols, rfl⟩

/-- **Reading is the inverse of writing** for bytes too. -/
theorem decodeBytes_eq_ok_iff_encodeBytes :
    decodeBytes s = .ok c ↔ isOneCase s = true ∧ encodeBytes c = .ok (lowerAscii s) := by
  simp only [decodeBytes_eq_ok_iff, encodeBytes_eq_ok_iff, decode_eq_ok_iff_encode]
  constructor
  · rintro ⟨symbols, hsymbols, hcase, hwrite⟩
    exact ⟨hcase, symbols, hsymbols, hwrite⟩
  · rintro ⟨hcase, symbols, hsymbols, hwrite⟩
    exact ⟨symbols, hsymbols, hcase, hwrite⟩

/-- Texts of bytes are written in lower case and read in either case. -/
theorem eitherCase_bytes : EitherCase encodeBytes decodeBytes := by
  refine ⟨decodeBytes_eq_ok_iff_encodeBytes, fun h => ?_⟩
  obtain ⟨symbols, -, hwrite⟩ := encodeBytes_eq_ok_iff.1 h
  exact eitherCase.lowerAscii_eq hwrite

/-- Every byte string has its symbols, so only the human-readable part and the length of the text
decide whether it can be written. -/
theorem exists_encodeBytes_iff : (∃ s, encodeBytes c = .ok s) ↔ Hrp.validate c.hrp = .ok () ∧
    byteLength c.hrp.toList + 7 + (8 * c.data.length) ⌈/⌉ 5 ≤ 90 := by
  obtain ⟨symbols, hsymbols⟩ : ∃ symbols, regroup 8 5 true c.data = .ok symbols :=
    exists_regroup_pad rfl rfl (narrow_eight c.data)
  have hwrite : encodeBytes c = encode ⟨c.hrp, symbols, c.variant⟩ := bind_of_ok hsymbols _
  rw [hwrite, ← length_of_regroup_pad hsymbols]
  constructor
  · rintro ⟨s, hs⟩
    obtain ⟨hvalid, hlen, -⟩ := encode_eq_ok_iff.1 hs
    refine ⟨hvalid, ?_⟩
    simp only [checksumLength, maxLength] at hlen
    omega
  · rintro ⟨hvalid, hlen⟩
    have hnarrow : ∀ b ∈ symbols, b.toNat < 32 := (regroup_pad_eq_ok_iff.1 hsymbols).2.2.2.1
    refine exists_encode_of_lt hvalid hnarrow ?_
    simp only [checksumLength, maxLength]
    omega

/-- **Bytes can be written under every valid human-readable part that leaves room for a symbol for
every five bits, and what is written reads back**; what is read is what is written, in lower case or
in capitals. -/
theorem encodeBytes_outcome (c : Content) :
    ((∃ s, encodeBytes c = .ok s) ↔ Hrp.validate c.hrp = .ok () ∧
      byteLength c.hrp.toList + 7 + (8 * c.data.length) ⌈/⌉ 5 ≤ 90) ∧
    (∀ s, encodeBytes c = .ok s → decodeBytes s = .ok c) ∧
    (∀ s, decodeBytes s = .ok c → encodeBytes c = .ok (lowerAscii s)) ∧
    ∀ s, decodeBytes s = .ok c ↔ ∃ t, encodeBytes c = .ok t ∧ (s = t ∨ s = upperAscii t) := by
  exact ⟨exists_encodeBytes_iff, fun s => eitherCase_bytes.read_of_write,
    fun s => eitherCase_bytes.write_of_read, fun s => eitherCase_bytes.read_eq_ok_iff_exists⟩

end CoinAddress.Bech32
