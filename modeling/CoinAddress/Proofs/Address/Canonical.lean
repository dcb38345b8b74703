import CoinAddress.Proofs.Address.HashAddress
import CoinAddress.Proofs.Address.Witness
import CoinAddress.Proofs.Text.Hex

/-!
# The canonical text of an address that was read

An address shows itself as the text it was read from, up to case, and the text it shows reads as the
same address (`Registry.text_of_decode`). The case matters to one family only: a text that the
Base58Check family passes over in capitals may belong to it in lower case, and then it is no witness
address any more.
-/

namespace CoinAddress.Registry

open Text

variable {r : Registry} {default : Network} {s : String} {a : Address}

/-! ## Hashes -/

/-- A hash address has the one text it was read from. -/
theorem encode_of_classify {data : Bytes} (hdata : Base58.Checked.decodeData s = .ok data)
    (h : r.classify default data = .ok a) :
    ∃ b : HashAddress, b.encode = s ∧ (a = .pubKeyHash b ∨ a = .scriptHash b) := by
  obtain ⟨version, hash, n, rfl, -, -, rfl⟩ := classify_eq_ok_iff.1 h
  refine ⟨⟨hash, version⟩, (HashAddress.decodeData_eq_ok_iff.1 hdata).symm, ?_⟩
  rw [hashAddress]
  split
  · exact Or.inl rfl
  · exact Or.inr rfl

/-! ## Public keys -/

/-- The family of public keys claims the hexadecimal texts of two lengths, and answers with what the
bytes are as a key. -/
theorem publicKeyHex_eq_claimed_iff {answer : Except Error Address} :
    Decoder.publicKeyHex default s = .claimed answer ↔
      (byteLength s.toList = Decoder.compressedDigits ∨
          byteLength s.toList = Decoder.uncompressedDigits) ∧
        ∃ key, Hex.encode key = lowerAscii s ∧ Address.toPubKey key default = answer := by
  simp only [Decoder.publicKeyHex]
  constructor
  · intro h
    split at h
    · next hlen =>
      split at h
      · next key hkey =>
        have hmake := Decoder.Verdict.claimed.inj h
        exact ⟨hlen, key, Hex.decode_eq_ok_iff.1 hkey, hmake⟩
      · cases h
    · cases h
  · rintro ⟨hlen, key, hkey, hmake⟩
    rw [if_pos hlen, Hex.decode_eq_ok_iff.2 hkey]
    simp only [hmake]

theorem publicKeyHex_lowerAscii (h : Decoder.publicKeyHex default s = .claimed (.ok a)) :
    Decoder.publicKeyHex default (lowerAscii s) = .claimed (.ok a) := by
  rw [publicKeyHex_eq_claimed_iff] at h ⊢
  rwa [toList_lowerAscii, byteLength_map_toLower, lowerAscii_lowerAscii]

/-- The text of a key has the digit zero, which is no base-58 digit. -/
theorem decodeData_of_toPubKey {key : Bytes} (h : Address.toPubKey key default = .ok a)
    (hs : lowerAscii s = Hex.encode key) : ∃ e, Base58.Checked.decodeData s = .error e := by
  obtain ⟨k, hk, -⟩ := map_eq_ok.1 h
  have hhex : k.hex = lowerAscii s := by
    rw [hs, PublicKey.hex, (PublicKey.ofBytes_eq_ok_iff.1 hk).1]
  have hzero := PublicKey.zero_mem_hex hk
  rw [hhex, mem_toList_lowerAscii (by decide)] at hzero
  cases hdata : Base58.Checked.decodeData s with
  | error e => exact ⟨e, rfl⟩
  | ok data => exact absurd hzero (Base58.Checked.zero_not_mem_of_decodeData hdata)

/-- A public key is read the same way in lower case, which is its own text. -/
theorem hex_of_publicKeyHex (hs : r.claimsSegwit default s = false)
    (h : Decoder.publicKeyHex default s = .claimed (.ok a)) :
    ∃ k, a = .pubKey k ∧ k.hex = lowerAscii s ∧ r.decode default (lowerAscii s) = .ok a := by
  obtain ⟨-, key, hkey, hmake⟩ := publicKeyHex_eq_claimed_iff.1 h
  obtain ⟨e, he⟩ := decodeData_of_toPubKey (s := lowerAscii s) hmake
    ((lowerAscii_lowerAscii s).trans hkey.symm)
  rw [← claimsSegwit_lowerAscii] at hs
  have hread := decode_of_publicKeyHex he hs (publicKeyHex_lowerAscii h)
  obtain ⟨k, hk, rfl⟩ := map_eq_ok.1 hmake
  obtain ⟨rfl, -⟩ := PublicKey.ofBytes_eq_ok_iff.1 hk
  exact ⟨k, rfl, hkey, hread⟩

/-! ## Witness programs -/

/-- A witness address is read again from its text unless that text is Base58Check. -/
theorem decode_lowerAscii_iff (hs : r.claimsSegwit default s = true)
    (h : segwitAddress s = .ok a) : r.decode default (lowerAscii s) = .ok a ↔
      ¬ ∃ data, Base58.Checked.decodeData (lowerAscii s) = .ok data := by
  rw [← claimsSegwit_lowerAscii] at hs
  have hlower := segwitAddress_lowerAscii h
  obtain ⟨-, w, -, hkind⟩ := segwitAddress_eq_ok h
  cases hdata : Base58.Checked.decodeData (lowerAscii s) with
  | error e =>
    rw [decode_of_segwit hdata hs, hlower]
    simp
  | ok data =>
    rw [decode_of_base58Check hdata]
    refine iff_of_false (fun hclass => ?_) (fun hnot => hnot ⟨data, rfl⟩)
    -- What Base58Check reads is the address of a hash.
    obtain ⟨b, -, hhash⟩ := encode_of_classify hdata hclass
    rcases hkind with rfl | rfl | rfl <;> rcases hhash with hhash | hhash <;> cases hhash

/-! ## All addresses -/

/-- The text that an address of a kind shows when it was read from a text. -/
def canonicalText (kind : AddressKind) (s : String) : String :=
  match kind with
  | .pubKeyHash | .scriptHash => s
  | .pubKey | .witnessPubKeyHash | .witnessScriptHash | .taproot => lowerAscii s

/-- **An address shows the text it was read from**, hashes as it stands and all others in lower case,
**and it is read again from what it shows**, but for a witness address in capitals whose lower-case
text happens to be Base58Check. -/
theorem text_of_decode (h : r.decode default s = .ok a) :
    a.text = canonicalText a.kind s ∧
      (r.decode default a.text = .ok a ↔
        ¬ (a.witness?.isSome = true ∧ s = upperAscii s ∧
          ∃ data, Base58.Checked.decodeData (lowerAscii s) = .ok data)) := by
  rcases decode_cases h with ⟨data, hdata, hclass⟩ | ⟨⟨e, he⟩, ⟨hs, hsegwit⟩ | ⟨hs, hkey⟩⟩
  · obtain ⟨b, hb, hkind⟩ := encode_of_classify hdata hclass
    have htext : a.text = s := by rcases hkind with rfl | rfl <;> exact hb
    have hwitness : a.witness? = none := by rcases hkind with rfl | rfl <;> rfl
    have hcanonical : canonicalText a.kind s = s := by rcases hkind with rfl | rfl <;> rfl
    rw [hcanonical, htext, hwitness]
    exact ⟨rfl, iff_of_true h fun hshadow => Bool.false_ne_true hshadow.1⟩
  · obtain ⟨hcase, w, hw, hkind⟩ := segwitAddress_eq_ok hsegwit
    have htext : a.text = lowerAscii s := by rcases hkind with rfl | rfl | rfl <;> exact hw
    have hwitness : a.witness?.isSome = true := by rcases hkind with rfl | rfl | rfl <;> rfl
    have hcanonical : canonicalText a.kind s = lowerAscii s := by
      rcases hkind with rfl | rfl | rfl <;> rfl
    -- In lower case the text is the one that Base58Check passed over.
    have hupper : (∃ data, Base58.Checked.decodeData (lowerAscii s) = .ok data) →
        s = upperAscii s := by
      rintro ⟨data, hdata⟩
      refine (eq_lowerAscii_or_eq_upperAscii hcase).resolve_left fun hlower => ?_
      rw [← hlower, he] at hdata
      cases hdata
    rw [hcanonical, htext, decode_lowerAscii_iff hs hsegwit]
    refine ⟨rfl, not_congr ⟨fun hdata => ⟨hwitness, hupper hdata, hdata⟩, fun hshadow => ?_⟩⟩
    exact hshadow.2.2
  · obtain ⟨k, rfl, hk, hread⟩ := hex_of_publicKeyHex hs hkey
    have htext : (Address.pubKey k).text = lowerAscii s := hk
    rw [htext]
    exact ⟨rfl, iff_of_true hread fun hshadow => Bool.false_ne_true hshadow.1⟩

/-- The lower-case text of this address has the digit zero, so it is no Base58Check text. -/
theorem text_of_decode_capitals :
    let s := "BC1QW508D6QEJXTDG4Y5R3ZARVARY0C5XW7KV8F3T4"
    let program : Bytes := [0x75, 0x1e, 0x76, 0xe8, 0x19, 0x91, 0x96, 0xd4, 0x54, 0x94, 0x1c, 0x45,
      0xd1, 0xb3, 0xa3, 0x23, 0xf1, 0x43, 0x3b, 0xd6]
    let a : Address := .witnessPubKeyHash ⟨0, program, "bc", lowerAscii s⟩
    Registry.empty.decode Network.mainnet s = .ok a ∧ a.text = canonicalText a.kind s ∧
      Registry.empty.decode Network.mainnet a.text = .ok a := by
  intro s program a
  have hread : Registry.empty.decode Network.mainnet s = .ok a := by decide +kernel
  obtain ⟨htext, hagain⟩ := text_of_decode hread
  refine ⟨hread, htext, hagain.2 ?_⟩
  rintro ⟨-, -, data, hdata⟩
  have hzero : '0' ∈ (lowerAscii s).toList := by decide +kernel
  exact Base58.Checked.zero_not_mem_of_decodeData hdata hzero

end CoinAddress.Registry
