import CoinAddress.Proofs.Address.Canonical
import CoinAddress.Proofs.Address.WitnessText

/-!
# The texts of public keys

The text of a public key is hexadecimal, so the digit `1` may occur in it; then the bech32 family
takes what stands in front of the last one for a human-readable part. `Network.Leads` says of a
network that it has this part, and `Registry.claimsSegwit_iff` that the family claims a text if and
only if some network leads it.

A text that is claimed so is no witness address, since the characters of the witness versions zero
and one are no hexadecimal digits (`Registry.exists_segwitAddress_eq_error`). Hence the text of a key
is read as the key or not at all (`Registry.decode_text_of_toPubKey`).
-/

namespace CoinAddress

open Text

/-- Whether the human-readable part of a network, in letters of any case, is what stands in front of
the last separator of a text. -/
def Network.Leads (n : Network) (s : String) : Prop :=
  ∃ before behind, s.toList = before ++ Bech32.separator :: behind ∧ Bech32.separator ∉ behind ∧
    sameIgnoringCase n.hrp (String.ofList before) = true

/-- Only programs of version zero and one have addresses. -/
theorem Address.version_of_ofWitnessProgram {hrp : String} {version : UInt8} {program : Bytes}
    {a : Address} (h : ofWitnessProgram hrp version program = .ok a) :
    version = 0 ∨ version = 1 := by
  by_contra hversion
  obtain ⟨hzero, hone⟩ := not_or.1 hversion
  simp [ofWitnessProgram, hzero, hone] at h

namespace Registry

variable {r : Registry} {default : Network} {s : String}

/-! ## Which texts the bech32 family claims -/

theorem knowsHrp_iff_exists {hrp : String} : r.knowsHrp default hrp = true ↔
    ∃ n ∈ default :: r.networks, sameIgnoringCase n.hrp hrp = true := by
  simp [knowsHrp, withHrp?]

/-- **The bech32 family claims the texts that a known network leads**, and no others. -/
theorem claimsSegwit_iff :
    r.claimsSegwit default s = true ↔ ∃ n ∈ default :: r.networks, n.Leads s := by
  rw [claimsSegwit]
  constructor
  · intro h
    split at h
    · cases h
    · next before behind hsplit =>
      obtain ⟨n, hn, hhrp⟩ := knowsHrp_iff_exists.1 h
      obtain ⟨hs, hbehind⟩ := splitAtLast?_eq_some_iff.1 hsplit
      exact ⟨n, hn, before, behind, hs, hbehind, hhrp⟩
  · rintro ⟨n, hn, before, behind, hs, hbehind, hhrp⟩
    rw [splitAtLast?_eq_some_iff.2 ⟨hs, hbehind⟩]
    exact knowsHrp_iff_exists.2 ⟨n, hn, hhrp⟩

/-! ## Public keys -/

/-- No text is that of a public key and of a witness address. -/
theorem exists_segwitAddress_eq_error {answer : Except Error Address}
    (h : Decoder.publicKeyHex default s = .claimed answer) : ∃ e, segwitAddress s = .error e := by
  cases hs : segwitAddress s with
  | error e => exact ⟨e, rfl⟩
  | ok a =>
    obtain ⟨c, hread, hmake⟩ := bind_eq_ok.1 hs
    obtain ⟨reason, hreason⟩ : ∃ reason, Decoder.publicKeyHex default s = .passed reason :=
      publicKeyHex_of_segwit hread (Address.version_of_ofWitnessProgram hmake)
    rw [h] at hreason
    cases hreason

/-- The family of public keys claims the text of a key in letters of any case. -/
theorem publicKeyHex_of_toPubKey {key : Bytes} {a : Address}
    (h : Address.toPubKey key default = .ok a) (hs : lowerAscii s = Hex.encode key) :
    Decoder.publicKeyHex default s = .claimed (.ok a) := by
  refine publicKeyHex_eq_claimed_iff.2 ⟨?_, key, hs.symm, h⟩
  obtain ⟨k, hk, -⟩ := map_eq_ok.1 h
  obtain ⟨-, -, -, -, -, -, hlen⟩ := PublicKey.ofBytes_eq_ok_iff.1 hk
  rw [Hex.byteLength_of_lowerAscii hs, hlen]
  cases k.format <;> simp [KeyFormat.length, Decoder.compressedDigits, Decoder.uncompressedDigits]

/-- The text of an address of a public key is its bytes in hexadecimal. -/
theorem text_of_toPubKey {key : Bytes} {a : Address} (h : Address.toPubKey key default = .ok a) :
    a.text = Hex.encode key := by
  obtain ⟨k, hk, rfl⟩ := map_eq_ok.1 h
  rw [Address.text, PublicKey.hex, (PublicKey.ofBytes_eq_ok_iff.1 hk).1]

/-- **The text of a public key, in letters of any case, is read as the key unless a known network
leads it; if one does, it is refused** and never read as another address. -/
theorem decode_text_of_toPubKey (r : Registry) {d : Network} {key : Bytes} {k : Address}
    (hk : Address.toPubKey key d = .ok k) {t : String} (ht : sameIgnoringCase k.text t = true) :
    (r.decode d t = .ok k ↔ ¬ ∃ n ∈ d :: r.networks, n.Leads t) ∧
      ((∃ n ∈ d :: r.networks, n.Leads t) → ∃ e, r.decode d t = .error e) := by
  have hlower : lowerAscii t = Hex.encode key := by
    rw [← beq_iff_eq.1 ht, text_of_toPubKey hk, Hex.lowerAscii_encode]
  obtain ⟨e, he⟩ := decodeData_of_toPubKey hk hlower
  have hclaim := publicKeyHex_of_toPubKey hk hlower
  rw [← claimsSegwit_iff]
  cases hs : r.claimsSegwit d t with
  | false => simp [decode_of_publicKeyHex he hs hclaim]
  | true =>
    obtain ⟨fault, hfault⟩ := exists_segwitAddress_eq_error hclaim
    simp [decode_of_segwit he hs, hfault]

/-- A key with two separators in its text. -/
def separatedKey : Bytes :=
  [0x02, 0x19, 0x2d, 0x74, 0xd0, 0xcb, 0x94, 0x34, 0x4c, 0x95, 0x69, 0xc2, 0xe7, 0x79, 0x01, 0x57,
    0x3d, 0x8d, 0x79, 0x03, 0xc3, 0xeb, 0xec, 0x3a, 0x95, 0x77, 0x24, 0x89, 0x5d, 0xca, 0x52, 0xc6,
    0xb4]

/-- A network that has the part in front of the second separator leads the text, one that has the
part in front of the first does not; capitals make no difference. -/
theorem decode_text_of_toPubKey_capitals :
    let k : Address := .pubKey ⟨separatedKey, .compressed, 0x4c⟩
    let t := "02192D74D0CB94344C9569C2E77901573D8D7903C3EBEC3A957724895DCA52C6B4"
    let leading : Network := ⟨"leading", 1, 1, 2, 3, "02192d74d0cb94344c9569c2e7790"⟩
    let other : Network := ⟨"other", 2, 1, 2, 3, "02"⟩
    Address.toPubKey separatedKey Network.mainnet = .ok k ∧ sameIgnoringCase k.text t = true ∧
      Registry.decode ⟨[other]⟩ Network.mainnet t = .ok k ∧
      ∃ e, Registry.decode ⟨[other, leading]⟩ Network.mainnet t = .error e := by
  intro k t leading other
  have hk : Address.toPubKey separatedKey Network.mainnet = .ok k := rfl
  have hlower : Hex.encode separatedKey = lowerAscii t := by decide +kernel
  have ht : sameIgnoringCase k.text t = true := by
    rw [sameIgnoringCase, beq_iff_eq, ← hlower]
    exact Hex.lowerAscii_encode separatedKey
  have hother : Registry.claimsSegwit ⟨[other]⟩ Network.mainnet t = false := by decide +kernel
  have hleading : Registry.claimsSegwit ⟨[other, leading]⟩ Network.mainnet t = true := by
    decide +kernel
  refine ⟨hk, ht, (decode_text_of_toPubKey _ hk ht).1.2 fun hleads => ?_,
    (decode_text_of_toPubKey _ hk ht).2 (claimsSegwit_iff.1 hleading)⟩
  rw [claimsSegwit_iff.2 hleads] at hother
  cases hother

end Registry

end CoinAddress
