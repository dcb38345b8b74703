import CoinAddress.Proofs.Address.HashAddress
import CoinAddress.Proofs.Key.Wif

/-!
# Private keys are no addresses

Texts of private keys and of hashes are both Base58Check, and a network may use one byte in several
roles. What tells them apart is the length: a private key has 32 or 33 bytes behind its version byte,
a hash has 20.

* `Registry.decode_of_wif` says how the text of a private key is refused as an address.
* `Address.wif_decode` says that no text of an address with a version byte is that of a private key.
* `Registry.wif_decode_separate` puts both together.
-/

namespace CoinAddress

/-! ## Texts of private keys -/

namespace Registry

variable {r : Registry} {default : Network} {s : String}

/-- Data of another length than that of a version byte and a hash is no address, whichever network
decides about its version byte. -/
theorem classify_of_length_ne {data : Bytes} (h : data.length ≠ 21) :
    (∃ cause, r.classify default data = .error (.malformed cause)) ∨
      ∃ version, r.classify default data = .error (.addressCollision version) := by
  cases data with
  | nil => exact Or.inl ⟨_, rfl⟩
  | cons version hash =>
    have hlen : hash.length ≠ 20 := by simpa using h
    cases hn : r.networkFor? default version with
    | none => exact Or.inl ⟨_, classify_cons_of_none hn hash⟩
    | some n =>
      rw [classify_cons hn, if_pos hlen]
      split
      · exact Or.inr ⟨_, rfl⟩
      · exact Or.inl ⟨_, rfl⟩

/-- **The text of a private key is refused as an address**, for its length or because its version
byte stands for two kinds of address. -/
theorem decode_of_wif {w : Wif} (h : Wif.decode s = .ok w) :
    (∃ cause, r.decode default s = .error (.malformed cause)) ∨
      ∃ version, r.decode default s = .error (.addressCollision version) := by
  rw [decode_of_base58Check (Wif.decodeData_of_decode h)]
  apply classify_of_length_ne
  cases hc : w.compressed <;> simp [hc]

end Registry

/-! ## Texts of addresses -/

/-- The text of a hash is too short for a private key. -/
theorem HashAddress.wif_decode_encode (a : HashAddress) :
    Wif.decode a.encode = .error (.malformedKey (.badLength 25)) := by
  have hbs : Base58.decode a.encode = .ok
      (a.netId :: a.hash.toList ++ (Hash.checksum (a.netId :: a.hash.toList)).toList) :=
    Base58.decode_encode _
  have hlen : (a.netId :: a.hash.toList ++
      (Hash.checksum (a.netId :: a.hash.toList)).toList).length = 25 := by
    simp [a.hash.length_toList, FixedBytes.length_toList]
  rw [Wif.decode_of_length_ne hbs (by rw [hlen]; decide) (by rw [hlen]; decide), hlen]

/-- The text of a public key has a character that is no base-58 digit. -/
theorem PublicKey.Reachable.wif_decode_hex {k : PublicKey} (hk : k.Reachable) :
    ∃ cause, Wif.decode k.hex = .error (.malformedKey cause) := by
  cases h : Base58.decode k.hex with
  | ok bs => exact absurd (zero_mem_hex hk.ofBytes_bytes) (Base58.zero_not_mem_of_decode h)
  | error fault => exact ⟨_, Wif.decode_of_base58_error h⟩

/-- **An address with a version byte is no private key**, neither by the text that it shows nor by
the text to pay to. -/
theorem Address.wif_decode {a : Address} (ha : a.witness? = none)
    (hk : ∀ k, a = .pubKey k → k.Reachable) :
    (∃ cause, Wif.decode a.text = .error (.malformedKey cause)) ∧
      ∃ cause, Wif.decode a.encode = .error (.malformedKey cause) := by
  cases a with
  | pubKeyHash a => exact ⟨⟨_, a.wif_decode_encode⟩, _, a.wif_decode_encode⟩
  | scriptHash a => exact ⟨⟨_, a.wif_decode_encode⟩, _, a.wif_decode_encode⟩
  | pubKey k => exact ⟨(hk k rfl).wif_decode_hex, _, HashAddress.wif_decode_encode _⟩
  | witnessPubKeyHash w => cases ha
  | witnessScriptHash w => cases ha
  | taproot w => cases ha

theorem Address.witness?_eq_none_of_kind {a : Address}
    (h : a.kind = .pubKeyHash ∨ a.kind = .scriptHash ∨ a.kind = .pubKey) : a.witness? = none := by
  cases a with
  | witnessPubKeyHash w | witnessScriptHash w | taproot w => simp [kind] at h
  | pubKeyHash a | scriptHash a | pubKey k => rfl

/-! ## Both -/

/-- **No text is that of a private key and of an address**, whatever version bytes the networks use.
A private key is refused as an address for its shape, and an address with a version byte is refused
as a private key. -/
theorem Registry.wif_decode_separate (r : Registry) (d : Network) :
    (∀ s, ¬ ((∃ w, Wif.decode s = .ok w) ∧ ∃ a, r.decode d s = .ok a)) ∧
    (∀ s w, Wif.decode s = .ok w →
      (∃ cause, r.decode d s = .error (.malformed cause)) ∨
        ∃ version, r.decode d s = .error (.addressCollision version)) ∧
    (∀ a : Address, (a.kind = .pubKeyHash ∨ a.kind = .scriptHash ∨ a.kind = .pubKey) →
      (∀ k, a = .pubKey k → k.Reachable) →
        (∃ cause, Wif.decode a.text = .error (.malformedKey cause)) ∧
          ∃ cause, Wif.decode a.encode = .error (.malformedKey cause)) := by
  have hrefused : ∀ s w, Wif.decode s = .ok w →
      (∃ cause, r.decode d s = .error (.malformed cause)) ∨
        ∃ version, r.decode d s = .error (.addressCollision version) :=
    fun s w hw => decode_of_wif hw
  refine ⟨?_, hrefused, fun a ha hk => ?_⟩
  · rintro s ⟨⟨w, hw⟩, a, ha⟩
    -- Both ways of being refused are errors.
    rcases hrefused s w hw with ⟨cause, h⟩ | ⟨version, h⟩ <;> cases ha.symm.trans h
  · exact Address.wif_decode (Address.witness?_eq_none_of_kind ha) hk

/-- A network that has one byte for private keys and for addresses. -/
theorem Registry.wif_decode_separate_shared_byte :
    let net : Network := ⟨"shared", 7, 0xef, 0x13, 0xef, "sh"⟩
    let s := "cN8GsdKbCifhAFzPsucjWHPvKH7isup3WReCHGgYznAmWiBKyzv3"
    let key : Bytes := [0x10, 0x3e, 0x05, 0x45, 0x01, 0xfc, 0xb2, 0x86, 0xc2, 0x02, 0x95, 0xba,
      0xa7, 0xa5, 0x4a, 0x1e, 0x03, 0x65, 0x2e, 0xfa, 0x47, 0x21, 0x94, 0xad, 0xce, 0xc4,
      0x24, 0x8a, 0x3d, 0xf0, 0x84, 0xeb]
    let w : Wif := ⟨⟨key, rfl⟩, true, 0xef⟩
    let k : PublicKey := ⟨2 :: List.replicate 32 7, .compressed, 0xef⟩
    Wif.decode s = .ok w ∧ w.netId = net.pubKeyHashId ∧
      (¬ ∃ a, Registry.decode ⟨[net]⟩ net s = .ok a) ∧
      ((∃ cause, Registry.decode ⟨[net]⟩ net s = .error (.malformed cause)) ∨
        ∃ version, Registry.decode ⟨[net]⟩ net s = .error (.addressCollision version)) ∧
      k.Reachable ∧ (∃ cause, Wif.decode (Address.pubKey k).text = .error (.malformedKey cause)) ∧
      ∃ cause, Wif.decode (Address.pubKey k).encode = .error (.malformedKey cause) := by
  intro net s key w k
  have hw : Wif.decode s = .ok w := by decide +kernel
  have hk : k.Reachable := .ofBytes (rfl : PublicKey.ofBytes k.bytes k.netId = .ok k)
  obtain ⟨hboth, hwif, haddress⟩ := wif_decode_separate ⟨[net]⟩ net
  obtain ⟨htext, hencode⟩ := haddress (.pubKey k) (Or.inr (Or.inr rfl)) fun k' hk' => by
    cases hk'
    exact hk
  exact ⟨hw, rfl, fun ha => hboth s ⟨⟨w, hw⟩, ha⟩, hwif s w hw, hk, htext, hencode⟩

end CoinAddress
