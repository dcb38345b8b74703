import CoinAddress.Proofs.Address.Families
import CoinAddress.Proofs.Base58.Checked
import CoinAddress.Proofs.Key.Public

/-!
# Addresses of hashes are read back

An address with a version byte reads back under the network it was made for, whatever the registry
holds: the default network is asked first, and its two version bytes differ
(`decode_encode_hashAddress`). The text of a public key is that of its hash, and reads as such.
-/

namespace CoinAddress

namespace HashAddress

theorem ofBytes_eq_ok_iff {bytes : Bytes} {netId : UInt8} {a : HashAddress} :
    ofBytes bytes netId = .ok a ↔ bytes = a.hash.toList ∧ netId = a.netId := by
  obtain ⟨hash, id⟩ := a
  constructor
  · intro h
    rw [ofBytes] at h
    split at h
    · cases h
    · next b hb =>
      cases h
      rw [FixedBytes.ofList?] at hb
      split at hb
      · cases hb
        exact ⟨rfl, rfl⟩
      · cases hb
  · rintro ⟨rfl, rfl⟩
    rw [ofBytes, FixedBytes.ofList?_toList]

/-- The text of a hash carries the version byte and the hash, and it is the only one. -/
theorem decodeData_eq_ok_iff {s : String} {version : UInt8} {hash : FixedBytes 20} :
    Base58.Checked.decodeData s = .ok (version :: hash.toList) ↔ s = encode ⟨hash, version⟩ :=
  @Base58.Checked.decodeData_eq_ok_iff s [version] hash.toList

theorem encode_inj {a b : HashAddress} : a.encode = b.encode ↔ a = b := by
  refine ⟨fun h => ?_, fun h => congrArg encode h⟩
  have ha : Base58.Checked.decodeData a.encode = .ok (a.netId :: a.hash.toList) :=
    decodeData_eq_ok_iff.2 rfl
  have hb : Base58.Checked.decodeData a.encode = .ok (b.netId :: b.hash.toList) :=
    decodeData_eq_ok_iff.2 h
  obtain ⟨hid, hhash⟩ := List.cons.inj (Except.ok.inj (ha.symm.trans hb))
  have hmake : ofBytes a.hash.toList a.netId = .ok a := ofBytes_eq_ok_iff.2 ⟨rfl, rfl⟩
  rw [ofBytes_eq_ok_iff.2 ⟨hhash, hid⟩] at hmake
  exact (Except.ok.inj hmake).symm

end HashAddress

namespace Registry

variable {r : Registry} {p : Network}

theorem hashAddress_pubKeyHashId (hash : FixedBytes 20) :
    hashAddress p p.pubKeyHashId hash = .pubKeyHash ⟨hash, p.pubKeyHashId⟩ := by
  rw [hashAddress, if_pos rfl]

theorem hashAddress_scriptHashId (hp : p.pubKeyHashId ≠ p.scriptHashId) (hash : FixedBytes 20) :
    hashAddress p p.scriptHashId hash = .scriptHash ⟨hash, p.scriptHashId⟩ := by
  rw [hashAddress, if_neg hp]

/-- The text of a hash under a version byte of the default network. -/
theorem decode_encode_hashAddress (hp : p.pubKeyHashId ≠ p.scriptHashId) {version : UInt8}
    (hv : p.pubKeyHashId = version ∨ p.scriptHashId = version) (hash : FixedBytes 20) :
    r.decode p (HashAddress.encode ⟨hash, version⟩) = .ok (hashAddress p version hash) := by
  rw [decode_of_base58Check (HashAddress.decodeData_eq_ok_iff.2 rfl)]
  exact classify_eq_ok_iff.2 ⟨version, hash, p, rfl, networkFor?_default hv, hp, rfl⟩

theorem decode_encode_pubKeyHash (hp : p.pubKeyHashId ≠ p.scriptHashId) (hash : FixedBytes 20) :
    r.decode p (HashAddress.encode ⟨hash, p.pubKeyHashId⟩) =
      .ok (.pubKeyHash ⟨hash, p.pubKeyHashId⟩) := by
  rw [decode_encode_hashAddress hp (Or.inl rfl), hashAddress_pubKeyHashId]

theorem decode_encode_scriptHash (hp : p.pubKeyHashId ≠ p.scriptHashId) (hash : FixedBytes 20) :
    r.decode p (HashAddress.encode ⟨hash, p.scriptHashId⟩) =
      .ok (.scriptHash ⟨hash, p.scriptHashId⟩) := by
  rw [decode_encode_hashAddress hp (Or.inr rfl), hashAddress_scriptHashId hp]

/-- **Every text made of a hash is read back under the network it was made for**, whatever networks
the registry holds and whatever version bytes they use. A public key comes back as its hash. -/
theorem decode_encode_of_ids_ne (r : Registry) {p : Network}
    (hp : p.pubKeyHashId ≠ p.scriptHashId) :
    (∀ hash : Bytes, hash.length = 20 →
      ∃ a, Address.toPubKeyHash hash p = .ok a ∧ r.decode p a.encode = .ok a) ∧
    (∀ hash : Bytes, hash.length = 20 →
      ∃ a, Address.toScriptHash hash p = .ok a ∧ r.decode p a.encode = .ok a) ∧
    (∀ script : Bytes,
      r.decode p (Address.toScript script p).encode = .ok (Address.toScript script p)) ∧
    (∀ (key : Bytes) (a : Address), Address.toPubKey key p = .ok a →
      ∃ k, a = .pubKey k ∧ r.decode p a.encode = .ok (Address.ofKeyHash k) ∧
        Address.ofKeyHash k = .pubKeyHash ⟨Hash.hash160 key, p.pubKeyHashId⟩) := by
  refine ⟨fun hash hlen => ?_, fun hash hlen => ?_, fun script => ?_, fun key a ha => ?_⟩
  · refine ⟨.pubKeyHash ⟨⟨hash, hlen⟩, p.pubKeyHashId⟩, ?_, decode_encode_pubKeyHash hp _⟩
    exact map_eq_ok.2 ⟨_, HashAddress.ofBytes_eq_ok_iff.2 ⟨rfl, rfl⟩, rfl⟩
  · refine ⟨.scriptHash ⟨⟨hash, hlen⟩, p.scriptHashId⟩, ?_, decode_encode_scriptHash hp _⟩
    exact map_eq_ok.2 ⟨_, HashAddress.ofBytes_eq_ok_iff.2 ⟨rfl, rfl⟩, rfl⟩
  · exact decode_encode_scriptHash hp (Hash.hash160 script)
  · obtain ⟨k, hk, rfl⟩ := map_eq_ok.1 ha
    obtain ⟨rfl, hid, -⟩ := PublicKey.ofBytes_eq_ok_iff.1 hk
    refine ⟨k, rfl, ?_, ?_⟩
    · rw [Address.encode, Address.ofKeyHash, hid]
      exact decode_encode_pubKeyHash hp k.hash160
    · rw [Address.ofKeyHash, hid, PublicKey.hash160]

/-- A registered network that has the version bytes of the main network in the other roles does not
take its addresses. -/
theorem decode_encode_beside_swapped :
    let swapped : Network := ⟨"swapped", 1, 0x10, 0x4c, 0xcc, "sw"⟩
    let key : Bytes := 2 :: List.replicate 32 7
    Network.mainnet.pubKeyHashId ≠ Network.mainnet.scriptHashId ∧
    Registry.decode ⟨[swapped]⟩ Network.mainnet (Address.toScript [0x51] Network.mainnet).encode =
      .ok (Address.toScript [0x51] Network.mainnet) ∧
    ∃ a k, Address.toPubKey key Network.mainnet = .ok a ∧ a = .pubKey k ∧
      Registry.decode ⟨[swapped]⟩ Network.mainnet a.encode = .ok (Address.ofKeyHash k) := by
  intro swapped key
  have hp : Network.mainnet.pubKeyHashId ≠ Network.mainnet.scriptHashId := by decide
  have hkey : Address.toPubKey key Network.mainnet =
      .ok (.pubKey ⟨key, .compressed, Network.mainnet.pubKeyHashId⟩) := by rfl
  obtain ⟨-, -, hscript, hpub⟩ := decode_encode_of_ids_ne ⟨[swapped]⟩ hp
  obtain ⟨k, hk, hdec, -⟩ := hpub key _ hkey
  exact ⟨hp, hscript [0x51], _, k, hkey, hk, hdec⟩

end Registry

end CoinAddress
