import CoinAddress.Proofs.Address.Belonging
import CoinAddress.Proofs.Address.HashAddress
import CoinAddress.Proofs.Key.Wif

/-!
# The same payload on two networks

A hash, a key, a script or a witness program is made an address of one network or of another. If both
networks are valid, the address of the first belongs to the second if and only if both addresses have
the same text (`Address.isFor_iff_encode_eq`), and likewise for private keys: a text tells the version
byte or the human-readable part that it was written with.
-/

namespace CoinAddress.Address

/-! ## Makers -/

/-- The ways to make an address of a payload and a network. -/
inductive Maker where
  | pubKeyHash
  | scriptHash
  | script
  | pubKey
  | witnessPubKeyHash
  | witnessScriptHash
  | taproot

/-- The address of a payload on a network. -/
def Maker.make : Maker → Bytes → Network → Except Error Address
  | pubKeyHash => toPubKeyHash
  | scriptHash => toScriptHash
  | script => fun script net => .ok (toScript script net)
  | pubKey => toPubKey
  | witnessPubKeyHash => toWitnessPubKeyHash
  | witnessScriptHash => toWitnessScriptHash
  | taproot => toTaproot

variable {p q : Network} {payload : Bytes} {a b : Address}

/-- The addresses that are made for a network are those that the makers give. -/
theorem madeFor_iff_exists_make : a.MadeFor p ↔ ∃ m payload, Maker.make m payload p = .ok a := by
  constructor
  · intro h
    cases h with
    | toPubKeyHash h => exact ⟨.pubKeyHash, _, h⟩
    | toScriptHash h => exact ⟨.scriptHash, _, h⟩
    | toScript script => exact ⟨.script, script, rfl⟩
    | toPubKey h => exact ⟨.pubKey, _, h⟩
    | toWitnessPubKeyHash h => exact ⟨.witnessPubKeyHash, _, h⟩
    | toWitnessScriptHash h => exact ⟨.witnessScriptHash, _, h⟩
    | toTaproot h => exact ⟨.taproot, _, h⟩
  · rintro ⟨m, payload, h⟩
    cases m with
    | pubKeyHash => exact .toPubKeyHash h
    | scriptHash => exact .toScriptHash h
    | script =>
      cases h
      exact .toScript payload
    | pubKey => exact .toPubKey h
    | witnessPubKeyHash => exact .toWitnessPubKeyHash h
    | witnessScriptHash => exact .toWitnessScriptHash h
    | taproot => exact .toTaproot h

/-! ## Version bytes -/

/-- The texts of one hash tell its version byte. -/
theorem netId_eq_iff_of_hash {id id' : UInt8} (hash : FixedBytes 20) :
    id = id' ↔ HashAddress.encode ⟨hash, id⟩ = HashAddress.encode ⟨hash, id'⟩ := by
  rw [HashAddress.encode_inj, HashAddress.mk.injEq, eq_self, true_and]

theorem netId_eq_iff_of_ofBytes {h h' : HashAddress} {id id' : UInt8}
    (ha : HashAddress.ofBytes payload id = .ok h)
    (hb : HashAddress.ofBytes payload id' = .ok h') : h.netId = id' ↔ h.encode = h'.encode := by
  obtain ⟨-, hid⟩ := HashAddress.ofBytes_eq_ok_iff.1 ha
  obtain ⟨-, hid'⟩ := HashAddress.ofBytes_eq_ok_iff.1 hb
  rw [HashAddress.encode_inj]
  constructor
  · intro heq
    rw [hid, heq] at ha
    exact Except.ok.inj (ha.symm.trans hb)
  · rintro rfl
    exact hid'.symm

theorem netId_eq_iff_of_toPubKey {k k' : PublicKey} {id id' : UInt8}
    (ha : PublicKey.ofBytes payload id = .ok k) (hb : PublicKey.ofBytes payload id' = .ok k') :
    k.netId = id' ↔ (pubKey k).encode = (pubKey k').encode := by
  obtain ⟨hbytes, -⟩ := PublicKey.ofBytes_eq_ok_iff.1 ha
  obtain ⟨hbytes', hid', -⟩ := PublicKey.ofBytes_eq_ok_iff.1 hb
  rw [encode, encode, PublicKey.hash160, PublicKey.hash160, hbytes, hbytes', hid']
  exact netId_eq_iff_of_hash _

/-! ## Human-readable parts -/

/-- The texts of one program tell its human-readable part, which both networks spell in lower
case. -/
theorem isFor_iff_of_ofWitnessProgram (hp : p.validate = .ok ()) (hq : q.validate = .ok ())
    {version : UInt8} (ha : ofWitnessProgram p.hrp version payload = .ok a)
    (hb : ofWitnessProgram q.hrp version payload = .ok b) :
    a.isFor q = true ↔ a.encode = b.encode := by
  rw [isFor_iff_of_hrp? (hrp?_of_ofWitnessProgram ha), Bech32.Segwit.eitherCase.write_inj
    (encode_of_ofWitnessProgram ha) (encode_of_ofWitnessProgram hb),
    Network.lowerAscii_hrp hp, Network.lowerAscii_hrp hq, Bech32.Segwit.Content.mk.injEq]
  simp only [and_true]

/-! ## Two networks -/

theorem isFor_iff_encode_eq_of_make (hp : p.validate = .ok ()) (hq : q.validate = .ok ())
    {m : Maker} (ha : m.make payload p = .ok a) (hb : m.make payload q = .ok b) :
    a.isFor q = true ↔ a.encode = b.encode := by
  cases m with
  | pubKeyHash | scriptHash =>
    obtain ⟨h, hmake, rfl⟩ := map_eq_ok.1 ha
    obtain ⟨h', hmake', rfl⟩ := map_eq_ok.1 hb
    exact beq_iff_eq.trans (netId_eq_iff_of_ofBytes hmake hmake')
  | script =>
    cases ha
    cases hb
    exact beq_iff_eq.trans (netId_eq_iff_of_hash (Hash.hash160 payload))
  | pubKey =>
    obtain ⟨k, hmake, rfl⟩ := map_eq_ok.1 ha
    obtain ⟨k', hmake', rfl⟩ := map_eq_ok.1 hb
    exact beq_iff_eq.trans (netId_eq_iff_of_toPubKey hmake hmake')
  | witnessPubKeyHash =>
    exact isFor_iff_of_ofWitnessProgram hp hq (ofWitnessProgram_of_toWitnessPubKeyHash ha)
      (ofWitnessProgram_of_toWitnessPubKeyHash hb)
  | witnessScriptHash =>
    exact isFor_iff_of_ofWitnessProgram hp hq (ofWitnessProgram_of_toWitnessScriptHash ha)
      (ofWitnessProgram_of_toWitnessScriptHash hb)
  | taproot =>
    have hmake : ofWitnessProgram p.hrp 1 payload = .ok a := ha
    exact isFor_iff_of_ofWitnessProgram hp hq hmake hb

/-- **What is made of a payload for one valid network belongs to another if and only if it has the
text that is made of the payload for the other**, be it an address or a private key. -/
theorem isFor_iff_encode_eq (hp : p.validate = .ok ()) (hq : q.validate = .ok ()) :
    (∀ (m : Maker) (payload : Bytes) (a b : Address),
      m.make payload p = .ok a → m.make payload q = .ok b →
        (a.isFor q = true ↔ a.encode = b.encode)) ∧
      ∀ (key : Bytes) (compressed : Bool), key.length = 32 →
        ∃ v w, Wif.ofKey key p compressed = .ok v ∧ Wif.ofKey key q compressed = .ok w ∧
          (v.isFor q = true ↔ w.encode = v.encode) := by
  refine ⟨fun m payload a b ha hb => isFor_iff_encode_eq_of_make hp hq ha hb,
    fun key compressed hkey => ?_⟩
  refine ⟨_, _, Wif.ofKey_of_length_eq hkey p compressed, Wif.ofKey_of_length_eq hkey q compressed,
    beq_iff_eq.trans ?_⟩
  rw [Wif.encode_inj, Wif.mk.injEq, eq_self, eq_self, true_and, true_and, eq_comm]

/-- The two test networks share their version bytes but not their human-readable parts. -/
theorem isFor_iff_encode_eq_testnets :
    let hash : Bytes := List.replicate 20 7
    let a : Address := .pubKeyHash ⟨⟨hash, rfl⟩, 0x8c⟩
    let v : Address :=
      .witnessPubKeyHash ⟨0, hash, "tb", "tb1qqurswpc8qurswpc8qurswpc8qurswpc800zzll"⟩
    let w : Address :=
      .witnessPubKeyHash ⟨0, hash, "bcrt", "bcrt1qqurswpc8qurswpc8qurswpc8qurswpc8dxm0gk"⟩
    Network.testnet3.validate = .ok () ∧ Network.regtest.validate = .ok () ∧
      Maker.pubKeyHash.make hash Network.testnet3 = .ok a ∧
      Maker.pubKeyHash.make hash Network.regtest = .ok a ∧ a.isFor Network.regtest = true ∧
      Maker.witnessPubKeyHash.make hash Network.testnet3 = .ok v ∧
      Maker.witnessPubKeyHash.make hash Network.regtest = .ok w ∧
      ¬ v.isFor Network.regtest = true := by
  intro hash a v w
  have hp : Network.testnet3.validate = .ok () := by decide +kernel
  have hq : Network.regtest.validate = .ok () := by decide +kernel
  have ha : Maker.pubKeyHash.make hash Network.testnet3 = .ok a := rfl
  have ha' : Maker.pubKeyHash.make hash Network.regtest = .ok a := rfl
  have hv : Maker.witnessPubKeyHash.make hash Network.testnet3 = .ok v := by decide +kernel
  have hw : Maker.witnessPubKeyHash.make hash Network.regtest = .ok w := by decide +kernel
  have hmade := (isFor_iff_encode_eq hp hq).1
  exact ⟨hp, hq, ha, ha', (hmade _ hash a a ha ha').2 rfl, hv, hw,
    fun hfor => absurd ((hmade _ hash v w hv hw).1 hfor) (by decide)⟩

end CoinAddress.Address
