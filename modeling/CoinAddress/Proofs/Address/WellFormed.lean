import CoinAddress.Proofs.Address.Belonging
import CoinAddress.Proofs.Key.Format

/-!
# What addresses keep belongs together

A witness address keeps a text that could be written anew from its other parts, and a public key a
form that its leading byte tells. `Address.WellFormed` says that such parts agree with each other and
with the kind of the address.

`Address.Obtained` lists the ways to obtain an address: it is made for a network, read from a text,
or that of the hash of a key. Nothing is asked of the networks, which need not be valid. All of them
lead to well-formed addresses (`Address.Obtained.wellFormed`).
-/

namespace CoinAddress

/-! ## Witness programs -/

/-- A witness address with a version and a length: its human-readable part is valid, and its text is
the one that is written for its parts and reads as them. -/
structure WitnessAddress.WellFormed (w : WitnessAddress) (version : UInt8) (length : Nat) :
    Prop where
  version_eq : w.version = version
  length_program : w.program.length = length
  validate_hrp : Bech32.Hrp.validate w.hrp = .ok ()
  encode_eq : Bech32.Segwit.encode ⟨w.hrp, w.version, w.program⟩ = .ok w.text
  length_text : w.text.toList.length ≤ 90
  decode_text : Bech32.Segwit.decode w.text = .ok ⟨w.hrp, w.version, w.program⟩

theorem WitnessAddress.wellFormed_of_ofProgram {hrp : String} {version : UInt8} {program : Bytes}
    {w : WitnessAddress} (h : ofProgram hrp version program = .ok w) :
    w.WellFormed version program.length := by
  obtain ⟨hversion, hprogram, hhrp, hvalid, htext⟩ := ofProgram_eq_ok_iff.1 h
  rw [← hhrp, ← hversion, ← hprogram] at htext
  rw [← hhrp] at hvalid
  have hread := (Bech32.Segwit.decode_eq_ok_iff_of_encode htext).2 (Or.inl rfl)
  exact ⟨hversion, congrArg List.length hprogram, hvalid, htext,
    Bech32.Segwit.length_le_of_decode hread, hread⟩

namespace Address

variable {a : Address}

/-- The parts of an address agree with its kind and with each other. -/
def WellFormed : Address → Prop
  | pubKeyHash _ | scriptHash _ => True
  | pubKey k => k.WellFormed
  | witnessPubKeyHash w => w.WellFormed 0 20
  | witnessScriptHash w => w.WellFormed 0 32
  | taproot w => w.WellFormed 1 32

/-- **The kind of an address of a witness program is right.** -/
theorem wellFormed_of_ofWitnessProgram {hrp : String} {version : UInt8} {program : Bytes}
    (h : ofWitnessProgram hrp version program = .ok a) : a.WellFormed := by
  obtain ⟨w, hw, hkind⟩ := ofWitnessProgram_eq_ok_iff.1 h
  have hwell := WitnessAddress.wellFormed_of_ofProgram hw
  rcases hkind with ⟨rfl, hlen, rfl⟩ | ⟨rfl, hlen, rfl⟩ | ⟨rfl, hlen, rfl⟩ <;>
    · rw [hlen] at hwell
      exact hwell

theorem wellFormed_of_toPubKey {key : Bytes} {net : Network} (h : toPubKey key net = .ok a) :
    a.WellFormed := by
  obtain ⟨k, hk, rfl⟩ := map_eq_ok.1 h
  exact (PublicKey.Reachable.ofBytes hk).wellFormed

/-! ## Ways to obtain an address -/

theorem wellFormed_of_toWitness {program : Bytes} {net : Network}
    (h : toWitnessPubKeyHash program net = .ok a ∨ toWitnessScriptHash program net = .ok a ∨
      toTaproot program net = .ok a) : a.WellFormed := by
  obtain ⟨version, -, hmake⟩ := exists_ofWitnessProgram h
  exact wellFormed_of_ofWitnessProgram hmake

theorem MadeFor.wellFormed {net : Network} (h : a.MadeFor net) : a.WellFormed := by
  cases h with
  | toPubKeyHash h | toScriptHash h =>
    obtain ⟨b, -, rfl⟩ := map_eq_ok.1 h
    trivial
  | toScript script => trivial
  | toPubKey h => exact wellFormed_of_toPubKey h
  | toWitnessPubKeyHash h => exact wellFormed_of_toWitness (Or.inl h)
  | toWitnessScriptHash h => exact wellFormed_of_toWitness (Or.inr (Or.inl h))
  | toTaproot h => exact wellFormed_of_toWitness (Or.inr (Or.inr h))

theorem wellFormed_of_decode {r : Registry} {d : Network} {s : String}
    (h : r.decode d s = .ok a) : a.WellFormed := by
  rcases Registry.decode_cases h with ⟨data, -, hclass⟩ | ⟨-, ⟨-, hsegwit⟩ | ⟨-, hkey⟩⟩
  · obtain ⟨version, hash, n, -, -, -, rfl⟩ := Registry.classify_eq_ok_iff.1 hclass
    rw [Registry.hashAddress]
    split <;> trivial
  · obtain ⟨c, -, hmake⟩ := bind_eq_ok.1 hsegwit
    exact wellFormed_of_ofWitnessProgram hmake
  · obtain ⟨-, key, -, hmake⟩ := Registry.publicKeyHex_eq_claimed_iff.1 hkey
    exact wellFormed_of_toPubKey hmake

/-- The addresses that are obtained, from networks, registries and texts of any kind. -/
inductive Obtained : Address → Prop
  | madeFor {net : Network} {a : Address} (h : a.MadeFor net) : Obtained a
  | decode {r : Registry} {default : Network} {s : String} {a : Address}
      (h : r.decode default s = .ok a) : Obtained a
  | ofKeyHash {k : PublicKey} (hk : k.Reachable) : Obtained (ofKeyHash k)

theorem Obtained.wellFormed (h : a.Obtained) : a.WellFormed := by
  cases h with
  | madeFor h => exact h.wellFormed
  | decode h => exact wellFormed_of_decode h
  | ofKeyHash hk => trivial

/-- **All addresses that are obtained are well-formed, and so are all keys**, whatever forms a key is
written in one after the other; its version byte stays. -/
theorem wellFormed_of_obtained :
    (∀ a : Address, a.Obtained → a.WellFormed) ∧
      ∀ (bytes : Bytes) (netId : UInt8) (formats : List KeyFormat) (k k' : PublicKey),
        PublicKey.ofBytes bytes netId = .ok k → k.withFormats formats = .ok k' →
          k'.WellFormed ∧ k'.netId = netId :=
  ⟨fun _ h => h.wellFormed, fun _ _ _ _ _ hk h => PublicKey.wellFormed_of_withFormats hk h⟩

/-- An address of a network that is not valid, and a hybrid key that changes its leading byte on the
way through two other forms. -/
theorem wellFormed_of_obtained_invalid :
    let net : Network := ⟨"", 0, 0x30, 0x30, 0xb0, "LTC"⟩
    let a : Address := .witnessPubKeyHash
      ⟨0, List.replicate 20 7, "ltc", "ltc1qqurswpc8qurswpc8qurswpc8qurswpc8p4r4uu"⟩
    let x : Curve.Field := 0x79be667ef9dcbbac55a06295ce870b07029bfcdb2dce28d959f2815b16f81798
    let y : Curve.Field := 0x483ada7726a3c4655da4fbfc0e1108a8fd17b448a68554199c47d08ffb10d4b8
    let k : PublicKey := ⟨7 :: (x.bytes ++ y.bytes), .hybrid, 0x4c⟩
    let k' : PublicKey := ⟨6 :: (x.bytes ++ y.bytes), .hybrid, 0x4c⟩
    net.validate ≠ .ok () ∧ a.Obtained ∧ a.WellFormed ∧ PublicKey.ofBytes k.bytes 0x4c = .ok k ∧
      k.withFormats [.compressed, .uncompressed, .hybrid] = .ok k' ∧
      k'.WellFormed ∧ k'.netId = 0x4c := by
  intro net a x y k k'
  have ha : a.Obtained := .madeFor <| .toWitnessPubKeyHash
    (by decide +kernel : toWitnessPubKeyHash (List.replicate 20 7) net = .ok a)
  have hk : PublicKey.ofBytes k.bytes 0x4c = .ok k := by decide +kernel
  have hforms : k.withFormats [.compressed, .uncompressed, .hybrid] = .ok k' := by decide +kernel
  obtain ⟨haddress, hkey⟩ := wellFormed_of_obtained
  exact ⟨by decide +kernel, ha, haddress a ha, hk, hforms,
    hkey k.bytes 0x4c [.compressed, .uncompressed, .hybrid] k k' hk hforms⟩

end Address

end CoinAddress
