import CoinAddress.Proofs.Address.PublicKeyText

/-!
# The order of registration

The decoder asks a registry two questions: which address a version byte and a hash make, and whether
a human-readable part is known (`Registry.decode_congr`). The answer to the second depends on the
networks alone, not on their order.

The answer to the first is that of the first network with the byte. It is the same for all networks
that have the byte if no byte is used for the hashes of keys by one network and for the hashes of
scripts by another (`Network.RolesApart`); two networks may well share a byte in one role. Then any
two registries with the same networks read every text alike, errors included
(`Registry.decode_of_perm`).
-/

namespace CoinAddress

/-- Whether no version byte stands for the hashes of keys and for the hashes of scripts, be it in
one network or in two. -/
def Network.RolesApart (ns : List Network) : Prop :=
  ∀ n ∈ ns, ∀ m ∈ ns, n.pubKeyHashId ≠ m.scriptHashId

instance (ns : List Network) : Decidable (Network.RolesApart ns) :=
  inferInstanceAs (Decidable (∀ n ∈ ns, ∀ m ∈ ns, n.pubKeyHashId ≠ m.scriptHashId))

namespace Registry

variable {r r' : Registry} {d n : Network}

/-! ## What the decoder asks -/

/-- **Registries that answer alike read texts alike.** -/
theorem decode_congr (hclass : ∀ data, r'.classify d data = r.classify d data)
    (hknows : ∀ hrp, r'.knowsHrp d hrp = r.knowsHrp d hrp) (s : String) :
    r'.decode d s = r.decode d s := by
  have hbase58 : ∀ data, Decoder.base58Check r' d data = Decoder.base58Check r d data := by
    intro data
    cases data with
    | error e => rfl
    | ok data => exact congrArg Decoder.Verdict.claimed (hclass data)
  have hbech32 : Decoder.bech32 r' d s = Decoder.bech32 r d s := by
    simp only [Decoder.bech32, hknows]
  simp only [decode, hbase58, hbech32]

/-! ## Version bytes -/

theorem networkFor?_eq_none_iff {version : UInt8} : r.networkFor? d version = none ↔
    ∀ n ∈ d :: r.networks, ¬ (n.pubKeyHashId = version ∨ n.scriptHashId = version) := by
  simp only [networkFor?, List.find?_eq_none, Bool.or_eq_true, beq_iff_eq]

/-- **Each network that has a version byte gives the answer**, whichever of them is found: all have
the byte in the same role. -/
theorem classify_cons_of_rolesApart (hroles : Network.RolesApart (d :: r.networks))
    (hn : n ∈ d :: r.networks) {version : UInt8}
    (hid : n.pubKeyHashId = version ∨ n.scriptHashId = version) (hash : Bytes) :
    r.classify d (version :: hash) =
      if hash.length ≠ 20 then .error (.malformed (.hashLength hash.length version))
      else if n.pubKeyHashId = version then Address.toPubKeyHash hash n
      else Address.toScriptHash hash n := by
  cases hfind : r.networkFor? d version with
  | none => exact absurd hid (networkFor?_eq_none_iff.1 hfind n hn)
  | some m =>
    have hm : m ∈ d :: r.networks := List.mem_of_find?_eq_some hfind
    rw [classify_cons hfind, if_neg (hroles m hm m hm)]
    by_cases hpk : n.pubKeyHashId = version
    · have hmpk : m.pubKeyHashId = version :=
        (id_of_networkFor? hfind).resolve_right fun hscript =>
          hroles n hn m hm (hpk.trans hscript.symm)
      rw [if_pos hpk, if_pos hmpk, Address.toPubKeyHash, Address.toPubKeyHash, hpk, hmpk]
    · have hscript : n.scriptHashId = version := hid.resolve_left hpk
      have hmpk : m.pubKeyHashId ≠ version := fun hmpk =>
        hroles m hm n hn (hmpk.trans hscript.symm)
      have hmscript : m.scriptHashId = version := (id_of_networkFor? hfind).resolve_left hmpk
      rw [if_neg hpk, if_neg hmpk, Address.toScriptHash, Address.toScriptHash, hscript, hmscript]

/-! ## The same networks -/

section SameNetworks

variable (h : ∀ n, n ∈ r'.networks ↔ n ∈ r.networks)
include h

theorem mem_cons_networks_congr : n ∈ d :: r'.networks ↔ n ∈ d :: r.networks := by
  rw [List.mem_cons, List.mem_cons, h]

theorem knowsHrp_congr (hrp : String) : r'.knowsHrp d hrp = r.knowsHrp d hrp := by
  rw [Bool.eq_iff_iff, knowsHrp_iff_exists, knowsHrp_iff_exists]
  simp only [mem_cons_networks_congr h]

/-- Whether a strange byte is that of private keys depends on the networks alone. -/
theorem strangeVersion_congr (version : UInt8) :
    r'.strangeVersion d version = r.strangeVersion d version := by
  have hprivate : (r'.withPrivateKeyId? version).isSome = (r.withPrivateKeyId? version).isSome := by
    rw [Bool.eq_iff_iff, withPrivateKeyId?, withPrivateKeyId?, List.find?_isSome,
      List.find?_isSome]
    simp only [h]
  rw [strangeVersion, strangeVersion, hprivate]

/-- **Version bytes with their roles apart mean the same in any order of the networks.** -/
theorem classify_congr (hroles : Network.RolesApart (d :: r.networks)) (data : Bytes) :
    r'.classify d data = r.classify d data := by
  have hroles' : Network.RolesApart (d :: r'.networks) := fun n hn m hm =>
    hroles n ((mem_cons_networks_congr h).1 hn) m ((mem_cons_networks_congr h).1 hm)
  cases data with
  | nil => rfl
  | cons version hash =>
    cases hfind : r.networkFor? d version with
    | none =>
      have hfind' : r'.networkFor? d version = none := networkFor?_eq_none_iff.2 fun n hn =>
        networkFor?_eq_none_iff.1 hfind n ((mem_cons_networks_congr h).1 hn)
      rw [classify_cons_of_none hfind, classify_cons_of_none hfind', strangeVersion_congr h]
    | some n =>
      have hn : n ∈ d :: r.networks := List.mem_of_find?_eq_some hfind
      have hid := id_of_networkFor? hfind
      rw [classify_cons_of_rolesApart hroles hn hid,
        classify_cons_of_rolesApart hroles' ((mem_cons_networks_congr h).2 hn) hid]

end SameNetworks

/-- **Every text is read alike in any order of the networks**, with the same address or the same
error, if no version byte stands for the hashes of keys and for the hashes of scripts. -/
theorem decode_of_perm (hroles : Network.RolesApart (d :: r.networks))
    (h : r'.networks.Perm r.networks) (s : String) : r'.decode d s = r.decode d s :=
  decode_congr (classify_congr (fun _ => h.mem_iff) hroles) (knowsHrp_congr fun _ => h.mem_iff) s

/-- Two networks that share their version bytes, in the same roles, on either side of the others. -/
theorem decode_of_perm_shared_bytes :
    let r' : Registry := ⟨[Network.regtest, Network.mainnet, Network.testnet3]⟩
    let s := "yLdJV43FeP3zAZMBrUdtygj3viNBnfcGbG"
    let hash : FixedBytes 20 := ⟨[0x03, 0x60, 0x81, 0x3d, 0xf9, 0xb3, 0x32, 0x5e, 0x7a, 0x21, 0x97,
      0x20, 0x29, 0x94, 0xcb, 0x2a, 0x0a, 0xc2, 0xd3, 0xb3], rfl⟩
    Network.RolesApart (Network.mainnet :: predefined.networks) ∧
      r'.networks.Perm predefined.networks ∧
      predefined.decode Network.mainnet s = .ok (.pubKeyHash ⟨hash, 0x8c⟩) ∧
      r'.decode Network.mainnet s = .ok (.pubKeyHash ⟨hash, 0x8c⟩) := by
  intro r' s hash
  have hroles : Network.RolesApart (Network.mainnet :: predefined.networks) := by decide
  have hperm : r'.networks.Perm predefined.networks := by decide
  have hread : predefined.decode Network.mainnet s = .ok (.pubKeyHash ⟨hash, 0x8c⟩) := by
    decide +kernel
  exact ⟨hroles, hperm, hread, (decode_of_perm hroles hperm s).trans hread⟩

/-- A byte in two roles has the role of the network that was registered first. -/
example :
    let n : Network := ⟨"one", 1, 0x30, 0x32, 0xb0, "one"⟩
    let m : Network := ⟨"two", 2, 0x32, 0x30, 0xb0, "two"⟩
    let s := "LM2WMpR1Rp6j3Sa59cMXMs1SPzj9eXpGc1"
    Registry.decode ⟨[n, m]⟩ Network.mainnet s ≠ Registry.decode ⟨[m, n]⟩ Network.mainnet s := by
  decide +kernel

end Registry

end CoinAddress
