import CoinAddress.Proofs.Address.Registration

/-!
# The networks that addresses belong to

An address belongs to a network if it has the version byte that the network uses for its kind, or
the human-readable part of the network. The human-readable part of an address is in lower case.

* `Address.MadeFor` lists the ways to make an address of a network. The address belongs to the
  network, with one exception: a witness address does not if the network spells its human-readable
  part in capitals (`Address.isFor_iff_of_madeFor`), which no valid network does.
* What is read from a text belongs to the default network or to a registered one
  (`Registry.exists_isFor_of_decode`).
-/

namespace CoinAddress

open Text

/-! ## Human-readable parts -/

namespace Address

variable {net : Network} {a : Address}

/-- A witness address belongs to the networks that have its human-readable part. -/
theorem isFor_iff_of_hrp? {hrp : String} (h : a.hrp? = some hrp) :
    a.isFor net = true ↔ hrp = net.hrp := by
  cases a with
  | witnessPubKeyHash w | witnessScriptHash w | taproot w =>
    obtain rfl : w.hrp = hrp := Option.some.inj h
    exact beq_iff_eq
  | pubKeyHash b | scriptHash b | pubKey k => cases h

/-- An address of a witness program has the human-readable part in lower case. -/
theorem hrp?_of_ofWitnessProgram {hrp : String} {version : UInt8} {program : Bytes}
    (h : ofWitnessProgram hrp version program = .ok a) : a.hrp? = some (lowerAscii hrp) := by
  obtain ⟨w, hw, hkind⟩ := ofWitnessProgram_eq_ok h
  obtain ⟨-, -, hhrp, -⟩ := WitnessAddress.ofProgram_eq_ok_iff.1 hw
  rw [← hhrp]
  rcases hkind with rfl | rfl | rfl <;> rfl

/-! ## Making addresses -/

/-- The addresses that are made for a network. -/
inductive MadeFor (net : Network) : Address → Prop
  | toPubKeyHash {hash : Bytes} {a : Address} (h : toPubKeyHash hash net = .ok a) : MadeFor net a
  | toScriptHash {hash : Bytes} {a : Address} (h : toScriptHash hash net = .ok a) : MadeFor net a
  | toScript (script : Bytes) : MadeFor net (toScript script net)
  | toPubKey {key : Bytes} {a : Address} (h : toPubKey key net = .ok a) : MadeFor net a
  | toWitnessPubKeyHash {program : Bytes} {a : Address}
      (h : toWitnessPubKeyHash program net = .ok a) : MadeFor net a
  | toWitnessScriptHash {program : Bytes} {a : Address}
      (h : toWitnessScriptHash program net = .ok a) : MadeFor net a
  | toTaproot {program : Bytes} {a : Address} (h : toTaproot program net = .ok a) : MadeFor net a

theorem netId_of_toPubKey {key : Bytes} (h : toPubKey key net = .ok a) :
    ∃ k, a = .pubKey k ∧ k.netId = net.pubKeyHashId := by
  obtain ⟨k, hk, rfl⟩ := map_eq_ok.1 h
  obtain ⟨-, hid, -⟩ := PublicKey.ofBytes_eq_ok_iff.1 hk
  exact ⟨k, rfl, hid⟩

/-- All makers of witness addresses put the human-readable part of the network in lower case. -/
theorem hrp?_of_toWitness {program : Bytes}
    (h : toWitnessPubKeyHash program net = .ok a ∨ toWitnessScriptHash program net = .ok a ∨
      toTaproot program net = .ok a) : a.hrp? = some (lowerAscii net.hrp) := by
  obtain ⟨version, -, hmake⟩ := exists_ofWitnessProgram h
  exact hrp?_of_ofWitnessProgram hmake

/-- **What is made for a network** is a hash or a key with a version byte of the network, or a
witness address with its human-readable part in lower case. -/
theorem MadeFor.cases (h : MadeFor net a) :
    (∃ hash, a = .pubKeyHash ⟨hash, net.pubKeyHashId⟩) ∨
      (∃ hash, a = .scriptHash ⟨hash, net.scriptHashId⟩) ∨
      (∃ k, a = .pubKey k ∧ k.netId = net.pubKeyHashId) ∨ a.hrp? = some (lowerAscii net.hrp) := by
  cases h with
  | toPubKeyHash h =>
    obtain ⟨⟨hash, id⟩, hb, rfl⟩ := map_eq_ok.1 h
    obtain ⟨-, rfl⟩ := HashAddress.ofBytes_eq_ok_iff.1 hb
    exact Or.inl ⟨hash, rfl⟩
  | toScriptHash h =>
    obtain ⟨⟨hash, id⟩, hb, rfl⟩ := map_eq_ok.1 h
    obtain ⟨-, rfl⟩ := HashAddress.ofBytes_eq_ok_iff.1 hb
    exact Or.inr (Or.inl ⟨hash, rfl⟩)
  | toScript script => exact Or.inr (Or.inl ⟨Hash.hash160 script, rfl⟩)
  | toPubKey h => exact Or.inr (Or.inr (Or.inl (netId_of_toPubKey h)))
  | toWitnessPubKeyHash h => exact Or.inr (Or.inr (Or.inr (hrp?_of_toWitness (Or.inl h))))
  | toWitnessScriptHash h =>
    exact Or.inr (Or.inr (Or.inr (hrp?_of_toWitness (Or.inr (Or.inl h)))))
  | toTaproot h => exact Or.inr (Or.inr (Or.inr (hrp?_of_toWitness (Or.inr (Or.inr h)))))

/-- **What is made for a network belongs to it**, whatever its version bytes are, **unless it is a
witness address and the human-readable part of the network has capitals**: a witness address has that
part in lower case. That of a valid network has no capitals. -/
theorem isFor_iff_of_madeFor (h : MadeFor net a) :
    (a.isFor net = true ↔ ¬ (a.witness?.isSome = true ∧ lowerAscii net.hrp ≠ net.hrp)) ∧
      (a.witness?.isSome = true → a.hrp? = some (lowerAscii net.hrp)) ∧
      (net.validate = .ok () → a.isFor net = true) := by
  have hiff : (a.isFor net = true ↔
      ¬ (a.witness?.isSome = true ∧ lowerAscii net.hrp ≠ net.hrp)) ∧
      (a.witness?.isSome = true → a.hrp? = some (lowerAscii net.hrp)) := by
    rcases h.cases with ⟨hash, rfl⟩ | ⟨hash, rfl⟩ | ⟨k, rfl, hid⟩ | hhrp
    · exact ⟨iff_of_true (beq_self_eq_true _) fun hw => Bool.false_ne_true hw.1, nofun⟩
    · exact ⟨iff_of_true (beq_self_eq_true _) fun hw => Bool.false_ne_true hw.1, nofun⟩
    · exact ⟨iff_of_true (beq_iff_eq.2 hid) fun hw => Bool.false_ne_true hw.1, nofun⟩
    · have hwitness : a.witness?.isSome = true := by
        rw [← Option.isSome_map, ← hrp?, hhrp]
        rfl
      refine ⟨?_, fun _ => hhrp⟩
      rw [isFor_iff_of_hrp? hhrp]
      simp [hwitness]
  exact ⟨hiff.1, hiff.2, fun hvalid =>
    hiff.1.2 fun hcapitals => hcapitals.2 (Network.lowerAscii_hrp hvalid)⟩

/-- A script and a program of a network that is not valid, and a program of the main network. -/
theorem isFor_iff_of_madeFor_script :
    let net : Network := ⟨"", 0, 0x30, 0x30, 0xb0, "LTC"⟩
    let a : Address := .taproot ⟨1, List.replicate 32 7, "bc",
      "bc1pqurswpc8qurswpc8qurswpc8qurswpc8qurswpc8qurswpc8qurssvw8hu"⟩
    let b : Address := .witnessPubKeyHash
      ⟨0, List.replicate 20 7, "ltc", "ltc1qqurswpc8qurswpc8qurswpc8qurswpc8p4r4uu"⟩
    net.validate ≠ .ok () ∧ (toScript [0x51] net).MadeFor net ∧
      (toScript [0x51] net).isFor net = true ∧
      a.MadeFor Network.mainnet ∧ Network.mainnet.validate = .ok () ∧
      a.isFor Network.mainnet = true ∧ b.MadeFor net ∧ b.hrp? = some (lowerAscii net.hrp) := by
  intro net a b
  have hscript : (toScript [0x51] net).MadeFor net := .toScript [0x51]
  have hmade : a.MadeFor Network.mainnet :=
    .toTaproot (by decide +kernel : toTaproot (List.replicate 32 7) Network.mainnet = .ok a)
  have hcapitals : b.MadeFor net := .toWitnessPubKeyHash
    (by decide +kernel : toWitnessPubKeyHash (List.replicate 20 7) net = .ok b)
  have hvalid : Network.mainnet.validate = .ok () := by decide +kernel
  exact ⟨by decide +kernel, hscript,
    (isFor_iff_of_madeFor hscript).1.2 fun hw => Bool.false_ne_true hw.1, hmade, hvalid,
    (isFor_iff_of_madeFor hmade).2.2 hvalid, hcapitals,
    (isFor_iff_of_madeFor hcapitals).2.1 rfl⟩

/-- **A witness address does not belong to the network it was made for if that has capitals** in its
human-readable part: the address is kept in lower case. -/
theorem not_isFor_of_capitals :
    let net : Network := ⟨"litecoin", 0xdbb6c0fb, 0x30, 0x32, 0xb0, "LTC"⟩
    let a : Address := .witnessPubKeyHash
      ⟨0, List.replicate 20 7, "ltc", "ltc1qqurswpc8qurswpc8qurswpc8qurswpc8p4r4uu"⟩
    toWitnessPubKeyHash (List.replicate 20 7) net = .ok a ∧ ¬ a.isFor net = true := by
  decide +kernel

end Address

namespace Registry

variable {r : Registry} {d : Network} {s : String} {a : Address}

/-! ## Reading addresses -/

/-- What has a version byte of a network in the role of the byte belongs to the network. -/
theorem isFor_hashAddress {n : Network} {version : UInt8}
    (h : n.pubKeyHashId = version ∨ n.scriptHashId = version) (hash : FixedBytes 20) :
    (hashAddress n version hash).isFor n = true := by
  rw [hashAddress]
  split
  · next hid => exact beq_iff_eq.2 hid.symm
  · next hid => exact beq_iff_eq.2 (h.resolve_left hid).symm

theorem exists_isFor_of_classify {data : Bytes} (h : r.classify d data = .ok a) :
    ∃ n ∈ d :: r.networks, a.isFor n = true := by
  obtain ⟨version, hash, n, -, hn, -, rfl⟩ := classify_eq_ok_iff.1 h
  exact ⟨n, List.mem_of_find?_eq_some hn, isFor_hashAddress (id_of_networkFor? hn) hash⟩

/-- The bech32 family claims a text for a network in letters of any case. That network is valid, so
it spells its human-readable part as the address does. -/
theorem exists_isFor_of_segwitAddress (hr : r.Reachable) (hd : d.validate = .ok ())
    (hs : r.claimsSegwit d s = true) (h : segwitAddress s = .ok a) :
    ∃ n ∈ d :: r.networks, a.isFor n = true := by
  obtain ⟨c, hread, hmake⟩ := bind_eq_ok.1 h
  have hlower := Bech32.Segwit.lowerAscii_hrp_of_decode hread
  have hhrp : a.hrp? = some c.hrp := by rw [Address.hrp?_of_ofWitnessProgram hmake, hlower]
  rw [claimsSegwit_of_segwit hread] at hs
  rcases (knowsHrp_iff hr hd hlower).1 hs with heq | ⟨n, hn, heq⟩
  · exact ⟨d, List.mem_cons_self, (Address.isFor_iff_of_hrp? hhrp).2 heq⟩
  · exact ⟨n, List.mem_cons_of_mem _ hn, (Address.isFor_iff_of_hrp? hhrp).2 heq⟩

/-- A key takes the version byte of the default network. -/
theorem isFor_of_publicKeyHex (h : Decoder.publicKeyHex d s = .claimed (.ok a)) :
    a.isFor d = true := by
  obtain ⟨-, key, -, hmake⟩ := publicKeyHex_eq_claimed_iff.1 h
  obtain ⟨k, rfl, hid⟩ := Address.netId_of_toPubKey hmake
  exact beq_iff_eq.2 hid

/-- **Every address that is read belongs to the default network or to a registered one**, a public
key to the default network. -/
theorem exists_isFor_of_decode (hr : r.Reachable) (hd : d.validate = .ok ())
    (h : r.decode d s = .ok a) :
    (∃ n ∈ d :: r.networks, a.isFor n = true) ∧ (a.kind = .pubKey → a.isFor d = true) := by
  rcases decode_cases h with ⟨data, -, hclass⟩ | ⟨-, ⟨hs, hsegwit⟩ | ⟨-, hkey⟩⟩
  · exact ⟨exists_isFor_of_classify hclass, fun hkind => absurd hkind (kind_of_classify hclass)⟩
  · exact ⟨exists_isFor_of_segwitAddress hr hd hs hsegwit,
      fun hkind => absurd hkind (kind_of_segwitAddress hsegwit)⟩
  · exact ⟨⟨d, List.mem_cons_self, isFor_of_publicKeyHex hkey⟩,
      fun _ => isFor_of_publicKeyHex hkey⟩

/-- Capitals under the human-readable part of a registered network that is not the default one, and
a public key. -/
theorem exists_isFor_of_decode_capitals :
    let a : Address := .witnessPubKeyHash ⟨0, [0x75, 0x1e, 0x76, 0xe8, 0x19, 0x91, 0x96, 0xd4, 0x54,
      0x94, 0x1c, 0x45, 0xd1, 0xb3, 0xa3, 0x23, 0xf1, 0x43, 0x3b, 0xd6], "tb",
      "tb1qw508d6qejxtdg4y5r3zarvary0c5xw7kxpjzsx"⟩
    let k : Address := .pubKey ⟨separatedKey, .compressed, 0x4c⟩
    predefined.Reachable ∧ Network.mainnet.validate = .ok () ∧
      predefined.decode Network.mainnet "TB1QW508D6QEJXTDG4Y5R3ZARVARY0C5XW7KXPJZSX" = .ok a ∧
      a.isFor Network.mainnet = false ∧
      (∃ n ∈ Network.mainnet :: predefined.networks, a.isFor n = true) ∧
      predefined.decode Network.mainnet (Text.Hex.encode separatedKey) = .ok k ∧
      k.isFor Network.mainnet = true := by
  intro a k
  have hd : Network.mainnet.validate = .ok () := by decide +kernel
  have ha : predefined.decode Network.mainnet "TB1QW508D6QEJXTDG4Y5R3ZARVARY0C5XW7KXPJZSX" =
      .ok a := by decide +kernel
  have hk : predefined.decode Network.mainnet (Text.Hex.encode separatedKey) = .ok k := by
    decide +kernel
  exact ⟨.predefined, hd, ha, by decide +kernel, (exists_isFor_of_decode .predefined hd ha).1, hk,
    (exists_isFor_of_decode .predefined hd hk).2 rfl⟩

end Registry

end CoinAddress
