import CoinAddress.Proofs.Address.PublicKeyText

/-!
# What one more network changes for the reader

A network is registered behind all others. The version bytes and human-readable parts that were known
stay with the networks that had them, so the addresses with a version byte and the witness addresses
that could be read are read as before. Only the text of a public key is at risk: once a network leads
it, the bech32 family claims it (`Registry.decode_register`).
-/

namespace CoinAddress.Registry

open Text

variable {r r' : Registry} {n d : Network} {s : String} {a : Address}

/-! ## The families -/

/-- A version byte stays with the network that decides about it. -/
theorem networkFor?_register (h : r.register n = .ok r') {version : UInt8} {m : Network}
    (hm : r.networkFor? d version = some m) : r'.networkFor? d version = some m := by
  rw [networkFor?] at hm ⊢
  rw [networks_register h, ← List.cons_append, List.find?_append, hm, Option.some_or]

theorem classify_register (h : r.register n = .ok r') {data : Bytes}
    (ha : r.classify d data = .ok a) : r'.classify d data = .ok a := by
  obtain ⟨version, hash, m, hdata, hm, hids, hmake⟩ := classify_eq_ok_iff.1 ha
  exact classify_eq_ok_iff.2 ⟨version, hash, m, hdata, networkFor?_register h hm, hids, hmake⟩

/-- One more network is one more that may lead a text. -/
theorem claimsSegwit_register (h : r.register n = .ok r') :
    r'.claimsSegwit d s = true ↔ r.claimsSegwit d s = true ∨ n.Leads s := by
  rw [claimsSegwit_iff, claimsSegwit_iff, networks_register h, ← List.cons_append]
  simp only [List.mem_append, List.mem_singleton, or_and_right, exists_or, exists_eq_left]

/-! ## The kinds of address -/

theorem kind_of_classify {data : Bytes} (ha : r.classify d data = .ok a) : a.kind ≠ .pubKey := by
  obtain ⟨version, hash, m, -, -, -, rfl⟩ := classify_eq_ok_iff.1 ha
  rw [hashAddress]
  split <;> simp [Address.kind]

theorem kind_of_segwitAddress (ha : segwitAddress s = .ok a) : a.kind ≠ .pubKey := by
  obtain ⟨-, w, -, rfl | rfl | rfl⟩ := segwitAddress_eq_ok ha <;> simp [Address.kind]

theorem kind_of_publicKeyHex (ha : Decoder.publicKeyHex d s = .claimed (.ok a)) :
    a.kind = .pubKey := by
  obtain ⟨-, key, -, hmake⟩ := publicKeyHex_eq_claimed_iff.1 ha
  obtain ⟨k, -, rfl⟩ := map_eq_ok.1 hmake
  rfl

/-! ## All addresses -/

/-- **An address that could be read is read again after a registration**, with one exception: the
text of a public key that the new network leads is refused. No text is read as another address. -/
theorem decode_register (h : r.register n = .ok r') (ha : r.decode d s = .ok a) :
    (¬ (a.kind = .pubKey ∧ n.Leads s) → r'.decode d s = .ok a) ∧
      (a.kind = .pubKey ∧ n.Leads s → ∃ e, r'.decode d s = .error e) := by
  rcases decode_cases ha with ⟨data, hdata, hclass⟩ | ⟨⟨e, he⟩, ⟨hs, hsegwit⟩ | ⟨hs, hkey⟩⟩
  · refine ⟨fun _ => ?_, fun hlost => absurd hlost.1 (kind_of_classify hclass)⟩
    rw [decode_of_base58Check hdata]
    exact classify_register h hclass
  · refine ⟨fun _ => ?_, fun hlost => absurd hlost.1 (kind_of_segwitAddress hsegwit)⟩
    rw [decode_of_segwit he ((claimsSegwit_register h).2 (Or.inl hs))]
    exact hsegwit
  · -- The bech32 family passed the text over, and only the new network can make it claim the text.
    refine ⟨fun hkept => decode_of_publicKeyHex he ?_ hkey, fun hlost => ?_⟩
    · have hleads : ¬ n.Leads s := fun hleads => hkept ⟨kind_of_publicKeyHex hkey, hleads⟩
      rw [Bool.eq_false_iff, Ne, claimsSegwit_register h, hs]
      simp [hleads]
    · obtain ⟨fault, hfault⟩ := exists_segwitAddress_eq_error hkey
      rw [decode_of_segwit he ((claimsSegwit_register h).2 (Or.inr hlost.2))]
      exact ⟨fault, hfault⟩

/-- A key whose text starts like a witness text under the new network, but has another separator
further behind. -/
theorem decode_register_beside_key :
    let n : Network := ⟨"near", 1, 1, 2, 3, "02"⟩
    let s := "02192d74d0cb94344c9569c2e77901573d8d7903c3ebec3a957724895dca52c6b4"
    let a : Address := .pubKey ⟨separatedKey, .compressed, 0x4c⟩
    let r' : Registry := ⟨Network.predefined ++ [n]⟩
    predefined.register n = .ok r' ∧ predefined.decode Network.mainnet s = .ok a ∧
      ¬ (a.kind = .pubKey ∧ n.Leads s) ∧ r'.decode Network.mainnet s = .ok a := by
  intro n s a r'
  have hreg : predefined.register n = .ok r' := by decide +kernel
  have ha : predefined.decode Network.mainnet s = .ok a := by decide +kernel
  have hclaim : r'.claimsSegwit Network.mainnet s = false := by decide +kernel
  have hkept : ¬ (a.kind = .pubKey ∧ n.Leads s) := by
    rintro ⟨-, hleads⟩
    rw [(claimsSegwit_register hreg).2 (Or.inr hleads)] at hclaim
    cases hclaim
  exact ⟨hreg, ha, hkept, (decode_register hreg ha).1 hkept⟩

/-- **A registration can take away the text of a public key**: the new network has the part in front
of the last `1` of the text. -/
theorem decode_lost_by_register :
    let n : Network := ⟨"late", 1, 1, 2, 3, "02192d74d0cb94344c9569c2e7790"⟩
    let s := "02192d74d0cb94344c9569c2e77901573d8d7903c3ebec3a957724895dca52c6b4"
    let a : Address := .pubKey ⟨separatedKey, .compressed, 0x4c⟩
    let r' : Registry := ⟨Network.predefined ++ [n]⟩
    predefined.Reachable ∧ predefined.register n = .ok r' ∧
      predefined.decode Network.mainnet s = .ok a ∧
      r'.decode Network.mainnet s = .error (.invalidCharacter 'b' 43) ∧
      r'.decode Network.mainnet s ≠ .ok a := by
  intro n s a r'
  have hlost : r'.decode Network.mainnet s = .error (.invalidCharacter 'b' 43) := by decide +kernel
  refine ⟨.predefined, by decide +kernel, by decide +kernel, hlost, ?_⟩
  rw [hlost]
  simp

end CoinAddress.Registry
