import CoinAddress.Address.Summary
import CoinAddress.Proofs.Address.WellFormed

/-!
# The networks that summaries name

A summary looks up the network of an address by its version byte or human-readable part, and that of
a private key by its version byte. `Registry.Reachable.networkOf?_eq_find?` says that this finds the
first registered network that the address belongs to. The look-up disregards the case of letters and
`Address.isFor` does not, but neither registered networks nor addresses have capitals.
-/

namespace CoinAddress

open Text

variable {r : Registry} {a : Address}

/-! ## Addresses -/

namespace Address

theorem WellFormed.validate_hrp (h : a.WellFormed) {w : WitnessAddress}
    (hw : a.witness? = some w) : Bech32.Hrp.validate w.hrp = .ok () := by
  cases a with
  | witnessPubKeyHash v | witnessScriptHash v | taproot v =>
    obtain rfl : v = w := Option.some.inj hw
    exact WitnessAddress.WellFormed.validate_hrp h
  | pubKeyHash b | scriptHash b | pubKey k => cases hw

/-- The addresses that are put together from parts: hashes and keys of any kind, and the witness
programs of addresses that are obtained. -/
def Assembled (a : Address) : Prop :=
  ∀ w, a.witness? = some w → ∃ b : Address, b.Obtained ∧ b.witness? = some w

theorem Obtained.assembled (h : a.Obtained) : a.Assembled := fun _ hw => ⟨a, h, hw⟩

/-- The human-readable part of an address is in lower case. -/
theorem Assembled.lowerAscii_hrp (h : a.Assembled) {w : WitnessAddress}
    (hw : a.witness? = some w) : lowerAscii w.hrp = w.hrp := by
  obtain ⟨b, hb, hbw⟩ := h w hw
  exact Bech32.Hrp.lowerAscii_of_validate (hb.wellFormed.validate_hrp hbw)

end Address

/-! ## Look-ups -/

namespace Registry

/-- **The network of an address is the first that the address belongs to.** -/
theorem Reachable.networkOf?_eq_find? (hr : r.Reachable) (ha : a.Assembled) :
    r.networkOf? a = r.networks.find? fun n => a.isFor n := by
  cases a with
  | pubKeyHash b | scriptHash b | pubKey k => exact List.find?_congr fun n _ => BEq.comm
  | witnessPubKeyHash w | witnessScriptHash w | taproot w =>
    exact hr.withHrp?_eq_find? (ha.lowerAscii_hrp rfl)

theorem withPrivateKeyId?_eq_find? (w : Wif) :
    r.withPrivateKeyId? w.netId = r.networks.find? fun n => w.isFor n :=
  List.find?_congr fun _ _ => BEq.comm

theorem map_name_find?_eq_none_iff {p : Network → Bool} :
    (r.networks.find? p).map Network.name = none ↔ ∀ n ∈ r.networks, p n = false := by
  simp

end Registry

/-! ## Summaries -/

/-- **A summary names the first registered network that the address or the private key belongs to,
and none if it belongs to no registered network.** -/
theorem network_of_summary (hr : r.Reachable) :
    (∀ a : Address, a.Assembled →
      (AddressSummary.of a r).network = (r.networks.find? fun n => a.isFor n).map Network.name ∧
        ((AddressSummary.of a r).network = none ↔ ∀ n ∈ r.networks, a.isFor n = false)) ∧
      ∀ w : Wif,
        (KeySummary.of w r).network = (r.networks.find? fun n => w.isFor n).map Network.name ∧
          ((KeySummary.of w r).network = none ↔ ∀ n ∈ r.networks, w.isFor n = false) := by
  refine ⟨fun a ha => ?_, fun w => ?_⟩
  · have hname : (AddressSummary.of a r).network =
        (r.networks.find? fun n => a.isFor n).map Network.name :=
      congrArg (Option.map Network.name) (hr.networkOf?_eq_find? ha)
    refine ⟨hname, ?_⟩
    rw [hname]
    exact Registry.map_name_find?_eq_none_iff
  · have hname : (KeySummary.of w r).network =
        (r.networks.find? fun n => w.isFor n).map Network.name :=
      congrArg (Option.map Network.name) (Registry.withPrivateKeyId?_eq_find? w)
    refine ⟨hname, ?_⟩
    rw [hname]
    exact Registry.map_name_find?_eq_none_iff

/-- An address that is read from capitals, and a private key with a version byte that two networks
have. -/
theorem network_of_summary_capitals :
    let a : Address := .witnessPubKeyHash ⟨0, [0x75, 0x1e, 0x76, 0xe8, 0x19, 0x91, 0x96, 0xd4, 0x54,
      0x94, 0x1c, 0x45, 0xd1, 0xb3, 0xa3, 0x23, 0xf1, 0x43, 0x3b, 0xd6], "tb",
      "tb1qw508d6qejxtdg4y5r3zarvary0c5xw7kxpjzsx"⟩
    let w : Wif := ⟨⟨List.replicate 32 7, rfl⟩, true, 0xef⟩
    Registry.predefined.Reachable ∧ a.Assembled ∧
      (AddressSummary.of a Registry.predefined).network = some "testnet3" ∧
      (KeySummary.of w Registry.predefined).network = some "testnet3" := by
  intro a w
  have ha : a.Obtained := .decode (by decide +kernel : Registry.predefined.decode Network.testnet3
    "TB1QW508D6QEJXTDG4Y5R3ZARVARY0C5XW7KXPJZSX" = .ok a)
  obtain ⟨haddress, hkey⟩ := network_of_summary .predefined
  refine ⟨.predefined, ha.assembled, (haddress a ha.assembled).1.trans (by decide), ?_⟩
  exact (hkey w).1.trans (by decide)

end CoinAddress
