import CoinAddress.Address.Summary
import CoinAddress.Proofs.Curve.Order
import CoinAddress.Proofs.Key.Format
import CoinAddress.Proofs.Key.Wif

/-!
# Private keys and the addresses of their public keys

Any 32 bytes are a private key, but only a number between zero and the order of the group has a
public key (`Wif.exists_publicKey_iff`). Whether it is to be compressed makes no difference to that,
and the bytes that are written for one point in either form are taken in as keys that are turned
into one another (`Wif.publicKey_outcome`).
-/

namespace CoinAddress.Wif

open Curve

/-- The number that the bytes of a key stand for, the most significant byte first. -/
def number (key : FixedBytes 32) : Nat := Radix.value 256 (key.toList.map UInt8.toNat)

/-- The form in which the public key of a private key is written. -/
def format (w : Wif) : KeyFormat := if w.compressed then .compressed else .uncompressed

section

variable {w : Wif} {r : Registry} {p : PublicPoint}

theorem publicKey_of_ofSecret? (h : PublicPoint.ofSecret? w.key.toList = some p) :
    w.publicKey = .ok (PublicKey.formatBytes p w.format) := by
  rw [publicKey, h, format]
  cases w.compressed <;> rfl

theorem publicKey_of_ofSecret?_eq_none (h : PublicPoint.ofSecret? w.key.toList = none) :
    w.publicKey = .error (.curve .badSecretKey) := by
  rw [publicKey, h]

/-- **A private key has a public key if and only if its number is in range.** -/
theorem exists_publicKey_iff :
    (∃ bs, w.publicKey = .ok bs) ↔ 0 < number w.key ∧ number w.key < groupOrder := by
  rw [number, ← PublicPoint.exists_ofSecret?_iff]
  cases h : PublicPoint.ofSecret? w.key.toList with
  | none =>
    rw [publicKey_of_ofSecret?_eq_none h]
    exact iff_of_false (fun ⟨_, h⟩ => nomatch h) (fun ⟨_, h⟩ => nomatch h)
  | some p => exact iff_of_true ⟨_, publicKey_of_ofSecret? h⟩ ⟨p, rfl⟩

/-- The only reason why there is no public key. -/
theorem publicKey_eq_error_iff {e : Error} : w.publicKey = .error e ↔
    e = .curve .badSecretKey ∧ ¬ (0 < number w.key ∧ number w.key < groupOrder) := by
  rw [← exists_publicKey_iff]
  cases h : PublicPoint.ofSecret? w.key.toList with
  | none => simp [publicKey_of_ofSecret?_eq_none h, eq_comm]
  | some p => simp [publicKey_of_ofSecret? h]

/-- The summary of a key leaves the public key out if there is none. -/
theorem summary_publicKey_eq_none_iff :
    (KeySummary.of w r).publicKey = none ↔ ∃ e, w.publicKey = .error e := by
  rw [KeySummary.of]
  cases w.publicKey <;> simp

end

/-- The bytes of a point in a form make an address of any network. -/
theorem toPubKey_formatBytes (p : PublicPoint) (format : KeyFormat) (net : Network) :
    Address.toPubKey (PublicKey.formatBytes p format) net =
      .ok (.pubKey (.ofPoint p format net.pubKeyHashId)) := by
  rw [Address.toPubKey, PublicKey.ofBytes_formatBytes]
  rfl

/-- **A private key has a public key in both forms or in none**, and none if its number is zero or
at least the order of the group. The bytes of both forms make addresses of the network, and each of
the two keys is the other one in its own form. -/
theorem publicKey_outcome (key : FixedBytes 32) (net : Network) (r : Registry) :
    ∃ w v : Wif, ofKey key.toList net true = .ok w ∧ ofKey key.toList net false = .ok v ∧
      (∀ u ∈ [w, v],
        (∀ e, u.publicKey = .error e ↔
          e = .curve .badSecretKey ∧ (number key = 0 ∨ groupOrder ≤ number key)) ∧
        ((KeySummary.of u r).publicKey = none ↔ number key = 0 ∨ groupOrder ≤ number key)) ∧
      (¬ (number key = 0 ∨ groupOrder ≤ number key) → ∃ k k' : PublicKey,
        w.publicKey = .ok k.bytes ∧ v.publicKey = .ok k'.bytes ∧
        Address.toPubKey k.bytes net = .ok (.pubKey k) ∧ k.format = .compressed ∧
        Address.toPubKey k'.bytes net = .ok (.pubKey k') ∧ k'.format = .uncompressed ∧
        k.withFormat .uncompressed = .ok k' ∧ k'.withFormat .compressed = .ok k) := by
  have hmake : ∀ compressed, ofKey key.toList net compressed =
      .ok ⟨key, compressed, net.privateKeyId⟩ := by
    intro compressed
    rw [ofKey, FixedBytes.ofList?_toList]
  have hrange : ¬ (0 < number key ∧ number key < groupOrder) ↔
      number key = 0 ∨ groupOrder ≤ number key := by omega
  refine ⟨_, _, hmake true, hmake false, ?_, fun h => ?_⟩
  · have hall : ∀ u : Wif, u.key = key → (∀ e, u.publicKey = .error e ↔
        e = .curve .badSecretKey ∧ (number key = 0 ∨ groupOrder ≤ number key)) ∧
        ((KeySummary.of u r).publicKey = none ↔ number key = 0 ∨ groupOrder ≤ number key) := by
      rintro u rfl
      simp only [summary_publicKey_eq_none_iff, publicKey_eq_error_iff, hrange]
      simp
    exact List.forall_mem_cons.2 ⟨hall _ rfl, List.forall_mem_singleton.2 (hall _ rfl)⟩
  · obtain ⟨p, hp⟩ := PublicPoint.exists_ofSecret?_iff.2 (not_not.1 (mt hrange.1 h))
    exact ⟨.ofPoint p .compressed net.pubKeyHashId, .ofPoint p .uncompressed net.pubKeyHashId,
      publicKey_of_ofSecret? hp, publicKey_of_ofSecret? hp,
      toPubKey_formatBytes p .compressed net, rfl, toPubKey_formatBytes p .uncompressed net, rfl,
      PublicKey.withFormat_ofPoint .., PublicKey.withFormat_ofPoint ..⟩

end CoinAddress.Wif
