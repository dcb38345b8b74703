import CoinAddress.Network.Shared
import CoinAddress.Proofs.Except
import CoinAddress.Proofs.Network.History

/-!
# Registries grow at the end

A network is refused because it is not valid, or else because it shares its name, its magic or its
human-readable part with a registered network (`Network.Shares`). `Registry.Refuses` gives the
error, and `Registry.register_eq_error_iff` says that there is no other.

What is refused changes nothing, and all else is put behind the networks that are there. So a
registry begins with the networks of every registry that it came from, and each look-up that found a
network finds it again, although later networks may have the same version bytes
(`Registry.Extends.of_networks`). `Registry.register_outcome` puts both together.
-/

namespace CoinAddress

open Text

/-! ## Networks with something in common -/

namespace Network

/-- Whether two networks share a name, in letters of any case, a magic or a human-readable part. -/
def Shares (n m : Network) : Prop :=
  sameIgnoringCase n.name m.name = true ∨ n.magic = m.magic ∨ n.hrp = m.hrp

theorem clashes_iff {n m : Network} : n.clashes m = true ↔ n.Shares m := by
  simp [clashes, Shares, or_assoc]

theorem clashes_eq_false_iff_not_shares {n m : Network} : n.clashes m = false ↔ ¬ n.Shares m := by
  rw [← clashes_iff, Bool.not_eq_true]

end Network

namespace Registry

variable {r r' : Registry} {n : Network} {e : Error}

/-! ## One registration -/

/-- Why a registry refuses a network. A network that is not valid is compared with none, and a valid
one is compared with the registered networks in order. -/
inductive Refuses (r : Registry) (n : Network) : Error → Prop
  | invalid {e : Error} (h : n.validate = .error e) : Refuses r n e
  | duplicate {before behind : List Network} {m : Network} (hvalid : n.validate = .ok ())
      (hr : r.networks = before ++ m :: behind) (hbefore : ∀ k ∈ before, ¬ k.Shares n)
      (hm : m.Shares n) : Refuses r n (.duplicateNetwork n.name m.name)

theorem register_eq_ok_iff_not_shares : r.register n = .ok r' ↔
    n.validate = .ok () ∧ (∀ m ∈ r.networks, ¬ m.Shares n) ∧ r' = ⟨r.networks ++ [n]⟩ := by
  simp only [register_eq_ok_iff, Network.clashes_eq_false_iff_not_shares]

/-- **What registration reports**: that the network is not valid, or the first network with which it
shares something. -/
theorem register_eq_error_iff : r.register n = .error e ↔ r.Refuses n e := by
  constructor
  · intro h
    rcases bind_eq_error.1 h with h | ⟨⟨⟩, hvalid, h⟩
    · exact .invalid h
    · split at h
      · next m hfind =>
        cases h
        obtain ⟨hm, before, behind, hr, hbefore⟩ := List.find?_eq_some_iff_append.1 hfind
        refine .duplicate hvalid hr (fun k hk => ?_) (Network.clashes_iff.1 hm)
        exact Network.clashes_eq_false_iff_not_shares.1 (by simpa using hbefore k hk)
      · cases h
  · intro h
    cases h with
    | invalid h => exact bind_of_error h _
    | @duplicate before behind m hvalid hr hbefore hm =>
      have hfind : (r.networks.find? fun k => k.clashes n) = some m := by
        refine List.find?_eq_some_iff_append.2
          ⟨Network.clashes_iff.2 hm, before, behind, hr, fun k hk => ?_⟩
        rw [Network.clashes_eq_false_iff_not_shares.2 (hbefore k hk), Bool.not_false]
      rw [register, bind_of_ok hvalid, hfind]

/-- The registry of a program changes with a registration as any other does. -/
theorem run_register (r : Registry) (n : Network) :
    (Shared.register n).run r = ((r.register n).map fun _ => (), r.apply (.register n)) := by
  show Shared.register n r = _
  rw [Shared.register, apply]
  cases r.register n <;> rfl

/-! ## All registrations -/

/-- A registry that begins with the networks of another and finds in the same way what was found
there. -/
structure Extends (r' r : Registry) : Prop where
  networks : r.networks <+: r'.networks
  named? : ∀ {name n}, r.named? name = some n → r'.named? name = some n
  withHrp? : ∀ {hrp n}, r.withHrp? hrp = some n → r'.withHrp? hrp = some n
  withMagic? : ∀ {magic n}, r.withMagic? magic = some n → r'.withMagic? magic = some n
  withPubKeyHashId? :
    ∀ {id n}, r.withPubKeyHashId? id = some n → r'.withPubKeyHashId? id = some n
  withScriptHashId? :
    ∀ {id n}, r.withScriptHashId? id = some n → r'.withScriptHashId? id = some n
  withPrivateKeyId? :
    ∀ {id n}, r.withPrivateKeyId? id = some n → r'.withPrivateKeyId? id = some n

/-- A look-up finds the first network that has what is asked for, and networks behind the others
cannot come before it. -/
theorem Extends.of_networks (h : r.networks <+: r'.networks) : r'.Extends r where
  networks := h
  named? := h.find?_eq_some
  withHrp? := h.find?_eq_some
  withMagic? := h.find?_eq_some
  withPubKeyHashId? := h.find?_eq_some
  withScriptHashId? := h.find?_eq_some
  withPrivateKeyId? := h.find?_eq_some

theorem Extends.run (r : Registry) (calls : List Call) : (r.run calls).Extends r := by
  refine .of_networks (run_induction (P := fun r' => r.networks <+: r'.networks) ?_ ?_ calls)
  · intro r₁ r₂ n hr h
    rw [networks_register h]
    exact hr.trans (List.prefix_append _ _)
  · exact List.prefix_refl _

/-- A list of which no network is refused is put behind the networks that are there. -/
theorem networks_registerAll {ns : List Network} (h : (r.registerAll ns).2 = .ok ()) :
    (r.registerAll ns).1.networks = r.networks ++ ns := by
  induction ns generalizing r with
  | nil => exact (List.append_nil _).symm
  | cons n ns ih =>
    rw [registerAll] at h ⊢
    cases hn : r.register n with
    | error e =>
      rw [hn] at h
      cases h
    | ok r' =>
      rw [hn] at h
      exact (ih h).trans (by rw [networks_register hn, List.append_assoc]; rfl)

theorem run_append (r : Registry) (before after : List Call) :
    r.run (before ++ after) = (r.run before).run after :=
  List.foldl_append

/-- **A network is registered if it is valid and shares nothing with a registered one, and then it
is the last.** Otherwise the registry stays as it is; that the network is not valid is reported
first. **Whatever calls are made, the networks that are there stay in front, and what is found is
found by all later look-ups.** -/
theorem register_outcome (r : Registry) (n : Network) :
    ((∃ r', r.register n = .ok r') ↔
      n.validate = .ok () ∧ ∀ m ∈ r.networks, ¬ m.Shares n) ∧
    (∀ r', r.register n = .ok r' → r'.networks = r.networks ++ [n] ∧
      r.apply (.register n) = r' ∧ (Shared.register n).run r = (.ok (), r')) ∧
    (∀ e, r.register n = .error e →
      r.apply (.register n) = r ∧ (Shared.register n).run r = (.error e, r)) ∧
    (∀ e, r.register n = .error e ↔ r.Refuses n e) ∧
    (∀ e, n.validate = .error e → r.register n = .error e) ∧
    ∀ before after, (r.run (before ++ after)).Extends (r.run before) := by
  refine ⟨⟨?_, ?_⟩, fun r' h => ?_, fun e h => ?_, fun e => register_eq_error_iff,
    fun e h => register_eq_error_iff.2 (.invalid h), fun before after => ?_⟩
  · rintro ⟨r', h⟩
    obtain ⟨hvalid, hshares, -⟩ := register_eq_ok_iff_not_shares.1 h
    exact ⟨hvalid, hshares⟩
  · rintro ⟨hvalid, hshares⟩
    exact ⟨_, register_eq_ok_iff_not_shares.2 ⟨hvalid, hshares, rfl⟩⟩
  · have happly : r.apply (.register n) = r' := by rw [apply, h]
    exact ⟨networks_register h, happly, by rw [run_register, h, happly]; rfl⟩
  · have happly : r.apply (.register n) = r := by rw [apply, h]
    exact ⟨happly, by rw [run_register, h, happly]; rfl⟩
  · rw [run_append]
    exact .run _ after

end Registry

end CoinAddress
