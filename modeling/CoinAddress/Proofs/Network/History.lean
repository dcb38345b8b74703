import Mathlib.Data.List.Pairwise
import CoinAddress.Proofs.Network.Reachable

/-!
# What calls make of a registry

A program changes a registry by two calls: it registers one network, or the list of a configuration
(`Registry.Call`). Some of them fail, and what was registered before the failure stays.

* What every registration keeps, every history of calls keeps (`Registry.run_induction`), so calls
  lead to reachable registries only (`Registry.Reachable.run`).
* The networks of a reachable registry are told apart by name, magic and human-readable part, with
  no regard to letter case (`Registry.Reachable.pairwise_apart`). The rule for registration compares
  human-readable parts as they stand; as none has capitals, this is enough.
* Hence each look-up by one of the three finds the network that has it
  (`Registry.apart_and_found_of_run`).
-/

namespace CoinAddress

open Text

/-! ## Calls -/

namespace Registry

/-- A call that adds networks to a registry. -/
inductive Call where
  | register (n : Network)
  | registerAll (ns : List Network)

/-- The registry after a call. A network that is refused leaves it as it is; of a list, the networks
in front of that one are kept. -/
def apply (r : Registry) : Call → Registry
  | .register n =>
    match r.register n with
    | .ok r' => r'
    | .error _ => r
  | .registerAll ns => (r.registerAll ns).1

/-- The registry after calls, one after the other. -/
def run (r : Registry) (calls : List Call) : Registry := calls.foldl apply r

section Induction

variable {P : Registry → Prop}
  (hP : ∀ {r r' : Registry} {n : Network}, P r → r.register n = .ok r' → P r')
include hP

theorem registerAll_induction {r : Registry} (hr : P r) (ns : List Network) :
    P (r.registerAll ns).1 := by
  induction ns generalizing r with
  | nil => exact hr
  | cons n ns ih =>
    rw [registerAll]
    cases h : r.register n with
    | error e => exact hr
    | ok r' => exact ih (hP hr h)

theorem apply_induction {r : Registry} (hr : P r) (call : Call) : P (r.apply call) := by
  cases call with
  | register n =>
    rw [apply]
    cases h : r.register n with
    | error e => exact hr
    | ok r' => exact hP hr h
  | registerAll ns => exact registerAll_induction hP hr ns

/-- **What every registration keeps is kept by every history of calls**, failed ones included. -/
theorem run_induction {r : Registry} (hr : P r) (calls : List Call) : P (r.run calls) := by
  induction calls generalizing r with
  | nil => exact hr
  | cons call calls ih => exact ih (apply_induction hP hr call)

end Induction

theorem Reachable.run {r : Registry} (hr : r.Reachable) (calls : List Call) :
    (r.run calls).Reachable :=
  run_induction Reachable.register hr calls

end Registry

/-! ## Networks apart -/

namespace Network

/-- Whether two networks share neither name nor magic nor human-readable part, in letters of any
case. -/
def Apart (n m : Network) : Prop :=
  sameIgnoringCase n.name m.name = false ∧ n.magic ≠ m.magic ∧ sameIgnoringCase n.hrp m.hrp = false

instance : Std.Symm Apart where
  symm n m h := by
    obtain ⟨hname, hmagic, hhrp⟩ := h
    rw [sameIgnoringCase_comm] at hname hhrp
    exact ⟨hname, hmagic.symm, hhrp⟩

theorem clashes_eq_false_iff {n m : Network} : n.clashes m = false ↔
    sameIgnoringCase n.name m.name = false ∧ n.magic ≠ m.magic ∧ n.hrp ≠ m.hrp := by
  simp [clashes, and_assoc]

/-- Networks that do not clash have different human-readable parts; these are in lower case, so they
differ in any case of letters. -/
theorem apart_of_clashes {n m : Network} (hn : n.validate = .ok ()) (hm : m.validate = .ok ())
    (h : n.clashes m = false) : n.Apart m := by
  obtain ⟨hname, hmagic, hhrp⟩ := clashes_eq_false_iff.1 h
  refine ⟨hname, hmagic, Bool.eq_false_iff.2 fun hsame => hhrp ?_⟩
  exact (sameIgnoringCase_iff_eq (lowerAscii_hrp hn) (lowerAscii_hrp hm)).1 hsame

end Network

namespace Registry

/-- One registration keeps the networks from clashing. -/
theorem pairwise_clashes_register {r r' : Registry} {n : Network} (h : r.register n = .ok r')
    (hr : r.networks.Pairwise fun n m => n.clashes m = false) :
    r'.networks.Pairwise fun n m => n.clashes m = false := by
  obtain ⟨-, hclash, rfl⟩ := register_eq_ok_iff.1 h
  exact List.pairwise_append.2 ⟨hr, List.pairwise_singleton .., by simpa using hclash⟩

theorem Reachable.pairwise_clashes {r : Registry} (hr : r.Reachable) :
    r.networks.Pairwise fun n m => n.clashes m = false := by
  induction hr with
  | empty => exact List.Pairwise.nil
  | predefined => decide +kernel
  | register _ h ih => exact pairwise_clashes_register h ih

/-- **No two networks of a registry share a name, a magic or a human-readable part**, however it came
about and whatever the case of letters is. -/
theorem Reachable.pairwise_apart {r : Registry} (hr : r.Reachable) :
    r.networks.Pairwise Network.Apart :=
  hr.pairwise_clashes.imp_of_mem fun hn hm h =>
    Network.apart_of_clashes (hr.validate_of_mem _ hn) (hr.validate_of_mem _ hm) h

/-! ## Look-ups -/

/-- A search finds the one network that it looks for. -/
theorem find?_eq_some_of_apart {ns : List Network} (hns : ns.Pairwise Network.Apart) {n : Network}
    (hn : n ∈ ns) {p : Network → Bool} (hpn : p n = true)
    (hp : ∀ m, n.Apart m → p m = false) : ns.find? p = some n := by
  cases h : ns.find? p with
  | none => exact absurd hpn (List.find?_eq_none.1 h n hn)
  | some m =>
    -- Another network that is found would be apart from `n`.
    by_contra hne
    have hnm : n.Apart m := hns.forall hn (List.mem_of_find?_eq_some h) fun heq =>
      hne (congrArg some heq.symm)
    have hpm := List.find?_some h
    rw [hp m hnm] at hpm
    cases hpm

section Found

variable {r : Registry} (hr : r.Reachable) {n : Network} (hn : n ∈ r.networks)
include hr hn

theorem Reachable.withMagic?_magic : r.withMagic? n.magic = some n :=
  find?_eq_some_of_apart hr.pairwise_apart hn (beq_self_eq_true _) fun _ h =>
    beq_false_of_ne h.2.1.symm

theorem Reachable.named?_of_sameIgnoringCase {name : String}
    (h : sameIgnoringCase n.name name = true) : r.named? name = some n :=
  find?_eq_some_of_apart hr.pairwise_apart hn h fun m hm => by
    rw [← sameIgnoringCase_congr h, sameIgnoringCase_comm]
    exact hm.1

theorem Reachable.withHrp?_of_sameIgnoringCase {hrp : String}
    (h : sameIgnoringCase n.hrp hrp = true) : r.withHrp? hrp = some n :=
  find?_eq_some_of_apart hr.pairwise_apart hn h fun m hm => by
    rw [← sameIgnoringCase_congr h, sameIgnoringCase_comm]
    exact hm.2.2

/-- The name of a registered network stands for that network, also if a predefined network goes by
it. -/
theorem Reachable.resolve_name : r.resolve n.name = .ok n := by
  rw [resolve, hr.named?_of_sameIgnoringCase hn (sameIgnoringCase_self n.name)]

end Found

/-- **After any history of calls all networks are valid and apart, and each is found by its magic,
by its name and by its human-readable part**, the latter two in letters of any case. -/
theorem apart_and_found_of_run {start : Registry} (hstart : start = empty ∨ start = predefined)
    (calls : List Call) :
    (∀ n ∈ (start.run calls).networks, n.name ≠ "" ∧ Bech32.Hrp.validate n.hrp = .ok ()) ∧
    (start.run calls).networks.Pairwise Network.Apart ∧
    ∀ n ∈ (start.run calls).networks,
      (start.run calls).withMagic? n.magic = some n ∧
      (∀ name, sameIgnoringCase n.name name = true → (start.run calls).named? name = some n) ∧
      (∀ hrp, sameIgnoringCase n.hrp hrp = true → (start.run calls).withHrp? hrp = some n) ∧
      (start.run calls).resolve n.name = .ok n := by
  have hr : (start.run calls).Reachable := by
    rcases hstart with rfl | rfl
    · exact Reachable.empty.run calls
    · exact Reachable.predefined.run calls
  refine ⟨fun n hn => ?_, hr.pairwise_apart, fun n hn => ⟨?_, fun name h => ?_, fun hrp h => ?_, ?_⟩⟩
  · exact Network.validate_eq_ok_iff.1 (hr.validate_of_mem n hn)
  · exact hr.withMagic?_magic hn
  · exact hr.named?_of_sameIgnoringCase hn h
  · exact hr.withHrp?_of_sameIgnoringCase hn h
  · exact hr.resolve_name hn

/-- A network that takes a short name of the main network, between calls that fail: capitals are
refused in a human-readable part, and so is a name that differs in capitals only. -/
theorem apart_and_found_of_refusals :
    let own : Network := ⟨"main", 7, 0x4c, 0x4c, 0xcc, "own1"⟩
    let calls : List Call :=
      [.register ⟨"capitals", 8, 1, 2, 3, "OWN1"⟩, .register own,
        .registerAll [Network.mainnet, ⟨"MAIN", 9, 1, 2, 3, "other"⟩, Network.testnet3]]
    let r := empty.run calls
    r.networks = [own, Network.mainnet] ∧ own.Apart Network.mainnet ∧
      r.withMagic? 7 = some own ∧ r.named? "Main" = some own ∧ r.withHrp? "OWN1" = some own ∧
      r.resolve "main" = .ok own := by
  intro own calls r
  have hnetworks : r.networks = [own, Network.mainnet] := by decide +kernel
  obtain ⟨-, hapart, hfound⟩ := apart_and_found_of_run (Or.inl rfl : empty = empty ∨ _) calls
  have hapart : r.networks.Pairwise Network.Apart := hapart
  have hown : own ∈ r.networks := by
    rw [hnetworks]
    exact List.mem_cons_self
  obtain ⟨hmagic, hname, hhrp, hresolve⟩ := hfound own hown
  rw [hnetworks] at hapart
  exact ⟨hnetworks, List.rel_of_pairwise_cons hapart List.mem_cons_self, hmagic,
    hname "Main" (by decide +kernel), hhrp "OWN1" (by decide +kernel), hresolve⟩

end Registry

end CoinAddress
