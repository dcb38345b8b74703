import Mathlib.Data.List.Find
import CoinAddress.Network.Registry
import CoinAddress.Proofs.Bech32.Hrp

/-!
# Registries that come about by registration

A registry starts empty or with the predefined networks, and networks are registered one by one
(`Registry.Reachable`). Registration keeps all networks valid (`Registry.Reachable.validate_of_mem`),
so their human-readable parts are in lower case, and one in lower case is found only if a network has
it (`Registry.Reachable.isSome_withHrp?_iff`).
-/

namespace CoinAddress

open Text

/-! ## Valid networks -/

namespace Network

theorem validate_eq_ok_iff {n : Network} :
    n.validate = .ok () ↔ n.name ≠ "" ∧ Bech32.Hrp.validate n.hrp = .ok () := by
  rw [validate, mapError_eq_ok, check, Bech32.Hrp.validate, mapError_eq_ok]
  by_cases hname : n.name = ""
  · simp [hname]
  · rw [if_neg hname, mapError_eq_ok]
    simp [hname]

theorem lowerAscii_hrp {n : Network} (h : n.validate = .ok ()) : lowerAscii n.hrp = n.hrp :=
  Bech32.Hrp.lowerAscii_of_validate (validate_eq_ok_iff.1 h).2

end Network

namespace Registry

/-! ## Registration -/

/-- **What registration does**: a valid network that clashes with none is put at the end. -/
theorem register_eq_ok_iff {r r' : Registry} {n : Network} : r.register n = .ok r' ↔
    n.validate = .ok () ∧ (∀ m ∈ r.networks, m.clashes n = false) ∧
      r' = ⟨r.networks ++ [n]⟩ := by
  simp only [register, bind_eq_ok]
  constructor
  · rintro ⟨⟨⟩, hvalid, h⟩
    split at h
    · cases h
    · next hfind =>
      cases h
      exact ⟨hvalid, fun m hm => by simpa using List.find?_eq_none.1 hfind m hm, rfl⟩
  · rintro ⟨hvalid, hclash, rfl⟩
    have hfind : (r.networks.find? fun m => m.clashes n) = none :=
      List.find?_eq_none.2 fun m hm => by simp [hclash m hm]
    refine ⟨(), hvalid, ?_⟩
    rw [hfind]

/-- The registries to which registration leads. -/
inductive Reachable : Registry → Prop
  | empty : Reachable empty
  | predefined : Reachable predefined
  | register {r r' : Registry} {n : Network} (hr : Reachable r) (h : r.register n = .ok r') :
      Reachable r'

/-- One registration keeps all networks valid. -/
theorem validate_of_mem_register {r r' : Registry} {n : Network} (h : r.register n = .ok r')
    (hr : ∀ m ∈ r.networks, m.validate = .ok ()) : ∀ m ∈ r'.networks, m.validate = .ok () := by
  obtain ⟨hvalid, -, rfl⟩ := register_eq_ok_iff.1 h
  intro m hm
  rcases List.mem_append.1 hm with hm | hm
  · exact hr m hm
  · rwa [List.mem_singleton.1 hm]

/-- **All networks of a registry are valid**, however it came about. -/
theorem Reachable.validate_of_mem {r : Registry} (h : r.Reachable) :
    ∀ n ∈ r.networks, n.validate = .ok () := by
  induction h with
  | empty => exact fun n hn => absurd hn List.not_mem_nil
  | predefined => decide +kernel
  | register _ h ih => exact validate_of_mem_register h ih

/-- The look-up by a human-readable part in lower case compares as it stands, as no network has
capitals. -/
theorem Reachable.withHrp?_eq_find? {r : Registry} (hr : r.Reachable) {hrp : String}
    (hlower : lowerAscii hrp = hrp) :
    r.withHrp? hrp = r.networks.find? fun n => hrp == n.hrp := by
  refine List.find?_congr fun n hn => ?_
  have hn := Network.lowerAscii_hrp (hr.validate_of_mem n hn)
  rw [Bool.eq_iff_iff, sameIgnoringCase_iff_eq hn hlower, beq_iff_eq, eq_comm]

/-- **A human-readable part is found if a network has it**; the case of letters makes no
difference. -/
theorem Reachable.isSome_withHrp?_iff {r : Registry} (hr : r.Reachable) {hrp : String}
    (hlower : lowerAscii hrp = hrp) :
    (r.withHrp? hrp).isSome = true ↔ ∃ n ∈ r.networks, n.hrp = hrp := by
  rw [hr.withHrp?_eq_find? hlower, List.find?_isSome]
  exact exists_congr fun n => and_congr_right fun _ => beq_iff_eq.trans eq_comm

end Registry

end CoinAddress
