import Mathlib.Order.Bounds.Defs
import CoinAddress.Command.Run
import CoinAddress.Proofs.Network.Config
import CoinAddress.Proofs.Network.Growth

/-!
# Loading a configuration

A configuration is read as a whole before anything is registered. If the text does not hold a list
of networks, or if one of them is not valid, the registry stays as it is
(`Config.parse_eq_error_iff`).

Registration goes through the list and stops at the first network that shares something with one
that is there by then, be it an old one or one from the list (`Registry.StopsAt`). The networks in
front of it stay (`Registry.exists_stopsAt`). As all networks of the list are valid, there is no
other reason to stop.
-/

namespace CoinAddress

namespace Registry

variable {r : Registry} {ns : List Network} {n : Network} {k : Nat}

/-! ## Registering a list -/

/-- Whether the network at an index of a list shares something with a registered network or with one
in front of it in the list. -/
def SharesAt (r : Registry) (ns : List Network) (i : Nat) : Prop :=
  ∃ n, ns[i]? = some n ∧ ∃ m ∈ r.networks ++ ns.take i, m.Shares n

/-- The index at which the registration of a list stops: the first at which something is shared, or
else the end of the list. -/
def StopsAt (r : Registry) (ns : List Network) (k : Nat) : Prop :=
  IsLeast {i | r.SharesAt ns i ∨ i = ns.length} k

theorem stopsAt_nil : r.StopsAt [] 0 := ⟨Or.inr rfl, fun i _ => Nat.zero_le i⟩

/-- Behind a network that is registered, the list goes on with one more network to share with. -/
theorem sharesAt_cons_succ {i : Nat} :
    r.SharesAt (n :: ns) (i + 1) ↔ SharesAt ⟨r.networks ++ [n]⟩ ns i := by
  simp [SharesAt]

theorem stopsAt_cons_zero {m : Network} (hm : m ∈ r.networks) (h : m.Shares n) :
    r.StopsAt (n :: ns) 0 :=
  ⟨Or.inl ⟨n, rfl, m, List.mem_append_left _ hm, h⟩, fun i _ => Nat.zero_le i⟩

theorem stopsAt_cons_succ (h : ∀ m ∈ r.networks, ¬ m.Shares n)
    (hk : StopsAt ⟨r.networks ++ [n]⟩ ns k) : r.StopsAt (n :: ns) (k + 1) := by
  obtain ⟨hstop, hleast⟩ := hk
  refine ⟨hstop.imp sharesAt_cons_succ.2 (congrArg _), fun i hi => ?_⟩
  cases i with
  | zero =>
    obtain ⟨n', hn', m, hm, hshares⟩ | hlength := hi
    · cases hn'
      rw [List.take_zero, List.append_nil] at hm
      exact absurd hshares (h m hm)
    · cases hlength
  | succ i => exact Nat.succ_le_succ (hleast (hi.imp sharesAt_cons_succ.1 Nat.succ.inj))

/-- **The networks in front of the index at which registration stops are registered**, and at the
index, unless it is the end, a network is refused that shares something. -/
theorem exists_stopsAt (hvalid : ∀ n ∈ ns, n.validate = .ok ()) : ∃ k, r.StopsAt ns k ∧
    (r.registerAll ns).1.networks = r.networks ++ ns.take k ∧
    (k = ns.length ∧ (r.registerAll ns).2 = .ok () ∨
      ∃ n m, ns[k]? = some n ∧ m ∈ r.networks ++ ns.take k ∧ m.Shares n ∧
        (r.registerAll ns).2 = .error (.duplicateNetwork n.name m.name)) := by
  induction ns generalizing r with
  | nil => exact ⟨0, stopsAt_nil, (List.append_nil _).symm, Or.inl ⟨rfl, rfl⟩⟩
  | cons n ns ih =>
    obtain ⟨hn, hns⟩ := List.forall_mem_cons.1 hvalid
    rw [registerAll]
    cases h : r.register n with
    | error e =>
      cases register_eq_error_iff.1 h with
      | invalid hinvalid => cases hn.symm.trans hinvalid
      | @duplicate before behind m _ hr _ hm =>
        have hmem : m ∈ r.networks := by
          rw [hr]
          exact List.mem_append_right _ List.mem_cons_self
        exact ⟨0, stopsAt_cons_zero hmem hm, (List.append_nil _).symm,
          Or.inr ⟨n, m, rfl, List.mem_append_left _ hmem, hm, rfl⟩⟩
    | ok r' =>
      obtain ⟨-, hshares, rfl⟩ := register_eq_ok_iff_not_shares.1 h
      -- The rest of the list is registered into the longer registry.
      obtain ⟨k, hk, hnetworks, hend⟩ := ih (r := ⟨r.networks ++ [n]⟩) hns
      have htake : r.networks ++ [n] ++ ns.take k = r.networks ++ (n :: ns).take (k + 1) := by
        rw [List.append_assoc]
        rfl
      rw [htake] at hnetworks hend
      exact ⟨k + 1, stopsAt_cons_succ hshares hk, hnetworks,
        hend.imp_left (And.imp_left (congrArg _))⟩

/-! ## Loading a text -/

/-- The program reads the text of a file and registers its list in the registry that all parts
share. -/
theorem run_loadNetworks {content : Option Bytes} {text : String}
    (h : Config.fileText content = .ok text) (r : Registry) :
    (Command.loadNetworks content).run r = match Config.parse text with
      | .error e => (.error e, r)
      | .ok ns => ((r.registerAll ns).2, (r.registerAll ns).1) := by
  rw [Command.loadNetworks, Config.ofFile, bind_of_ok h]
  cases Config.parse text with
  | error e => rfl
  | ok ns => exact Shared.run_registerAll ns r

/-- **A configuration with a network that is not valid registers nothing, and one of valid networks
is registered up to the first that shares something** with a registered network or with one in front
of it. There is no other reason to stop, and the registry of a program fares as any other. The
networks of a configuration are those that its text was written for, if it was written for any. -/
theorem load_outcome (r : Registry) (text : String) :
    (∀ e, Config.parse text = .error e → (e = .json ∨ ∃ fault, e = .config fault) ∧
      ∀ content, Config.fileText content = .ok text →
        (Command.loadNetworks content).run r = (.error e, r)) ∧
    ((∃ fault, Config.parse text = .error (.config fault)) ↔
      ∃ ns, Config.read? text = some ns ∧ ∃ n ∈ ns, n.validate ≠ .ok ()) ∧
    (∀ fault, Config.parse text = .error (.config fault) → ∃ before n behind e,
      Config.read? text = some (before ++ n :: behind) ∧ (∀ m ∈ before, m.validate = .ok ()) ∧
      n.validate = .error e ∧ fault.message = "network '" ++ n.name ++ "': " ++ e.message) ∧
    (∀ ns, Json.WrittenAs (Config.toJson ns) text → Config.read? text = some ns) ∧
    ∀ ns, Config.parse text = .ok ns → ∃ k, r.StopsAt ns k ∧
      (r.registerAll ns).1.networks = r.networks ++ ns.take k ∧
      ((r.registerAll ns).2 = .ok () ↔ k = ns.length) ∧
      (k ≠ ns.length → ∃ n m, ns[k]? = some n ∧ m ∈ r.networks ++ ns.take k ∧ m.Shares n ∧
        (r.registerAll ns).2 = .error (.duplicateNetwork n.name m.name)) ∧
      (Shared.registerAll ns).run r = ((r.registerAll ns).2, (r.registerAll ns).1) ∧
      ∀ content, Config.fileText content = .ok text →
        (Command.loadNetworks content).run r = ((r.registerAll ns).2, (r.registerAll ns).1) := by
  refine ⟨fun e h => ⟨?_, fun content hfile => ?_⟩, ⟨?_, ?_⟩, fun fault h => ?_,
    fun ns => Config.read?_of_writtenAs, fun ns h => ?_⟩
  · obtain ⟨-, rfl⟩ | ⟨ns, fault, -, -, rfl⟩ := Config.parse_eq_error_iff.1 h
    · exact Or.inl rfl
    · exact Or.inr ⟨fault, rfl⟩
  · rw [run_loadNetworks hfile, h]
  · rintro ⟨fault, h⟩
    obtain ⟨-, hjson⟩ | ⟨ns, fault, hread, hfault, -⟩ := Config.parse_eq_error_iff.1 h
    · cases hjson
    · exact ⟨ns, hread, hfault.exists_not_valid⟩
  · rintro ⟨ns, hread, n, hn, hinvalid⟩
    obtain ⟨fault, hfault⟩ := Config.exists_firstFault fun hvalid => hinvalid (hvalid n hn)
    exact ⟨fault, Config.parse_eq_error_iff.2 (Or.inr ⟨ns, fault, hread, hfault, rfl⟩)⟩
  · obtain ⟨-, hjson⟩ | ⟨ns, fault, hread, hfault, heq⟩ := Config.parse_eq_error_iff.1 h
    · cases hjson
    · cases heq
      obtain ⟨before, n, behind, e, rfl, hbefore, hn, hmessage⟩ := hfault.exists_message
      exact ⟨before, n, behind, e, hread, hbefore, hn, hmessage⟩
  · obtain ⟨-, hvalid⟩ := Config.parse_eq_ok_iff.1 h
    obtain ⟨k, hk, hnetworks, hend⟩ := exists_stopsAt (r := r) hvalid
    refine ⟨k, hk, hnetworks, ?_, fun hlength => ?_, Shared.run_registerAll ns r,
      fun content hfile => by rw [run_loadNetworks hfile, h]⟩
    · obtain ⟨hlength, hok⟩ | ⟨n, m, hn, -, -, herror⟩ := hend
      · exact iff_of_true hok hlength
      · have hlt : k < ns.length := (List.getElem?_eq_some_iff.1 hn).1
        exact iff_of_false (fun hok => nomatch herror.symm.trans hok) hlt.ne
    · exact hend.resolve_left fun hend => hlength hend.1

/-- A list whose second network has capitals in its human-readable part registers nothing, and of a
list whose second network has the magic of the first, only the first is registered. -/
theorem load_outcome_of_written :
    let near : Network := ⟨"near", 7, 1, 2, 3, "near"⟩
    let capitals : Network := ⟨"capitals", 8, 1, 2, 3, "CAP"⟩
    let other : Network := ⟨"other", 7, 4, 5, 6, "other"⟩
    let far : Network := ⟨"far", 9, 4, 5, 6, "far"⟩
    let refused := (Config.toJson [near, capitals, ⟨"", 9, 4, 5, 6, "far"⟩]).pretty
    let stopped := (Config.toJson [near, other, far]).compact
    (∃ fault e, Config.parse refused = .error (.config fault) ∧ capitals.validate = .error e ∧
      fault.message = "network 'capitals': " ++ e.message ∧
      ∀ content, Config.fileText content = .ok refused →
        (Command.loadNetworks content).run predefined = (.error (.config fault), predefined)) ∧
    Config.parse stopped = .ok [near, other, far] ∧ predefined.StopsAt [near, other, far] 1 ∧
    (predefined.registerAll [near, other, far]).1.networks = Network.predefined ++ [near] ∧
    (predefined.registerAll [near, other, far]).2 = .error (.duplicateNetwork "other" "near") := by
  intro near capitals other far refused stopped
  have hregister : predefined.registerAll [near, other, far] =
      (⟨Network.predefined ++ [near]⟩, .error (.duplicateNetwork "other" "near")) := by
    decide +kernel
  have hvalid : ∀ n ∈ [near, other, far], n.validate = .ok () := by decide
  have hinvalid : capitals.validate ≠ .ok () := by decide
  obtain ⟨hkept, hconfig, hfirst, hwritten, -⟩ := load_outcome predefined refused
  obtain ⟨-, -, -, hwritten', hstops⟩ := load_outcome predefined stopped
  refine ⟨?_, ?_⟩
  · have hread := hwritten _ .pretty
    obtain ⟨fault, hparse⟩ := hconfig.2 ⟨_, hread, capitals, by simp, hinvalid⟩
    obtain ⟨before, n, behind, e, hlist, hbefore, hn, hmessage⟩ := hfirst fault hparse
    have hlist := Option.some.inj (hread.symm.trans hlist)
    -- The network in front of it is valid, and it is not valid itself.
    have hcapitals : n = capitals := by
      rcases before with _ | ⟨m, _ | ⟨m', before⟩⟩
      · obtain rfl : near = n := (List.cons.inj hlist).1
        cases (hvalid near List.mem_cons_self).symm.trans hn
      · exact (List.cons.inj (List.cons.inj hlist).2).1.symm
      · obtain rfl : capitals = m' := (List.cons.inj (List.cons.inj hlist).2).1
        exact absurd (hbefore capitals (by simp)) hinvalid
    subst hcapitals
    exact ⟨fault, e, hparse, hn, hmessage, (hkept _ hparse).2⟩
  · have hparse := Config.parse_eq_ok_iff.2 ⟨hwritten' _ .compact, hvalid⟩
    obtain ⟨k, hk, hnetworks, -⟩ := hstops _ hparse
    have hone : k = 1 := by
      have hlength := congrArg List.length hnetworks
      rw [hregister, List.length_append, List.length_append, List.length_take] at hlength
      simp [predefined] at hlength
      omega
    subst hone
    exact ⟨hparse, hk, by rw [hregister], by rw [hregister]⟩

end Registry

end CoinAddress
