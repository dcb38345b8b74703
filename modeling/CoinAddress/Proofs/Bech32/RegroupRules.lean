import CoinAddress.Proofs.Bech32.Words

/-!
# What regrouping does with the string of bits

The values are taken as one string of bits. With padding it is cut into groups, of which the last is
filled up with zeros (`groups`); without padding the bits behind the last full group have to be
fewer than a source value and all zero, and are left out.

* `regroup_outcome` says this of all widths and data, with every error.
* `regroup_there_and_back` says what is got back when the values are regrouped again.
-/

namespace CoinAddress.Bech32

open Radix

variable {source target : Nat}

/-! ## Groups of a string -/

/-- A group of at most `w` bits as a number, filled up with zeros on the right. -/
def group (w : Nat) (g : List Nat) : UInt8 :=
  UInt8.ofNat (Radix.value 2 (g ++ List.replicate (w - g.length) 0))

/-- A string of bits cut into groups of `w`, the last of them filled up with zeros. -/
def groups (w : Nat) (stream : List Nat) : Bytes := (chunksOf w stream).map (group w)

theorem length_chunksOf {α : Type} {n : Nat} (hn : 0 < n) (xs : List α) :
    (chunksOf n xs).length = (xs.length + n - 1) / n := by
  fun_induction chunksOf n xs with
  | case1 xs h =>
    obtain rfl := h.resolve_left hn.ne'
    rw [List.length_nil, List.length_nil, Nat.zero_add, Nat.div_eq_of_lt (Nat.sub_one_lt hn.ne')]
  | case2 xs h ih =>
    have hpos : 0 < xs.length := List.length_pos_iff.2 fun hnil => h (Or.inr hnil)
    rw [List.length_cons, ih, List.length_drop]
    by_cases hle : n ≤ xs.length
    · rw [show xs.length + n - 1 = xs.length - n + n - 1 + n by omega, Nat.add_div_right _ hn]
    · rw [show xs.length - n + n - 1 = n - 1 by omega, Nat.div_eq_of_lt (by omega),
        show xs.length + n - 1 = xs.length - 1 + n by omega, Nat.add_div_right _ hn,
        Nat.div_eq_of_lt (by omega)]

theorem length_groups {w : Nat} (hw : 0 < w) (stream : List Nat) :
    (groups w stream).length = (stream.length + w - 1) / w := by
  rw [groups, List.length_map, length_chunksOf hw]

theorem bits_group {w : Nat} (hle : w ≤ 8) {g : List Nat} (hlen : g.length ≤ w)
    (h : ∀ d ∈ g, d < 2) :
    Narrow w [group w g] ∧ bits w [group w g] = g ++ List.replicate (w - g.length) 0 := by
  have hdigits : ∀ d ∈ g ++ List.replicate (w - g.length) 0, d < 2 := by
    intro d hd
    rcases List.mem_append.1 hd with hd | hd
    · exact h d hd
    · rw [List.eq_of_mem_replicate hd]
      decide
  have hwidth : (g ++ List.replicate (w - g.length) 0).length = w := by
    rw [List.length_append, List.length_replicate, Nat.add_sub_cancel' hlen]
  have hlt := value_lt (by decide) hdigits
  have hback := fixedDigits_value hdigits
  rw [hwidth] at hlt hback
  exact ⟨narrow_ofNat hle hlt, (bits_ofNat hle hlt).trans hback⟩

/-- **The groups have the bits of the string and zeros**, fewer than a group. -/
theorem bits_groups {w : Nat} (hw : 0 < w) (hle : w ≤ 8) {stream : List Nat}
    (h : ∀ d ∈ stream, d < 2) :
    Narrow w (groups w stream) ∧
      ∃ k < w, bits w (groups w stream) = stream ++ List.replicate k 0 := by
  unfold groups
  fun_induction chunksOf w stream with
  | case1 stream hnil =>
    obtain rfl := hnil.resolve_left hw.ne'
    exact ⟨narrow_nil w, 0, hw, rfl⟩
  | case2 stream hne ih =>
    obtain ⟨hnarrow, hgroup⟩ := bits_group hle (List.length_take_le w stream) fun d hd =>
      h d (List.mem_of_mem_take hd)
    obtain ⟨hrest, k, hk, hbits⟩ := ih fun d hd => h d (List.mem_of_mem_drop hd)
    rw [List.map_cons, ← List.singleton_append]
    refine ⟨hnarrow.append hrest, ?_⟩
    rw [bits_append, hgroup]
    by_cases hfull : w ≤ stream.length
    · refine ⟨k, hk, ?_⟩
      rw [hbits, List.length_take_of_le hfull, Nat.sub_self, List.replicate_zero, List.append_nil,
        ← List.append_assoc, List.take_append_drop]
    · -- The last group is not full, and nothing follows it.
      have hpos : 0 < stream.length := List.length_pos_iff.2 fun hnil => hne (Or.inr hnil)
      have hlast : chunksOf w (stream.drop w) = [] := by
        rw [List.drop_eq_nil_of_le (Nat.le_of_not_le hfull), chunksOf, dif_pos (Or.inr rfl)]
      refine ⟨w - stream.length, by omega, ?_⟩
      rw [hlast, List.take_of_length_le (Nat.le_of_not_le hfull)]
      exact List.append_nil _

theorem lt_of_mem_bits (w : Nat) (vs : Bytes) : ∀ d ∈ bits w vs, d < 2 := by
  intro d h
  obtain ⟨v, -, hd⟩ := List.mem_flatMap.1 h
  exact lt_of_mem_fixedDigits (by decide) hd

/-- The bits of groups are cut into these groups. -/
theorem groups_bits {w : Nat} (hw : 0 < w) (hle : w ≤ 8) {gs : Bytes} (h : Narrow w gs) :
    groups w (bits w gs) = gs := by
  obtain ⟨hnarrow, k, hk, hbits⟩ := bits_groups hw hle (lt_of_mem_bits w gs)
  exact eq_of_bits_eq_append_zeros hnarrow h hk hw hbits (List.append_nil _).symm

/-! ## The leftover bits -/

/-- What a string of bits gives without padding: its full groups, if the bits behind them are fewer
than a source value and all zero. -/
def strictGroups (source target : Nat) (stream : List Nat) : Except Error Bytes :=
  let leftover := stream.length % target
  let full := stream.length - leftover
  if source ≤ leftover then .error (.excessPadding leftover)
  else if 1 ∈ stream.drop full then .error .nonZeroPadding
  else .ok (groups target (stream.take full))

theorem length_of_strictGroups {stream : List Nat} {out : Bytes} (htarget : 0 < target)
    (h : strictGroups source target stream = .ok out) : out.length = stream.length / target := by
  simp only [strictGroups] at h
  split at h
  · cases h
  · split at h
    · cases h
    · cases h
      have hdiv := Nat.div_add_mod stream.length target
      have hfull : stream.length - stream.length % target = target * (stream.length / target) := by
        omega
      rw [length_groups htarget, List.length_take_of_le (Nat.sub_le ..), hfull,
        Nat.add_sub_assoc htarget, Nat.mul_add_div htarget,
        Nat.div_eq_of_lt (Nat.sub_one_lt htarget.ne'), Nat.add_zero]

theorem Pending.value_ne_zero_iff {p : Pending} (h : p.Fits) : p.value ≠ 0 ↔ 1 ∈ p.bits := by
  constructor
  · contrapose!
    intro hone
    have hzeros : p.bits = List.replicate p.bits.length 0 := by
      refine List.eq_replicate_of_mem fun d hd => ?_
      have hlt : d < 2 := lt_of_mem_fixedDigits (by decide) hd
      have hne : d ≠ 1 := fun h1 => hone (h1 ▸ hd)
      omega
    rw [← value_bits h, hzeros, ← List.append_nil (List.replicate _ 0),
      value_replicate_zero_append]
    rfl
  · rintro hone hzero
    rw [bits, hzero, fixedDigits_zero] at hone
    exact absurd (List.eq_of_mem_replicate hone) (by decide)

/-- **A cut string gives its groups**, if its rest may be left out. -/
theorem Cut.strictGroups_eq {stream : List Nat} {gs : Bytes} {rest : Pending}
    (h : Cut target stream gs rest) (hle : target ≤ 8) :
    strictGroups source target stream =
      (rest.finish source target false).map (gs ++ ·) := by
  have hpos : 0 < target := Nat.zero_lt_of_lt h.width_lt
  have hlen : stream.length = target * gs.length + rest.width := by
    rw [h.stream_eq, List.length_append, length_bits, Pending.length_bits]
  have hleft : stream.length % target = rest.width := by
    rw [hlen, Nat.mul_comm, Nat.mul_add_mod_of_lt h.width_lt]
  have hfull : stream.length - rest.width = (bits target gs).length := by
    rw [hlen, Nat.add_sub_cancel, length_bits]
  have htake : stream.take (bits target gs).length = bits target gs := by
    rw [h.stream_eq, List.take_left]
  have hdrop : stream.drop (bits target gs).length = rest.bits := by
    rw [h.stream_eq, List.drop_left]
  simp only [strictGroups, hleft, hfull, htake, hdrop, groups_bits hpos hle h.narrow,
    ← Pending.value_ne_zero_iff h.fits, Pending.finish, Bool.false_eq_true, if_false]
  split_ifs
  · rfl
  · rfl
  · exact congrArg Except.ok (List.append_nil gs).symm

/-! ## What regrouping gives -/

/-- The first value that does not have its width is refused. -/
theorem regroupFrom_of_wide {before behind : Bytes} {v : UInt8} (hbefore : Narrow source before)
    (hv : 2 ^ source ≤ v.toNat) (pad : Bool) (p : Pending) :
    regroupFrom source target pad p (before ++ v :: behind) =
      .error (.malformed (.wideValue v source)) := by
  induction before generalizing p with
  | nil => exact if_pos hv
  | cons u us ih =>
    obtain ⟨hu, hus⟩ := List.forall_mem_cons.1 hbefore
    rw [List.cons_append, regroupFrom, Nat.pow_eq, if_neg (Nat.not_le.2 hu)]
    simp only [ih hus]
    rfl

theorem exists_first_wide {data : Bytes} (h : ¬ Narrow source data) :
    ∃ before v behind, data = before ++ v :: behind ∧ Narrow source before ∧
      2 ^ source ≤ v.toNat := by
  obtain ⟨before, v, behind, hdata, hbefore, hv⟩ := exists_first_not h
  exact ⟨before, v, behind, hdata, hbefore, Nat.not_lt.1 hv⟩

/-- Without padding the full groups of the string are given, or what is wrong with the bits behind
them. -/
theorem regroup_strict_eq (hsource : 1 ≤ source ∧ source ≤ 8) (htarget : 1 ≤ target ∧ target ≤ 8)
    {data : Bytes} (hdata : Narrow source data) :
    regroup source target false data = strictGroups source target (bits source data) := by
  have hsource' := isWidth_iff.2 hsource
  have htarget' := isWidth_iff.2 htarget
  obtain ⟨gs, rest, hcut, hrun⟩ := exists_cut_of_narrow htarget' hdata
  rw [regroup, if_pos (Bool.and_eq_true_iff.2 ⟨hsource', htarget'⟩), hrun,
    hcut.strictGroups_eq htarget.2]

/-- **What regrouping gives**, for all widths and all values: a value that does not have its width
is refused, and otherwise the string of all bits is cut into groups. With padding these are all its
groups; without padding those before the leftover bits, which have to be fewer than a source value
and all zero. The groups have their width, their number is the number of bits over the width,
rounded up or down, and words of 32 bits are enough to find them. -/
theorem regroup_outcome (hsource : 1 ≤ source ∧ source ≤ 8) (htarget : 1 ≤ target ∧ target ≤ 8)
    (data : Bytes) :
    (¬ Narrow source data → ∃ before v behind, data = before ++ v :: behind ∧
      Narrow source before ∧ 2 ^ source ≤ v.toNat ∧
        ∀ pad, regroup source target pad data = .error (.malformed (.wideValue v source))) ∧
    (Narrow source data →
      (bits source data).length = data.length * source ∧
      regroup source target true data = .ok (groups target (bits source data)) ∧
      (groups target (bits source data)).length = (data.length * source + target - 1) / target ∧
      regroup source target false data = strictGroups source target (bits source data) ∧
      ∀ out, regroup source target false data = .ok out →
        out.length = data.length * source / target) ∧
    (∀ pad out, regroup source target pad data = .ok out → Narrow target out) ∧
    ∀ pad, Words.regroup (.ofNat source) (.ofNat target) pad data =
      some (regroup source target pad data) := by
  have hsource' := isWidth_iff.2 hsource
  have htarget' := isWidth_iff.2 htarget
  have hlen : (bits source data).length = data.length * source := by
    rw [length_bits, Nat.mul_comm]
  have hstrict : Narrow source data →
      regroup source target false data = strictGroups source target (bits source data) :=
    regroup_strict_eq hsource htarget
  refine ⟨fun hdata => ?_, fun hdata => ⟨hlen, ?_, ?_, hstrict hdata, fun out h => ?_⟩,
    fun pad out h => ?_, fun pad => ?_⟩
  · obtain ⟨before, v, behind, rfl, hbefore, hv⟩ := exists_first_wide hdata
    refine ⟨before, v, behind, rfl, hbefore, hv, fun pad => ?_⟩
    rw [regroup, if_pos (Bool.and_eq_true_iff.2 ⟨hsource', htarget'⟩)]
    exact regroupFrom_of_wide hbefore hv pad .empty
  · obtain ⟨hout, hbits⟩ := bits_groups htarget.1 htarget.2 (lt_of_mem_bits source data)
    exact regroup_pad_eq_ok_iff.2 ⟨hsource', htarget', hdata, hout, hbits⟩
  · rw [length_groups htarget.1, hlen]
  · rw [length_of_strictGroups htarget.1 ((hstrict hdata).symm.trans h), hlen]
  · cases pad with
    | false => exact (regroup_strict_eq_ok_iff.1 h).2.2.2.1
    | true => exact (regroup_pad_eq_ok_iff.1 h).2.2.2.1
  · have hword : ∀ {n : Nat}, n ≤ 8 → (UInt32.ofNat n).toNat = n := fun h =>
      UInt32.toNat_ofNat_of_lt' (Nat.lt_of_le_of_lt h (by decide))
    rw [Words.regroup_eq_some, hword hsource.2, hword htarget.2]

/-- Two symbols are the bits of a byte and two zeros. -/
theorem regroup_outcome_two_symbols :
    (1 ≤ 5 ∧ 5 ≤ 8) ∧ (1 ≤ 8 ∧ 8 ≤ 8) ∧ Narrow 5 [31, 28] ∧
      regroup 5 8 true [31, 28] = .ok [255, 0] ∧ regroup 5 8 false [31, 28] = .ok [255] ∧
        Words.regroup 5 8 false [31, 28] = some (.ok [255]) := by
  have hnarrow : Narrow 5 [31, 28] := by simp [Narrow]
  obtain ⟨-, h, -, hwords⟩ := @regroup_outcome 5 8 ⟨by decide, by decide⟩
    ⟨by decide, by decide⟩ [31, 28]
  obtain ⟨-, hpad, -, hstrict, -⟩ := h hnarrow
  have hpad' : groups 8 (bits 5 [31, 28]) = [255, 0] := by decide +kernel
  have hstrict' : strictGroups 5 8 (bits 5 [31, 28]) = .ok [255] := by decide +kernel
  refine ⟨by decide, by decide, hnarrow, ?_, ?_, ?_⟩
  · rw [hpad, hpad']
  · rw [hstrict, hstrict']
  · exact (hwords false).trans (by rw [hstrict, hstrict'])

/-! ## There and back -/

/-- **What is regrouped without padding is got back with padding, and what is regrouped with padding
to values that are no wider is got back without.** So every byte string can be regrouped to symbols,
and of all symbols only these are regrouped to it. -/
theorem regroup_there_and_back {data out : Bytes} :
    (regroup source target false data = .ok out → regroup target source true out = .ok data) ∧
    (target ≤ source → regroup source target true data = .ok out →
      regroup target source false out = .ok data) ∧
    ∀ bytes : Bytes, ∃ symbols, regroup 8 5 true bytes = .ok symbols ∧
      ∀ symbols', regroup 5 8 false symbols' = .ok bytes ↔ symbols' = symbols := by
  refine ⟨regroup_back, fun hle => (regroup_strict_eq_ok_iff_pad hle).2, fun bytes => ?_⟩
  obtain ⟨symbols, hsymbols⟩ : ∃ symbols, regroup 8 5 true bytes = .ok symbols :=
    exists_regroup_pad rfl rfl (narrow_eight bytes)
  refine ⟨symbols, hsymbols, fun symbols' => ?_⟩
  rw [regroup_strict_eq_ok_iff_pad (by decide), hsymbols, Except.ok.injEq, eq_comm]

/-- Seven symbols without their last three bits are four bytes, and a byte is two symbols without
their last two. -/
theorem regroup_there_and_back_bytes :
    regroup 5 8 false [14, 20, 15, 7, 13, 26, 0] = .ok [0x75, 0x1e, 0x76, 0xe8] ∧
      regroup 8 5 true [0x75, 0x1e, 0x76, 0xe8] = .ok [14, 20, 15, 7, 13, 26, 0] ∧
      5 ≤ 8 ∧ regroup 8 5 true [0xff] = .ok [31, 28] ∧ regroup 5 8 false [31, 28] = .ok [0xff] := by
  have hstrict : regroup 5 8 false [14, 20, 15, 7, 13, 26, 0] = .ok [0x75, 0x1e, 0x76, 0xe8] := by
    decide +kernel
  have hle : 5 ≤ 8 := by decide
  have hpad : regroup 8 5 true [0xff] = .ok [31, 28] := by decide +kernel
  exact ⟨hstrict, regroup_there_and_back.1 hstrict, hle, hpad,
    regroup_there_and_back.2.1 hle hpad⟩

end CoinAddress.Bech32
