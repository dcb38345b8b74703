import Mathlib.Algebra.Order.Floor.Div
import CoinAddress.Bech32.Regroup
import CoinAddress.Proofs.Except
import CoinAddress.Proofs.Radix

/-!
# Regrouping keeps the bits

Values of a width stand for the string of their bits (`bits`). Pushing a value appends its bits to
those that wait, draining cuts full groups off their front, and both keep the string; so a run over
all values cuts the string of their bits into groups and a rest (`exists_cut`), and a string is cut
in one way only (`Cut.unique`).

* `regroup_pad_eq_ok_iff` says what is got with padding: the bits and fewer zeros than fill a group.
* `regroup_strict_eq_ok_iff` says it without: the bits but for zeros, fewer than a group of either
  width.
* `regroup_back` follows: what is regrouped without padding is got back with padding. To values that
  are no wider, `regroup_strict_eq_ok_iff_pad` says the converse too.
-/

namespace CoinAddress.Bech32

open Radix

variable {source target : Nat}

/-! ## Strings of bits -/

/-- The bits of values of a width, the most significant first. -/
def bits (w : Nat) (vs : Bytes) : List Nat := vs.flatMap fun v => fixedDigits 2 w v.toNat

/-- Values that have no more bits than a width. -/
def Narrow (w : Nat) (vs : Bytes) : Prop := ∀ v ∈ vs, v.toNat < 2 ^ w

theorem bits_cons (w : Nat) (v : UInt8) (vs : Bytes) :
    bits w (v :: vs) = fixedDigits 2 w v.toNat ++ bits w vs := List.flatMap_cons

theorem bits_append (w : Nat) (us vs : Bytes) : bits w (us ++ vs) = bits w us ++ bits w vs :=
  List.flatMap_append

theorem length_bits (w : Nat) (vs : Bytes) : (bits w vs).length = w * vs.length := by
  induction vs with
  | nil => rfl
  | cons v vs ih =>
    rw [bits_cons, List.length_append, length_fixedDigits, ih, List.length_cons, Nat.mul_succ,
      Nat.add_comm]

theorem narrow_nil (w : Nat) : Narrow w [] := fun _ hv => absurd hv List.not_mem_nil

/-- Every byte has eight bits. -/
theorem narrow_eight (vs : Bytes) : Narrow 8 vs := fun v _ => v.toNat_lt

theorem Narrow.append {w : Nat} {us vs : Bytes} (hu : Narrow w us) (hv : Narrow w vs) :
    Narrow w (us ++ vs) := by
  intro x hx
  rcases List.mem_append.1 hx with hx | hx
  · exact hu x hx
  · exact hv x hx

/-- Values of one width are determined by their bits. -/
theorem bits_inj {w : Nat} {us vs : Bytes} (hu : Narrow w us) (hv : Narrow w vs)
    (hlen : us.length = vs.length) (h : bits w us = bits w vs) : us = vs := by
  induction us generalizing vs with
  | nil => exact (List.length_eq_zero_iff.1 hlen.symm).symm
  | cons u us ih =>
    cases vs with
    | nil => cases hlen
    | cons v vs =>
      rw [bits_cons, bits_cons] at h
      obtain ⟨hhead, htail⟩ := List.append_inj h (by rw [length_fixedDigits, length_fixedDigits])
      obtain ⟨hu0, hus⟩ := List.forall_mem_cons.1 hu
      obtain ⟨hv0, hvs⟩ := List.forall_mem_cons.1 hv
      have hval := congrArg (value 2) hhead
      rw [value_fixedDigits, value_fixedDigits, Nat.mod_eq_of_lt hu0, Nat.mod_eq_of_lt hv0] at hval
      rw [UInt8.toNat_inj.1 hval, ih hus hvs (Nat.succ.inj hlen) htail]

theorem toNat_ofNat_of_lt_two_pow {w n : Nat} (hw : w ≤ 8) (h : n < 2 ^ w) :
    (UInt8.ofNat n).toNat = n :=
  UInt8.toNat_ofNat_of_lt' (Nat.lt_of_lt_of_le h (Nat.pow_le_pow_right (by decide) hw))

theorem narrow_ofNat {w n : Nat} (hw : w ≤ 8) (h : n < 2 ^ w) : Narrow w [UInt8.ofNat n] := by
  intro v hv
  rw [List.mem_singleton.1 hv, toNat_ofNat_of_lt_two_pow hw h]
  exact h

/-- The bits of one group are the digits of its number. -/
theorem bits_ofNat {w n : Nat} (hw : w ≤ 8) (h : n < 2 ^ w) :
    bits w [UInt8.ofNat n] = fixedDigits 2 w n := by
  rw [bits_cons, toNat_ofNat_of_lt_two_pow hw h, bits, List.flatMap_nil, List.append_nil]

namespace Pending

/-- The bits that wait. -/
def bits (p : Pending) : List Nat := fixedDigits 2 p.width p.value

/-- The number that waits has no more bits than are counted. -/
def Fits (p : Pending) : Prop := p.value < 2 ^ p.width

theorem length_bits (p : Pending) : p.bits.length = p.width := length_fixedDigits 2 p.width p.value

theorem value_bits {p : Pending} (h : p.Fits) : Radix.value 2 p.bits = p.value := by
  rw [bits, value_fixedDigits, Nat.mod_eq_of_lt h]

theorem bits_push (p : Pending) {v : UInt8} (hv : v.toNat < 2 ^ source) :
    (p.push source v).bits = p.bits ++ fixedDigits 2 source v.toNat := by
  unfold push bits
  exact fixedDigits_mul_add p.width source p.value hv

theorem Fits.push {p : Pending} (hp : p.Fits) {v : UInt8} (hv : v.toNat < 2 ^ source) :
    (p.push source v).Fits := by
  have hle : (p.value + 1) * 2 ^ source ≤ 2 ^ p.width * 2 ^ source := Nat.mul_le_mul_right _ hp
  rw [Nat.add_mul, Nat.one_mul] at hle
  show p.value * 2 ^ source + v.toNat < 2 ^ (p.width + source)
  rw [Nat.pow_add]
  omega

end Pending

/-! ## Cutting a string -/

/-- A string of bits is cut into groups and a rest, in which no group is left. -/
structure Cut (target : Nat) (stream : List Nat) (out : Bytes) (rest : Pending) : Prop where
  stream_eq : stream = bits target out ++ rest.bits
  narrow : Narrow target out
  fits : rest.Fits
  width_lt : rest.width < target

theorem mul_add_inj {t a b k l : Nat} (hk : k < t) (hl : l < t) (h : t * a + k = t * b + l) :
    a = b ∧ k = l := by
  have hpos : 0 < t := Nat.zero_lt_of_lt hk
  have ha := (Nat.div_mod_unique hpos).2 ⟨(Nat.add_comm _ _).trans h, hk⟩
  have hb := (Nat.div_mod_unique hpos).2 ⟨Nat.add_comm l (t * b), hl⟩
  exact ⟨ha.1.symm.trans hb.1, ha.2.symm.trans hb.2⟩

/-- There is one way to cut a string. -/
theorem Cut.unique {stream : List Nat} {out out' : Bytes} {rest rest' : Pending}
    (h : Cut target stream out rest) (h' : Cut target stream out' rest') :
    out = out' ∧ rest = rest' := by
  have heq := h.stream_eq.symm.trans h'.stream_eq
  have hsum : target * out.length + rest.width = target * out'.length + rest'.width := by
    have := congrArg List.length heq
    simpa only [List.length_append, length_bits, Pending.length_bits] using this
  obtain ⟨hlen, hwidth⟩ := mul_add_inj h.width_lt h'.width_lt hsum
  obtain ⟨hout, hrest⟩ := List.append_inj heq (by rw [length_bits, length_bits, hlen])
  have hvalue : rest.value = rest'.value := by
    rw [← Pending.value_bits h.fits, ← Pending.value_bits h'.fits, hrest]
  refine ⟨bits_inj h.narrow h'.narrow hlen hout, ?_⟩
  cases rest
  cases rest'
  cases hwidth
  cases hvalue
  rfl

/-- Groups in front of a cut. -/
theorem Cut.append {stream : List Nat} {out more : Bytes} {rest : Pending}
    (h : Cut target stream more rest) (hout : Narrow target out) :
    Cut target (bits target out ++ stream) (out ++ more) rest := by
  refine ⟨?_, hout.append h.narrow, h.fits, h.width_lt⟩
  rw [h.stream_eq, bits_append, List.append_assoc]

/-- **Draining cuts the bits that wait.** -/
theorem cut_drain (hpos : 0 < target) (hle : target ≤ 8) {p : Pending} (hp : p.Fits) :
    Cut target p.bits (p.drain target).1 (p.drain target).2 := by
  fun_induction Pending.drain target p with
  | case1 p hwidth rest more ih =>
    -- The first group is the quotient by the power that the waiting bits below it fill.
    have hlow : p.value % 2 ^ (p.width - target) < 2 ^ (p.width - target) :=
      Nat.mod_lt _ (Nat.two_pow_pos _)
    have hhigh : p.value / 2 ^ (p.width - target) < 2 ^ target := by
      apply Nat.div_lt_of_lt_mul
      rw [← Nat.pow_add, Nat.sub_add_cancel hwidth.2]
      exact hp
    have hbits : p.bits = bits target [UInt8.ofNat (p.value / 2 ^ (p.width - target))] ++
        rest.bits := by
      have hcut := fixedDigits_mul_add target (p.width - target)
        (p.value / 2 ^ (p.width - target)) hlow
      rw [Nat.div_add_mod', Nat.add_sub_cancel' hwidth.2] at hcut
      rw [bits_ofNat hle hhigh]
      exact hcut
    rw [hbits]
    exact (ih hlow).append (narrow_ofNat hle hhigh)
  | case2 p hwidth =>
    have hlt : p.width < target := Nat.not_le.1 fun h => hwidth ⟨hpos, h⟩
    exact ⟨rfl, narrow_nil target, hp, hlt⟩

/-- **A run cuts the bits of all values**, behind those that wait when it starts; only the end of the
run depends on the padding. -/
theorem exists_cut (hle : target ≤ 8) {data : Bytes} (hdata : Narrow source data) {p : Pending}
    (hp : p.Fits) (hwidth : p.width < target) :
    ∃ out rest, Cut target (p.bits ++ bits source data) out rest ∧
      ∀ pad, regroupFrom source target pad p data =
        (rest.finish source target pad).map (out ++ ·) := by
  induction data generalizing p with
  | nil =>
    refine ⟨[], p, ⟨List.append_nil _, narrow_nil target, hp, hwidth⟩, ?_⟩
    intro pad
    rw [regroupFrom]
    cases p.finish source target pad <;> rfl
  | cons v vs ih =>
    obtain ⟨hv, hvs⟩ := List.forall_mem_cons.1 hdata
    have hdrain := cut_drain (Nat.zero_lt_of_lt hwidth) hle (hp.push hv)
    obtain ⟨out, rest, hcut, hrun⟩ := ih hvs hdrain.fits hdrain.width_lt
    refine ⟨((p.push source v).drain target).1 ++ out, rest, ?_, fun pad => ?_⟩
    · have hstream := hdrain.stream_eq
      rw [Pending.bits_push p hv] at hstream
      rw [bits_cons, ← List.append_assoc, hstream, List.append_assoc]
      exact hcut.append hdrain.narrow
    · rw [regroupFrom, Nat.pow_eq, if_neg (Nat.not_le.2 hv)]
      simp only [hrun pad]
      cases rest.finish source target pad with
      | error e => rfl
      | ok more => exact congrArg Except.ok (List.append_assoc _ out more).symm

theorem narrow_of_regroupFrom {pad : Bool} {p : Pending} {data out : Bytes}
    (h : regroupFrom source target pad p data = .ok out) : Narrow source data := by
  induction data generalizing p out with
  | nil => exact narrow_nil source
  | cons v vs ih =>
    rw [regroupFrom, Nat.pow_eq] at h
    split at h
    · cases h
    · next hv =>
      obtain ⟨more, hmore, -⟩ := map_eq_ok.1 h
      exact List.forall_mem_cons.2 ⟨Nat.not_le.1 hv, ih hmore⟩

theorem isWidth_iff {n : Nat} : isWidth n = true ↔ 1 ≤ n ∧ n ≤ 8 := by
  rw [isWidth, Bool.and_eq_true, decide_eq_true_eq, decide_eq_true_eq]

theorem exists_cut_of_narrow (htarget : isWidth target = true) {data : Bytes}
    (hdata : Narrow source data) : ∃ groups rest, Cut target (bits source data) groups rest ∧
      ∀ pad, regroupFrom source target pad .empty data =
        (rest.finish source target pad).map (groups ++ ·) := by
  obtain ⟨hpos, hle⟩ := isWidth_iff.1 htarget
  have hempty : Pending.empty.Fits := Nat.one_pos
  exact exists_cut hle hdata hempty hpos

/-- The result is the groups of the cut, with what becomes of the rest. -/
theorem regroup_eq_ok_iff {pad : Bool} {data out : Bytes} :
    regroup source target pad data = .ok out ↔
      isWidth source = true ∧ isWidth target = true ∧ Narrow source data ∧
        ∃ groups rest, Cut target (bits source data) groups rest ∧
          ∃ last, rest.finish source target pad = .ok last ∧ groups ++ last = out := by
  unfold regroup
  constructor
  · intro h
    split at h
    · next hwidths =>
      obtain ⟨hsource, htarget⟩ := Bool.and_eq_true_iff.1 hwidths
      have hdata := narrow_of_regroupFrom h
      obtain ⟨groups, rest, hcut, hrun⟩ := exists_cut_of_narrow htarget hdata
      rw [hrun] at h
      exact ⟨hsource, htarget, hdata, groups, rest, hcut, map_eq_ok.1 h⟩
    · cases h
  · rintro ⟨hsource, htarget, hdata, groups, rest, hcut, last, hlast, rfl⟩
    obtain ⟨groups', rest', hcut', hrun⟩ := exists_cut_of_narrow htarget hdata
    obtain ⟨rfl, rfl⟩ := hcut.unique hcut'
    rw [if_pos (Bool.and_eq_true_iff.2 ⟨hsource, htarget⟩), hrun]
    exact map_eq_ok.2 ⟨last, hlast, rfl⟩

/-! ## The last bits -/

/-- Padding fills the waiting bits up with zeros, fewer than a group. -/
theorem Pending.finish_pad {rest : Pending} (hle : target ≤ 8) (hfits : rest.Fits)
    (hwidth : rest.width < target) :
    ∃ last, rest.finish source target true = .ok last ∧ Narrow target last ∧
      ∃ k < target, Bech32.bits target last = rest.bits ++ List.replicate k 0 := by
  by_cases hzero : rest.width = 0
  · refine ⟨[], ?_, narrow_nil target, 0, Nat.zero_lt_of_lt hwidth, ?_⟩
    · simp [finish, hzero]
    · rw [bits, hzero]
      rfl
  · have hgap : rest.width + (target - rest.width) = target := Nat.add_sub_of_le hwidth.le
    have hlt : rest.value * 2 ^ (target - rest.width) < 2 ^ target := by
      rw [← hgap, Nat.pow_add, hgap]
      exact Nat.mul_lt_mul_of_pos_right hfits (Nat.two_pow_pos _)
    refine ⟨[UInt8.ofNat (rest.value * 2 ^ (target - rest.width))], ?_, narrow_ofNat hle hlt,
      target - rest.width, by omega, ?_⟩
    · rw [finish, if_pos rfl, if_pos (Nat.pos_of_ne_zero hzero), Nat.pow_eq]
    · have hcut := fixedDigits_mul_add rest.width (target - rest.width) rest.value
        (Nat.two_pow_pos (target - rest.width))
      rw [hgap, Nat.add_zero, fixedDigits_zero] at hcut
      rw [bits_ofNat hle hlt, hcut]
      rfl

theorem Pending.finish_strict_eq_ok_iff {rest : Pending} {last : Bytes} :
    rest.finish source target false = .ok last ↔
      rest.width < source ∧ rest.value = 0 ∧ last = [] := by
  rw [finish, if_neg Bool.false_ne_true]
  constructor
  · intro h
    split at h
    · cases h
    · next hwidth =>
      split at h
      · cases h
      · next hvalue =>
        cases h
        exact ⟨Nat.not_le.1 hwidth, not_not.1 hvalue, rfl⟩
  · rintro ⟨hwidth, hvalue, rfl⟩
    rw [if_neg (Nat.not_le.2 hwidth), if_neg (not_not.2 hvalue)]

/-! ## What regrouping gives -/

theorem Cut.finish_pad {stream : List Nat} {groups : Bytes} {rest : Pending}
    (h : Cut target stream groups rest) (hle : target ≤ 8) :
    ∃ last, rest.finish source target true = .ok last ∧ Narrow target (groups ++ last) ∧
      ∃ k < target, bits target (groups ++ last) = stream ++ List.replicate k 0 := by
  obtain ⟨last, hlast, hnarrow, k, hk, hbits⟩ := Pending.finish_pad hle h.fits h.width_lt
  refine ⟨last, hlast, h.narrow.append hnarrow, k, hk, ?_⟩
  rw [bits_append, hbits, h.stream_eq, List.append_assoc]

/-- A string is filled up to groups in one way. -/
theorem eq_of_bits_eq_append_zeros {stream : List Nat} {out out' : Bytes} {k k' : Nat}
    (hout : Narrow target out) (hout' : Narrow target out') (hk : k < target) (hk' : k' < target)
    (h : bits target out = stream ++ List.replicate k 0)
    (h' : bits target out' = stream ++ List.replicate k' 0) : out = out' := by
  have hlen := congrArg List.length h
  have hlen' := congrArg List.length h'
  rw [length_bits, List.length_append, List.length_replicate] at hlen hlen'
  obtain ⟨hsame, rfl⟩ := mul_add_inj hk' hk
    (show target * out.length + k' = target * out'.length + k by omega)
  exact bits_inj hout hout' hsame (h.trans h'.symm)

/-- **With padding the result has the bits of the values and fewer zeros than fill a group.** -/
theorem regroup_pad_eq_ok_iff {data out : Bytes} :
    regroup source target true data = .ok out ↔
      isWidth source = true ∧ isWidth target = true ∧ Narrow source data ∧ Narrow target out ∧
        ∃ k < target, bits target out = bits source data ++ List.replicate k 0 := by
  rw [regroup_eq_ok_iff]
  constructor
  · rintro ⟨hsource, htarget, hdata, groups, rest, hcut, last, hlast, rfl⟩
    obtain ⟨last', hlast', hout, hbits⟩ := hcut.finish_pad (isWidth_iff.1 htarget).2
    obtain rfl := Except.ok.inj (hlast.symm.trans hlast')
    exact ⟨hsource, htarget, hdata, hout, hbits⟩
  · rintro ⟨hsource, htarget, hdata, hout, k, hk, hbits⟩
    obtain ⟨groups, rest, hcut, -⟩ := exists_cut_of_narrow htarget hdata
    obtain ⟨last, hlast, hout', k', hk', hbits'⟩ := hcut.finish_pad (isWidth_iff.1 htarget).2
    exact ⟨hsource, htarget, hdata, groups, rest, hcut, last, hlast,
      eq_of_bits_eq_append_zeros hout' hout hk' hk hbits' hbits⟩

/-- **Without padding the values have the bits of the result and zeros, fewer than a group of either
width.** -/
theorem regroup_strict_eq_ok_iff {data out : Bytes} :
    regroup source target false data = .ok out ↔
      isWidth source = true ∧ isWidth target = true ∧ Narrow source data ∧ Narrow target out ∧
        ∃ k, k < source ∧ k < target ∧
          bits source data = bits target out ++ List.replicate k 0 := by
  rw [regroup_eq_ok_iff]
  constructor
  · rintro ⟨hsource, htarget, hdata, groups, rest, hcut, last, hlast, rfl⟩
    obtain ⟨hwidth, hvalue, rfl⟩ := Pending.finish_strict_eq_ok_iff.1 hlast
    rw [List.append_nil]
    refine ⟨hsource, htarget, hdata, hcut.narrow, rest.width, hwidth, hcut.width_lt, ?_⟩
    rw [hcut.stream_eq, Pending.bits, hvalue, fixedDigits_zero]
  · rintro ⟨hsource, htarget, hdata, hout, k, hk, hk', hbits⟩
    have hcut : Cut target (bits source data) out ⟨0, k⟩ :=
      ⟨by rw [hbits, Pending.bits, fixedDigits_zero], hout, Nat.two_pow_pos k, hk'⟩
    exact ⟨hsource, htarget, hdata, out, ⟨0, k⟩, hcut, [],
      Pending.finish_strict_eq_ok_iff.2 ⟨hk, rfl, rfl⟩, List.append_nil out⟩

/-- **What is regrouped without padding is got back with padding.** -/
theorem regroup_back {data out : Bytes} (h : regroup source target false data = .ok out) :
    regroup target source true out = .ok data := by
  obtain ⟨hsource, htarget, hdata, hout, k, hk, -, hbits⟩ := regroup_strict_eq_ok_iff.1 h
  exact regroup_pad_eq_ok_iff.2 ⟨htarget, hsource, hout, hdata, k, hk, hbits⟩

/-- **What is regrouped with padding to values that are no wider is got back without padding**: the
zeros are fewer than the bits of one value. -/
theorem regroup_strict_eq_ok_iff_pad (hle : target ≤ source) {data out : Bytes} :
    regroup target source false out = .ok data ↔ regroup source target true data = .ok out := by
  refine ⟨regroup_back, fun h => ?_⟩
  obtain ⟨hsource, htarget, hdata, hout, k, hk, hbits⟩ := regroup_pad_eq_ok_iff.1 h
  exact regroup_strict_eq_ok_iff.2
    ⟨htarget, hsource, hout, hdata, k, hk, Nat.lt_of_lt_of_le hk hle, hbits⟩

/-- With padding, values that have their width are always regrouped. -/
theorem exists_regroup_pad (hsource : isWidth source = true) (htarget : isWidth target = true)
    {data : Bytes} (hdata : Narrow source data) :
    ∃ out, regroup source target true data = .ok out := by
  obtain ⟨groups, rest, hcut, -⟩ := exists_cut_of_narrow htarget hdata
  have hlast : ∃ last, rest.finish source target true = .ok last := ⟨_, if_pos rfl⟩
  obtain ⟨last, hlast⟩ := hlast
  exact ⟨_, regroup_eq_ok_iff.2 ⟨hsource, htarget, hdata, groups, rest, hcut, last, hlast, rfl⟩⟩

/-- The number of values with padding is the number of bits over the width, rounded up. -/
theorem length_of_regroup_pad {data out : Bytes} (h : regroup source target true data = .ok out) :
    out.length = (source * data.length) ⌈/⌉ target := by
  obtain ⟨-, -, -, -, k, hk, hbits⟩ := regroup_pad_eq_ok_iff.1 h
  have hlen := congrArg List.length hbits
  rw [length_bits, List.length_append, length_bits, List.length_replicate] at hlen
  rw [Nat.ceilDiv_eq_add_pred_div, eq_comm, Nat.div_eq_iff (Nat.zero_lt_of_lt hk),
    Nat.mul_comm _ target]
  omega

end CoinAddress.Bech32
