import CoinAddress.Bech32.Words
import CoinAddress.Proofs.Bech32.Regroup

/-!
# Words of 32 bits are enough

Regrouping with checked words never fails a check and gives what regrouping without a bound on its
numbers gives (`Words.regroup_eq_some`). The invariant is `Words.Holds`: the last bits of the
accumulator are those that wait for their group. Together with the accumulator's mask, which leaves
it at most fifteen bits, it keeps every shift below twenty-three bits.
-/

namespace CoinAddress.Bech32.Words

/-! ## Checked operations that pass -/

theorem add?_eq_some {a b : UInt32} (h : a.toNat + b.toNat < 2 ^ 32) :
    ∃ c, add? a b = some c ∧ c.toNat = a.toNat + b.toNat :=
  ⟨a + b, if_pos h, by rw [UInt32.toNat_add, Nat.mod_eq_of_lt h]⟩

theorem sub?_eq_some {a b : UInt32} (h : b.toNat ≤ a.toNat) :
    ∃ c, sub? a b = some c ∧ c.toNat = a.toNat - b.toNat :=
  have hle := UInt32.le_iff_toNat_le.2 h
  ⟨a - b, if_pos hle, UInt32.toNat_sub_of_le a b hle⟩

theorem shiftLeft?_eq_some {a k : UInt32} (hk : k.toNat < 32) (h : a.toNat * 2 ^ k.toNat < 2 ^ 32) :
    ∃ c, shiftLeft? a k = some c ∧ c.toNat = a.toNat * 2 ^ k.toNat := by
  have hshift : (a <<< k).toNat = a.toNat * 2 ^ k.toNat := by
    rw [UInt32.toNat_shiftLeft, Nat.mod_eq_of_lt hk, Nat.shiftLeft_eq, Nat.mod_eq_of_lt h]
  refine ⟨a <<< k, if_pos ⟨UInt32.lt_iff_toNat_lt.2 hk, ?_⟩, hshift⟩
  rw [Nat.shiftLeft_eq]
  exact h

theorem shiftRight?_eq_some (a : UInt32) {k : UInt32} (hk : k.toNat < 32) :
    ∃ c, shiftRight? a k = some c ∧ c.toNat = a.toNat / 2 ^ k.toNat :=
  ⟨a >>> k, if_pos (UInt32.lt_iff_toNat_lt.2 hk), by
    rw [UInt32.toNat_shiftRight, Nat.mod_eq_of_lt hk, Nat.shiftRight_eq_div_pow]⟩

theorem mask?_eq_some {w : UInt32} (hw : w.toNat < 32) :
    ∃ m, mask? w = some m ∧ ∀ a : UInt32, (a &&& m).toNat = a.toNat % 2 ^ w.toNat := by
  have hlt : 2 ^ w.toNat < 2 ^ 32 := Nat.pow_lt_pow_right (by decide) hw
  obtain ⟨p, hp, hpval⟩ := shiftLeft?_eq_some (a := 1) hw (by simpa using hlt)
  have hpval' : p.toNat = 2 ^ w.toNat := by simpa using hpval
  obtain ⟨m, hm, hmval⟩ := sub?_eq_some (a := p) (b := 1) (by
    rw [hpval']
    exact Nat.two_pow_pos _)
  refine ⟨m, ?_, fun a => ?_⟩
  · rw [mask?, hp]
    exact hm
  · have hmval' : m.toNat = 2 ^ w.toNat - 1 := by rw [hmval, hpval']; rfl
    rw [UInt32.toNat_and, hmval', Nat.and_two_pow_sub_one_eq_mod]

/-! ## The last bits of the accumulator -/

/-- The last `width` bits of an accumulator are the bits that wait for their group. -/
structure Holds (acc width : UInt32) (p : Pending) : Prop where
  width_eq : width.toNat = p.width
  value_eq : acc.toNat % 2 ^ p.width = p.value

theorem Holds.fits {acc width : UInt32} {p : Pending} (h : Holds acc width p) : p.Fits := by
  rw [Pending.Fits, ← h.value_eq]
  exact Nat.mod_lt _ (Nat.two_pow_pos _)

/-- The masks of a setting cut off all bits but those of a group, or of the accumulator. -/
structure Fitting (c : Setting) : Prop where
  source_le : c.source.toNat ≤ 8
  target_pos : 0 < c.target.toNat
  target_le : c.target.toNat ≤ 8
  toNat_and_groupMask : ∀ a : UInt32, (a &&& c.groupMask).toNat = a.toNat % 2 ^ c.target.toNat
  toNat_and_accumulatorMask : ∀ a : UInt32,
    (a &&& c.accumulatorMask).toNat = a.toNat % 2 ^ (c.source.toNat + c.target.toNat - 1)

theorem exists_setting {source target : UInt32} (hsource : isWidth source.toNat = true)
    (htarget : isWidth target.toNat = true) :
    ∃ c, setting? source target = some c ∧ c.source = source ∧ c.target = target ∧ Fitting c := by
  obtain ⟨hs, hs'⟩ := isWidth_iff.1 hsource
  obtain ⟨ht, ht'⟩ := isWidth_iff.1 htarget
  obtain ⟨groupMask, hgroup, hgroup'⟩ := mask?_eq_some (w := target) (by omega)
  obtain ⟨sum, hsum, hsum'⟩ := add?_eq_some (a := source) (b := target) (by omega)
  obtain ⟨width, hwidth, hwidth'⟩ := sub?_eq_some (a := sum) (b := 1) (by
    rw [hsum', UInt32.toNat_one]
    omega)
  rw [hsum', UInt32.toNat_one] at hwidth'
  obtain ⟨accumulatorMask, hacc, hacc'⟩ := mask?_eq_some (w := width) (by omega)
  refine ⟨⟨source, target, groupMask, accumulatorMask⟩, ?_, rfl, rfl, hs', ht, ht', hgroup', ?_⟩
  · simp only [setting?, hgroup, hsum, hwidth, hacc, Option.bind_eq_bind, Option.bind_some]
  · rwa [← hwidth']

variable {c : Setting}

theorem toUInt8_and_groupMask (hc : Fitting c) (a : UInt32) :
    (a &&& c.groupMask).toUInt8 = UInt8.ofNat (a.toNat % 2 ^ c.target.toNat) := by
  rw [← hc.toNat_and_groupMask]
  rfl

/-- **Draining gives the groups of the bits that wait.** -/
theorem drain_eq_some (hc : Fitting c) {acc : UInt32} {p : Pending} (hlt : p.width < 32) :
    ∀ {width : UInt32}, Holds acc width p →
      ∃ rest, drain c acc width = some ((p.drain c.target.toNat).1, rest) ∧
        Holds acc rest (p.drain c.target.toNat).2 := by
  induction p using Pending.drain.induct c.target.toNat with
  | case1 p hfull next ih =>
    intro width hp
    rw [Pending.drain, dif_pos hfull]
    obtain ⟨rest, hrest, hrest'⟩ := sub?_eq_some (a := width) (b := c.target)
      (hp.width_eq ▸ hfull.2)
    rw [hp.width_eq] at hrest'
    obtain ⟨group, hgroup, hgroup'⟩ := shiftRight?_eq_some acc (k := rest) (by omega)
    have hnext : Holds acc rest next := by
      refine ⟨hrest', ?_⟩
      show acc.toNat % 2 ^ (p.width - c.target.toNat) =
        p.value % 2 ^ (p.width - c.target.toNat)
      rw [← hp.value_eq, Nat.mod_mod_of_dvd _ (Nat.pow_dvd_pow 2 (Nat.sub_le ..))]
    obtain ⟨last, hmore, hlast⟩ := ih (Nat.lt_of_le_of_lt (Nat.sub_le ..) hlt) hnext
    have hvalue : (group &&& c.groupMask).toUInt8 =
        UInt8.ofNat (p.value / 2 ^ (p.width - c.target.toNat)) := by
      rw [toUInt8_and_groupMask hc, hgroup', hrest', ← hp.value_eq, ← Nat.mod_mul_right_div_self,
        ← Nat.pow_add, Nat.sub_add_cancel hfull.2]
    have hfull' : 0 < c.target ∧ c.target ≤ width :=
      ⟨UInt32.lt_iff_toNat_lt.2 hfull.1, UInt32.le_iff_toNat_le.2 (hp.width_eq ▸ hfull.2)⟩
    refine ⟨last, ?_, hlast⟩
    rw [drain, dif_pos hfull']
    split
    · next hnone =>
      rw [hrest] at hnone
      cases hnone
    · next rest' hsome =>
      obtain rfl := Option.some.inj (hrest.symm.trans hsome)
      simp only [hgroup, hmore, hvalue, Option.bind_eq_bind, Option.bind_some]
      rfl
  | case2 p hnot =>
    intro width hp
    rw [Pending.drain, dif_neg hnot]
    refine ⟨width, ?_, hp⟩
    rw [drain, dif_neg]
    rintro ⟨hpos, hle⟩
    exact hnot ⟨UInt32.lt_iff_toNat_lt.1 hpos, hp.width_eq ▸ UInt32.le_iff_toNat_le.1 hle⟩

/-- Between two values the mask has cut the accumulator. -/
def Masked (c : Setting) (acc : UInt32) : Prop :=
  acc.toNat < 2 ^ (c.source.toNat + c.target.toNat - 1)

theorem shiftLeft?_of_masked (hc : Fitting c) {acc k : UInt32} (hacc : Masked c acc)
    (hk : k.toNat ≤ 8) :
    ∃ a, shiftLeft? acc k = some a ∧ a.toNat = acc.toNat * 2 ^ k.toNat := by
  have hacc' : acc.toNat < 2 ^ 15 := by
    have hs := hc.source_le
    have ht := hc.target_le
    exact Nat.lt_of_lt_of_le hacc (Nat.pow_le_pow_right (by decide) (by omega))
  have hpow : 2 ^ k.toNat ≤ 2 ^ 8 := Nat.pow_le_pow_right (by decide) hk
  refine shiftLeft?_eq_some (by omega) ?_
  calc acc.toNat * 2 ^ k.toNat ≤ acc.toNat * 2 ^ 8 := Nat.mul_le_mul_left _ hpow
    _ < 2 ^ 32 := by omega

/-! ## The run -/

theorem lastGroup_eq_some (hc : Fitting c) {acc width : UInt32} {p : Pending}
    (hp : Holds acc width p) (hacc : Masked c acc) (hlt : p.width < c.target.toNat) :
    ∃ g, lastGroup c acc width = some g ∧
      g.toNat = p.value * 2 ^ (c.target.toNat - p.width) := by
  obtain ⟨gap, hgap, hgap'⟩ := sub?_eq_some (a := c.target) (b := width)
    (hp.width_eq ▸ hlt.le)
  rw [hp.width_eq] at hgap'
  have htarget := hc.target_le
  obtain ⟨filled, hfilled, hfilled'⟩ := shiftLeft?_of_masked hc hacc (k := gap) (by omega)
  have hpow : 2 ^ c.target.toNat = 2 ^ p.width * 2 ^ gap.toNat := by
    rw [← Nat.pow_add, hgap', Nat.add_sub_cancel' hlt.le]
  refine ⟨filled &&& c.groupMask, ?_, ?_⟩
  · simp only [lastGroup, hgap, hfilled, Option.bind_eq_bind, Option.bind_some]
  · rw [hc.toNat_and_groupMask, hfilled', hpow, Nat.mul_mod_mul_right, hp.value_eq, hgap']

theorem finish_eq_some (hc : Fitting c) {acc width : UInt32} {p : Pending}
    (hp : Holds acc width p) (hacc : Masked c acc) (hlt : p.width < c.target.toNat) (pad : Bool) :
    finish c pad acc width = some (p.finish c.source.toNat c.target.toNat pad) := by
  obtain ⟨group, hgroup, hgroup'⟩ := lastGroup_eq_some hc hp hacc hlt
  have hbyte : group.toUInt8 = UInt8.ofNat (p.value * 2 ^ (c.target.toNat - p.width)) := by
    rw [← hgroup']
    rfl
  have hpos : 0 < width ↔ 0 < p.width := by
    rw [UInt32.lt_iff_toNat_lt, hp.width_eq]
    rfl
  have hle : c.source ≤ width ↔ c.source.toNat ≤ p.width := by
    rw [UInt32.le_iff_toNat_le, hp.width_eq]
  have hzero : group ≠ 0 ↔ p.value ≠ 0 := by
    rw [Ne, ← UInt32.toNat_inj, hgroup', UInt32.toNat_zero, Nat.mul_eq_zero]
    simp
  simp only [finish, Pending.finish, hgroup, Option.bind_eq_bind, Option.bind_some, hpos, hle,
    hzero, hp.width_eq, hbyte]
  split_ifs <;> rfl

/-- A value that has no more bits than the width is put behind the bits of the accumulator. -/
theorem toNat_or_toUInt32 {a : UInt32} {v : UInt8} {acc k : Nat} (ha : a.toNat = acc * 2 ^ k)
    (hv : v.toNat < 2 ^ k) : (a ||| v.toUInt32).toNat = acc * 2 ^ k + v.toNat := by
  rw [UInt32.toNat_or, ha, UInt8.toNat_toUInt32, Nat.mul_comm, Nat.two_pow_add_eq_or_of_lt hv]

/-- **One more value**: behind the bits that wait, which stay within the accumulator's mask. -/
theorem Holds.push (hc : Fitting c) {acc width : UInt32} {p : Pending} (hp : Holds acc width p)
    (hacc : Masked c acc) (hlt : p.width < c.target.toNat) {v : UInt8}
    (hv : v.toNat < 2 ^ c.source.toNat) :
    ∃ shifted sum, shiftLeft? acc c.source = some shifted ∧ add? width c.source = some sum ∧
      Masked c ((shifted ||| v.toUInt32) &&& c.accumulatorMask) ∧
        Holds ((shifted ||| v.toUInt32) &&& c.accumulatorMask) sum (p.push c.source.toNat v) := by
  have hs := hc.source_le
  have ht := hc.target_le
  obtain ⟨shifted, hshift, hshift'⟩ := shiftLeft?_of_masked hc hacc hs
  obtain ⟨sum, hsum, hsum'⟩ := add?_eq_some (a := width) (b := c.source)
    (by rw [hp.width_eq]; omega)
  have hmask := hc.toNat_and_accumulatorMask (shifted ||| v.toUInt32)
  rw [toNat_or_toUInt32 hshift' hv] at hmask
  refine ⟨shifted, sum, hshift, hsum, ?_, ?_, ?_⟩
  · rw [Masked, hmask]
    exact Nat.mod_lt _ (Nat.two_pow_pos _)
  · rw [hsum', hp.width_eq]
    rfl
  · show _ % 2 ^ (p.width + c.source.toNat) = p.value * 2 ^ c.source.toNat + v.toNat
    have hfits : p.value * 2 ^ c.source.toNat + v.toNat < 2 ^ (p.width + c.source.toNat) :=
      hp.fits.push hv
    rw [Nat.pow_add] at hfits
    rw [hmask, Nat.mod_mod_of_dvd _ (Nat.pow_dvd_pow 2 (by omega)), Nat.pow_add,
      ← Nat.mod_add_mod, Nat.mul_mod_mul_right, hp.value_eq, Nat.mod_eq_of_lt hfits]

theorem regroupFrom_eq_some (hc : Fitting c) (pad : Bool) {acc width : UInt32} {p : Pending}
    (hp : Holds acc width p) (hacc : Masked c acc) (hlt : p.width < c.target.toNat) (data : Bytes) :
    regroupFrom c pad acc width data =
      some (Bech32.regroupFrom c.source.toNat c.target.toNat pad p data) := by
  have hs := hc.source_le
  have ht := hc.target_le
  induction data generalizing acc width p with
  | nil => exact finish_eq_some hc hp hacc hlt pad
  | cons v vs ih =>
    obtain ⟨excess, hexcess, hexcess'⟩ := shiftRight?_eq_some v.toUInt32 (k := c.source) (by omega)
    have hwide : excess ≠ 0 ↔ 2 ^ c.source.toNat ≤ v.toNat := by
      rw [Ne, ← UInt32.toNat_inj, hexcess', UInt8.toNat_toUInt32, UInt32.toNat_zero,
        Nat.div_eq_zero_iff_lt (Nat.two_pow_pos _), Nat.not_lt]
    rw [regroupFrom, hexcess, Bech32.regroupFrom, Nat.pow_eq]
    simp only [Option.bind_eq_bind, Option.bind_some, hwide]
    split
    · rfl
    · next hv =>
      have hv' := Nat.not_le.1 hv
      obtain ⟨shifted, sum, hshift, hsum, hmasked, hpush⟩ := hp.push hc hacc hlt hv'
      obtain ⟨rest, hdrain, hrest⟩ := drain_eq_some hc
        (show (p.push c.source.toNat v).width < 32 by
          show p.width + c.source.toNat < 32
          omega) hpush
      have hcut := cut_drain hc.target_pos ht (hp.fits.push hv')
      rw [hshift, hsum]
      simp only [Option.bind_some, hdrain, ih hrest hmasked hcut.width_lt]

/-- **Regrouping in words never exceeds a word and never goes below zero**: no check fails, whatever
the widths and the data, and the result is that of numbers without a bound. -/
theorem regroup_eq_some (source target : UInt32) (pad : Bool) (data : Bytes) :
    regroup source target pad data =
      some (Bech32.regroup source.toNat target.toNat pad data) := by
  rw [regroup, Bech32.regroup]
  split
  · next hwidths =>
    obtain ⟨hsource, htarget⟩ := Bool.and_eq_true_iff.1 hwidths
    obtain ⟨c, hset, rfl, rfl, hc⟩ := exists_setting hsource htarget
    rw [hset]
    exact regroupFrom_eq_some hc pad ⟨rfl, rfl⟩ (Nat.two_pow_pos _) hc.target_pos data
  · rfl

end CoinAddress.Bech32.Words
