import CoinAddress.Bech32.Regroup

/-!
# Regrouping in words of 32 bits

`Words.regroup` regroups values with two words: an accumulator, whose last bits are those that wait
for their group, and their number. The accumulator also holds bits that were given out before, until
its mask cuts them off.

Every operation is checked. A sum or a shift to the left that exceeds a word, a difference below
zero and a shift by 32 places or more give nothing, and then the whole run gives nothing.
-/

namespace CoinAddress.Bech32.Words

/-! ## Checked operations -/

/-- The sum of two words, if it is a word. -/
def add? (a b : UInt32) : Option UInt32 :=
  if a.toNat + b.toNat < UInt32.size then some (a + b) else none

/-- The difference of two words, if it is not below zero. -/
def sub? (a b : UInt32) : Option UInt32 := if b ≤ a then some (a - b) else none

/-- A word shifted to the left, if no bit is lost. -/
def shiftLeft? (a k : UInt32) : Option UInt32 :=
  if k < 32 ∧ a.toNat <<< k.toNat < UInt32.size then some (a <<< k) else none

/-- A word shifted to the right by fewer places than it has. -/
def shiftRight? (a k : UInt32) : Option UInt32 := if k < 32 then some (a >>> k) else none

/-- The word whose last `w` bits are set. -/
def mask? (w : UInt32) : Option UInt32 := do sub? (← shiftLeft? 1 w) 1

theorem le_of_sub?_eq_some {a b c : UInt32} (h : sub? a b = some c) : b ≤ a ∧ c = a - b := by
  rw [sub?] at h
  split at h
  · next hle => exact ⟨hle, (Option.some.inj h).symm⟩
  · cases h

/-! ## The run -/

/-- The widths of a run, with the masks of a group and of the accumulator. -/
structure Setting where
  source : UInt32
  target : UInt32
  groupMask : UInt32
  accumulatorMask : UInt32

/-- The setting for two widths: the accumulator keeps one bit less than both together. -/
def setting? (source target : UInt32) : Option Setting := do
  let groupMask ← mask? target
  let accumulatorMask ← mask? (← sub? (← add? source target) 1)
  some ⟨source, target, groupMask, accumulatorMask⟩

variable (c : Setting)

/-- The full groups of the last `width` bits of an accumulator, and how many bits remain. -/
def drain (acc width : UInt32) : Option (Bytes × UInt32) :=
  if _h : 0 < c.target ∧ c.target ≤ width then
    match _hrest : sub? width c.target with
    | none => none
    | some rest => do
      let group ← shiftRight? acc rest
      let more ← drain acc rest
      some ((group &&& c.groupMask).toUInt8 :: more.1, more.2)
  else
    some ([], width)
termination_by width.toNat
decreasing_by
  obtain ⟨hle, rfl⟩ := le_of_sub?_eq_some _hrest
  rw [UInt32.toNat_sub_of_le _ _ hle]
  have hpos : 0 < c.target.toNat := UInt32.lt_iff_toNat_lt.1 _h.1
  have hle' := UInt32.le_iff_toNat_le.1 hle
  omega

/-- The last `width` bits of an accumulator, filled up with zeros to a group. -/
def lastGroup (acc width : UInt32) : Option UInt32 := do
  let filled ← shiftLeft? acc (← sub? c.target width)
  some (filled &&& c.groupMask)

/-- What becomes of the last bits: with `pad` they are filled up to a group. -/
def finish (pad : Bool) (acc width : UInt32) : Option (Except Error Bytes) :=
  if pad then
    if 0 < width then do
      let group ← lastGroup c acc width
      some (.ok [group.toUInt8])
    else some (.ok [])
  else if c.source ≤ width then some (.error (.excessPadding width.toNat))
  else do
    let group ← lastGroup c acc width
    some (if group ≠ 0 then .error .nonZeroPadding else .ok [])

/-- The groups of the values that follow the last `width` bits of an accumulator. -/
def regroupFrom (pad : Bool) (acc width : UInt32) : Bytes → Option (Except Error Bytes)
  | [] => finish c pad acc width
  | v :: vs => do
    let excess ← shiftRight? v.toUInt32 c.source
    if excess ≠ 0 then some (.error (.malformed (.wideValue v c.source.toNat)))
    else
      let shifted ← shiftLeft? acc c.source
      let acc := (shifted ||| v.toUInt32) &&& c.accumulatorMask
      let groups ← drain c acc (← add? width c.source)
      let rest ← regroupFrom pad acc groups.2 vs
      some (rest.map (groups.1 ++ ·))

/-- The values of width `target` with the bits of the values of width `source`. -/
def regroup (source target : UInt32) (pad : Bool) (data : Bytes) : Option (Except Error Bytes) :=
  if isWidth source.toNat && isWidth target.toNat then do
    regroupFrom (← setting? source target) pad 0 0 data
  else some (.error (.malformed (.badWidths source.toNat target.toNat)))

end CoinAddress.Bech32.Words
