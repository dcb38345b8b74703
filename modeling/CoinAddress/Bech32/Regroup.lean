import CoinAddress.Error

/-!
# Regrouping bits

`regroup` turns values of one width into values of another, both between one and eight bits: the
bits of all values, the most significant first, are cut anew. Bits that do not fill a group are
filled up with zeros, or refused unless they are fewer than a source group and all zero.

The bits that wait for their group are a `Pending`, which never holds more than fifteen bits.
-/

namespace CoinAddress.Bech32

/-- The bits that do not yet fill a group, as a number and a count. -/
structure Pending where
  value : Nat
  width : Nat
deriving DecidableEq

namespace Pending

/-- No bits. -/
def empty : Pending := ⟨0, 0⟩

/-- The bits of a value behind those that wait. -/
def push (p : Pending) (source : Nat) (v : UInt8) : Pending :=
  ⟨p.value * Nat.pow 2 source + v.toNat, p.width + source⟩

/-- The full groups, and the bits that remain. -/
def drain (target : Nat) (p : Pending) : Bytes × Pending :=
  if _h : 0 < target ∧ target ≤ p.width then
    let rest : Pending := ⟨p.value % Nat.pow 2 (p.width - target), p.width - target⟩
    let more := drain target rest
    (UInt8.ofNat (p.value / Nat.pow 2 (p.width - target)) :: more.1, more.2)
  else
    ([], p)
termination_by p.width
decreasing_by exact Nat.sub_lt (Nat.lt_of_lt_of_le _h.1 _h.2) _h.1

/-- What becomes of the last bits: with `pad` they are filled up to a group. -/
def finish (source target : Nat) (pad : Bool) (p : Pending) : Except Error Bytes :=
  if pad then
    .ok (if 0 < p.width then [UInt8.ofNat (p.value * Nat.pow 2 (target - p.width))] else [])
  else if source ≤ p.width then .error (.excessPadding p.width)
  else if p.value ≠ 0 then .error .nonZeroPadding
  else .ok []

end Pending

/-- The groups of the values that follow the bits of `p`. -/
def regroupFrom (source target : Nat) (pad : Bool) (p : Pending) : Bytes → Except Error Bytes
  | [] => p.finish source target pad
  | v :: vs =>
    if Nat.pow 2 source ≤ v.toNat then .error (.malformed (.wideValue v source))
    else
      let groups := (p.push source v).drain target
      (regroupFrom source target pad groups.2 vs).map (groups.1 ++ ·)

/-- Whether values can have this width. -/
def isWidth (n : Nat) : Bool := decide (1 ≤ n) && decide (n ≤ 8)

/-- The values of width `target` with the bits of the values of width `source`. -/
def regroup (source target : Nat) (pad : Bool) (data : Bytes) : Except Error Bytes :=
  if isWidth source && isWidth target then regroupFrom source target pad .empty data
  else .error (.malformed (.badWidths source target))

end CoinAddress.Bech32
