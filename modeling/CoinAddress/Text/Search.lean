/-!
# Searching a text

* `findWithIndex?` finds the first character with a property, and where it stands.
* `splitAtLast?` cuts a text at the last occurrence of a character; the parts with the character
  between them are the text again (`splitAtLast?_eq_some`), and the last part is free of it
  (`splitAtLast?_append`).
-/

namespace CoinAddress.Text

/-- The first character for which `p` holds, with its index. -/
def findWithIndex? (p : Char → Bool) (cs : List Char) : Option (Char × Nat) :=
  cs.zipIdx.find? fun c => p c.1

/-- A list of characters cut at its last `c`, which is left out. -/
def splitAtLast? (c : Char) : List Char → Option (List Char × List Char)
  | [] => none
  | x :: xs =>
    match splitAtLast? c xs with
    | some (before, behind) => some (x :: before, behind)
    | none => if x = c then some ([], xs) else none

theorem splitAtLast?_eq_some {c : Char} {cs before behind : List Char}
    (h : splitAtLast? c cs = some (before, behind)) : cs = before ++ c :: behind := by
  induction cs generalizing before behind with
  | nil => simp [splitAtLast?] at h
  | cons x xs ih =>
    rw [splitAtLast?] at h
    split at h
    · next b a hs =>
      cases h
      rw [ih hs, List.cons_append]
    · split at h
      · next hx => cases h; simp [hx]
      · cases h

theorem splitAtLast?_eq_none {c : Char} {cs : List Char} (h : c ∉ cs) :
    splitAtLast? c cs = none := by
  induction cs with
  | nil => rfl
  | cons x xs ih =>
    have hx : x ≠ c := fun e => h (by simp [e])
    have hxs : c ∉ xs := fun m => h (by simp [m])
    rw [splitAtLast?, ih hxs]
    exact if_neg hx

/-- The cut is at the character behind which there is no other. -/
theorem splitAtLast?_append {c : Char} {behind : List Char} (h : c ∉ behind)
    (before : List Char) : splitAtLast? c (before ++ c :: behind) = some (before, behind) := by
  induction before with
  | nil =>
    rw [List.nil_append, splitAtLast?, splitAtLast?_eq_none h]
    exact if_pos rfl
  | cons x xs ih => rw [List.cons_append, splitAtLast?, ih]

end CoinAddress.Text
