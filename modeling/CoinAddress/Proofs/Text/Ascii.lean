import CoinAddress.Proofs.Except
import CoinAddress.Text.Basic
import CoinAddress.Text.Search

/-!
# Texts up to the case of their letters

* A text of one case is its lower-case or its upper-case form
  (`eq_lowerAscii_or_eq_upperAscii`).
* Changing the case keeps the places of all characters that are no letters, so a text is cut at the
  same place in either case (`splitAtLast?_map_toLower`).
* A format that is written in lower case and read in either case (`EitherCase`) has two texts for
  each value, and a text has one value.
* Changing the case keeps the number of bytes, which is the number of characters if all are ASCII.
-/

namespace CoinAddress.Text

/-! ## Letters -/

theorem isUpper_iff {c : Char} : c.isUpper = true ↔ 65 ≤ c.toNat ∧ c.toNat ≤ 90 :=
  decide_eq_true_iff

theorem isLower_iff {c : Char} : c.isLower = true ↔ 97 ≤ c.toNat ∧ c.toNat ≤ 122 := by
  show (decide (97 ≤ c.val) && decide (c.val ≤ 122)) = true ↔ _
  rw [Bool.and_eq_true, decide_eq_true_iff, decide_eq_true_iff]
  rfl

theorem isAlpha_eq_false_iff {c : Char} :
    c.isAlpha = false ↔ c.isUpper = false ∧ c.isLower = false := Bool.or_eq_false_iff

theorem isLower_of_isUpper {c : Char} (h : c.isUpper = true) : c.isLower = false := by
  have hc := isUpper_iff.1 h
  refine Bool.eq_false_iff.2 fun hlower => ?_
  have hc' := isLower_iff.1 hlower
  omega

theorem isUpper_of_isLower {c : Char} (h : c.isLower = true) : c.isUpper = false :=
  Bool.eq_false_iff.2 fun hupper => Bool.eq_false_iff.1 (isLower_of_isUpper hupper) h

theorem toLower_eq_self {c : Char} (h : c.isUpper = false) : c.toLower = c :=
  dif_neg fun hc => Bool.eq_false_iff.1 h (isUpper_iff.2 hc)

theorem toUpper_eq_self {c : Char} (h : c.isLower = false) : c.toUpper = c :=
  dif_neg fun hc => Bool.eq_false_iff.1 h (isLower_iff.2 hc)

/-- The code of a letter is higher by 32 in lower case. -/
theorem toNat_toLower {c : Char} (h : c.isUpper = true) : c.toLower.toNat = c.toNat + 32 := by
  have hc := isUpper_iff.1 h
  obtain ⟨hvalid, heq⟩ : ∃ h, c.toLower = ⟨c.val + ('a'.val - 'A'.val), h⟩ := ⟨_, dif_pos hc⟩
  have hcode : c.toLower.toNat = (c.toNat + 32) % 2 ^ 32 := by
    rw [heq]
    exact UInt32.toNat_add _ _
  omega

theorem toNat_toUpper {c : Char} (h : c.isLower = true) : c.toUpper.toNat + 32 = c.toNat := by
  have hc := isLower_iff.1 h
  obtain ⟨hvalid, heq⟩ : ∃ h, c.toUpper = ⟨c.val + ('A'.val - 'a'.val), h⟩ := ⟨_, dif_pos hc⟩
  have hcode : c.toUpper.toNat = (c.toNat + (2 ^ 32 - 32)) % 2 ^ 32 := by
    rw [heq]
    exact UInt32.toNat_add _ _
  omega

theorem isLower_toLower {c : Char} (h : c.isUpper = true) : c.toLower.isLower = true := by
  have hc := isUpper_iff.1 h
  rw [isLower_iff, toNat_toLower h]
  omega

theorem isUpper_toUpper {c : Char} (h : c.isLower = true) : c.toUpper.isUpper = true := by
  have hc := isLower_iff.1 h
  have hcode := toNat_toUpper h
  rw [isUpper_iff]
  omega

@[simp] theorem isUpper_toLower (c : Char) : c.toLower.isUpper = false := by
  cases h : c.isUpper with
  | false => rw [toLower_eq_self h, h]
  | true => exact isUpper_of_isLower (isLower_toLower h)

@[simp] theorem isLower_toUpper (c : Char) : c.toUpper.isLower = false := by
  cases h : c.isLower with
  | false => rw [toUpper_eq_self h, h]
  | true => exact isLower_of_isUpper (isUpper_toUpper h)

/-- The lower-case form of a character is the same in either case. -/
@[simp] theorem toLower_toUpper (c : Char) : c.toUpper.toLower = c.toLower := by
  cases h : c.isLower with
  | false => rw [toUpper_eq_self h]
  | true =>
    rw [toLower_eq_self (isUpper_of_isLower h), ← Char.toNat_inj,
      toNat_toLower (isUpper_toUpper h), toNat_toUpper h]

@[simp] theorem toUpper_toLower (c : Char) : c.toLower.toUpper = c.toUpper := by
  cases h : c.isUpper with
  | false => rw [toLower_eq_self h]
  | true =>
    rw [toUpper_eq_self (isLower_of_isUpper h), ← Char.toNat_inj]
    exact Nat.add_right_cancel ((toNat_toUpper (isLower_toLower h)).trans (toNat_toLower h))

theorem isAlpha_toLower (c : Char) : c.toLower.isAlpha = c.isAlpha := by
  cases h : c.isUpper with
  | false => rw [toLower_eq_self h]
  | true =>
    show (c.toLower.isUpper || c.toLower.isLower) = (c.isUpper || c.isLower)
    rw [isLower_toLower h, h, Bool.or_true, Bool.true_or]

theorem isGraphic_toLower (c : Char) : isGraphic c.toLower = isGraphic c := by
  cases h : c.isUpper with
  | false => rw [toLower_eq_self h]
  | true =>
    have hc := isUpper_iff.1 h
    simp only [isGraphic, toNat_toLower h]
    rw [decide_eq_true (by omega : 33 ≤ c.toNat + 32), decide_eq_true (by omega : 33 ≤ c.toNat),
      decide_eq_true (by omega : c.toNat + 32 ≤ 126), decide_eq_true (by omega : c.toNat ≤ 126)]

theorem toNat_lt_of_isGraphic {c : Char} (h : isGraphic c = true) : c.toNat < 128 := by
  simp only [isGraphic, Bool.and_eq_true, decide_eq_true_eq] at h
  omega

/-- A character that is no letter is the lower-case form of itself only. -/
theorem toLower_eq_iff {c d : Char} (hd : d.isAlpha = false) : c.toLower = d ↔ c = d := by
  constructor
  · intro h
    rw [← h, isAlpha_toLower, isAlpha_eq_false_iff] at hd
    rw [← h, toLower_eq_self hd.1]
  · rintro rfl
    exact toLower_eq_self (isAlpha_eq_false_iff.1 hd).1

/-! ## The number of bytes -/

theorem toNat_ofNat_toNat {c : Char} (h : c.toNat < 128) : (UInt8.ofNat c.toNat).toNat = c.toNat :=
  UInt8.toNat_ofNat_of_lt' (Nat.lt_trans h (by decide))

theorem utf8EncodeChar_of_lt {c : Char} (h : c.toNat < 128) :
    String.utf8EncodeChar c = [UInt8.ofNat c.toNat] := by
  have hsize : c.utf8Size = 1 := by
    rw [Char.utf8Size_eq_one_iff, UInt32.le_iff_toNat_le]
    exact Nat.le_of_lt_succ h
  rw [String.utf8EncodeChar_eq_singleton hsize]
  rfl

/-- A character beyond ASCII has a byte beyond ASCII. -/
theorem toNat_lt_of_utf8EncodeChar {c : Char} (h : ∀ b ∈ String.utf8EncodeChar c, b.toNat < 128) :
    c.toNat < 128 := by
  refine Nat.lt_of_not_ge fun hc => ?_
  have hlast : UInt8.ofNat (c.toNat % 64 + 128) ∈ String.utf8EncodeChar c := by
    have hval : ¬ c.val.toNat ≤ 127 := Nat.not_le.2 hc
    simp only [String.utf8EncodeChar, if_neg hval]
    split
    · exact List.mem_cons_of_mem _ List.mem_cons_self
    · split
      · exact List.mem_cons_of_mem _ (List.mem_cons_of_mem _ List.mem_cons_self)
      · exact List.mem_cons_of_mem _
          (List.mem_cons_of_mem _ (List.mem_cons_of_mem _ List.mem_cons_self))
  have hlt := h _ hlast
  rw [UInt8.toNat_ofNat'] at hlt
  omega

theorem utf8_of_lt {cs : List Char} (h : ∀ c ∈ cs, c.toNat < 128) :
    utf8 cs = cs.map fun c => UInt8.ofNat c.toNat := by
  induction cs with
  | nil => rfl
  | cons c cs ih =>
    obtain ⟨hc, hcs⟩ := List.forall_mem_cons.1 h
    rw [utf8, List.flatMap_cons, utf8EncodeChar_of_lt hc, List.map_cons, ← ih hcs]
    rfl

theorem byteLength_of_lt {cs : List Char} (h : ∀ c ∈ cs, c.toNat < 128) :
    byteLength cs = cs.length := by
  rw [byteLength, utf8_of_lt h, List.length_map]

theorem byteLength_cons (c : Char) (cs : List Char) :
    byteLength (c :: cs) = (String.utf8EncodeChar c).length + byteLength cs := by
  rw [byteLength, utf8, List.flatMap_cons, List.length_append]
  rfl

theorem byteLength_map_toLower (cs : List Char) :
    byteLength (cs.map Char.toLower) = byteLength cs := by
  induction cs with
  | nil => rfl
  | cons c cs ih =>
    rw [List.map_cons, byteLength_cons, byteLength_cons, ih]
    congr 1
    cases h : c.isUpper with
    | false => rw [toLower_eq_self h]
    | true =>
      have hc := isUpper_iff.1 h
      have hl := toNat_toLower h
      rw [utf8EncodeChar_of_lt (by omega), utf8EncodeChar_of_lt (by omega)]
      rfl

/-! ## Texts of one case -/

/-- Whether a text has no lower-case letter or no upper-case letter. -/
def isOneCase (s : String) : Bool := !(s.toList.any Char.isLower && s.toList.any Char.isUpper)

theorem toList_lowerAscii (s : String) : (lowerAscii s).toList = s.toList.map Char.toLower :=
  String.toList_ofList

theorem mem_toList_lowerAscii {s : String} {c : Char} (hc : c.isAlpha = false) :
    c ∈ (lowerAscii s).toList ↔ c ∈ s.toList := by
  simp [toList_lowerAscii, toLower_eq_iff hc]

theorem any_isUpper_map_toLower (cs : List Char) :
    (cs.map Char.toLower).any Char.isUpper = false := by
  simp

theorem map_toLower_eq_self {cs : List Char} (h : cs.any Char.isUpper = false) :
    cs.map Char.toLower = cs := by
  rw [List.any_eq_false] at h
  exact (List.map_congr_left fun c hc => toLower_eq_self (Bool.eq_false_iff.2 (h c hc))).trans
    (List.map_id _)

theorem map_toLower_map_toLower (cs : List Char) :
    (cs.map Char.toLower).map Char.toLower = cs.map Char.toLower :=
  map_toLower_eq_self (any_isUpper_map_toLower cs)

theorem lowerAscii_eq_self {s : String} (h : s.toList.any Char.isUpper = false) :
    lowerAscii s = s := by
  rw [lowerAscii, map_toLower_eq_self h, String.ofList_toList]

theorem upperAscii_eq_self {s : String} (h : s.toList.any Char.isLower = false) :
    upperAscii s = s := by
  rw [List.any_eq_false] at h
  rw [upperAscii,
    List.map_congr_left fun c hc => toUpper_eq_self (Bool.eq_false_iff.2 (h c hc))]
  simp

theorem lowerAscii_lowerAscii (s : String) : lowerAscii (lowerAscii s) = lowerAscii s := by
  apply lowerAscii_eq_self
  rw [toList_lowerAscii]
  exact any_isUpper_map_toLower _

theorem upperAscii_lowerAscii (s : String) : upperAscii (lowerAscii s) = upperAscii s := by
  simp [upperAscii, lowerAscii, Function.comp_def]

theorem lowerAscii_upperAscii (s : String) : lowerAscii (upperAscii s) = lowerAscii s := by
  simp [upperAscii, lowerAscii, Function.comp_def]

theorem isOneCase_lowerAscii (s : String) : isOneCase (lowerAscii s) = true := by
  rw [isOneCase, toList_lowerAscii, any_isUpper_map_toLower, Bool.and_false, Bool.not_false]

theorem isOneCase_upperAscii (s : String) : isOneCase (upperAscii s) = true := by
  simp [isOneCase, upperAscii]

theorem isOneCase_iff {s : String} : isOneCase s = true ↔
    s.toList.any Char.isUpper = false ∨ s.toList.any Char.isLower = false := by
  rw [isOneCase]
  cases s.toList.any Char.isLower <;> cases s.toList.any Char.isUpper <;> decide

theorem eq_lowerAscii_or_eq_upperAscii {s : String} (h : isOneCase s = true) :
    s = lowerAscii s ∨ s = upperAscii s := by
  rcases isOneCase_iff.1 h with h | h
  · exact Or.inl (lowerAscii_eq_self h).symm
  · exact Or.inr (upperAscii_eq_self h).symm

/-- The texts of one case with a given lower-case form are that form and its capitals. -/
theorem isOneCase_and_lowerAscii_eq_iff {s t : String} (ht : lowerAscii t = t) :
    isOneCase s = true ∧ lowerAscii s = t ↔ s = t ∨ s = upperAscii t := by
  constructor
  · rintro ⟨hcase, rfl⟩
    rw [upperAscii_lowerAscii]
    exact eq_lowerAscii_or_eq_upperAscii hcase
  · rintro (rfl | rfl)
    · rw [← ht]
      exact ⟨isOneCase_lowerAscii s, lowerAscii_lowerAscii s⟩
    · rw [lowerAscii_upperAscii]
      exact ⟨isOneCase_upperAscii t, ht⟩

theorem sameIgnoringCase_self (s : String) : sameIgnoringCase s s = true := beq_self_eq_true _

theorem sameIgnoringCase_comm (s t : String) : sameIgnoringCase s t = sameIgnoringCase t s :=
  Bool.beq_comm

theorem sameIgnoringCase_congr {s t : String} (h : sameIgnoringCase s t = true) (u : String) :
    sameIgnoringCase u s = sameIgnoringCase u t := by
  rw [sameIgnoringCase, sameIgnoringCase, beq_iff_eq.1 h]

theorem sameIgnoringCase_iff_eq {s t : String} (hs : lowerAscii s = s) (ht : lowerAscii t = t) :
    sameIgnoringCase s t = true ↔ s = t := by
  rw [sameIgnoringCase, hs, ht, beq_iff_eq]

theorem sameIgnoringCase_lowerAscii (s t : String) :
    sameIgnoringCase s (lowerAscii t) = sameIgnoringCase s t := by
  rw [sameIgnoringCase, sameIgnoringCase, lowerAscii_lowerAscii]

/-! ## Formats in either case -/

/-- A format that is written in lower case and read in either case: a text reads as a value if it is
all in one case and its lower-case form is the one that is written. -/
structure EitherCase {ε α : Type} (write : α → Except ε String) (read : String → Except ε α) :
    Prop where
  read_eq_ok_iff {s : String} {a : α} :
    read s = .ok a ↔ isOneCase s = true ∧ write a = .ok (lowerAscii s)
  lowerAscii_eq {s : String} {a : α} (h : write a = .ok s) : lowerAscii s = s

namespace EitherCase

variable {ε α : Type} {write : α → Except ε String} {read : String → Except ε α} {s t : String}
  {a b : α}

/-- The texts of a value are the one that is written and its capitals. -/
theorem read_eq_ok_iff_of_write (h : EitherCase write read) (ht : write a = .ok t) :
    read s = .ok a ↔ s = t ∨ s = upperAscii t := by
  rw [h.read_eq_ok_iff, ht, Except.ok.injEq, eq_comm (a := t),
    isOneCase_and_lowerAscii_eq_iff (h.lowerAscii_eq ht)]

theorem read_of_write (h : EitherCase write read) (hs : write a = .ok s) : read s = .ok a :=
  (h.read_eq_ok_iff_of_write hs).2 (Or.inl rfl)

theorem write_of_read (h : EitherCase write read) (hs : read s = .ok a) :
    write a = .ok (lowerAscii s) := (h.read_eq_ok_iff.1 hs).2

theorem read_eq_ok_iff_exists (h : EitherCase write read) :
    read s = .ok a ↔ ∃ t, write a = .ok t ∧ (s = t ∨ s = upperAscii t) := by
  constructor
  · intro hs
    have ht := h.write_of_read hs
    exact ⟨_, ht, (h.read_eq_ok_iff_of_write ht).1 hs⟩
  · rintro ⟨t, ht, hs⟩
    exact (h.read_eq_ok_iff_of_write ht).2 hs

theorem read_lowerAscii (h : EitherCase write read) (hs : read s = .ok a) :
    read (lowerAscii s) = .ok a := h.read_of_write (h.write_of_read hs)

/-- Values with the same text are the same. -/
theorem write_inj (h : EitherCase write read) (hs : write a = .ok s) (ht : write b = .ok t) :
    s = t ↔ a = b := by
  constructor
  · rintro rfl
    exact Except.ok.inj ((h.read_of_write hs).symm.trans (h.read_of_write ht))
  · rintro rfl
    exact Except.ok.inj (hs.symm.trans ht)

end EitherCase

/-! ## Searching a text -/

theorem findWithIndex?_eq_none_iff {p : Char → Bool} {cs : List Char} :
    findWithIndex? p cs = none ↔ ∀ c ∈ cs, p c = false := by
  rw [findWithIndex?, List.find?_eq_none]
  constructor
  · intro h c hc
    rw [← List.zipIdx_map_fst 0 cs] at hc
    obtain ⟨x, hx, rfl⟩ := List.mem_map.1 hc
    exact Bool.eq_false_iff.2 (h x hx)
  · intro h x hx
    exact Bool.eq_false_iff.1 (h x.1 (List.fst_mem_of_mem_zipIdx hx))

/-- The first character with a property is found at its place. -/
theorem findWithIndex?_append {p : Char → Bool} {before : List Char} {c : Char}
    (hbefore : ∀ x ∈ before, p x = false) (hc : p c = true) (behind : List Char) :
    findWithIndex? p (before ++ c :: behind) = some (c, before.length) := by
  rw [← findWithIndex?_eq_none_iff, findWithIndex?] at hbefore
  rw [findWithIndex?, List.zipIdx_append, List.find?_append, hbefore, Option.none_or,
    List.zipIdx_cons, Nat.zero_add]
  exact List.find?_cons_of_pos hc

/-- The first character that is not visible is no letter, so it is the same in lower case. -/
theorem findWithIndex?_map_toLower (cs : List Char) :
    findWithIndex? (fun c => !isGraphic c) (cs.map Char.toLower) =
      findWithIndex? (fun c => !isGraphic c) cs := by
  by_cases h : ∀ c ∈ cs, isGraphic c = true
  · rw [findWithIndex?_eq_none_iff.2, findWithIndex?_eq_none_iff.2]
    · simpa using h
    · simpa [isGraphic_toLower] using h
  · obtain ⟨before, c, behind, rfl, hbefore, hc⟩ := exists_first_not h
    have hlower : c.toLower = c := by
      refine toLower_eq_self (Bool.eq_false_iff.2 fun hupper => hc ?_)
      have hrange := isUpper_iff.1 hupper
      rw [isGraphic, decide_eq_true (by omega : 33 ≤ c.toNat),
        decide_eq_true (by omega : c.toNat ≤ 126), Bool.and_self]
    rw [List.map_append, List.map_cons, hlower, findWithIndex?_append, findWithIndex?_append,
      List.length_map]
    · simpa using hbefore
    · simpa using hc
    · simpa [isGraphic_toLower] using hbefore
    · simpa using hc

theorem splitAtLast?_eq_none_iff {c : Char} {cs : List Char} :
    splitAtLast? c cs = none ↔ c ∉ cs := by
  refine ⟨fun h => ?_, splitAtLast?_eq_none⟩
  induction cs with
  | nil => exact List.not_mem_nil
  | cons x xs ih =>
    rw [splitAtLast?] at h
    split at h
    · cases h
    · next hxs =>
      split at h
      · cases h
      · next hx => simp [ih hxs, Ne.symm hx]

/-- A text is cut at the character behind which there is no other. -/
theorem splitAtLast?_eq_some_iff {c : Char} {cs before behind : List Char} :
    splitAtLast? c cs = some (before, behind) ↔ cs = before ++ c :: behind ∧ c ∉ behind := by
  constructor
  · intro h
    refine ⟨splitAtLast?_eq_some h, ?_⟩
    induction cs generalizing before with
    | nil => cases h
    | cons x xs ih =>
      rw [splitAtLast?] at h
      split at h
      · next hxs =>
        cases h
        exact ih hxs
      · next hxs =>
        split at h
        · cases h
          exact splitAtLast?_eq_none_iff.1 hxs
        · cases h
  · rintro ⟨rfl, h⟩
    exact splitAtLast?_append h before

/-- A text is cut at the same place in lower case. -/
theorem splitAtLast?_map_toLower {c : Char} (hc : c.isAlpha = false) (cs : List Char) :
    splitAtLast? c (cs.map Char.toLower) =
      (splitAtLast? c cs).map (Prod.map (List.map Char.toLower) (List.map Char.toLower)) := by
  induction cs with
  | nil => rfl
  | cons x xs ih =>
    rw [List.map_cons, splitAtLast?, splitAtLast?, ih]
    cases splitAtLast? c xs with
    | some parts => rfl
    | none =>
      by_cases hx : x = c
      · rw [Option.map_none, if_pos hx]
        exact if_pos ((toLower_eq_iff hc).2 hx)
      · rw [Option.map_none, if_neg hx]
        exact if_neg fun h => hx ((toLower_eq_iff hc).1 h)

end CoinAddress.Text
