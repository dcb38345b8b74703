import CoinAddress.Proofs.Json.Scalar
import Mathlib.Data.List.DropRight

/-!
# JSON texts and their reader

`HasText v cs` says that `cs` is a JSON text of the value `v`: between any two tokens there may be
white space, and numbers are whole numbers without a sign. Every such text is read as its value
(`parse?_of_hasText`), so a value is never taken for another one, however its text is laid out.

The reader has a bound on the number of calls. The length of a text is enough: each call reads a
character at least (`ReadsTexts.of_bound`).
-/

namespace CoinAddress.Json

/-! ## White space -/

/-- White space between tokens. -/
def Blank (cs : List Char) : Prop := ∀ c ∈ cs, isSpace c = true

theorem blank_nil : Blank [] := fun _ hc => absurd hc List.not_mem_nil

theorem blank_newLine (level : Nat) : Blank (newLine level) := by
  intro c hc
  rcases List.mem_cons.1 hc with rfl | hc
  · rfl
  · rw [List.eq_of_mem_replicate hc]
    rfl

theorem skipSpace_append {ws : List Char} (h : Blank ws) (cs : List Char) :
    skipSpace (ws ++ cs) = skipSpace cs := List.dropWhile_append_of_pos h

theorem skipSpace_cons {c : Char} (h : isSpace c = false) (cs : List Char) :
    skipSpace (c :: cs) = c :: cs := List.dropWhile_cons_of_neg (by simp [h])

theorem skipSpace_skipSpace (cs : List Char) : skipSpace (skipSpace cs) = skipSpace cs :=
  List.dropWhile_idempotent isSpace cs

theorem isSpace_of_isDigit {c : Char} (h : c.isDigit = true) : isSpace c = false := by
  cases hspace : isSpace c with
  | false => rfl
  | true =>
    simp only [isSpace, Bool.or_eq_true, beq_iff_eq] at hspace
    rcases hspace with ((rfl | rfl) | rfl) | rfl <;> cases h

/-- White space ends a number. -/
theorem EndsNumber.append {ws cs : List Char} (h : Blank ws) (hcs : EndsNumber cs) :
    EndsNumber (ws ++ cs) := by
  cases ws with
  | nil => exact hcs
  | cons d ws =>
    rintro _ ⟨⟩
    have hd := h d List.mem_cons_self
    simp only [isSpace, Bool.or_eq_true, beq_iff_eq] at hd
    rcases hd with ((rfl | rfl) | rfl) | rfl <;> decide

/-- A closing or separating token ends a number, also behind white space. -/
theorem endsNumber_append_cons {ws : List Char} (h : Blank ws) {c : Char}
    (hc : c.isDigit = false ∧ c ≠ '.' ∧ c ≠ 'e' ∧ c ≠ 'E') (cs : List Char) :
    EndsNumber (ws ++ c :: cs) := by
  refine EndsNumber.append h ?_
  rintro _ ⟨⟩
  exact hc

/-! ## Texts -/

mutual

/-- The texts of a value. -/
inductive HasText : Value → List Char → Prop
  | null : HasText .null ['n', 'u', 'l', 'l']
  | boolTrue : HasText (.bool true) ['t', 'r', 'u', 'e']
  | boolFalse : HasText (.bool false) ['f', 'a', 'l', 's', 'e']
  | number (n : Nat) : HasText (.ofNat n) (Nat.toDigits 10 n)
  | string (t : StringValue) : HasText (.string t) (writeString t)
  | emptyArray {a : List Char} (ha : Blank a) : HasText (.array []) ('[' :: (a ++ [']']))
  | array {vs : List Value} {cs : List Char} (h : HasElements vs cs) :
      HasText (.array vs) ('[' :: cs)
  | emptyObject {a : List Char} (ha : Blank a) :
      HasText (.object []) (openBrace :: (a ++ [closeBrace]))
  | object {ms : List (StringValue × Value)} {cs : List Char} (h : HasMembers ms cs) :
      HasText (.object ms) (openBrace :: cs)

/-- The texts of the elements of an array, at least one, with the closing bracket. -/
inductive HasElements : List Value → List Char → Prop
  | intro {v : Value} {vs : List Value} {a cs ds : List Char} (ha : Blank a) (h : HasText v cs)
      (hmore : HasMoreElements vs ds) : HasElements (v :: vs) (a ++ (cs ++ ds))

/-- The texts of what stands behind an element. -/
inductive HasMoreElements : List Value → List Char → Prop
  | nil {a : List Char} (ha : Blank a) : HasMoreElements [] (a ++ [']'])
  | cons {vs : List Value} {a cs : List Char} (ha : Blank a) (h : HasElements vs cs) :
      HasMoreElements vs (a ++ ',' :: cs)

/-- The texts of the members of an object, at least one, with the closing brace. -/
inductive HasMembers : List (StringValue × Value) → List Char → Prop
  | intro {t : StringValue} {v : Value} {ms : List (StringValue × Value)} {a b c cs ds : List Char}
      (ha : Blank a) (hb : Blank b) (hc : Blank c) (h : HasText v cs)
      (hmore : HasMoreMembers ms ds) :
      HasMembers ((t, v) :: ms) (a ++ (writeString t ++ (b ++ ':' :: (c ++ (cs ++ ds)))))

/-- The texts of what stands behind a member. -/
inductive HasMoreMembers : List (StringValue × Value) → List Char → Prop
  | nil {a : List Char} (ha : Blank a) : HasMoreMembers [] (a ++ [closeBrace])
  | cons {ms : List (StringValue × Value)} {a cs : List Char} (ha : Blank a)
      (h : HasMembers ms cs) : HasMoreMembers ms (a ++ ',' :: cs)

end

section

variable {v : Value} {vs : List Value} {ms : List (StringValue × Value)} {cs : List Char}

/-- A text starts with a character that no bracket closes with and that is no white space. -/
theorem HasText.exists_eq_cons (h : HasText v cs) :
    ∃ c ds, cs = c :: ds ∧ isSpace c = false ∧ c ≠ ']' := by
  cases h with
  | null | boolTrue | boolFalse | emptyArray | array | emptyObject | object =>
    exact ⟨_, _, rfl, rfl, by decide⟩
  | string t =>
    obtain ⟨body, hbody, -⟩ := exists_writeString_eq t
    exact ⟨_, _, hbody, rfl, by decide⟩
  | number n =>
    cases hdigits : Nat.toDigits 10 n with
    | nil => exact absurd hdigits Nat.toDigits_ne_nil
    | cons c ds =>
      have hc := isDigit_of_mem_toDigits (n := n) (hdigits ▸ List.mem_cons_self)
      refine ⟨c, ds, rfl, isSpace_of_isDigit hc, ?_⟩
      rintro rfl
      cases hc

/-- White space in front of a text is passed over. -/
theorem HasText.skipSpace_append (h : HasText v cs) {a : List Char} (ha : Blank a)
    (rest : List Char) : skipSpace (a ++ (cs ++ rest)) = cs ++ rest := by
  obtain ⟨c, ds, rfl, hc, -⟩ := h.exists_eq_cons
  rw [Json.skipSpace_append ha, List.cons_append, skipSpace_cons hc]

theorem HasElements.exists_skipSpace (h : HasElements vs cs) (rest : List Char) :
    ∃ c ds, skipSpace (cs ++ rest) = c :: ds ∧ c ≠ ']' := by
  cases h with
  | intro ha h _ =>
    rw [List.append_assoc, List.append_assoc, h.skipSpace_append ha]
    obtain ⟨c, ds, rfl, -, hc⟩ := h.exists_eq_cons
    exact ⟨c, _, rfl, hc⟩

theorem HasMembers.exists_skipSpace (h : HasMembers ms cs) (rest : List Char) :
    ∃ ds, skipSpace (cs ++ rest) = '"' :: ds := by
  cases h with
  | @intro t _ _ _ _ _ _ _ ha _ _ _ _ =>
    obtain ⟨body, hbody, -⟩ := exists_writeString_eq t
    rw [List.append_assoc, Json.skipSpace_append ha, hbody]
    exact ⟨_, rfl⟩

theorem HasMoreElements.length_pos (h : HasMoreElements vs cs) : 0 < cs.length := by
  cases h with
  | nil | cons => exact List.length_pos_of_ne_nil (by simp)

theorem HasMoreMembers.length_pos (h : HasMoreMembers ms cs) : 0 < cs.length := by
  cases h with
  | nil | cons => exact List.length_pos_of_ne_nil (by simp)

theorem HasElements.length_pos (h : HasElements vs cs) : 0 < cs.length := by
  cases h with
  | intro _ _ hmore =>
    have := hmore.length_pos
    simp only [List.length_append]
    omega

theorem HasMembers.length_pos (h : HasMembers ms cs) : 0 < cs.length := by
  cases h with
  | intro => exact List.length_pos_of_ne_nil (by simp)

theorem HasMoreElements.endsNumber (h : HasMoreElements vs cs) (rest : List Char) :
    EndsNumber (cs ++ rest) := by
  cases h with
  | nil ha | cons ha =>
    rw [List.append_assoc]
    exact endsNumber_append_cons ha (by decide) _

theorem HasMoreMembers.endsNumber (h : HasMoreMembers ms cs) (rest : List Char) :
    EndsNumber (cs ++ rest) := by
  cases h with
  | nil ha | cons ha =>
    rw [List.append_assoc]
    exact endsNumber_append_cons ha (by decide) _

end

/-! ## Reading -/

section

variable (bound : Nat) (cs : List Char)

theorem readValue_skipSpace : readValue bound (skipSpace cs) = readValue bound cs := by
  cases bound with
  | zero => rfl
  | succ bound => rw [readValue, readValue, skipSpace_skipSpace]

theorem readElements_skipSpace : readElements bound (skipSpace cs) = readElements bound cs := by
  cases bound with
  | zero => rfl
  | succ bound => rw [readElements, readElements, readValue_skipSpace]

theorem readMembers_skipSpace : readMembers bound (skipSpace cs) = readMembers bound cs := by
  cases bound with
  | zero => rfl
  | succ bound => rw [readMembers, readMembers, skipSpace_skipSpace]

/-- A digit starts a number and nothing else. -/
theorem readValue_of_isDigit {c : Char} (h : c.isDigit = true) :
    readValue (bound + 1) (c :: cs) = readNumber (c :: cs) := by
  rw [readValue, skipSpace_cons (isSpace_of_isDigit h)]
  split
  case h_7 => rfl
  all_goals
    rename_i heq
    injection heq with hc
    subst hc
    cases h

variable {bound cs}

theorem readValue_emptyArray {rest : List Char} (h : skipSpace cs = ']' :: rest) :
    readValue (bound + 1) ('[' :: cs) = some (.array [], rest) := by
  rw [readValue, skipSpace_cons rfl]
  simp only [h]

theorem readValue_array {c : Char} {rest : List Char} (h : skipSpace cs = c :: rest)
    (hc : c ≠ ']') :
    readValue (bound + 1) ('[' :: cs) = (readElements bound cs).map fun r => (.array r.1, r.2) := by
  rw [readValue, skipSpace_cons rfl, ← readElements_skipSpace bound cs]
  simp only [h]
  split
  · rename_i heq
    exact absurd (List.cons.inj heq).1 hc
  · rfl

theorem readValue_emptyObject {rest : List Char} (h : skipSpace cs = closeBrace :: rest) :
    readValue (bound + 1) (openBrace :: cs) = some (.object [], rest) := by
  rw [readValue, skipSpace_cons rfl]
  simp only [openBrace, h, closeBrace]

theorem readValue_object {rest : List Char} (h : skipSpace cs = '"' :: rest) :
    readValue (bound + 1) (openBrace :: cs) =
      (readMembers bound cs).map fun r => (.object r.1, r.2) := by
  rw [readValue, skipSpace_cons rfl, ← readMembers_skipSpace bound cs]
  simp only [openBrace, h]
  rfl

end

/-- What a bound on the calls is enough for: every text with at most so many characters. -/
structure ReadsTexts (bound : Nat) : Prop where
  value {v : Value} {a cs rest : List Char} : HasText v cs → cs.length ≤ bound → Blank a →
    EndsNumber rest → readValue bound (a ++ (cs ++ rest)) = some (v, rest)
  elements {vs : List Value} {cs rest : List Char} : HasElements vs cs → cs.length ≤ bound →
    readElements bound (cs ++ rest) = some (vs, rest)
  members {ms : List (StringValue × Value)} {cs rest : List Char} : HasMembers ms cs →
    cs.length ≤ bound → readMembers bound (cs ++ rest) = some (ms, rest)

namespace ReadsTexts

variable {bound : Nat} {v : Value} {vs : List Value} {ms : List (StringValue × Value)}
variable {a cs rest : List Char}

theorem readValue_succ (ih : ReadsTexts bound) (h : HasText v cs) (hlen : cs.length ≤ bound + 1)
    (ha : Blank a) (hrest : EndsNumber rest) :
    readValue (bound + 1) (a ++ (cs ++ rest)) = some (v, rest) := by
  rw [← readValue_skipSpace, h.skipSpace_append ha]
  cases h with
  | null | boolTrue | boolFalse => rfl
  | number n =>
    have hread := readNumber_toDigits hrest n
    cases hdigits : Nat.toDigits 10 n with
    | nil => exact absurd hdigits Nat.toDigits_ne_nil
    | cons c ds =>
      rw [hdigits] at hread
      exact (readValue_of_isDigit bound _
        (isDigit_of_mem_toDigits (hdigits ▸ List.mem_cons_self))).trans hread
  | string t =>
    obtain ⟨body, hbody, hread⟩ := exists_writeString_eq t
    rw [hbody]
    exact congrArg (Option.map _) (hread rest)
  | emptyArray hb =>
    rw [List.cons_append, readValue_emptyArray]
    rw [List.append_assoc, skipSpace_append hb]
    rfl
  | array hs =>
    obtain ⟨c, ds, hskip, hc⟩ := hs.exists_skipSpace rest
    rw [List.cons_append, readValue_array hskip hc, ih.elements hs (Nat.le_of_succ_le_succ hlen)]
    rfl
  | emptyObject hb =>
    rw [List.cons_append, readValue_emptyObject]
    rw [List.append_assoc, skipSpace_append hb]
    rfl
  | object hs =>
    obtain ⟨ds, hskip⟩ := hs.exists_skipSpace rest
    rw [List.cons_append, readValue_object hskip, ih.members hs (Nat.le_of_succ_le_succ hlen)]
    rfl

theorem readElements_succ (ih : ReadsTexts bound) (h : HasElements vs cs)
    (hlen : cs.length ≤ bound + 1) : readElements (bound + 1) (cs ++ rest) = some (vs, rest) := by
  cases h with
  | @intro v vs a cs ds ha h hmore =>
    simp only [List.length_append] at hlen
    have hpos := hmore.length_pos
    rw [readElements, List.append_assoc, List.append_assoc,
      ih.value h (by omega) ha (hmore.endsNumber rest)]
    simp only [Option.bind_eq_bind, Option.bind_some]
    cases hmore with
    | nil hb =>
      rw [List.append_assoc, skipSpace_append hb]
      rfl
    | @cons vs b cs hb h =>
      simp only [List.length_append, List.length_cons] at hlen
      rw [List.append_assoc, skipSpace_append hb]
      exact congrArg (Option.map _) (ih.elements h (by omega))

theorem readMembers_succ (ih : ReadsTexts bound) (h : HasMembers ms cs)
    (hlen : cs.length ≤ bound + 1) : readMembers (bound + 1) (cs ++ rest) = some (ms, rest) := by
  cases h with
  | @intro t v ms a b c cs ds ha hb hc h hmore =>
    obtain ⟨body, hbody, hread⟩ := exists_writeString_eq t
    simp only [List.length_append, List.length_cons] at hlen
    have hpos := hmore.length_pos
    have hquote : skipSpace (a ++ (writeString t ++ (b ++ ':' :: (c ++ (cs ++ ds)))) ++ rest) =
        '"' :: (body ++ (b ++ ':' :: (c ++ (cs ++ (ds ++ rest))))) := by
      rw [List.append_assoc, skipSpace_append ha, hbody]
      simp only [List.cons_append, List.append_assoc]
      rfl
    have hcolon : skipSpace (b ++ ':' :: (c ++ (cs ++ (ds ++ rest)))) =
        ':' :: (c ++ (cs ++ (ds ++ rest))) := by
      rw [skipSpace_append hb]
      rfl
    rw [readMembers, hquote]
    have hlength : cs.length ≤ bound := by omega
    simp only [hread, hcolon, ih.value h hlength hc (hmore.endsNumber rest), Option.bind_eq_bind,
      Option.bind_some]
    cases hmore with
    | nil hd =>
      rw [List.append_assoc, skipSpace_append hd]
      rfl
    | @cons ms d cs hd h =>
      simp only [List.length_append, List.length_cons] at hlen
      rw [List.append_assoc, skipSpace_append hd]
      exact congrArg (Option.map _) (ih.members h (by omega))

/-- **As many calls as a text has characters are enough.** -/
theorem of_bound (bound : Nat) : ReadsTexts bound := by
  induction bound with
  | zero =>
    refine ⟨fun h hlen => ?_, fun h hlen => ?_, fun h hlen => ?_⟩
    · obtain ⟨c, ds, rfl, -⟩ := h.exists_eq_cons
      cases hlen
    · exact absurd hlen (Nat.not_le.2 h.length_pos)
    · exact absurd hlen (Nat.not_le.2 h.length_pos)
  | succ bound ih => exact ⟨ih.readValue_succ, ih.readElements_succ, ih.readMembers_succ⟩

end ReadsTexts

/-- **The text of a value, between white space, is read as the value.** -/
theorem parse?_of_hasText {v : Value} {a b cs : List Char} (h : HasText v cs) (ha : Blank a)
    (hb : Blank b) : parse? (String.ofList (a ++ (cs ++ b))) = some v := by
  have hlen : cs.length ≤ 2 * (a ++ (cs ++ b)).length + 2 := by
    simp only [List.length_append]
    omega
  have hend : EndsNumber b := by simpa using endsNumber_nil.append hb
  have hskip : skipSpace b = [] := List.dropWhile_eq_nil_iff.2 hb
  rw [parse?, String.toList_ofList, (ReadsTexts.of_bound _).value h hlen ha hend]
  simp only [Option.bind_eq_bind, Option.bind_some, hskip, if_true]

end CoinAddress.Json
