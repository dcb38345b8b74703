import CoinAddress.Bech32.Detection
import CoinAddress.Proofs.Bech32.Encoded

/-!
# Which texts are read, and why others are not

A text obeys the rules on its characters (`Legible`) and on its parts (`Shaped`), and its residue is
the constant of a variant; or there is a first rule that it breaks, and `Breaks` gives the error.
Every text falls under one of the two (`shaped_or_breaks`), and the order of the rules is that of the
constructors of `Breaks`.

* `decode_of_breaks`: a broken rule is reported before the rules behind it are looked at.
* `accepts_lowerAscii_iff`: for a text that obeys all rules on its shape, a reader that knows one
  variant alone has no reason left to refuse it but the residue.
* `decode_lowerAscii_of_isOneCase`: a text and its form in lower case are read alike, errors
  included.
* `decode_outcome` puts them together.
-/

namespace CoinAddress.Bech32

open Text

variable {s : String} {hrp rest : List Char} {ds : List Symbol} {e : Error} {c : Content}

/-! ## The rules -/

/-- A character that may stand in a text. -/
def IsVisible (c : Char) : Prop := 33 ≤ c.toNat ∧ c.toNat ≤ 126

/-- Whether a text has letters of both cases. -/
def MixesCase (s : String) : Prop :=
  (∃ c ∈ s.toList, c.isLower = true) ∧ ∃ c ∈ s.toList, c.isUpper = true

/-- The rules on the characters of a text. -/
structure Legible (s : String) : Prop where
  length_le : byteLength s.toList ≤ 90
  visible : ∀ c ∈ s.toList, IsVisible c
  oneCase : ¬ MixesCase s

/-- The parts of a text on either side of its last separator. -/
def Parts (s : String) (hrp rest : List Char) : Prop :=
  s.toList = hrp ++ '1' :: rest ∧ '1' ∉ rest

/-- All rules in front of the checksum: a legible text has a human-readable part and, behind the
last separator, at least six symbols in letters of either case. -/
structure Shaped (s : String) (hrp : List Char) (ds : List Symbol) : Prop where
  legible : Legible s
  parts : ∃ rest, Parts s hrp rest ∧ rest.map Char.toLower = ds.map Symbol.char
  hrp_ne_nil : hrp ≠ []
  six_le : 6 ≤ ds.length

/-- The first rule that a text breaks, as the error that reports it. -/
inductive Breaks (s : String) : Error → Prop
  | length (h : 90 < byteLength s.toList) :
      Breaks s (.malformed (.tooLong (byteLength s.toList)))
  | character (hlength : byteLength s.toList ≤ 90) {before behind : List Char} {c : Char}
      (hs : s.toList = before ++ c :: behind) (hbefore : ∀ x ∈ before, IsVisible x)
      (h : ¬ IsVisible c) : Breaks s (.invalidCharacter c before.length)
  | mixedCase (hlength : byteLength s.toList ≤ 90) (hvisible : ∀ c ∈ s.toList, IsVisible c)
      (h : MixesCase s) : Breaks s .mixedCase
  | separator (hlegible : Legible s) (h : '1' ∉ s.toList) : Breaks s (.malformed .noSeparator)
  | hrp (hlegible : Legible s) {rest : List Char} (h : Parts s [] rest) :
      Breaks s (.invalidHrp .empty)
  | checksumLength (hlegible : Legible s) {hrp rest : List Char} (hparts : Parts s hrp rest)
      (hhrp : hrp ≠ []) (h : rest.length < 6) : Breaks s (.malformed .noChecksum)
  | symbol (hlegible : Legible s) {hrp before behind : List Char} {c : Char}
      (hparts : Parts s hrp (before ++ c :: behind)) (hhrp : hrp ≠ [])
      (hlength : 6 ≤ (before ++ c :: behind).length)
      (hbefore : ∀ x ∈ before, x.toLower ∈ alphabet) (h : c.toLower ∉ alphabet) :
      Breaks s (.invalidCharacter c.toLower (hrp.length + 1 + before.length))
  | checksum {hrp : List Char} {ds : List Symbol} (hshaped : Shaped s hrp ds)
      (h : residue (hrp.map Char.toLower) ds ≠ 1)
      (h' : residue (hrp.map Char.toLower) ds ≠ 0x2bc830a3) : Breaks s .checksumMismatch

/-! ## The rules as they are checked -/

theorem isGraphic_iff {c : Char} : isGraphic c = true ↔ IsVisible c := by
  rw [isGraphic, Bool.and_eq_true, decide_eq_true_eq, decide_eq_true_eq, IsVisible]

theorem isOneCase_iff_not_mixesCase : isOneCase s = true ↔ ¬ MixesCase s := by
  rw [isOneCase, Bool.not_eq_true', ← Bool.not_eq_true, Bool.and_eq_true, List.any_eq_true,
    List.any_eq_true, MixesCase]

theorem splitAtLast?_of_parts (h : Parts s hrp rest) :
    splitAtLast? separator s.toList = some (hrp, rest) :=
  splitAtLast?_eq_some_iff.2 h

theorem decode_of_legible (h : Legible s) :
    decode s = match splitAtLast? separator (s.toList.map Char.toLower) with
      | none => .error (.malformed .noSeparator)
      | some (hrp, rest) => decodeParts hrp rest :=
  decode_eq_split h.length_le (fun x hx => isGraphic_iff.2 (h.visible x hx))
    (isOneCase_iff_not_mixesCase.2 h.oneCase)

/-- **A legible text is read by its parts in lower case.** -/
theorem decode_of_parts (hs : Legible s) (h : Parts s hrp rest) :
    decode s = decodeParts (hrp.map Char.toLower) (rest.map Char.toLower) := by
  rw [decode_of_legible hs, splitAtLast?_map_toLower (by decide), splitAtLast?_of_parts h]
  rfl

/-- A text of the right shape is read by its residue. -/
theorem decode_of_shaped (h : Shaped s hrp ds) :
    decode s = match Variant.ofResidue? (residue (hrp.map Char.toLower) ds) with
      | none => .error .checksumMismatch
      | some variant =>
        .ok ⟨String.ofList (hrp.map Char.toLower),
          (ds.take (ds.length - checksumLength)).map Symbol.byte, variant⟩ := by
  obtain ⟨hlegible, ⟨rest, hparts, hrest⟩, hhrp, hlen⟩ := h
  rw [decode_of_parts hlegible hparts, hrest]
  exact decodeParts_map_char (by simpa using hhrp) hlen

/-! ## Broken rules -/

/-- Every text has the right shape or breaks a first rule. -/
theorem shaped_or_breaks (s : String) : (∃ hrp ds, Shaped s hrp ds) ∨ ∃ e, Breaks s e := by
  by_cases hlength : byteLength s.toList ≤ 90
  · by_cases hvisible : ∀ c ∈ s.toList, IsVisible c
    · by_cases hcase : MixesCase s
      · exact Or.inr ⟨_, .mixedCase hlength hvisible hcase⟩
      · have hlegible : Legible s := ⟨hlength, hvisible, hcase⟩
        cases hsplit : splitAtLast? separator s.toList with
        | none => exact Or.inr ⟨_, .separator hlegible (splitAtLast?_eq_none_iff.1 hsplit)⟩
        | some parts =>
          obtain ⟨hrp, rest⟩ := parts
          have hparts : Parts s hrp rest := splitAtLast?_eq_some_iff.1 hsplit
          by_cases hhrp : hrp = []
          · exact Or.inr ⟨_, .hrp hlegible (hhrp ▸ hparts)⟩
          · by_cases hsix : 6 ≤ rest.length
            · by_cases hsymbols : ∀ x ∈ rest, x.toLower ∈ alphabet
              · obtain ⟨ds, hds⟩ := forall_mem_alphabet_iff.1 (List.forall_mem_map.2 hsymbols)
                have hlen : rest.length = ds.length := by simpa using congrArg List.length hds
                exact Or.inl ⟨hrp, ds, hlegible, ⟨rest, hparts, hds⟩, hhrp, hlen ▸ hsix⟩
              · obtain ⟨before, c, behind, rfl, hbefore, hc⟩ := exists_first_not hsymbols
                exact Or.inr ⟨_, .symbol hlegible hparts hhrp hsix hbefore hc⟩
            · exact Or.inr ⟨_, .checksumLength hlegible hparts hhrp (Nat.not_le.1 hsix)⟩
    · obtain ⟨before, c, behind, hs, hbefore, hc⟩ := exists_first_not hvisible
      exact Or.inr ⟨_, .character hlength hs hbefore hc⟩
  · exact Or.inr ⟨_, .length (Nat.not_le.1 hlength)⟩

/-- **A broken rule is reported**, whatever rules behind it are broken too. -/
theorem decode_of_breaks (h : Breaks s e) : decode s = .error e := by
  cases h with
  | length h =>
    simp only [decode]
    exact if_pos h
  | @character hlength before behind c hs hbefore h =>
    have hle : ¬ maxLength < byteLength s.toList := Nat.not_lt.2 hlength
    have hfind : findWithIndex? (fun c => !isGraphic c) s.toList = some (c, before.length) := by
      rw [hs]
      refine findWithIndex?_append (fun x hx => ?_) ?_ behind
      · rw [isGraphic_iff.2 (hbefore x hx), Bool.not_true]
      · rw [Bool.eq_false_iff.2 fun hc => h (isGraphic_iff.1 hc), Bool.not_false]
    simp only [decode]
    rw [if_neg hle, hfind]
  | mixedCase hlength hvisible h =>
    have hle : ¬ maxLength < byteLength s.toList := Nat.not_lt.2 hlength
    have hfind : findWithIndex? (fun c => !isGraphic c) s.toList = none :=
      findWithIndex?_eq_none_iff.2 fun x hx => by
        rw [isGraphic_iff.2 (hvisible x hx), Bool.not_true]
    have hcase : (s.toList.any Char.isLower && s.toList.any Char.isUpper) = true := by
      rwa [Bool.and_eq_true, List.any_eq_true, List.any_eq_true]
    simp only [decode]
    rw [if_neg hle, hfind]
    exact if_pos hcase
  | separator hlegible h =>
    have hsplit : splitAtLast? separator s.toList = none := splitAtLast?_eq_none_iff.2 h
    rw [decode_of_legible hlegible, splitAtLast?_map_toLower (by decide), hsplit]
    rfl
  | hrp hlegible h =>
    rw [decode_of_parts hlegible h]
    exact if_pos rfl
  | checksumLength hlegible hparts hhrp h =>
    rw [decode_of_parts hlegible hparts, decodeParts, if_neg (by simpa using hhrp)]
    exact if_pos (by rwa [List.length_map])
  | symbol hlegible hparts hhrp hlength hbefore h =>
    rw [decode_of_parts hlegible hparts, decodeParts, if_neg (by simpa using hhrp),
      if_neg (by rwa [List.length_map, Nat.not_lt]), List.map_append, List.map_cons]
    refine (bind_of_error (symbolsOfChars_append ?_ h _ _) _).trans ?_
    · exact List.forall_mem_map.2 hbefore
    · rw [List.length_map, List.length_map]
  | checksum hshaped h h' =>
    rw [decode_of_shaped hshaped, Variant.ofResidue?, Variant.constant, Variant.constant, if_neg h,
      if_neg h']

theorem decode_eq_error_iff : decode s = .error e ↔ Breaks s e := by
  refine ⟨fun h => ?_, decode_of_breaks⟩
  rcases shaped_or_breaks s with ⟨hrp, ds, hshaped⟩ | ⟨e', hbreaks⟩
  · rw [decode_of_shaped hshaped] at h
    split at h
    · next hresidue =>
      cases h
      have hne : ∀ v : Variant, residue (hrp.map Char.toLower) ds ≠ v.constant := fun v hv => by
        rw [Variant.ofResidue?_eq_some_iff.2 hv] at hresidue
        cases hresidue
      exact .checksum hshaped (hne .bech32) (hne .bech32m)
    · cases h
  · rw [decode_of_breaks hbreaks] at h
    cases h
    exact hbreaks

/-- **A text is read if it has the right shape and the residue of a variant.** -/
theorem decode_eq_ok_iff_shaped : decode s = .ok c ↔ ∃ hrp ds, Shaped s hrp ds ∧
    residue (hrp.map Char.toLower) ds = c.variant.constant ∧
      c.hrp = String.ofList (hrp.map Char.toLower) ∧
        c.data = (ds.take (ds.length - 6)).map Symbol.byte := by
  constructor
  · intro h
    rcases shaped_or_breaks s with ⟨hrp, ds, hshaped⟩ | ⟨e, hbreaks⟩
    · rw [decode_of_shaped hshaped] at h
      split at h
      · cases h
      · next variant hresidue =>
        cases h
        exact ⟨hrp, ds, hshaped, Variant.ofResidue?_eq_some_iff.1 hresidue, rfl, rfl⟩
    · rw [decode_of_breaks hbreaks] at h
      cases h
  · obtain ⟨text, data, variant⟩ := c
    rintro ⟨hrp, ds, hshaped, hresidue, rfl, rfl⟩
    rw [decode_of_shaped hshaped, Variant.ofResidue?_eq_some_iff.2 hresidue]
    rfl

/-! ## Either case -/

/-- **A text in one case is read like its form in lower case**: what is wrong with one of them is
wrong with the other, at the same place. -/
theorem decode_lowerAscii_of_isOneCase (h : isOneCase s = true) :
    decode (lowerAscii s) = decode s := by
  have hcase : (s.toList.any Char.isLower && s.toList.any Char.isUpper) = false := by
    rwa [isOneCase, Bool.not_eq_true'] at h
  simp only [decode, toList_lowerAscii, byteLength_map_toLower, findWithIndex?_map_toLower,
    any_isUpper_map_toLower, Bool.and_false, hcase, List.map_map, Function.comp_def,
    toLower_eq_self (isUpper_toLower _)]

theorem decode_upperAscii (s : String) : decode (upperAscii s) = decode (lowerAscii s) := by
  rw [← decode_lowerAscii_of_isOneCase (isOneCase_upperAscii s), lowerAscii_upperAscii]

/-! ## A reader of one variant -/

/-- The human-readable part of a text of the right shape keeps to its own limits. -/
theorem Shaped.byteLength_hrp (h : Shaped s hrp ds) :
    0 < byteLength hrp ∧ byteLength hrp ≤ Hrp.maxLength := by
  obtain ⟨hlegible, ⟨rest, ⟨hs, -⟩, hrest⟩, hhrp, hsix⟩ := h
  have hascii : ∀ x ∈ s.toList, x.toNat < 128 := fun x hx =>
    Nat.lt_of_le_of_lt (hlegible.visible x hx).2 (by decide)
  have hlen := hlegible.length_le
  have hsymbols : rest.length = ds.length := by simpa using congrArg List.length hrest
  have hpos := List.length_pos_iff.2 hhrp
  rw [byteLength_of_lt hascii, hs, List.length_append, List.length_cons] at hlen
  rw [byteLength_of_lt fun x hx => hascii x (hs ▸ List.mem_append_left _ hx), Hrp.maxLength]
  omega

/-- **A reader that knows one variant alone finds no other fault than the residue** in the lower-case
form of a text of the right shape. -/
theorem accepts_lowerAscii_iff (h : Shaped s hrp ds) (variant : Variant) :
    variant.accepts (lowerAscii s) = true ↔
      residue (hrp.map Char.toLower) ds = variant.constant := by
  obtain ⟨hpos, hmax⟩ := h.byteLength_hrp
  obtain ⟨hlegible, ⟨rest, hparts, hrest⟩, hhrp, hsix⟩ := h
  have hsplit : splitAtLast? separator (lowerAscii s).toList =
      some (hrp.map Char.toLower, rest.map Char.toLower) := by
    rw [toList_lowerAscii, splitAtLast?_map_toLower (by decide), splitAtLast?_of_parts hparts]
    rfl
  have hcase : ((lowerAscii s).toList.any Char.isLower && (lowerAscii s).toList.any Char.isUpper) =
      false := by
    rw [toList_lowerAscii, any_isUpper_map_toLower, Bool.and_false]
  have hvisible : (hrp.map Char.toLower).all isGraphic = true := by
    refine List.all_eq_true.2 (List.forall_mem_map.2 fun x hx => ?_)
    rw [isGraphic_toLower, isGraphic_iff]
    exact hlegible.visible x (hparts.1 ▸ List.mem_append_left _ hx)
  have hcode : byteLength (lowerAscii s).toList ≤ codeLength := by
    rw [toList_lowerAscii, byteLength_map_toLower]
    exact hlegible.length_le.trans (by decide)
  have hsum : checksumLength ≤ (rest.map Char.toLower).length := by
    rw [hrest, List.length_map]
    exact hsix
  have hchars : symbolsOfChars 0 (rest.map Char.toLower) = .ok ds :=
    symbolsOfChars_eq_ok_iff.2 hrest
  rw [← byteLength_map_toLower] at hpos hmax
  simp only [Variant.accepts, hsplit, hcase, hpos, hmax, hvisible, hcode, hsum, hchars, decide_true,
    Bool.not_false, Bool.and_self, Bool.true_and, map_toLower_map_toLower, beq_iff_eq]

/-- To ask for the two variants in turn is to look at the residue. -/
theorem detect?_lowerAscii (h : Shaped s hrp ds) :
    Variant.detect? (lowerAscii s) = Variant.ofResidue? (residue (hrp.map Char.toLower) ds) := by
  simp only [Variant.detect?, Variant.ofResidue?, accepts_lowerAscii_iff h]

/-! ## All texts -/

/-- **A text is read if and only if it has the right shape and the residue of a variant, and refused
with the error of the first rule that it breaks.** So a checksum is found wrong in texts of the
right shape only, letters of both cases are never accepted, and capitals are read like small letters.
To find the variant, a reader that knows one variant alone may be asked for each. -/
theorem decode_outcome (s : String) :
    ((∃ c, decode s = .ok c) ↔ ∃ hrp ds, Shaped s hrp ds ∧
      (residue (hrp.map Char.toLower) ds = 1 ∨
        residue (hrp.map Char.toLower) ds = 0x2bc830a3)) ∧
    (∀ c, decode s = .ok c ↔ ∃ hrp ds, Shaped s hrp ds ∧
      residue (hrp.map Char.toLower) ds = c.variant.constant ∧
        c.hrp = String.ofList (hrp.map Char.toLower) ∧
          c.data = (ds.take (ds.length - 6)).map Symbol.byte) ∧
    (∀ e, decode s = .error e ↔ Breaks s e) ∧
    (decode s = .error .checksumMismatch → ∃ hrp ds, Shaped s hrp ds) ∧
    (MixesCase s → ∀ c, decode s ≠ .ok c) ∧
    decode (upperAscii s) = decode (lowerAscii s) ∧
    ∀ hrp ds, Shaped s hrp ds →
      (∀ variant : Variant, variant.accepts (lowerAscii s) = true ↔
        residue (hrp.map Char.toLower) ds = variant.constant) ∧
      decode s = match Variant.detect? (lowerAscii s) with
        | none => .error .checksumMismatch
        | some variant => .ok ⟨String.ofList (hrp.map Char.toLower),
            (ds.take (ds.length - 6)).map Symbol.byte, variant⟩ := by
  refine ⟨⟨?_, ?_⟩, fun c => decode_eq_ok_iff_shaped, fun e => decode_eq_error_iff, fun h => ?_,
    fun hmixed c h => ?_, decode_upperAscii s, fun hrp ds hshaped => ?_⟩
  · rintro ⟨c, h⟩
    obtain ⟨hrp, ds, hshaped, hresidue, -⟩ := decode_eq_ok_iff_shaped.1 h
    refine ⟨hrp, ds, hshaped, ?_⟩
    cases hvariant : c.variant with
    | bech32 => exact Or.inl (hresidue.trans (congrArg Variant.constant hvariant))
    | bech32m => exact Or.inr (hresidue.trans (congrArg Variant.constant hvariant))
  · rintro ⟨hrp, ds, hshaped, hresidue⟩
    obtain ⟨variant, hvariant⟩ : ∃ variant : Variant,
        residue (hrp.map Char.toLower) ds = variant.constant :=
      hresidue.elim (fun h => ⟨.bech32, h⟩) fun h => ⟨.bech32m, h⟩
    exact ⟨⟨_, _, variant⟩, decode_eq_ok_iff_shaped.2 ⟨hrp, ds, hshaped, hvariant, rfl, rfl⟩⟩
  · cases decode_eq_error_iff.1 h with
    | checksum hshaped => exact ⟨_, _, hshaped⟩
  · obtain ⟨hrp, ds, hshaped, -⟩ := decode_eq_ok_iff_shaped.1 h
    exact hshaped.legible.oneCase hmixed
  · refine ⟨accepts_lowerAscii_iff hshaped, ?_⟩
    rw [detect?_lowerAscii hshaped]
    exact decode_of_shaped hshaped

/-- Letters of both cases are reported before the place of the separator is looked at, and a
character outside the alphabet is reported in lower case. -/
example : decode "1aB" = .error .mixedCase ∧ decode "1QQQQQQ" = .error (.invalidHrp .empty) ∧
    decode "A1QQQBQQ" = .error (.invalidCharacter 'b' 5) := by
  decide +kernel

end CoinAddress.Bech32
