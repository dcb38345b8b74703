import Mathlib.Data.List.GetD
import CoinAddress.Bech32.Encoded
import CoinAddress.Proofs.Bech32.Hrp
import CoinAddress.Proofs.Bech32.Register

/-!
# Bech32 texts stand for their content, one for one

Reading is the inverse of writing: a text reads as a content if and only if it is all in one case
and its lower-case form is what `encode` writes for that content (`decode_eq_ok_iff_encode`). Both
directions rest on the checksum, of which there is exactly one for each variant.

* `encode_succeeds_and_reads_back` says which contents can be written, and that they read back.
* `decode_canonical` says that what is read would be written the same way, up to case.
-/

namespace CoinAddress.Bech32

open Text

/-! ## Symbols -/

theorem Symbol.isChar_char_and_ne_separator (d : Symbol) :
    Hrp.IsChar d.char ∧ d.char ≠ separator := by
  have all : ∀ m ∈ List.range 32, Hrp.IsChar (Symbol.char (BitVec.ofNat 5 m)) ∧
      Symbol.char (BitVec.ofNat 5 m) ≠ separator := by
    unfold Hrp.IsChar
    decide
  have h := all d.toNat (List.mem_range.2 d.isLt)
  rwa [BitVec.ofNat_toNat, BitVec.setWidth_eq] at h

theorem Symbol.isChar_char (d : Symbol) : Hrp.IsChar d.char := d.isChar_char_and_ne_separator.1

theorem Symbol.char_ne_separator (d : Symbol) : d.char ≠ separator :=
  d.isChar_char_and_ne_separator.2

theorem Symbol.char_of_ofChar? {c : Char} {d : Symbol} (h : Symbol.ofChar? c = some d) :
    d.char = c := by
  obtain ⟨n, hn, rfl⟩ := Option.map_eq_some_iff.1 h
  obtain ⟨hlt, hc, -⟩ := List.idxOf?_eq_some_iff.1 hn
  have hmod : (BitVec.ofNat 5 n).toNat = n := Nat.mod_eq_of_lt hlt
  rw [Symbol.char, hmod, List.getD_eq_getElem _ _ hlt, hc]

theorem mem_alphabet_iff {c : Char} : c ∈ alphabet ↔ ∃ d, Symbol.char d = c := by
  have all : alphabet = (List.range 32).map fun m => Symbol.char (BitVec.ofNat 5 m) := by decide
  constructor
  · intro h
    rw [all] at h
    obtain ⟨m, -, hm⟩ := List.mem_map.1 h
    exact ⟨_, hm⟩
  · rintro ⟨d, rfl⟩
    rw [all]
    refine List.mem_map.2 ⟨d.toNat, List.mem_range.2 d.isLt, ?_⟩
    rw [BitVec.ofNat_toNat, BitVec.setWidth_eq]

/-- The characters of symbols are those of the alphabet. -/
theorem forall_mem_alphabet_iff {cs : List Char} :
    (∀ x ∈ cs, x ∈ alphabet) ↔ ∃ ds : List Symbol, cs = ds.map Symbol.char := by
  constructor
  · intro h
    induction cs with
    | nil => exact ⟨[], rfl⟩
    | cons x cs ih =>
      obtain ⟨hx, hcs⟩ := List.forall_mem_cons.1 h
      obtain ⟨d, rfl⟩ := mem_alphabet_iff.1 hx
      obtain ⟨ds, rfl⟩ := ih hcs
      exact ⟨d :: ds, rfl⟩
  · rintro ⟨ds, rfl⟩ x hx
    obtain ⟨d, -, rfl⟩ := List.mem_map.1 hx
    exact mem_alphabet_iff.2 ⟨d, rfl⟩

theorem Symbol.ofChar?_eq_none_iff {c : Char} : Symbol.ofChar? c = none ↔ c ∉ alphabet := by
  rw [Symbol.ofChar?, Option.map_eq_none_iff, List.idxOf?_eq_none_iff]

theorem Symbol.toNat_byte (d : Symbol) : d.byte.toNat = d.toNat :=
  UInt8.toNat_ofNat_of_lt' (Nat.lt_trans d.isLt (by decide))

theorem Symbol.ofByte?_eq_some_iff {b : UInt8} {d : Symbol} :
    Symbol.ofByte? b = some d ↔ b = d.byte := by
  rw [Symbol.ofByte?]
  constructor
  · intro h
    split at h
    · next hb =>
      cases h
      rw [Symbol.byte, BitVec.toNat_ofNat, Nat.mod_eq_of_lt hb, UInt8.ofNat_toNat]
    · cases h
  · rintro rfl
    rw [d.toNat_byte, if_pos d.isLt, BitVec.ofNat_toNat, BitVec.setWidth_eq]

theorem symbolsOfBytes_eq_ok_iff {bs : Bytes} {ds : List Symbol} :
    symbolsOfBytes bs = .ok ds ↔ bs = ds.map Symbol.byte := by
  induction bs generalizing ds with
  | nil => rw [symbolsOfBytes, Except.ok.injEq, List.nil_eq, List.nil_eq, List.map_eq_nil_iff]
  | cons b bs ih =>
    rw [symbolsOfBytes]
    constructor
    · intro h
      split at h
      · cases h
      · next d hd =>
        obtain ⟨es, hes, rfl⟩ := map_eq_ok.1 h
        rw [List.map_cons, ← ih.1 hes, ← Symbol.ofByte?_eq_some_iff.1 hd]
    · intro h
      obtain ⟨d, es, rfl, hb, hbs⟩ := List.map_eq_cons_iff.1 h.symm
      rw [Symbol.ofByte?_eq_some_iff.2 hb.symm]
      exact map_eq_ok.2 ⟨es, ih.2 hbs.symm, rfl⟩

/-- The bytes that are symbols are those below 32. -/
theorem exists_map_byte_iff {bs : Bytes} :
    (∃ ds : List Symbol, bs = ds.map Symbol.byte) ↔ ∀ b ∈ bs, b.toNat < 32 := by
  constructor
  · rintro ⟨ds, rfl⟩ b hb
    obtain ⟨d, -, rfl⟩ := List.mem_map.1 hb
    rw [d.toNat_byte]
    exact d.isLt
  · intro h
    refine ⟨bs.map fun b => BitVec.ofNat 5 b.toNat, ?_⟩
    rw [List.map_map]
    refine ((List.map_congr_left fun b hb => ?_).trans (List.map_id bs)).symm
    exact (Symbol.ofByte?_eq_some_iff.1 (if_pos (h b hb))).symm

theorem symbolsOfChars_eq_ok_iff {index : Nat} {cs : List Char} {ds : List Symbol} :
    symbolsOfChars index cs = .ok ds ↔ cs = ds.map Symbol.char := by
  induction cs generalizing index ds with
  | nil => rw [symbolsOfChars, Except.ok.injEq, List.nil_eq, List.nil_eq, List.map_eq_nil_iff]
  | cons c cs ih =>
    rw [symbolsOfChars]
    constructor
    · intro h
      split at h
      · cases h
      · next d hd =>
        obtain ⟨es, hes, rfl⟩ := map_eq_ok.1 h
        rw [List.map_cons, ← ih.1 hes, Symbol.char_of_ofChar? hd]
    · intro h
      obtain ⟨d, es, rfl, rfl, hcs⟩ := List.map_eq_cons_iff.1 h.symm
      rw [Symbol.ofChar?_char]
      exact map_eq_ok.2 ⟨es, ih.2 hcs.symm, rfl⟩

/-- The first character outside the alphabet is reported with its place. -/
theorem symbolsOfChars_append {before : List Char} {c : Char} (hbefore : ∀ x ∈ before, x ∈ alphabet)
    (hc : c ∉ alphabet) (index : Nat) (behind : List Char) :
    symbolsOfChars index (before ++ c :: behind) =
      .error (.invalidCharacter c (index + before.length)) := by
  induction before generalizing index with
  | nil =>
    rw [List.nil_append, symbolsOfChars, Symbol.ofChar?_eq_none_iff.2 hc]
    rfl
  | cons x before ih =>
    obtain ⟨hx, hrest⟩ := List.forall_mem_cons.1 hbefore
    obtain ⟨d, rfl⟩ := mem_alphabet_iff.1 hx
    rw [List.cons_append, symbolsOfChars, Symbol.ofChar?_char]
    simp only [ih hrest, List.length_cons, Nat.add_assoc, Nat.add_comm 1]
    rfl

/-! ## Writing -/

theorem encode_eq_ok_iff {c : Content} {s : String} : encode c = .ok s ↔
    Hrp.validate c.hrp = .ok () ∧
      byteLength c.hrp.toList + 1 + c.data.length + checksumLength ≤ maxLength ∧
        ∃ ds, c.data = ds.map Symbol.byte ∧ s = String.ofList (write c.variant c.hrp.toList ds) := by
  simp only [encode, bind_eq_ok]
  constructor
  · rintro ⟨⟨⟩, hvalid, h⟩
    split at h
    · cases h
    · next hlen =>
      obtain ⟨ds, hds, h⟩ := bind_eq_ok.1 h
      cases h
      exact ⟨hvalid, Nat.not_lt.1 hlen, ds, symbolsOfBytes_eq_ok_iff.1 hds, rfl⟩
  · rintro ⟨hvalid, hlen, ds, hds, rfl⟩
    refine ⟨(), hvalid, ?_⟩
    rw [if_neg (Nat.not_lt.2 hlen)]
    exact bind_eq_ok.2 ⟨ds, symbolsOfBytes_eq_ok_iff.2 hds, rfl⟩

/-- Values of five bits are written under every human-readable part that leaves room for them. -/
theorem exists_encode_of_lt {c : Content} (hvalid : Hrp.validate c.hrp = .ok ())
    (hdata : ∀ b ∈ c.data, b.toNat < 32)
    (hlen : byteLength c.hrp.toList + 1 + c.data.length + checksumLength ≤ maxLength) :
    ∃ s, encode c = .ok s := by
  obtain ⟨ds, hds⟩ := exists_map_byte_iff.2 hdata
  exact ⟨_, encode_eq_ok_iff.2 ⟨hvalid, hlen, ds, hds, rfl⟩⟩

theorem length_write (variant : Variant) (hrp : List Char) (ds : List Symbol) :
    (write variant hrp ds).length = hrp.length + 1 + ds.length + checksumLength := by
  simp only [write, List.length_append, List.length_cons, List.length_map, length_checksum]
  omega

/-- The characters of a human-readable part, of the separator and of symbols. -/
theorem isChar_of_mem_append_map_char {hrp : List Char} {ds : List Symbol} {c : Char}
    (hhrp : ∀ c ∈ hrp, Hrp.IsChar c) (h : c ∈ hrp ++ separator :: ds.map Symbol.char) :
    Hrp.IsChar c := by
  rcases List.mem_append.1 h with h | h
  · exact hhrp c h
  · rcases List.mem_cons.1 h with rfl | h
    · exact ⟨by decide, by decide⟩
    · obtain ⟨d, -, rfl⟩ := List.mem_map.1 h
      exact d.isChar_char

theorem isChar_of_mem_write {variant : Variant} {hrp : List Char} {ds : List Symbol} {c : Char}
    (hhrp : ∀ c ∈ hrp, Hrp.IsChar c) (h : c ∈ write variant hrp ds) : Hrp.IsChar c :=
  isChar_of_mem_append_map_char hhrp h

/-- A text is cut in front of its symbols, also if the human-readable part holds the separator. -/
theorem splitAtLast?_append_map_char (hrp : List Char) (ds : List Symbol) :
    splitAtLast? separator (hrp ++ separator :: ds.map Symbol.char) =
      some (hrp, ds.map Symbol.char) := by
  apply splitAtLast?_append
  intro h
  obtain ⟨d, -, hd⟩ := List.mem_map.1 h
  exact d.char_ne_separator hd

theorem splitAtLast?_write (variant : Variant) (hrp : List Char) (ds : List Symbol) :
    splitAtLast? separator (write variant hrp ds) =
      some (hrp, (ds ++ checksum variant hrp ds).map Symbol.char) :=
  splitAtLast?_append_map_char hrp (ds ++ checksum variant hrp ds)

/-! ## Reading -/

/-- What two parts are read as is up to the residue alone once they have their symbols. -/
theorem decodeParts_map_char {hrp : List Char} (hne : hrp ≠ []) {ds : List Symbol}
    (hlen : checksumLength ≤ ds.length) :
    decodeParts hrp (ds.map Symbol.char) =
      match Variant.ofResidue? (residue hrp ds) with
      | none => .error .checksumMismatch
      | some variant =>
        .ok ⟨String.ofList hrp, (ds.take (ds.length - checksumLength)).map Symbol.byte,
          variant⟩ := by
  rw [decodeParts, if_neg hne, if_neg (by rwa [List.length_map, Nat.not_lt])]
  exact bind_of_ok (symbolsOfChars_eq_ok_iff.2 rfl) _

/-- **Two parts are read as the symbols in front of their checksum.** -/
theorem decodeParts_eq_ok_iff {hrp rest : List Char} {c : Content} :
    decodeParts hrp rest = .ok c ↔ hrp ≠ [] ∧ c.hrp.toList = hrp ∧ ∃ ds,
      c.data = ds.map Symbol.byte ∧ rest = (ds ++ checksum c.variant hrp ds).map Symbol.char := by
  constructor
  · intro h
    rw [decodeParts] at h
    split at h
    · cases h
    · next hne =>
      split at h
      · cases h
      · next hlen =>
        obtain ⟨es, hes, h⟩ := bind_eq_ok.1 h
        split at h
        · cases h
        · next variant hvariant =>
          cases h
          have hrest := symbolsOfChars_eq_ok_iff.1 hes
          have hcut := List.take_append_drop (es.length - checksumLength) es
          have hsum : (es.drop (es.length - checksumLength)).length = checksumLength := by
            rw [hrest, List.length_map] at hlen
            rw [List.length_drop]
            omega
          have hconst := Variant.ofResidue?_eq_some_iff.1 hvariant
          rw [← hcut, residue_append_eq_constant_iff hsum] at hconst
          refine ⟨hne, String.toList_ofList, _, rfl, ?_⟩
          rw [← hconst, hcut, hrest]
  · obtain ⟨text, data, variant⟩ := c
    rintro ⟨hne, rfl, ds, rfl, rfl⟩
    have hlen : (ds ++ checksum variant text.toList ds).length - checksumLength = ds.length := by
      rw [List.length_append, length_checksum, Nat.add_sub_cancel]
    have hconst := (residue_append_eq_constant_iff (length_checksum variant text.toList ds)).2 rfl
    rw [decodeParts_map_char hne (by simp [length_checksum]),
      Variant.ofResidue?_eq_some_iff.2 hconst]
    dsimp only
    rw [hlen, List.take_left, String.ofList_toList]

/-- A text of visible characters, all in one case and not too long, is read by its parts. -/
theorem decode_eq_split {s : String} (hlen : byteLength s.toList ≤ maxLength)
    (hgraphic : ∀ x ∈ s.toList, isGraphic x = true) (hcase : isOneCase s = true) :
    decode s = match splitAtLast? separator (s.toList.map Char.toLower) with
      | none => .error (.malformed .noSeparator)
      | some (hrp, rest) => decodeParts hrp rest := by
  have hcase' : ¬ (s.toList.any Char.isLower && s.toList.any Char.isUpper) = true := by
    rw [isOneCase, Bool.not_eq_true'] at hcase
    rw [hcase]
    decide
  have hgraphic' : findWithIndex? (fun c => !isGraphic c) s.toList = none :=
    findWithIndex?_eq_none_iff.2 (by simpa using hgraphic)
  simp only [decode]
  rw [if_neg (Nat.not_lt.2 hlen), hgraphic']
  exact if_neg hcase'

theorem decode_eq_decodeParts {s : String} (hlen : byteLength s.toList ≤ maxLength)
    (hgraphic : ∀ x ∈ s.toList, isGraphic x = true) (hcase : isOneCase s = true)
    {hrp rest : List Char}
    (hsplit : splitAtLast? separator (s.toList.map Char.toLower) = some (hrp, rest)) :
    decode s = decodeParts hrp rest := by
  rw [decode_eq_split hlen hgraphic hcase, hsplit]

theorem decode_eq_ok_iff {s : String} {c : Content} : decode s = .ok c ↔
    byteLength s.toList ≤ maxLength ∧ (∀ x ∈ s.toList, isGraphic x = true) ∧ isOneCase s = true ∧
      c.hrp.toList ≠ [] ∧ ∃ ds, c.data = ds.map Symbol.byte ∧
        s.toList.map Char.toLower = write c.variant c.hrp.toList ds := by
  constructor
  · intro h
    simp only [decode] at h
    split at h
    · cases h
    · next hlen =>
      split at h
      · cases h
      · next hgraphic =>
        split at h
        · cases h
        · next hcase =>
          split at h
          · cases h
          · next hrp rest hsplit =>
            obtain ⟨hne, rfl, ds, hdata, rfl⟩ := decodeParts_eq_ok_iff.1 h
            have hcase' : isOneCase s = true := by
              rw [isOneCase, Bool.eq_false_iff.2 hcase, Bool.not_false]
            have hgraphic' : ∀ x ∈ s.toList, isGraphic x = true := by
              simpa using findWithIndex?_eq_none_iff.1 hgraphic
            exact ⟨Nat.not_lt.1 hlen, hgraphic', hcase', hne, ds, hdata,
              splitAtLast?_eq_some hsplit⟩
  · rintro ⟨hlen, hgraphic, hcase, hne, ds, hdata, hwrite⟩
    rw [decode_eq_decodeParts hlen hgraphic hcase (hwrite ▸ splitAtLast?_write _ _ _)]
    exact decodeParts_eq_ok_iff.2 ⟨hne, rfl, ds, hdata, rfl⟩

/-- **Reading is the inverse of writing**: a text reads as a content if it is all in one case and
its lower-case form is the one that is written. -/
theorem decode_eq_ok_iff_encode {s : String} {c : Content} :
    decode s = .ok c ↔ isOneCase s = true ∧ encode c = .ok (lowerAscii s) := by
  rw [decode_eq_ok_iff, encode_eq_ok_iff, Hrp.validate_eq_ok_iff]
  constructor
  · rintro ⟨hlen, hgraphic, hcase, hne, ds, hdata, hwrite⟩
    have hlower : ∀ x ∈ s.toList.map Char.toLower, Hrp.IsChar x := by
      intro x hx
      obtain ⟨y, hy, rfl⟩ := List.mem_map.1 hx
      exact ⟨(isGraphic_toLower y).trans (hgraphic y hy), isUpper_toLower y⟩
    have hchar : ∀ x ∈ c.hrp.toList, Hrp.IsChar x := fun x hx =>
      hlower x (hwrite ▸ List.mem_append_left _ hx)
    have htotal : c.hrp.toList.length + 1 + ds.length + checksumLength ≤ maxLength := by
      rw [← length_write c.variant, ← hwrite, ← Hrp.byteLength_of_isChar hlower,
        byteLength_map_toLower]
      exact hlen
    refine ⟨hcase, ⟨hne, ?_, hchar⟩, ?_, ds, hdata, ?_⟩
    · simp only [checksumLength, maxLength, Hrp.maxLength] at htotal ⊢
      omega
    · rw [Hrp.byteLength_of_isChar hchar, hdata, List.length_map]
      exact htotal
    · rw [lowerAscii, hwrite]
  · rintro ⟨hcase, ⟨hne, -, hchar⟩, hlen, ds, hdata, hs⟩
    have hwrite : s.toList.map Char.toLower = write c.variant c.hrp.toList ds := by
      rw [← toList_lowerAscii, hs, String.toList_ofList]
    have hlower : ∀ x ∈ s.toList.map Char.toLower, Hrp.IsChar x := fun x hx =>
      isChar_of_mem_write hchar (hwrite ▸ hx)
    refine ⟨?_, fun x hx => ?_, hcase, hne, ds, hdata, hwrite⟩
    · rw [← byteLength_map_toLower, Hrp.byteLength_of_isChar hlower, hwrite, length_write]
      rw [Hrp.byteLength_of_isChar hchar, hdata, List.length_map] at hlen
      exact hlen
    · rw [← isGraphic_toLower]
      exact (hlower _ (List.mem_map_of_mem hx)).1

/-! ## The two directions -/

theorem any_isUpper_of_encode {c : Content} {s : String} (h : encode c = .ok s) :
    s.toList.any Char.isUpper = false := by
  obtain ⟨hvalid, -, ds, -, rfl⟩ := encode_eq_ok_iff.1 h
  obtain ⟨-, -, hchar⟩ := Hrp.validate_eq_ok_iff.1 hvalid
  rw [String.toList_ofList]
  exact Hrp.any_isUpper_of_isChar fun x => isChar_of_mem_write hchar

/-- Bech32 texts are written in lower case and read in either case. -/
theorem eitherCase : EitherCase encode decode :=
  ⟨decode_eq_ok_iff_encode, fun h => lowerAscii_eq_self (any_isUpper_of_encode h)⟩

theorem decode_of_encode {c : Content} {s : String} (h : encode c = .ok s) : decode s = .ok c :=
  eitherCase.read_of_write h

/-- **A content can be written if and only if its human-readable part is valid, its values have five
bits and the text keeps to ninety characters; and what is written reads back**, with its variant and
whatever separators its human-readable part holds. -/
theorem encode_succeeds_and_reads_back (c : Content) :
    ((∃ s, encode c = .ok s) ↔ Hrp.validate c.hrp = .ok () ∧ (∀ b ∈ c.data, b.toNat < 32) ∧
      byteLength c.hrp.toList + 1 + c.data.length + 6 ≤ 90) ∧
    ∀ s, encode c = .ok s → decode s = .ok c := by
  refine ⟨⟨?_, ?_⟩, fun s => decode_of_encode⟩
  · rintro ⟨s, h⟩
    obtain ⟨hvalid, hlen, ds, hdata, -⟩ := encode_eq_ok_iff.1 h
    exact ⟨hvalid, exists_map_byte_iff.1 ⟨ds, hdata⟩, hlen⟩
  · rintro ⟨hvalid, hdata, hlen⟩
    obtain ⟨ds, hds⟩ := exists_map_byte_iff.2 hdata
    exact ⟨_, encode_eq_ok_iff.2 ⟨hvalid, hlen, ds, hds, rfl⟩⟩

/-- A human-readable part may hold the separator, and the variant is not mistaken for the other. -/
theorem reads_back_separator_in_hrp :
    ∃ s, encode ⟨"split1", [0, 31], .bech32m⟩ = .ok s ∧
      decode s = .ok ⟨"split1", [0, 31], .bech32m⟩ := by
  have h := encode_succeeds_and_reads_back ⟨"split1", [0, 31], .bech32m⟩
  obtain ⟨s, hs⟩ := h.1.2 ⟨by decide +kernel, by decide +kernel, by decide +kernel⟩
  exact ⟨s, hs, h.2 s hs⟩

/-- **What is read would be written the same way, in lower case**, so two texts with one content
differ at most in being all upper or all lower case. -/
theorem decode_canonical {s : String} {c : Content} (h : decode s = .ok c) :
    encode c = .ok (lowerAscii s) ∧
      ∀ t, decode t = .ok c → t = lowerAscii s ∨ t = upperAscii s := by
  obtain ⟨-, hs⟩ := decode_eq_ok_iff_encode.1 h
  refine ⟨hs, fun t ht => ?_⟩
  obtain ⟨hcase, ht⟩ := decode_eq_ok_iff_encode.1 ht
  have heq : lowerAscii t = lowerAscii s := Except.ok.inj (ht.symm.trans hs)
  rw [← heq, ← upperAscii_lowerAscii s, ← heq, upperAscii_lowerAscii]
  exact eq_lowerAscii_or_eq_upperAscii hcase

/-- A text in capitals is written in lower case. -/
theorem decode_canonical_capitals :
    decode "A12UEL5L" = .ok ⟨"a", [], .bech32⟩ ∧
      encode ⟨"a", [], .bech32⟩ = .ok (lowerAscii "A12UEL5L") ∧
        ∀ t, decode t = .ok ⟨"a", [], .bech32⟩ →
          t = lowerAscii "A12UEL5L" ∨ t = upperAscii "A12UEL5L" := by
  have hread : decode "A12UEL5L" = .ok ⟨"a", [], .bech32⟩ := by decide +kernel
  exact ⟨hread, decode_canonical hread⟩

end CoinAddress.Bech32
