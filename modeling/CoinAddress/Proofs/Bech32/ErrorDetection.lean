import CoinAddress.Proofs.Bech32.Encoded
import CoinAddress.Proofs.Bech32.Syndrome

/-!
# One or two wrong characters are found

A text in lower case that reads does not read any more once one or two of the characters behind its
separator, those of the checksum included, are replaced by others of the alphabet: the checksum does
not hold, for either variant (`decode_of_miswritten`).

The residues of the two texts differ by what the differences of their symbols make of the empty
register (`residue_xor_residue`). One or two differences among zeros make neither zero nor the
difference of the constants, so the residue that was the constant of one variant is no constant now.
-/

namespace CoinAddress.Bech32

open Text

/-! ## Replaced characters -/

/-- The second list is the first with `n` of its characters replaced by others of the alphabet. -/
inductive Replaced : Nat → List Char → List Char → Prop where
  | nil : Replaced 0 [] []
  | keep (c : Char) {n : Nat} {cs ds : List Char} :
      Replaced n cs ds → Replaced n (c :: cs) (c :: ds)
  | replace {c d : Char} {n : Nat} {cs ds : List Char} :
      d ∈ alphabet → d ≠ c → Replaced n cs ds → Replaced (n + 1) (c :: cs) (d :: ds)

/-- The second text is the first with `n` characters behind the separator replaced. -/
def Miswritten (n : Nat) (s t : String) : Prop :=
  ∃ hrp rest rest', splitAtLast? separator s.toList = some (hrp, rest) ∧ Replaced n rest rest' ∧
    t.toList = hrp ++ separator :: rest'

/-- The differences of symbols, place by place. -/
def differences (ds es : List Symbol) : List Symbol := List.zipWith (· ^^^ ·) ds es

@[simp] theorem differences_cons (d e : Symbol) (ds es : List Symbol) :
    differences (d :: ds) (e :: es) = (d ^^^ e) :: differences ds es := rfl

theorem length_differences {ds es : List Symbol} (h : ds.length = es.length) :
    (differences ds es).length = ds.length := by
  rw [differences, List.length_zipWith, ← h, Nat.min_self]

/-- **Symbols with replaced characters are symbols** again, as many as before, and as many of them
differ as characters were replaced. -/
theorem Replaced.exists_symbols {n : Nat} {ds : List Symbol} {rest : List Char}
    (h : Replaced n (ds.map Symbol.char) rest) :
    ∃ es : List Symbol, rest = es.map Symbol.char ∧ ds.length = es.length ∧
      (differences ds es).countP Symbol.isError = n := by
  generalize hcs : ds.map Symbol.char = cs at h
  induction h generalizing ds with
  | nil =>
    obtain rfl := List.map_eq_nil_iff.1 hcs
    exact ⟨[], rfl, rfl, rfl⟩
  | keep c _ ih =>
    obtain ⟨d, ds, rfl, rfl, hds⟩ := List.map_eq_cons_iff.1 hcs
    obtain ⟨es, rfl, hlen, hcount⟩ := ih hds
    have hsame : ¬ (d ^^^ d).isError = true := fun h =>
      Symbol.isError_iff.1 h BitVec.xor_self
    refine ⟨d :: es, rfl, congrArg (· + 1) hlen, ?_⟩
    rw [differences_cons, List.countP_cons_of_neg hsame]
    exact hcount
  | replace hmem hne _ ih =>
    obtain ⟨d, ds, rfl, rfl, hds⟩ := List.map_eq_cons_iff.1 hcs
    obtain ⟨es, rfl, hlen, hcount⟩ := ih hds
    obtain ⟨e, rfl⟩ := mem_alphabet_iff.1 hmem
    have hother : (d ^^^ e).isError = true := Symbol.isError_iff.2 fun h =>
      hne (congrArg Symbol.char (BitVec.xor_eq_zero_iff.1 h)).symm
    refine ⟨e :: es, rfl, congrArg (· + 1) hlen, ?_⟩
    rw [differences_cons, List.countP_cons_of_pos hother]
    exact congrArg (· + 1) hcount

/-! ## Residues -/

/-- **Residues differ by the differences of the symbols** on the empty register, whatever the
human-readable part. -/
theorem residue_xor_residue (hrp : List Char) {ds es : List Symbol} (h : ds.length = es.length) :
    residue hrp ds ^^^ residue hrp es = run 0 (differences ds es) := by
  have hrun : ∀ ds, residue hrp ds = run (residue hrp []) ds := residue_append hrp []
  rw [hrun ds, hrun es, ← run_xor _ _ h, BitVec.xor_self]
  rfl

theorem Variant.constant_xor_constant (v v' : Variant) :
    v.constant ^^^ v'.constant = 0#30 ∨ v.constant ^^^ v'.constant = gap := by
  cases v <;> cases v' <;> decide

/-- No variant has the residue of valid symbols of which one or two were changed. -/
theorem ofResidue?_of_differences {hrp : List Char} {ds es : List Symbol} {variant : Variant}
    (hvalid : residue hrp ds = variant.constant) (hlen : ds.length = es.length)
    (hmax : ds.length ≤ 88) {n : Nat} (hn : n = 1 ∨ n = 2)
    (h : (differences ds es).countP Symbol.isError = n) :
    Variant.ofResidue? (residue hrp es) = none := by
  have hlength : (differences ds es).length ≤ 88 := by
    rwa [length_differences hlen]
  have hrun : run 0 (differences ds es) ≠ 0#30 ∧ run 0 (differences ds es) ≠ gap := by
    rcases hn with rfl | rfl
    · exact run_zero_of_countP_one hlength h
    · exact run_zero_of_countP_two hlength h
  refine Option.eq_none_iff_forall_ne_some.2 fun variant' hresidue => ?_
  rw [← residue_xor_residue hrp hlen, hvalid, Variant.ofResidue?_eq_some_iff.1 hresidue] at hrun
  exact (variant.constant_xor_constant variant').elim hrun.1 hrun.2

/-! ## Texts -/

/-- A text of a lower-case human-readable part and symbols is read by its parts, if it is not too
long. -/
theorem decode_append_map_char {t : String} {hrp : List Char} {ds : List Symbol}
    (ht : t.toList = hrp ++ separator :: ds.map Symbol.char) (hhrp : ∀ c ∈ hrp, Hrp.IsChar c)
    (hlen : t.toList.length ≤ maxLength) : decode t = decodeParts hrp (ds.map Symbol.char) := by
  have hchar : ∀ c ∈ t.toList, Hrp.IsChar c := fun c hc =>
    isChar_of_mem_append_map_char hhrp (ht ▸ hc)
  have hupper := Hrp.any_isUpper_of_isChar hchar
  apply decode_eq_decodeParts
  · rwa [Hrp.byteLength_of_isChar hchar]
  · exact fun c hc => (hchar c hc).1
  · exact isOneCase_iff.2 (Or.inl hupper)
  · rw [map_toLower_eq_self hupper, ht, splitAtLast?_append_map_char]

/-- A lower-case text that reads is a human-readable part and symbols with the residue of its
variant. -/
theorem exists_symbols_of_decode {s : String} {c : Content} (hs : decode s = .ok c)
    (hlower : lowerAscii s = s) :
    ∃ hrp ds, s.toList = hrp ++ separator :: ds.map Symbol.char ∧ hrp ≠ [] ∧
      (∀ x ∈ hrp, Hrp.IsChar x) ∧ checksumLength ≤ ds.length ∧ s.toList.length ≤ maxLength ∧
        residue hrp ds = c.variant.constant := by
  obtain ⟨-, hencode⟩ := decode_eq_ok_iff_encode.1 hs
  rw [hlower] at hencode
  obtain ⟨hvalid, hlen, ds, hdata, rfl⟩ := encode_eq_ok_iff.1 hencode
  obtain ⟨hne, -, hchar⟩ := Hrp.validate_eq_ok_iff.1 hvalid
  rw [Hrp.byteLength_of_isChar hchar, hdata, List.length_map] at hlen
  refine ⟨c.hrp.toList, ds ++ checksum c.variant c.hrp.toList ds, String.toList_ofList, hne, hchar,
    ?_, ?_, ?_⟩
  · rw [List.length_append, length_checksum]
    exact Nat.le_add_left _ _
  · rwa [String.toList_ofList, length_write]
  · exact (residue_append_eq_constant_iff (length_checksum _ _ _)).2 rfl

/-- **One or two wrong characters are found**: a text in lower case that reads, of either variant,
with one or two of the characters behind its separator replaced by others of the alphabet is refused
for its checksum, and so is not taken for a text of the other variant. -/
theorem decode_of_miswritten {s t : String} {c : Content} (hs : decode s = .ok c)
    (hlower : lowerAscii s = s) {n : Nat} (hn : n = 1 ∨ n = 2) (h : Miswritten n s t) :
    decode t = .error .checksumMismatch := by
  obtain ⟨hrp, ds, htext, hne, hhrp, hsum, hlen, hvalid⟩ := exists_symbols_of_decode hs hlower
  obtain ⟨hrp', rest, rest', hsplit, hreplaced, ht⟩ := h
  rw [htext, splitAtLast?_append_map_char] at hsplit
  cases hsplit
  obtain ⟨es, rfl, heq, hcount⟩ := hreplaced.exists_symbols
  have hpos := List.length_pos_iff.2 hne
  have hmax : ds.length ≤ 88 := by
    rw [htext] at hlen
    simp only [List.length_append, List.length_cons, List.length_map, maxLength] at hlen
    omega
  have htlen : t.toList.length ≤ maxLength := by
    rw [htext] at hlen
    rw [ht]
    simpa [heq] using hlen
  rw [decode_append_map_char ht hhrp htlen, decodeParts_map_char hne (heq ▸ hsum),
    ofResidue?_of_differences hvalid heq hmax hn hcount]

/-- Two characters of a checksum. -/
theorem decode_of_miswritten_checksum :
    decode "a12uel5l" = .ok ⟨"a", [], .bech32⟩ ∧ Miswritten 2 "a12uel5l" "a1qqel5l" ∧
      decode "a1qqel5l" = .error .checksumMismatch := by
  have hread : decode "a12uel5l" = .ok ⟨"a", [], .bech32⟩ := by decide +kernel
  have hmiswritten : Miswritten 2 "a12uel5l" "a1qqel5l" := by
    refine ⟨['a'], "2uel5l".toList, "qqel5l".toList, by decide, ?_, by decide⟩
    exact .replace (by decide) (by decide) (.replace (by decide) (by decide)
      (.keep 'e' (.keep 'l' (.keep '5' (.keep 'l' .nil)))))
  exact ⟨hread, hmiswritten,
    decode_of_miswritten hread (by decide +kernel) (Or.inr rfl) hmiswritten⟩

end CoinAddress.Bech32
