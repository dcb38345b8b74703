import CoinAddress.Command.Report
import CoinAddress.Proofs.Json.Text

/-!
# Written values are read back

Both writers lay a value out as one of its texts, without white space or with line ends, levels and
a space behind each colon. The reader therefore gives the value back (`WrittenAs.parse?_eq`).

The values are those whose numbers are whole (`Whole`): a value keeps a number by its characters,
and other characters need not be a number at all.
-/

namespace CoinAddress.Json

/-- The values in which every number is a whole number. -/
inductive Whole : Value → Prop
  | null : Whole .null
  | bool (b : Bool) : Whole (.bool b)
  | number (n : Nat) : Whole (.ofNat n)
  | string (t : StringValue) : Whole (.string t)
  | array {vs : List Value} (h : ∀ v ∈ vs, Whole v) : Whole (.array vs)
  | object {ms : List (StringValue × Value)} (h : ∀ m ∈ ms, Whole m.2) : Whole (.object ms)

/-! ## Compact form -/

theorem hasMoreElements_writeCompactElements {vs : List Value}
    (h : ∀ v ∈ vs, HasText v v.writeCompact) : HasMoreElements vs (writeCompactElements vs) := by
  induction vs with
  | nil => exact .nil blank_nil
  | cons v vs ih =>
    obtain ⟨hv, hvs⟩ := List.forall_mem_cons.1 h
    exact .cons blank_nil (.intro blank_nil hv (ih hvs))

theorem hasMoreMembers_writeCompactMembers {ms : List (StringValue × Value)}
    (h : ∀ m ∈ ms, HasText m.2 m.2.writeCompact) : HasMoreMembers ms (writeCompactMembers ms) := by
  induction ms with
  | nil => exact .nil blank_nil
  | cons m ms ih =>
    obtain ⟨hm, hms⟩ := List.forall_mem_cons.1 h
    exact .cons blank_nil (.intro blank_nil blank_nil blank_nil hm (ih hms))

/-- What is written without white space is a text of the value. -/
theorem Whole.hasText_writeCompact {v : Value} (h : Whole v) : HasText v v.writeCompact := by
  induction h with
  | null => exact .null
  | bool b =>
    cases b with
    | true => exact .boolTrue
    | false => exact .boolFalse
  | number n =>
    rw [Value.ofNat, Value.writeCompact, toList_toString]
    exact .number n
  | string t =>
    rw [Value.writeCompact]
    exact .string t
  | @array vs _ ih =>
    cases vs with
    | nil => exact .emptyArray blank_nil
    | cons v vs =>
      obtain ⟨hv, hvs⟩ := List.forall_mem_cons.1 ih
      rw [Value.writeCompact]
      exact .array (.intro blank_nil hv (hasMoreElements_writeCompactElements hvs))
  | @object ms _ ih =>
    cases ms with
    | nil => exact .emptyObject blank_nil
    | cons m ms =>
      obtain ⟨hm, hms⟩ := List.forall_mem_cons.1 ih
      rw [Value.writeCompact]
      exact .object
        (.intro blank_nil blank_nil blank_nil hm (hasMoreMembers_writeCompactMembers hms))

/-! ## Form in lines -/

section

variable {level : Nat}

theorem blank_space : Blank [' '] := fun _ hc => List.eq_of_mem_singleton hc ▸ rfl

theorem hasMoreElements_writePrettyElements {vs : List Value}
    (h : ∀ v ∈ vs, HasText v (v.writePretty (level + 1))) :
    HasMoreElements vs (writePrettyElements level vs) := by
  induction vs with
  | nil => exact .nil (blank_newLine level)
  | cons v vs ih =>
    obtain ⟨hv, hvs⟩ := List.forall_mem_cons.1 h
    rw [writePrettyElements, List.append_assoc]
    exact .cons blank_nil (.intro (blank_newLine _) hv (ih hvs))

theorem hasMoreMembers_writePrettyMembers {ms : List (StringValue × Value)}
    (h : ∀ m ∈ ms, HasText m.2 (m.2.writePretty (level + 1))) :
    HasMoreMembers ms (writePrettyMembers level ms) := by
  induction ms with
  | nil => exact .nil (blank_newLine level)
  | cons m ms ih =>
    obtain ⟨hm, hms⟩ := List.forall_mem_cons.1 h
    rw [writePrettyMembers, List.append_assoc]
    exact .cons blank_nil (.intro (blank_newLine _) blank_nil blank_space hm (ih hms))

end

/-- What is written in lines is a text of the value, at every level. -/
theorem Whole.hasText_writePretty {v : Value} (h : Whole v) (level : Nat) :
    HasText v (v.writePretty level) := by
  induction h generalizing level with
  | null => exact .null
  | bool b =>
    cases b with
    | true => exact .boolTrue
    | false => exact .boolFalse
  | number n =>
    rw [Value.ofNat, Value.writePretty, toList_toString]
    exact .number n
  | string t =>
    rw [Value.writePretty]
    exact .string t
  | @array vs _ ih =>
    cases vs with
    | nil => exact .emptyArray blank_nil
    | cons v vs =>
      obtain ⟨hv, hvs⟩ := List.forall_mem_cons.1 fun v hv => ih v hv (level + 1)
      rw [Value.writePretty, List.append_assoc]
      exact .array (.intro (blank_newLine _) hv (hasMoreElements_writePrettyElements hvs))
  | @object ms _ ih =>
    cases ms with
    | nil => exact .emptyObject blank_nil
    | cons m ms =>
      obtain ⟨hm, hms⟩ := List.forall_mem_cons.1 fun m hm => ih m hm (level + 1)
      rw [Value.writePretty, List.append_assoc]
      exact .object
        (.intro (blank_newLine _) blank_nil blank_space hm (hasMoreMembers_writePrettyMembers hms))

/-! ## Reading back -/

/-- The forms in which a value is written: without white space, in lines, and in lines as it is
printed, with the end of the last line. -/
inductive WrittenAs (v : Value) : String → Prop
  | compact : WrittenAs v v.compact
  | pretty : WrittenAs v v.pretty
  | printed : WrittenAs v (Command.printLines (Command.jsonReport v))

theorem printLines_jsonReport (v : Value) :
    Command.printLines (Command.jsonReport v) = v.pretty ++ "\n" :=
  String.toList_inj.1 (by simp [Command.printLines, Command.jsonReport, String.join])

section

variable {v : Value} {text : String}

/-- What is written is a text of the value and, at most, a line end. -/
theorem WrittenAs.exists_hasText (h : WrittenAs v text) (hv : Whole v) :
    ∃ cs b, text = String.ofList (cs ++ b) ∧ HasText v cs ∧ Blank b := by
  cases h with
  | compact => exact ⟨_, [], by simp [Value.compact], hv.hasText_writeCompact, blank_nil⟩
  | pretty => exact ⟨_, [], by simp [Value.pretty], hv.hasText_writePretty 0, blank_nil⟩
  | printed =>
    refine ⟨_, ['\n'], ?_, hv.hasText_writePretty 0, fun _ hc => List.eq_of_mem_singleton hc ▸ rfl⟩
    rw [printLines_jsonReport, Value.pretty, String.ofList_append]

/-- **A value is read back from each of its forms.** -/
theorem WrittenAs.parse?_eq (h : WrittenAs v text) (hv : Whole v) : parse? text = some v := by
  obtain ⟨cs, b, rfl, hcs, hb⟩ := h.exists_hasText hv
  have hread := parse?_of_hasText hcs blank_nil hb
  rwa [List.nil_append] at hread

end

end CoinAddress.Json
