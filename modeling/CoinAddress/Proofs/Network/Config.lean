import CoinAddress.Network.Config
import CoinAddress.Proofs.Except
import CoinAddress.Proofs.Json.Record

/-!
# Which texts are configurations

A text is a configuration if it holds a list of networks (`Config.read?`) and all of them are valid
(`Config.parse_eq_ok_iff`). If one is not, the first such network is named
(`Config.parse_eq_error_iff`, `Config.FirstFault`).

Every list of networks is held by the texts that are written for it, whatever their form
(`Config.read?_of_writtenAs`).
-/

namespace CoinAddress

open Json

/-! ## Networks -/

theorem Network.ofJson?_toJson (n : Network) : ofJson? n.toJson = some n := by
  rw [toJson, ofJson?, fields?_record fieldNames ?_ (by decide)]
  · simp
  · rfl

theorem Network.whole_toJson (n : Network) : Whole n.toJson := by
  refine .record ?_
  simp only [List.forall_mem_cons]
  exact ⟨.string _, .number _, .number _, .number _, .number _, .string _, by simp⟩

namespace Config

/-! ## Lists in texts -/

section

variable (ns : List Network)

theorem whole_array : Whole (.array (ns.map Network.toJson)) := by
  refine .array fun v hv => ?_
  obtain ⟨n, -, rfl⟩ := List.mem_map.1 hv
  exact n.whole_toJson

theorem whole_toJson : Whole (toJson ns) :=
  .record fun _ hm => List.eq_of_mem_singleton hm ▸ whole_array ns

theorem ofArray?_map_toJson : ofArray? (.array (ns.map Network.toJson)) = some ns := by
  rw [ofArray?, Value.array?, Option.bind_eq_bind, Option.bind_some, List.mapM_map,
    mapM_eq_some_map fun n _ => n.ofJson?_toJson]
  exact congrArg some (List.map_id ns)

theorem ofJson?_toJson : ofJson? (toJson ns) = some ns := by
  have hfields : (toJson ns).fields? ["networks"] = some [some (.array (ns.map Network.toJson))] :=
    fields?_record ["networks"] rfl (by decide)
  rw [ofJson?.eq_2 (toJson ns) nofun, hfields]
  exact ofArray?_map_toJson ns

end

variable {text : String} {ns : List Network} {fault : ConfigFault} {e : Error}

/-- The networks of a configuration, valid or not. -/
def read? (text : String) : Option (List Network) := (Json.parse? text).bind ofJson?

theorem read?_of_parse?_eq (h : parse? text = some (toJson ns)) : read? text = some ns := by
  rw [read?, h, Option.bind_some, ofJson?_toJson]

/-- **A text that is written for a list of networks holds it**, be they valid or not. -/
theorem read?_of_writtenAs (h : WrittenAs (toJson ns) text) : read? text = some ns :=
  read?_of_parse?_eq (h.parse?_eq (whole_toJson ns))

/-- A list of networks, in any of its forms, is the only member of a configuration. -/
theorem parse?_member_of_writtenAs {array : String}
    (h : WrittenAs (.array (ns.map Network.toJson)) array) :
    parse? ("\x7b\"networks\": " ++ array ++ "\x7d") = some (toJson ns) := by
  obtain ⟨cs, b, rfl, hcs, hb⟩ := h.exists_hasText (whole_array ns)
  have hobject : HasText (toJson ns) _ :=
    .object (.intro blank_nil blank_nil blank_space hcs (.nil hb))
  have hname : writeString (some "networks") = "\"networks\"".toList := by decide
  have htext : "\x7b\"networks\": " ++ String.ofList (cs ++ b) ++ "\x7d" =
      String.ofList (openBrace :: ([] ++ (writeString (some "networks") ++
        ([] ++ ':' :: ([' '] ++ (cs ++ (b ++ [closeBrace]))))))) :=
    String.toList_inj.1 (by simp [hname, openBrace, closeBrace])
  have hread := parse?_of_hasText hobject blank_nil blank_nil
  rw [htext]
  rwa [List.nil_append, List.append_nil] at hread

/-! ## Valid lists -/

/-- The fault of a list of networks, which is that of the first network that is not valid. -/
inductive FirstFault : List Network → ConfigFault → Prop
  | intro {before behind : List Network} {n : Network} {fault : NetworkFault}
      (hbefore : ∀ m ∈ before, m.validate = .ok ()) (hn : n.check = .error fault) :
      FirstFault (before ++ n :: behind) (.badNetwork n.name fault)

/-- The fault is reported with the name of the network and the reason for which it is not valid. -/
theorem FirstFault.exists_message (h : FirstFault ns fault) : ∃ before n behind e,
    ns = before ++ n :: behind ∧ (∀ m ∈ before, m.validate = .ok ()) ∧ n.validate = .error e ∧
      fault.message = "network '" ++ n.name ++ "': " ++ e.message := by
  cases h with
  | @intro before behind n fault hbefore hn =>
    refine ⟨before, n, behind, fault.toError, rfl, hbefore, ?_, ?_⟩
    · rw [Network.validate, hn]
      rfl
    · rw [NetworkFault.message_toError]
      rfl

theorem exists_firstFault (h : ¬ ∀ n ∈ ns, n.validate = .ok ()) : ∃ fault, FirstFault ns fault := by
  obtain ⟨before, n, behind, rfl, hbefore, hn⟩ := exists_first_not h
  cases hcheck : n.check with
  | ok u => exact absurd (mapError_eq_ok.2 hcheck) hn
  | error fault => exact ⟨_, .intro hbefore hcheck⟩

theorem FirstFault.exists_not_valid (h : FirstFault ns fault) : ∃ n ∈ ns, n.validate ≠ .ok () := by
  obtain ⟨-, hn⟩ := h
  refine ⟨_, List.mem_append_right _ List.mem_cons_self, fun hvalid => ?_⟩
  cases hn.symm.trans (mapError_eq_ok.1 hvalid)

theorem check_append {before : List Network} (h : ∀ m ∈ before, m.validate = .ok ())
    (ns : List Network) : check (before ++ ns) = check ns := by
  induction before with
  | nil => rfl
  | cons m before ih =>
    obtain ⟨hm, hbefore⟩ := List.forall_mem_cons.1 h
    rw [List.cons_append, check, mapError_eq_ok.1 hm]
    exact ih hbefore

theorem check_of_forall_valid (h : ∀ n ∈ ns, n.validate = .ok ()) : check ns = .ok () := by
  have hcheck := check_append h []
  rwa [List.append_nil] at hcheck

theorem check_of_firstFault (h : FirstFault ns fault) : check ns = .error fault := by
  obtain ⟨hbefore, hn⟩ := h
  rw [check_append hbefore, check, hn]

/-- What is said of a text follows from the networks that it holds. -/
theorem parse_cases (text : String) :
    (read? text = none ∧ parse text = .error .json) ∨
      (∃ ns, read? text = some ns ∧ (∀ n ∈ ns, n.validate = .ok ()) ∧ parse text = .ok ns) ∨
        ∃ ns fault, read? text = some ns ∧ FirstFault ns fault ∧
          parse text = .error (.config fault) := by
  rw [parse, ← read?]
  cases hread : read? text with
  | none => exact Or.inl ⟨rfl, rfl⟩
  | some ns =>
    refine Or.inr ?_
    by_cases hvalid : ∀ n ∈ ns, n.validate = .ok ()
    · exact Or.inl ⟨ns, rfl, hvalid, by simp only [check_of_forall_valid hvalid]⟩
    · obtain ⟨fault, hfault⟩ := exists_firstFault hvalid
      exact Or.inr ⟨ns, fault, rfl, hfault, by simp only [check_of_firstFault hfault]⟩

/-- **When a text is accepted as a configuration**: it holds a list of valid networks. -/
theorem parse_eq_ok_iff :
    parse text = .ok ns ↔ read? text = some ns ∧ ∀ n ∈ ns, n.validate = .ok () := by
  constructor
  · intro h
    obtain ⟨-, hparse⟩ | ⟨ns, hread, hvalid, hparse⟩ | ⟨ns, fault, -, -, hparse⟩ :=
      parse_cases text <;> cases h.symm.trans hparse
    exact ⟨hread, hvalid⟩
  · rintro ⟨hread, hvalid⟩
    rw [parse, ← read?, hread]
    simp only [check_of_forall_valid hvalid]

/-- **Why a text is refused as a configuration**: it holds no list of networks, or a list with a
fault. -/
theorem parse_eq_error_iff : parse text = .error e ↔
    read? text = none ∧ e = .json ∨
      ∃ ns fault, read? text = some ns ∧ FirstFault ns fault ∧ e = .config fault := by
  constructor
  · intro h
    obtain ⟨hread, hparse⟩ | ⟨ns, -, -, hparse⟩ | ⟨ns, fault, hread, hfault, hparse⟩ :=
      parse_cases text <;> cases h.symm.trans hparse
    · exact Or.inl ⟨hread, rfl⟩
    · exact Or.inr ⟨ns, fault, hread, hfault, rfl⟩
  · rintro (⟨hread, rfl⟩ | ⟨ns, fault, hread, hfault, rfl⟩)
    · rw [parse, ← read?, hread]
    · rw [parse, ← read?, hread]
      simp only [check_of_firstFault hfault]

/-! ## Files -/

theorem fileText_utf8 (text : String) : fileText (some (Text.utf8 text.toList)) = .ok text := by
  have hbytes : ByteArray.mk (Text.utf8 text.toList).toArray = text.toByteArray := by
    rw [← String.utf8Encode_toList, List.utf8Encode, Text.utf8]
    apply ByteArray.ext
    rw [List.data_toByteArray]
  have hread : String.fromUTF8? text.toByteArray = some text := dif_pos text.isValidUTF8
  rw [fileText, hbytes, hread]

/-- A file that is written for a list of valid networks holds it. -/
theorem ofFile_of_writtenAs (hvalid : ∀ n ∈ ns, n.validate = .ok ())
    (h : WrittenAs (toJson ns) text) : ofFile (some (Text.utf8 text.toList)) = .ok ns := by
  rw [ofFile, bind_of_ok (fileText_utf8 text)]
  exact parse_eq_ok_iff.2 ⟨read?_of_writtenAs h, hvalid⟩

end Config

end CoinAddress
