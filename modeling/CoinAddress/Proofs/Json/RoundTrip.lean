import CoinAddress.Address.Summary
import CoinAddress.Proofs.Network.Config

/-!
# Summaries and configurations are read back

The records that are written as JSON are read back from every form of their texts: summaries of
addresses and of private keys, whatever their fields hold, and lists of networks, where a list that
was read is one of valid networks.
-/

namespace CoinAddress

open Json

/-! ## Summaries -/

theorem AddressSummary.ofJson?_toJson (s : AddressSummary) : ofJson? s.toJson = some s := by
  have hkind := s.kind.lookup_tag
  have hformat : Json.optional (Value.tag? KeyFormat.tags)
      (some (.ofOption (fun f => .ofString f.label) s.keyFormat)) = some s.keyFormat :=
    optional_ofOption (fun f : KeyFormat => Value.ofString f.label) (fun _ => nofun)
      KeyFormat.lookup_label _
  rw [toJson, ofJson?, fields?_record fieldNames ?_ (by decide)]
  · simp [hkind, hformat]
  · rfl

theorem AddressSummary.whole_toJson (s : AddressSummary) : Whole s.toJson := by
  refine .record ?_
  simp only [List.forall_mem_cons]
  exact ⟨.string _, .string _, .string _, .ofOption (fun _ => .string _) _,
    .ofOption (fun _ => .number _) _, .ofOption (fun _ => .string _) _,
    .ofOption (fun _ => .number _) _, .string _, .ofOption (fun _ => .string _) _, by simp⟩

theorem KeySummary.ofJson?_toJson (s : KeySummary) : ofJson? s.toJson = some s := by
  rw [toJson, ofJson?, fields?_record fieldNames ?_ (by decide)]
  · simp
  · rfl

theorem KeySummary.whole_toJson (s : KeySummary) : Whole s.toJson := by
  refine .record ?_
  simp only [List.forall_mem_cons]
  exact ⟨.ofOption (fun _ => .string _) _, .number _, .bool _, .ofOption (fun _ => .string _) _,
    by simp⟩

/-! ## Texts -/

section

variable {text : String}

theorem AddressSummary.parse_of_writtenAs {s : AddressSummary} (h : WrittenAs s.toJson text) :
    parse text = .ok s := by
  rw [parse, h.parse?_eq s.whole_toJson, Option.bind_some, s.ofJson?_toJson]

theorem KeySummary.parse_of_writtenAs {s : KeySummary} (h : WrittenAs s.toJson text) :
    parse text = .ok s := by
  rw [parse, h.parse?_eq s.whole_toJson, Option.bind_some, s.ofJson?_toJson]

end

/-- **What is written is read back as it was**: a summary of an address or of a private key, and a
list of valid networks in the same order, as a whole configuration or as the list in it. -/
theorem parse_writtenAs (a : AddressSummary) (k : KeySummary) (ns : List Network)
    (hvalid : ∀ n ∈ ns, n.validate = .ok ()) :
    (∀ text, WrittenAs a.toJson text → AddressSummary.parse text = .ok a) ∧
      (∀ text, WrittenAs k.toJson text → KeySummary.parse text = .ok k) ∧
        (∀ text, WrittenAs (Config.toJson ns) text → Config.parse text = .ok ns) ∧
          ∀ array, WrittenAs (.array (ns.map Network.toJson)) array →
            Config.parse ("\x7b\"networks\": " ++ array ++ "\x7d") = .ok ns := by
  refine ⟨fun _ => AddressSummary.parse_of_writtenAs, fun _ => KeySummary.parse_of_writtenAs,
    fun text h => ?_, fun array h => ?_⟩
  · exact Config.parse_eq_ok_iff.2 ⟨Config.read?_of_writtenAs h, hvalid⟩
  · have hmember := Config.parse?_member_of_writtenAs h
    exact Config.parse_eq_ok_iff.2 ⟨Config.read?_of_parse?_eq hmember, hvalid⟩

/-- A name with a quote, a backslash, a line end and other control characters is read back. -/
theorem parse_writtenAs_escaped :
    let n : Network := ⟨"a\"\\\n\u0001é\u007f", 0xffffffff, 0, 255, 1, "tb"⟩
    let s : AddressSummary := ⟨"\t", "", .taproot, some n.name, none, some n.hrp, some 1, "00", none⟩
    (∀ m ∈ [n, Network.mainnet], m.validate = .ok ()) ∧
      AddressSummary.parse (Command.printLines (Command.jsonReport s.toJson)) = .ok s ∧
        Config.parse (Config.toJson [n, Network.mainnet]).pretty = .ok [n, Network.mainnet] := by
  intro n s
  have hvalid : ∀ m ∈ [n, Network.mainnet], m.validate = .ok () := by decide
  have h := parse_writtenAs s ⟨none, 255, true, none⟩ _ hvalid
  exact ⟨hvalid, h.1 _ .printed, h.2.2.1 _ .pretty⟩

end CoinAddress
