import CoinAddress.Proofs.Address.Witness
import CoinAddress.Proofs.Base58.Checked
import CoinAddress.Proofs.Network.Reachable
import CoinAddress.Proofs.Text.Hex

/-!
# The texts of witness addresses are read back

A witness address has two texts: the one that is written for it, and its capitals. Both read as the
address if its human-readable part is that of the default network or of a registered one, whether or
not they could also be base-58 numerals (`Registry.decode_witness_text`). Under any other
human-readable part they are refused, and no public key is looked for: the character of the witness
version is no hexadecimal digit (`Registry.publicKeyHex_of_segwit`).
-/

namespace CoinAddress

open Text

/-! ## Making witness addresses -/

namespace Address

variable {net : Network} {program : Bytes} {a : Address}

theorem ofWitnessProgram_of_toWitnessPubKeyHash (h : toWitnessPubKeyHash program net = .ok a) :
    ofWitnessProgram net.hrp 0 program = .ok a := by
  obtain ⟨b, hb, h⟩ := bind_eq_ok.1 h
  cases b <;> cases h
  exact hb

theorem ofWitnessProgram_of_toWitnessScriptHash (h : toWitnessScriptHash program net = .ok a) :
    ofWitnessProgram net.hrp 0 program = .ok a := by
  obtain ⟨b, hb, h⟩ := bind_eq_ok.1 h
  cases b <;> cases h
  exact hb

/-- All makers of witness addresses ask for the address of a program of version zero or one. -/
theorem exists_ofWitnessProgram
    (h : toWitnessPubKeyHash program net = .ok a ∨ toWitnessScriptHash program net = .ok a ∨
      toTaproot program net = .ok a) :
    ∃ version, (version = 0 ∨ version = 1) ∧ ofWitnessProgram net.hrp version program = .ok a := by
  rcases h with h | h | h
  · exact ⟨0, Or.inl rfl, ofWitnessProgram_of_toWitnessPubKeyHash h⟩
  · exact ⟨0, Or.inl rfl, ofWitnessProgram_of_toWitnessScriptHash h⟩
  · exact ⟨1, Or.inr rfl, h⟩

theorem encode_of_ofWitnessProgram {hrp : String} {version : UInt8}
    (h : ofWitnessProgram hrp version program = .ok a) :
    Bech32.Segwit.encode ⟨lowerAscii hrp, version, program⟩ = .ok a.encode := by
  obtain ⟨w, hw, hkind⟩ := ofWitnessProgram_eq_ok h
  obtain ⟨-, -, -, -, htext⟩ := WitnessAddress.ofProgram_eq_ok_iff.1 hw
  rcases hkind with rfl | rfl | rfl <;> exact htext

end Address

namespace Registry

variable {r : Registry} {default : Network} {s : String} {c : Bech32.Segwit.Content} {a : Address}

/-! ## The families and a segwit text -/

/-- The bech32 family claims a bech32 text if it knows the human-readable part. -/
theorem claimsSegwit_of_decode {content : Bech32.Content} (h : Bech32.decode s = .ok content) :
    r.claimsSegwit default s = r.knowsHrp default content.hrp := by
  obtain ⟨-, -, -, -, ds, -, hwrite⟩ := Bech32.decode_eq_ok_iff.1 h
  rw [← toList_lowerAscii] at hwrite
  rw [← claimsSegwit_lowerAscii, claimsSegwit, hwrite, Bech32.splitAtLast?_write]
  simp only [String.ofList_toList]

theorem claimsSegwit_of_segwit (h : Bech32.Segwit.decode s = .ok c) :
    r.claimsSegwit default s = r.knowsHrp default c.hrp := by
  obtain ⟨-, symbols, -, hread⟩ := Bech32.Segwit.decode_eq_ok_iff.1 h
  rw [claimsSegwit_of_decode hread]

/-- No public key is read from the text of a program of version zero or one, whose first symbol is
written `q` or `p`. -/
theorem publicKeyHex_of_segwit (h : Bech32.Segwit.decode s = .ok c)
    (hversion : c.version = 0 ∨ c.version = 1) :
    ∃ reason, Decoder.publicKeyHex default s = .passed reason := by
  obtain ⟨version, ds, hbyte, hwrite⟩ := Bech32.Segwit.exists_write_of_decode h
  have hmem : version.char ∈ (lowerAscii s).toList := by
    rw [hwrite]
    exact List.mem_append_right _ (List.mem_cons_of_mem _ List.mem_cons_self)
  have hchar : version.char ∉ Hex.alphabet := by
    have hsymbol := Bech32.Symbol.ofByte?_eq_some_iff.2 hbyte
    rcases hversion with hzero | hone
    · rw [hzero] at hsymbol
      rw [← Option.some.inj hsymbol]
      decide
    · rw [hone] at hsymbol
      rw [← Option.some.inj hsymbol]
      decide
  simp only [Decoder.publicKeyHex]
  split
  · split
    · next key hkey => exact absurd (Hex.mem_alphabet_of_decode hkey hmem) hchar
    · exact ⟨_, rfl⟩
  · exact ⟨_, rfl⟩

/-- A segwit text of base-58 digits is long enough to hold a checksum, which is then a wrong one. -/
theorem decodeData_of_segwit (h : Bech32.Segwit.decode s = .ok c)
    (hdigits : ∀ x ∈ s.toList, x ∈ Base58.alphabet)
    (hdata : ¬ ∃ data, Base58.Checked.decodeData s = .ok data) :
    Base58.Checked.decodeData s = .error .checksumMismatch :=
  Base58.Checked.decodeData_eq_checksumMismatch hdigits (Bech32.Segwit.le_length_of_decode h) hdata

/-- The human-readable parts that are known are those of the default network and the registered
networks, as all of them are in lower case. -/
theorem knowsHrp_iff (hr : r.Reachable) (hd : default.validate = .ok ()) {hrp : String}
    (hlower : lowerAscii hrp = hrp) :
    r.knowsHrp default hrp = true ↔ hrp = default.hrp ∨ ∃ n ∈ r.networks, hrp = n.hrp := by
  rw [knowsHrp, Bool.or_eq_true, hr.isSome_withHrp?_iff hlower,
    sameIgnoringCase_iff_eq (Network.lowerAscii_hrp hd) hlower]
  exact or_congr eq_comm (exists_congr fun _ => and_congr_right fun _ => eq_comm)

/-! ## Known and unknown human-readable parts -/

/-- Where the human-readable part of a segwit text is known, its program decides. -/
theorem decode_of_knowsHrp (h : Bech32.Segwit.decode s = .ok c)
    (hdata : ¬ ∃ data, Base58.Checked.decodeData s = .ok data)
    (hknown : r.knowsHrp default c.hrp = true) :
    r.decode default s = Address.ofWitnessProgram c.hrp c.version c.program := by
  cases hd : Base58.Checked.decodeData s with
  | ok data => exact absurd ⟨data, hd⟩ hdata
  | error e =>
    rw [← claimsSegwit_of_segwit h] at hknown
    rw [decode_of_segwit hd hknown, segwitAddress, bind_of_ok h]

/-- A text of base-58 digits could be a numeral with a wrong checksum, and any other is of no known
format. -/
theorem decode_of_not_knowsHrp (h : Bech32.Segwit.decode s = .ok c)
    (hversion : c.version = 0 ∨ c.version = 1)
    (hdata : ¬ ∃ data, Base58.Checked.decodeData s = .ok data)
    (hknown : ¬ r.knowsHrp default c.hrp = true) :
    ((∀ x ∈ s.toList, x ∈ Base58.alphabet) → r.decode default s = .error .checksumMismatch) ∧
      (¬ (∀ x ∈ s.toList, x ∈ Base58.alphabet) →
        ∃ attempts, r.decode default s = .error (.unknownAddressFormat s attempts)) := by
  have hclaim : r.claimsSegwit default s = false := by
    rw [claimsSegwit_of_segwit h]
    exact Bool.eq_false_iff.2 hknown
  obtain ⟨reason, hreason⟩ : ∃ reason, Decoder.publicKeyHex default s = .passed reason :=
    publicKeyHex_of_segwit h hversion
  refine ⟨fun hdigits => ?_, fun hdigits => ?_⟩
  · exact (decode_of_passed (decodeData_of_segwit h hdigits hdata) hclaim hreason).1 rfl
  · obtain ⟨fault, hfault⟩ := Base58.Checked.exists_decodeData_eq_base58 hdigits
    exact (decode_of_passed hfault hclaim hreason).2 (by simp)

/-- **Both texts of a witness address are read as the address wherever its human-readable part is
known**, even if all their characters are base-58 digits and only the checksum tells them from a
Base58Check text. Elsewhere they are refused. -/
theorem decode_witness_text (hr : r.Reachable) {p d : Network} (hp : p.validate = .ok ())
    (hd : d.validate = .ok ()) {program : Bytes} {a : Address}
    (ha : Address.toWitnessPubKeyHash program p = .ok a ∨
      Address.toWitnessScriptHash program p = .ok a ∨ Address.toTaproot program p = .ok a)
    {t : String} (ht : t = a.encode ∨ t = upperAscii a.encode)
    (hdata : ¬ ∃ data, Base58.Checked.decodeData t = .ok data) :
    ((p.hrp = d.hrp ∨ ∃ n ∈ r.networks, p.hrp = n.hrp) → r.decode d t = .ok a) ∧
      (¬ (p.hrp = d.hrp ∨ ∃ n ∈ r.networks, p.hrp = n.hrp) →
        ((∀ x ∈ t.toList, x ∈ Base58.alphabet) → r.decode d t = .error .checksumMismatch) ∧
        (¬ (∀ x ∈ t.toList, x ∈ Base58.alphabet) →
          ∃ attempts, r.decode d t = .error (.unknownAddressFormat t attempts))) ∧
      ((∀ x ∈ t.toList, x ∈ Base58.alphabet) →
        Base58.Checked.decodeData t = .error .checksumMismatch) := by
  obtain ⟨version, hversion, ha⟩ := Address.exists_ofWitnessProgram ha
  have hlower := Network.lowerAscii_hrp hp
  have hwrite := Address.encode_of_ofWitnessProgram ha
  rw [hlower] at hwrite
  have hread := (Bech32.Segwit.decode_eq_ok_iff_of_encode hwrite).2 ht
  rw [← knowsHrp_iff hr hd hlower]
  refine ⟨fun hknown => ?_, fun hknown => ?_, fun hdigits => ?_⟩
  · exact (decode_of_knowsHrp hread hdata hknown).trans ha
  · exact decode_of_not_knowsHrp hread hversion hdata hknown
  · exact decodeData_of_segwit hread hdigits hdata

/-- Capitals that are all base-58 digits, read under their own network and under another. -/
theorem decode_witness_text_of_digits :
    let p : Network := ⟨"litecoin", 0xdbb6c0fb, 0x30, 0x32, 0xb0, "ltc"⟩
    let t := "LTC1QQURSWPC8QURSWPC8QURSWPC8QURSWPC8P4R4UU"
    let program : Bytes := List.replicate 20 7
    let a : Address := .witnessPubKeyHash ⟨0, program, "ltc", lowerAscii t⟩
    Registry.predefined.Reachable ∧ p.validate = .ok () ∧ Network.mainnet.validate = .ok () ∧
      Address.toWitnessPubKeyHash program p = .ok a ∧ t = upperAscii a.encode ∧
      (¬ ∃ data, Base58.Checked.decodeData t = .ok data) ∧
      Registry.predefined.decode p t = .ok a ∧
      Registry.predefined.decode Network.mainnet t = .error .checksumMismatch := by
  intro p t program a
  have hp : p.validate = .ok () := by decide +kernel
  have hd : Network.mainnet.validate = .ok () := by decide +kernel
  have ha : Address.toWitnessPubKeyHash program p = .ok a := by decide +kernel
  have ht : t = upperAscii a.encode := by decide +kernel
  have hmismatch : Base58.Checked.decodeData t = .error .checksumMismatch := by decide +kernel
  have hdata : ¬ ∃ data, Base58.Checked.decodeData t = .ok data := by
    rintro ⟨data, h⟩
    rw [hmismatch] at h
    cases h
  have hdigits : ∀ x ∈ t.toList, x ∈ Base58.alphabet := by
    by_contra hother
    obtain ⟨fault, hfault⟩ := Base58.Checked.exists_decodeData_eq_base58 hother
    rw [hmismatch] at hfault
    cases hfault
  have hother : ¬ (p.hrp = Network.mainnet.hrp ∨ ∃ n ∈ predefined.networks, p.hrp = n.hrp) := by
    decide +kernel
  have hown := decode_witness_text .predefined hp hp (Or.inl ha) (Or.inr ht) hdata
  have hforeign := decode_witness_text .predefined hp hd (Or.inl ha) (Or.inr ht) hdata
  exact ⟨.predefined, hp, hd, ha, ht, hdata, hown.1 (Or.inl rfl), (hforeign.2.1 hother).1 hdigits⟩

end Registry

end CoinAddress
