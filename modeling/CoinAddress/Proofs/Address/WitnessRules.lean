import CoinAddress.Proofs.Address.Witness
import CoinAddress.Proofs.Bech32.SegwitRules
import CoinAddress.Proofs.Network.Reachable

/-!
# When a witness address can be made

The makers of witness addresses take the programs of version zero with 20 or 32 bytes and those of
version one with 32 bytes. On a valid network only the length of the text can then be wrong: of its
ninety characters a program of 20 bytes leaves 50 for the human-readable part and one of 32 bytes
leaves 30, but a human-readable part may have up to 83.

For version zero, two makers share the lengths, and the address is made before its kind is looked
at. So a program that has the length of the other maker is refused for the length of the text first.
`Misfit` gives the first rule that is broken, and `Address.toWitness_outcome` says that a maker
fails for no other reason.
-/

namespace CoinAddress

open Bech32

variable {net : Network} {hrp : String} {version : UInt8} {program : Bytes} {wanted : Nat}

/-! ## The rules -/

/-- The versions and lengths of the witness programs that addresses are made of. -/
def IsKnownLength (version : UInt8) (n : Nat) : Prop :=
  version = 0 ∧ (n = 20 ∨ n = 32) ∨ version = 1 ∧ n = 32

/-- A program of 20 or 32 bytes leaves too little room for a human-readable part. -/
def HrpTooLong (hrp : String) (n : Nat) : Prop :=
  n = 20 ∧ 50 < hrp.toList.length ∨ n = 32 ∧ 30 < hrp.toList.length

/-- The first rule that a program breaks where a length is wanted, as the error that reports it. -/
inductive Misfit (net : Network) (version : UInt8) (wanted : Nat) (program : Bytes) : Error → Prop
  | programLength (h : ¬ IsKnownLength version program.length) :
      Misfit net version wanted program (.unsupportedProgramLength version program.length)
  | textLength (hlength : IsKnownLength version program.length)
      (h : HrpTooLong net.hrp program.length) :
      Misfit net version wanted program (.malformed .segwitTooLong)
  | kind (hlength : IsKnownLength version program.length)
      (hroom : ¬ HrpTooLong net.hrp program.length) (h : program.length ≠ wanted) :
      Misfit net version wanted program (.invalidLength wanted program.length)

theorem IsKnownLength.version_le {n : Nat} (h : IsKnownLength version n) : version ≤ 16 := by
  rcases h with ⟨rfl, -⟩ | ⟨rfl, -⟩ <;> decide

theorem IsKnownLength.isProgramLength {n : Nat} (h : IsKnownLength version n) :
    Segwit.IsProgramLength version n := by
  rcases h with ⟨-, hn⟩ | ⟨rfl, hn⟩
  · exact ⟨by omega, by omega, fun _ => hn⟩
  · exact ⟨by omega, by omega, fun h => absurd h (by decide)⟩

/-- Thirty-two symbols carry 20 bytes, and fifty-two carry 32. -/
theorem IsKnownLength.fits_iff (h : IsKnownLength version program.length)
    (hvalid : Hrp.validate hrp = .ok ()) :
    Segwit.Fits ⟨hrp, version, program⟩ ↔ ¬ HrpTooLong hrp program.length := by
  obtain ⟨-, -, hchar⟩ := Hrp.validate_eq_ok_iff.1 hvalid
  have hn : program.length = 20 ∨ program.length = 32 := by
    rcases h with ⟨-, hn⟩ | ⟨-, hn⟩
    · exact hn
    · exact Or.inr hn
  rw [Segwit.Fits, HrpTooLong, Hrp.byteLength_of_isChar hchar, Nat.ceilDiv_eq_add_pred_div]
  dsimp only
  omega

/-! ## The address of a program -/

/-- On a valid network the address of a program has the text that is written for the program. -/
theorem WitnessAddress.ofProgram_of_validate (hnet : net.validate = .ok ()) :
    ofProgram net.hrp version program = (Segwit.encode ⟨net.hrp, version, program⟩).map
      fun text => ⟨version, program, net.hrp, text⟩ := by
  have hvalid := (Network.validate_eq_ok_iff.1 hnet).2
  simp only [ofProgram, Network.lowerAscii_hrp hnet]
  rw [bind_of_ok hvalid]
  rfl

namespace Address

/-- Version and length tell the kind of the address, and nothing else. -/
theorem exists_ofWitnessProgram_eq_map (hlength : IsKnownLength version program.length) :
    ∃ make : WitnessAddress → Address, ofWitnessProgram hrp version program =
      (WitnessAddress.ofProgram hrp version program).map make := by
  rcases hlength with ⟨hversion, hn | hn⟩ | ⟨hversion, hn⟩
  · exact ⟨witnessPubKeyHash, by simp [ofWitnessProgram, hversion, hn]⟩
  · exact ⟨witnessScriptHash, by simp [ofWitnessProgram, hversion, hn]⟩
  · exact ⟨taproot, by simp [ofWitnessProgram, hversion, hn]⟩

/-- **A program with room for its text has an address.** -/
theorem exists_ofWitnessProgram_of_fits (hnet : net.validate = .ok ())
    (hlength : IsKnownLength version program.length)
    (hroom : ¬ HrpTooLong net.hrp program.length) :
    ∃ a, ofWitnessProgram net.hrp version program = .ok a := by
  have hvalid := (Network.validate_eq_ok_iff.1 hnet).2
  obtain ⟨make, hmake⟩ := exists_ofWitnessProgram_eq_map hlength
  obtain ⟨text, htext⟩ := Segwit.exists_encode_of_writable (c := ⟨net.hrp, version, program⟩)
    ⟨hlength.version_le, hlength.isProgramLength, hvalid, (hlength.fits_iff hvalid).2 hroom⟩
  rw [hmake, WitnessAddress.ofProgram_of_validate hnet, htext]
  exact ⟨_, rfl⟩

theorem ofWitnessProgram_of_hrpTooLong (hnet : net.validate = .ok ())
    (hlength : IsKnownLength version program.length) (h : HrpTooLong net.hrp program.length) :
    ofWitnessProgram net.hrp version program = .error (.malformed .segwitTooLong) := by
  have hvalid := (Network.validate_eq_ok_iff.1 hnet).2
  have hfits : ¬ Segwit.Fits ⟨net.hrp, version, program⟩ := fun hfits =>
    (hlength.fits_iff hvalid).1 hfits h
  obtain ⟨make, hmake⟩ := exists_ofWitnessProgram_eq_map hlength
  rw [hmake, map_eq_error, WitnessAddress.ofProgram_of_validate hnet, map_eq_error]
  exact Segwit.encode_of_breaks (.textLength hlength.version_le hlength.isProgramLength
    (mapError_eq_ok.1 hvalid) hfits)

theorem ofWitnessProgram_of_not_isKnownLength (hversion : version = 0 ∨ version = 1)
    (h : ¬ IsKnownLength version program.length) :
    ofWitnessProgram hrp version program =
      .error (.unsupportedProgramLength version program.length) := by
  have hkeyHash : ¬ (version = 0 ∧ program.length = 20) := fun hn => h (Or.inl ⟨hn.1, Or.inl hn.2⟩)
  have hscriptHash : ¬ (version = 0 ∧ program.length = 32) := fun hn =>
    h (Or.inl ⟨hn.1, Or.inr hn.2⟩)
  have htaproot : ¬ (version = 1 ∧ program.length = 32) := fun hn => h (Or.inr hn)
  rw [ofWitnessProgram, if_neg hkeyHash, if_neg hscriptHash, if_neg htaproot, if_pos hversion]

/-! ## The makers -/

/-- **What the makers have in common**: the address of a program is made, and refused if the program
has another length than the one that is wanted. -/
theorem make_outcome {expect : Address → Except Error Address} (hnet : net.validate = .ok ())
    (hversion : version = 0 ∨ version = 1) (hwanted : IsKnownLength version wanted)
    (hexpect : ∀ a, ofWitnessProgram net.hrp version program = .ok a → expect a =
      if program.length = wanted then .ok a else .error (.invalidLength wanted program.length)) :
    ((∃ a, (ofWitnessProgram net.hrp version program >>= expect) = .ok a) ↔
      program.length = wanted ∧ ¬ HrpTooLong net.hrp program.length) ∧
    ∀ e, (ofWitnessProgram net.hrp version program >>= expect) = .error e ↔
      Misfit net version wanted program e := by
  refine outcome_iff ?_ ?_ ?_
  · by_cases hlength : IsKnownLength version program.length
    · by_cases hroom : HrpTooLong net.hrp program.length
      · exact Or.inr ⟨_, .textLength hlength hroom⟩
      · by_cases hkind : program.length = wanted
        · exact Or.inl ⟨hkind, hroom⟩
        · exact Or.inr ⟨_, .kind hlength hroom hkind⟩
    · exact Or.inr ⟨_, .programLength hlength⟩
  · rintro ⟨hkind, hroom⟩
    obtain ⟨a, ha⟩ := exists_ofWitnessProgram_of_fits hnet (hkind ▸ hwanted) hroom
    exact ⟨a, by rw [bind_of_ok ha, hexpect a ha, if_pos hkind]⟩
  · intro e h
    cases h with
    | programLength h => exact bind_of_error (ofWitnessProgram_of_not_isKnownLength hversion h) _
    | textLength hlength h => exact bind_of_error (ofWitnessProgram_of_hrpTooLong hnet hlength h) _
    | kind hlength hroom h =>
      obtain ⟨a, ha⟩ := exists_ofWitnessProgram_of_fits hnet hlength hroom
      rw [bind_of_ok ha, hexpect a ha, if_neg h]

theorem toWitnessPubKeyHash_outcome (hnet : net.validate = .ok ()) (program : Bytes) :
    ((∃ a, toWitnessPubKeyHash program net = .ok a) ↔
      program.length = 20 ∧ ¬ HrpTooLong net.hrp program.length) ∧
    ∀ e, toWitnessPubKeyHash program net = .error e ↔ Misfit net 0 20 program e := by
  refine make_outcome hnet (Or.inl rfl) (Or.inl ⟨rfl, Or.inl rfl⟩) fun a ha => ?_
  obtain ⟨w, -, ⟨-, hn, rfl⟩ | ⟨-, hn, rfl⟩ | ⟨hversion, -⟩⟩ := ofWitnessProgram_eq_ok_iff.1 ha
  · rw [if_pos hn]
  · rw [if_neg (by omega)]
  · exact absurd hversion (by decide)

theorem toWitnessScriptHash_outcome (hnet : net.validate = .ok ()) (program : Bytes) :
    ((∃ a, toWitnessScriptHash program net = .ok a) ↔
      program.length = 32 ∧ ¬ HrpTooLong net.hrp program.length) ∧
    ∀ e, toWitnessScriptHash program net = .error e ↔ Misfit net 0 32 program e := by
  refine make_outcome hnet (Or.inl rfl) (Or.inl ⟨rfl, Or.inr rfl⟩) fun a ha => ?_
  obtain ⟨w, -, ⟨-, hn, rfl⟩ | ⟨-, hn, rfl⟩ | ⟨hversion, -⟩⟩ := ofWitnessProgram_eq_ok_iff.1 ha
  · rw [if_neg (by omega)]
  · rw [if_pos hn]
  · exact absurd hversion (by decide)

/-- There is one length only, so nothing is looked at once the address is made. -/
theorem toTaproot_outcome (hnet : net.validate = .ok ()) (program : Bytes) :
    ((∃ a, toTaproot program net = .ok a) ↔
      program.length = 32 ∧ ¬ HrpTooLong net.hrp program.length) ∧
    ∀ e, toTaproot program net = .error e ↔ Misfit net 1 32 program e := by
  have hmake : toTaproot program net = ofWitnessProgram net.hrp 1 program >>= .ok :=
    (bind_pure _).symm
  rw [hmake]
  refine make_outcome hnet (Or.inr rfl) (Or.inr ⟨rfl, rfl⟩) fun a ha => ?_
  obtain ⟨w, -, ⟨hversion, -⟩ | ⟨hversion, -⟩ | ⟨-, hn, -⟩⟩ := ofWitnessProgram_eq_ok_iff.1 ha
  · exact absurd hversion (by decide)
  · exact absurd hversion (by decide)
  · rw [if_pos hn]

/-- **On a valid network a witness address is made of a program of the right length if the
human-readable part has at most 50 characters for 20 bytes and at most 30 for 32**, and a program is
refused with the error of the first rule that it breaks: on its length for its version, on the room
for the text, and at last on the length that the maker wants. -/
theorem toWitness_outcome (hnet : net.validate = .ok ()) (program : Bytes) :
    ((∃ a, toWitnessPubKeyHash program net = .ok a) ↔
      program.length = 20 ∧ net.hrp.toList.length ≤ 50) ∧
    ((∃ a, toWitnessScriptHash program net = .ok a) ↔
      program.length = 32 ∧ net.hrp.toList.length ≤ 30) ∧
    ((∃ a, toTaproot program net = .ok a) ↔
      program.length = 32 ∧ net.hrp.toList.length ≤ 30) ∧
    (∀ e, toWitnessPubKeyHash program net = .error e ↔ Misfit net 0 20 program e) ∧
    (∀ e, toWitnessScriptHash program net = .error e ↔ Misfit net 0 32 program e) ∧
    ∀ e, toTaproot program net = .error e ↔ Misfit net 1 32 program e := by
  obtain ⟨hkeyHash, hkeyHash'⟩ := toWitnessPubKeyHash_outcome hnet program
  obtain ⟨hscriptHash, hscriptHash'⟩ := toWitnessScriptHash_outcome hnet program
  obtain ⟨htaproot, htaproot'⟩ := toTaproot_outcome hnet program
  rw [hkeyHash, hscriptHash, htaproot, HrpTooLong]
  exact ⟨by omega, by omega, by omega, hkeyHash', hscriptHash', htaproot'⟩

/-- Thirty-one characters leave room for 20 bytes, but not for 32. Where there is room for them, 32
bytes are refused by the maker that wants 20. -/
theorem toWitness_outcome_length_thirty_two :
    let net : Network := ⟨"long", 0, 0, 1, 2, "abcdefghijklmnopqrstuvwxyzabcde"⟩
    let program : Bytes := List.replicate 32 0
    net.validate = .ok () ∧ Network.mainnet.validate = .ok () ∧
      (∃ a, toWitnessPubKeyHash (program.take 20) net = .ok a) ∧
      toWitnessPubKeyHash program net = .error (.malformed .segwitTooLong) ∧
      toWitnessPubKeyHash program Network.mainnet = .error (.invalidLength 20 32) := by
  intro net program
  have hnet : net.validate = .ok () := by decide +kernel
  have hmain : Network.mainnet.validate = .ok () := by decide +kernel
  have hlength : IsKnownLength 0 program.length := Or.inl ⟨rfl, Or.inr rfl⟩
  have hlong : HrpTooLong net.hrp program.length := Or.inr ⟨rfl, by decide⟩
  have hroom : ¬ HrpTooLong Network.mainnet.hrp program.length := by
    rintro (⟨h, -⟩ | ⟨-, h⟩) <;> exact absurd h (by decide)
  obtain ⟨hshort, -⟩ := toWitness_outcome hnet (program.take 20)
  obtain ⟨-, -, -, hrefused, -⟩ := toWitness_outcome hnet program
  obtain ⟨-, -, -, hrefused', -⟩ := toWitness_outcome hmain program
  exact ⟨hnet, hmain, hshort.2 ⟨rfl, by decide⟩, (hrefused _).2 (.textLength hlength hlong),
    (hrefused' _).2 (.kind hlength hroom (by decide))⟩

end Address

end CoinAddress
