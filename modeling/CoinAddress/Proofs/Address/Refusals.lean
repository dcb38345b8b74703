import CoinAddress.Proofs.Address.PublicKeyText
import CoinAddress.Proofs.Bech32.SegwitTexts

/-!
# Why a text is refused as an address

`Refusal` lists the errors with which a text is refused, and `Registry.decode_refusals` says that
there are no others. In particular no fault of base 58, of hexadecimal digits or of the curve is
reported as such, and none of a human-readable part: a text with an empty one would have to be
claimed by a network with an empty one, and no valid network has it (`Registry.not_parts_nil`).

What a segwit text carries can always be written again (`WitnessAddress.ofProgram_of_decode`). So
once it is read, its program is refused only if addresses of its version and length are not known
(`Address.ofWitnessProgram_eq_error_iff`).
-/

namespace CoinAddress

open Text Bech32

/-! ## The errors -/

/-- The ways in which the data of a text has the wrong shape. -/
inductive Malformed.OfText : Malformed → Prop
  | tooLong (length : Nat) : OfText (.tooLong length)
  | noSeparator : OfText .noSeparator
  | noChecksum : OfText .noChecksum
  | noData : OfText .noData
  | noVersion : OfText .noVersion
  | privateKeyVersion (version : UInt8) : OfText (.privateKeyVersion version)
  | unknownVersion (version : UInt8) : OfText (.unknownVersion version)
  | hashLength (length : Nat) (version : UInt8) : OfText (.hashLength length version)

/-- The errors with which a text is refused as an address. -/
inductive Refusal : Error → Prop
  | checksumMismatch : Refusal .checksumMismatch
  | malformed {cause : Malformed} (h : cause.OfText) : Refusal (.malformed cause)
  | addressCollision (version : UInt8) : Refusal (.addressCollision version)
  | invalidCharacter (c : Char) (index : Nat) : Refusal (.invalidCharacter c index)
  | mixedCase : Refusal .mixedCase
  | unsupportedWitnessVersion (version : UInt8) : Refusal (.unsupportedWitnessVersion version)
  | unsupportedProgramLength (version : UInt8) (length : Nat) :
      Refusal (.unsupportedProgramLength version length)
  | nonZeroPadding : Refusal .nonZeroPadding
  | excessPadding (bits : Nat) : Refusal (.excessPadding bits)
  | invalidPublicKey (fault : PublicKeyFault) : Refusal (.invalidPublicKey fault)
  | invalidLength (expected actual : Nat) : Refusal (.invalidLength expected actual)
  | unknownAddressFormat (input : String) (attempts : List Attempt) :
      Refusal (.unknownAddressFormat input attempts)

/-- A witness program of a version or length that no address has, as the error that reports it. -/
inductive Unsupported (c : Segwit.Content) : Error → Prop
  | version (h : 2 ≤ c.version) (hle : c.version ≤ 16) :
      Unsupported c (.unsupportedWitnessVersion c.version)
  | programLength (h : c.version = 1) (hlength : c.program.length ≠ 32) :
      Unsupported c (.unsupportedProgramLength 1 c.program.length)

variable {s : String} {e : Error} {c : Segwit.Content}

theorem Unsupported.refusal (h : Unsupported c e) : Refusal e := by
  cases h with
  | version => exact .unsupportedWitnessVersion _
  | programLength => exact .unsupportedProgramLength _ _

/-! ## Programs that were read -/

theorem two_le_of_ne {version : UInt8} (hzero : version ≠ 0) (hone : version ≠ 1) :
    2 ≤ version := by
  have hzero' : version.toNat ≠ 0 := fun h => hzero (UInt8.toNat_inj.1 h)
  have hone' : version.toNat ≠ 1 := fun h => hone (UInt8.toNat_inj.1 h)
  exact UInt8.le_iff_toNat_le.2 (by show 2 ≤ version.toNat; omega)

/-- **What was read can be written again.** -/
theorem WitnessAddress.ofProgram_of_decode (h : Segwit.decode s = .ok c) :
    ofProgram c.hrp c.version c.program = .ok ⟨c.version, c.program, c.hrp, lowerAscii s⟩ := by
  obtain ⟨-, hwrite⟩ := Segwit.decode_eq_ok_iff_encode.1 h
  have hlower := Segwit.lowerAscii_hrp_of_decode h
  have hvalid := (Segwit.exists_encode_iff.1 ⟨_, hwrite⟩).validate_hrp
  rw [ofProgram_eq_ok_iff, hlower]
  exact ⟨rfl, rfl, rfl, hvalid, hwrite⟩

/-- **A program that was read is refused for its version or its length only.** -/
theorem Address.ofWitnessProgram_eq_error_iff (h : Segwit.decode s = .ok c) :
    ofWitnessProgram c.hrp c.version c.program = .error e ↔ Unsupported c e := by
  obtain ⟨-, hwrite⟩ := Segwit.decode_eq_ok_iff_encode.1 h
  have hwritable := Segwit.exists_encode_iff.1 ⟨_, hwrite⟩
  rw [ofWitnessProgram, WitnessAddress.ofProgram_of_decode h]
  constructor
  · intro herror
    split at herror
    · cases herror
    · next hkeyHash =>
      split at herror
      · cases herror
      · next hscriptHash =>
        split at herror
        · cases herror
        · next htaproot =>
          split at herror
          · next hversion =>
            cases herror
            rcases hversion with hzero | hone
            · -- A program of version zero has one of two lengths.
              rcases hwritable.isProgramLength.2.2 hzero with hlen | hlen
              · exact absurd ⟨hzero, hlen⟩ hkeyHash
              · exact absurd ⟨hzero, hlen⟩ hscriptHash
            · rw [hone]
              exact .programLength hone fun hlen => htaproot ⟨hone, hlen⟩
          · next hversion =>
            cases herror
            obtain ⟨hzero, hone⟩ := not_or.1 hversion
            exact .version (two_le_of_ne hzero hone) hwritable.version_le
  · rintro (⟨htwo, -⟩ | ⟨hone, hlength⟩)
    · have hzero : c.version ≠ 0 := fun h => absurd (h ▸ htwo) (by decide)
      have hone : c.version ≠ 1 := fun h => absurd (h ▸ htwo) (by decide)
      simp [hzero, hone]
    · simp [hone, hlength]

/-! ## The families -/

/-- The error of a text that breaks a rule of bech32, unless its human-readable part is empty. -/
theorem refusal_of_breaks (h : Breaks s e) (hhrp : ∀ rest, ¬ Parts s [] rest) : Refusal e := by
  cases h with
  | length => exact .malformed (.tooLong _)
  | character => exact .invalidCharacter _ _
  | mixedCase => exact .mixedCase
  | separator => exact .malformed .noSeparator
  | hrp _ hparts => exact absurd hparts (hhrp _)
  | checksumLength => exact .malformed .noChecksum
  | symbol => exact .invalidCharacter _ _
  | checksum => exact .checksumMismatch

theorem refusal_of_strictGroups {source target : Nat} {stream : List Nat}
    (h : strictGroups source target stream = .error e) : Refusal e := by
  simp only [strictGroups] at h
  split at h
  · cases h
    exact .excessPadding _
  · split at h <;> cases h
    exact .nonZeroPadding

/-- The error of a text that breaks a rule of segwit, unless its human-readable part is empty. -/
theorem refusal_of_segwit (h : Segwit.decode s = .error e) (hhrp : ∀ rest, ¬ Parts s [] rest) :
    Refusal e := by
  cases Segwit.decode_eq_error_iff.1 h with
  | text hbreaks => exact refusal_of_breaks hbreaks hhrp
  | noVersion => exact .malformed .noData
  | version => exact .unsupportedWitnessVersion _
  | variant => exact .checksumMismatch
  | padding _ hbits => exact refusal_of_strictGroups hbits
  | programLength => exact .unsupportedProgramLength _ _

theorem refusal_of_toPubKey {key : Bytes} {net : Network}
    (h : Address.toPubKey key net = .error e) : Refusal e := by
  have h := map_eq_error.1 h
  cases key with
  | nil =>
    cases h
    exact .invalidPublicKey _
  | cons lead rest =>
    rcases bind_eq_error.1 h with h | ⟨format, -, h⟩
    · rw [KeyFormat.ofLeadingByte] at h
      split at h
      · cases h
      · split at h
        · cases h
        · split at h <;> cases h
          exact .invalidPublicKey _
    · split at h <;> cases h
      exact .invalidLength _ _

namespace Registry

variable {r : Registry} {d : Network}

/-- A version byte and a hash are refused for the byte, the length of the hash, or the network that
decides about the byte, and never for a checksum. -/
theorem classify_eq_error {data : Bytes} (h : r.classify d data = .error e) :
    (∃ version, e = .addressCollision version) ∨ ∃ cause, e = .malformed cause ∧ cause.OfText := by
  cases data with
  | nil =>
    cases h
    exact Or.inr ⟨_, rfl, .noVersion⟩
  | cons version hash =>
    cases hn : r.networkFor? d version with
    | none =>
      rw [classify_cons_of_none hn] at h
      cases h
      refine Or.inr ⟨_, rfl, ?_⟩
      rw [strangeVersion]
      split
      · exact .privateKeyVersion version
      · exact .unknownVersion version
    | some n =>
      by_cases hlen : hash.length = 20
      · rw [classify_cons_toList hn ⟨hash, hlen⟩] at h
        split at h <;> cases h
        exact Or.inl ⟨version, rfl⟩
      · rw [classify_cons hn, if_pos hlen] at h
        split at h <;> cases h
        · exact Or.inl ⟨version, rfl⟩
        · exact Or.inr ⟨_, rfl, .hashLength hash.length version⟩

theorem refusal_of_classify {data : Bytes} (h : r.classify d data = .error e) : Refusal e := by
  obtain ⟨version, rfl⟩ | ⟨cause, rfl, hcause⟩ := classify_eq_error h
  · exact .addressCollision version
  · exact .malformed hcause

/-- No text with an empty human-readable part is claimed, as valid networks have none. -/
theorem not_parts_nil (hr : r.Reachable) (hd : d.validate = .ok ())
    (hclaim : r.claimsSegwit d s = true) (rest : List Char) : ¬ Parts s [] rest := by
  intro hparts
  obtain ⟨n, hn, before, behind, hs, hbehind, hhrp⟩ := claimsSegwit_iff.1 hclaim
  have hcut : some ([], rest) = some (before, behind) :=
    (splitAtLast?_of_parts hparts).symm.trans (splitAtLast?_eq_some_iff.2 ⟨hs, hbehind⟩)
  cases hcut
  have hvalid : n.validate = .ok () := by
    rcases List.mem_cons.1 hn with rfl | hn
    · exact hd
    · exact hr.validate_of_mem n hn
  obtain ⟨hne, -⟩ := Hrp.validate_eq_ok_iff.1 (Network.validate_eq_ok_iff.1 hvalid).2
  rw [sameIgnoringCase_iff_eq (Network.lowerAscii_hrp hvalid) rfl] at hhrp
  exact hne (hhrp ▸ rfl)

/-! ## All texts -/

/-- Each family has its errors, and no text that all families pass over has any but two. -/
theorem refusal_of_decode (hr : r.Reachable) (hd : d.validate = .ok ())
    (h : r.decode d s = .error e) : Refusal e := by
  have hcases := decode_eq_cases r d s
  rw [h] at hcases
  obtain ⟨data, -, hdata⟩ | ⟨-, ⟨hclaim, hsegwit⟩ | ⟨-, hkey | hnone | ⟨attempts, hnone⟩⟩⟩ := hcases
  · exact refusal_of_classify hdata.symm
  · rcases bind_eq_error.1 hsegwit.symm with hread | ⟨c, hread, hmake⟩
    · exact refusal_of_segwit hread (not_parts_nil hr hd hclaim)
    · exact ((Address.ofWitnessProgram_eq_error_iff hread).1 hmake).refusal
  · obtain ⟨-, key, -, hmake⟩ := publicKeyHex_eq_claimed_iff.1 hkey
    exact refusal_of_toPubKey hmake
  · cases hnone
    exact .checksumMismatch
  · cases hnone
    exact .unknownAddressFormat s attempts

/-- **A text is refused with one of a few errors**, none of which is a fault of a human-readable
part, of base 58, of hexadecimal digits or of the curve. **Once a segwit text is read, its program
is refused only if its version is above one or its version is one and its length is not 32**; that
it could not be written again is no reason. -/
theorem decode_refusals (hr : r.Reachable) (hd : d.validate = .ok ()) (s : String) :
    (∀ e, r.decode d s = .error e → Refusal e) ∧
    (∀ fault, r.decode d s ≠ .error (.invalidHrp fault)) ∧
    (∀ fault, r.decode d s ≠ .error (.base58 fault)) ∧
    (∀ fault, r.decode d s ≠ .error (.hex fault)) ∧
    (∀ fault, r.decode d s ≠ .error (.curve fault)) ∧
    ∀ c, Segwit.decode s = .ok c →
      WitnessAddress.ofProgram c.hrp c.version c.program =
        .ok ⟨c.version, c.program, c.hrp, lowerAscii s⟩ ∧
      (∀ e, Address.ofWitnessProgram c.hrp c.version c.program = .error e ↔ Unsupported c e) ∧
      ((¬ ∃ data, Base58.Checked.decodeData s = .ok data) → r.knowsHrp d c.hrp = true →
        ∀ e, r.decode d s = .error e ↔ Unsupported c e) := by
  have hrefusal : ∀ e, r.decode d s = .error e → Refusal e := fun e => refusal_of_decode hr hd
  refine ⟨hrefusal, fun fault h => ?_, fun fault h => ?_, fun fault h => ?_, fun fault h => ?_,
    fun c hread => ⟨WitnessAddress.ofProgram_of_decode hread,
      fun e => Address.ofWitnessProgram_eq_error_iff hread, fun hdata hknown e => ?_⟩⟩
  · cases hrefusal _ h
  · cases hrefusal _ h
  · cases hrefusal _ h
  · cases hrefusal _ h
  · rw [decode_of_knowsHrp hread hdata hknown]
    exact Address.ofWitnessProgram_eq_error_iff hread

/-- A segwit text with a program of version 16 is read, and its program refused. -/
theorem decode_refusals_version_sixteen :
    let d := Network.mainnet
    let s := "BC1SW50QGDZ25J"
    let c : Segwit.Content := ⟨"bc", 16, [0x75, 0x1e]⟩
    predefined.Reachable ∧ d.validate = .ok () ∧ Segwit.decode s = .ok c ∧
      WitnessAddress.ofProgram c.hrp c.version c.program = .ok ⟨16, c.program, "bc", lowerAscii s⟩ ∧
      predefined.decode d s = .error (.unsupportedWitnessVersion 16) ∧
      ∀ fault, predefined.decode d s ≠ .error (.invalidHrp fault) := by
  intro d s c
  have hd : d.validate = .ok () := by decide +kernel
  have hread : Segwit.decode s = .ok c := by decide +kernel
  have hdata : ¬ ∃ data, Base58.Checked.decodeData s = .ok data := by
    -- The digit zero is no base-58 digit.
    obtain ⟨fault, hfault⟩ : ∃ fault, Base58.Checked.decodeData s = .error (.base58 fault) :=
      Base58.Checked.exists_decodeData_eq_base58 fun h =>
        absurd (h '0' (by decide +kernel)) (by decide)
    rintro ⟨data, h⟩
    rw [hfault] at h
    cases h
  have hknown : predefined.knowsHrp d c.hrp = true := by decide +kernel
  obtain ⟨-, hhrp, -, -, -, hread'⟩ := decode_refusals .predefined hd s
  obtain ⟨hagain, -, hrefused⟩ := hread' c hread
  have hversion : Unsupported c (.unsupportedWitnessVersion 16) := .version (by decide) (by decide)
  exact ⟨.predefined, hd, hread, hagain, (hrefused hdata hknown _).2 hversion, hhrp⟩

end Registry

end CoinAddress
