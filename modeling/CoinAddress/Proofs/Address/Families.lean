import CoinAddress.Address.Decoder
import CoinAddress.Proofs.Except

/-!
# Which family decides about a text

`Registry.decode` asks three families in order. The lemmas here name the family that decides:

* `decode_of_base58Check`, `decode_of_segwit` and `decode_of_publicKeyHex` give the answer of a
  family that claims a text which the families before it pass over;
* `decode_eq_cases` says that an answer can come from nowhere else, `decode_cases` says it of an
  address, and `decode_of_passed` which error is given if no family claims the text;
* `classify_eq_ok_iff` says when a version byte and a hash make an address, and which.
-/

namespace CoinAddress

namespace Registry

variable {r : Registry} {default : Network} {s : String}

/-! ## The verdicts -/

/-- Whether the bech32 family claims a text. -/
def claimsSegwit (r : Registry) (default : Network) (s : String) : Bool :=
  match Text.splitAtLast? Bech32.separator s.toList with
  | none => false
  | some (hrp, _) => r.knowsHrp default (String.ofList hrp)

/-- The address of a segwit text. -/
def segwitAddress (s : String) : Except Error Address := do
  let content ← Bech32.Segwit.decode s
  Address.ofWitnessProgram content.hrp content.version content.program

theorem bech32_of_claimsSegwit (h : r.claimsSegwit default s = true) :
    Decoder.bech32 r default s = .claimed (segwitAddress s) := by
  unfold claimsSegwit at h
  unfold Decoder.bech32
  cases hsplit : Text.splitAtLast? Bech32.separator s.toList with
  | none =>
    rw [hsplit] at h
    cases h
  | some parts =>
    rw [hsplit] at h
    exact if_pos h

theorem bech32_of_not_claimsSegwit (h : r.claimsSegwit default s = false) :
    ∃ reason, Decoder.bech32 r default s = .passed reason := by
  unfold claimsSegwit at h
  unfold Decoder.bech32
  cases hsplit : Text.splitAtLast? Bech32.separator s.toList with
  | none => exact ⟨_, rfl⟩
  | some parts =>
    rw [hsplit] at h
    exact ⟨_, if_neg (by simp only [h, Bool.false_eq_true, not_false_eq_true])⟩

/-! ## The deciding family -/

theorem decode_of_base58Check {data : Bytes} (h : Base58.Checked.decodeData s = .ok data) :
    r.decode default s = r.classify default data := by
  rw [decode, h]
  rfl

theorem decode_of_segwit {e : Error} (h : Base58.Checked.decodeData s = .error e)
    (hs : r.claimsSegwit default s = true) : r.decode default s = segwitAddress s := by
  rw [decode, h]
  simp only [Decoder.base58Check, bech32_of_claimsSegwit hs]

theorem decode_of_publicKeyHex {e : Error} {answer : Except Error Address}
    (h : Base58.Checked.decodeData s = .error e) (hs : r.claimsSegwit default s = false)
    (hk : Decoder.publicKeyHex default s = .claimed answer) : r.decode default s = answer := by
  obtain ⟨reason, hreason⟩ := bech32_of_not_claimsSegwit hs
  rw [decode, h]
  simp only [Decoder.base58Check, hreason, hk]

/-- **What is reported of a text that all families pass over**: a checksum that does not match, or
that the text is of no known format. -/
theorem decode_of_passed {e : Error} {reason : String} (h : Base58.Checked.decodeData s = .error e)
    (hs : r.claimsSegwit default s = false) (hk : Decoder.publicKeyHex default s = .passed reason) :
    (e = .checksumMismatch → r.decode default s = .error .checksumMismatch) ∧
      (e ≠ .checksumMismatch →
        ∃ attempts, r.decode default s = .error (.unknownAddressFormat s attempts)) := by
  obtain ⟨reason', hreason⟩ := bech32_of_not_claimsSegwit hs
  rw [decode, h]
  simp only [Decoder.base58Check, hreason, hk]
  refine ⟨fun he => by rw [he], fun he => ?_⟩
  split
  · next heq => exact absurd (Except.error.inj heq) he
  · exact ⟨_, rfl⟩

/-- **What is said of a text comes from one of the three families**, the first that claims the text,
or else no family claims it. -/
theorem decode_eq_cases (r : Registry) (default : Network) (s : String) :
    (∃ data, Base58.Checked.decodeData s = .ok data ∧
      r.decode default s = r.classify default data) ∨
    (∃ e, Base58.Checked.decodeData s = .error e) ∧
      (r.claimsSegwit default s = true ∧ r.decode default s = segwitAddress s ∨
        r.claimsSegwit default s = false ∧
          (Decoder.publicKeyHex default s = .claimed (r.decode default s) ∨
            r.decode default s = .error .checksumMismatch ∨
              ∃ attempts, r.decode default s = .error (.unknownAddressFormat s attempts))) := by
  cases hd : Base58.Checked.decodeData s with
  | ok data => exact Or.inl ⟨data, rfl, decode_of_base58Check hd⟩
  | error e =>
    refine Or.inr ⟨⟨e, rfl⟩, ?_⟩
    cases hs : r.claimsSegwit default s with
    | true => exact Or.inl ⟨rfl, decode_of_segwit hd hs⟩
    | false =>
      refine Or.inr ⟨rfl, ?_⟩
      cases hk : Decoder.publicKeyHex default s with
      | claimed answer => exact Or.inl (congrArg _ (decode_of_publicKeyHex hd hs hk).symm)
      | passed reason =>
        obtain ⟨hmismatch, hunknown⟩ := decode_of_passed hd hs hk
        by_cases he : e = .checksumMismatch
        · exact Or.inr (Or.inl (hmismatch he))
        · exact Or.inr (Or.inr (hunknown he))

/-- **Every address comes from one of the three families**, the first that claims the text. -/
theorem decode_cases {a : Address} (h : r.decode default s = .ok a) :
    (∃ data, Base58.Checked.decodeData s = .ok data ∧ r.classify default data = .ok a) ∨
    (∃ e, Base58.Checked.decodeData s = .error e) ∧
      (r.claimsSegwit default s = true ∧ segwitAddress s = .ok a ∨
        r.claimsSegwit default s = false ∧
          Decoder.publicKeyHex default s = .claimed (.ok a)) := by
  have hcases := decode_eq_cases r default s
  rw [h] at hcases
  obtain ⟨data, hd, hclass⟩ | ⟨hd, ⟨hs, hsegwit⟩ | ⟨hs, hkey | hnone | ⟨_, hnone⟩⟩⟩ := hcases
  · exact Or.inl ⟨data, hd, hclass.symm⟩
  · exact Or.inr ⟨hd, Or.inl ⟨hs, hsegwit.symm⟩⟩
  · exact Or.inr ⟨hd, Or.inr ⟨hs, hkey⟩⟩
  · cases hnone
  · cases hnone

/-! ## Version bytes -/

/-- The network that decides about a version byte: the default network before all others. -/
def networkFor? (r : Registry) (default : Network) (version : UInt8) : Option Network :=
  (default :: r.networks).find? fun n => n.pubKeyHashId == version || n.scriptHashId == version

theorem networkFor?_default {version : UInt8}
    (h : default.pubKeyHashId = version ∨ default.scriptHashId = version) :
    r.networkFor? default version = some default :=
  List.find?_cons_of_pos (by simpa using h)

theorem id_of_networkFor? {version : UInt8} {n : Network}
    (h : r.networkFor? default version = some n) :
    n.pubKeyHashId = version ∨ n.scriptHashId = version := by
  simpa using List.find?_some h

/-- The address of a hash under a version byte of a network. -/
def hashAddress (n : Network) (version : UInt8) (hash : FixedBytes 20) : Address :=
  if n.pubKeyHashId = version then .pubKeyHash ⟨hash, version⟩ else .scriptHash ⟨hash, version⟩

/-- The answer for a version byte that a network has, and what stands behind it. -/
theorem classify_cons {version : UInt8} {n : Network}
    (h : r.networkFor? default version = some n) (hash : Bytes) :
    r.classify default (version :: hash) =
      if n.pubKeyHashId = n.scriptHashId then .error (.addressCollision version)
      else if hash.length ≠ 20 then .error (.malformed (.hashLength hash.length version))
      else if n.pubKeyHashId = version then Address.toPubKeyHash hash n
      else Address.toScriptHash hash n := by
  rw [networkFor?] at h
  simp only [classify, h]

/-- The answer for a version byte that no network has for addresses. -/
theorem classify_cons_of_none {version : UInt8} (h : r.networkFor? default version = none)
    (hash : Bytes) : r.classify default (version :: hash) =
      .error (.malformed (r.strangeVersion default version)) := by
  rw [networkFor?] at h
  simp only [classify, h]

/-- The answer for a version byte and a hash of the right length. -/
theorem classify_cons_toList {version : UInt8} {n : Network}
    (h : r.networkFor? default version = some n) (hash : FixedBytes 20) :
    r.classify default (version :: hash.toList) =
      if n.pubKeyHashId = n.scriptHashId then .error (.addressCollision version)
      else .ok (hashAddress n version hash) := by
  have hlen : ¬ hash.toList.length ≠ 20 := Decidable.not_not.2 hash.length_toList
  rw [classify_cons h, if_neg hlen]
  rcases id_of_networkFor? h with hid | hid
  · simp only [hid, if_true, Address.toPubKeyHash, HashAddress.ofBytes, FixedBytes.ofList?_toList,
      hashAddress, Except.map]
  · by_cases hpk : n.pubKeyHashId = version
    · simp only [hpk, hid, if_true]
    · simp only [hpk, hid, if_false, Address.toScriptHash, HashAddress.ofBytes,
        FixedBytes.ofList?_toList, hashAddress, Except.map]

/-- **A version byte and a hash make an address under the network that decides about the byte**,
unless both roles of that network have the byte. -/
theorem classify_eq_ok_iff {data : Bytes} {a : Address} :
    r.classify default data = .ok a ↔ ∃ version hash n, data = version :: FixedBytes.toList hash ∧
      r.networkFor? default version = some n ∧ n.pubKeyHashId ≠ n.scriptHashId ∧
      a = hashAddress n version hash := by
  constructor
  · intro h
    obtain ⟨version, hash, n, rfl, hn⟩ : ∃ version hash n,
        data = version :: FixedBytes.toList (n := 20) hash ∧
          r.networkFor? default version = some n := by
      cases data with
      | nil => cases h
      | cons version bytes =>
        cases hn : r.networkFor? default version with
        | none =>
          rw [classify_cons_of_none hn] at h
          cases h
        | some n =>
          rw [classify_cons hn] at h
          split at h
          · cases h
          · split at h
            · cases h
            · next hlen => exact ⟨version, ⟨bytes, Decidable.not_not.1 hlen⟩, n, rfl, hn⟩
    rw [classify_cons_toList hn] at h
    split at h
    · cases h
    · next hne =>
      cases h
      exact ⟨version, hash, n, rfl, hn, hne, rfl⟩
  · rintro ⟨version, hash, n, rfl, hn, hne, rfl⟩
    rw [classify_cons_toList hn, if_neg hne]

end Registry

end CoinAddress
