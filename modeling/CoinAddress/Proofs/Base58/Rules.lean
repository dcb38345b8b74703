import CoinAddress.Proofs.Bounded

/-!
# Which texts have a version of a known length, and why others have none

A text of digits has a version and a payload if its bytes are enough for the version and a checksum
and end in their checksum. Otherwise there is a first rule that it breaks, and `VersionBreaks` gives
the error (`decode_version_eq_error_iff`).

The reader measures the bytes twice: for the version and the checksum together, and again when it
takes the checksum off. What is too short is found by the first measurement, so the second never
fails, and the version ends at a place of the data that is left.

On a machine the first measurement needs the sum of two lengths in a word. If there is one, the
machine reads as above (`Bounded.decodeVersion_eq_some`). A version so long that there is none stops
the machine at once or leaves a sum of at most three, which lets short bytes pass; then the second
measurement does fail, and the version ends behind the data (`Bounded.decodeVersion_wraps`).
`decode_version_outcome` puts this together.
-/

namespace CoinAddress

open Base58.Checked

variable {n : Nat} {s : String} {bs : Bytes}

namespace Base58.Checked

/-! ## The rules -/

theorem decodeRaw_eq_ok_iff : decodeRaw s = .ok bs ↔ Base58.decode s = .ok bs := mapError_eq_ok

theorem decodeRaw_of_error {fault : Fault} (h : Base58.decode s = .error fault) :
    decodeRaw s = .error (.base58 fault) := by
  rw [decodeRaw, h]
  rfl

/-- The first rule that a text breaks if its version has `n` bytes, as the error that reports it. -/
inductive VersionBreaks (n : Nat) (s : String) : Error → Prop
  | digits {fault : Fault} (h : Base58.decode s = .error fault) : VersionBreaks n s (.base58 fault)
  | length {bs : Bytes} (hbs : Base58.decode s = .ok bs) (h : bs.length < n + 4) :
      VersionBreaks n s (.malformed (.belowVersion bs.length n))
  | checksum {bs : Bytes} (hbs : Base58.decode s = .ok bs) (hlength : n + 4 ≤ bs.length)
      (h : ¬ Sealed bs) : VersionBreaks n s .checksumMismatch

/-- Enough bytes are cut behind the version when their checksum is off. -/
theorem decode_version_of_le (hbs : Base58.decode s = .ok bs) (hlength : n + 4 ≤ bs.length) :
    decode n s = (do
      let data ← verifyChecksum bs
      .ok (data.take n, data.drop n)) := by
  rw [decode, bind_of_ok (decodeRaw_eq_ok_iff.2 hbs)]
  exact if_neg (Nat.not_lt.2 hlength)

/-- The parts of enough bytes that end in their checksum. -/
theorem decode_version_of_sealed (hbs : Base58.decode s = .ok bs) (hlength : n + 4 ≤ bs.length)
    (h : Sealed bs) :
    decode n s = .ok ((bs.take (bs.length - 4)).take n, (bs.take (bs.length - 4)).drop n) := by
  rw [decode_version_of_le hbs hlength, verifyChecksum_of_le (by omega), if_pos h]
  rfl

/-- **A broken rule is reported**, whatever rules behind it are broken too. -/
theorem decode_version_of_breaks {e : Error} (h : VersionBreaks n s e) : decode n s = .error e := by
  cases h with
  | digits h => exact bind_of_error (decodeRaw_of_error h) _
  | length hbs h =>
    rw [decode, bind_of_ok (decodeRaw_eq_ok_iff.2 hbs)]
    exact if_pos h
  | checksum hbs hlength h =>
    rw [decode_version_of_le hbs hlength, verifyChecksum_of_le (by omega), if_neg h]
    rfl

/-- Every text has bytes that are enough and end in their checksum, or it breaks a first rule. -/
theorem sealed_or_breaks (n : Nat) (s : String) :
    (∃ bs, Base58.decode s = .ok bs ∧ n + 4 ≤ bs.length ∧ Sealed bs) ∨
      ∃ e, VersionBreaks n s e := by
  cases hbs : Base58.decode s with
  | error fault => exact Or.inr ⟨_, .digits hbs⟩
  | ok bs =>
    by_cases hlength : n + 4 ≤ bs.length
    · by_cases hsealed : Sealed bs
      · exact Or.inl ⟨bs, rfl, hlength, hsealed⟩
      · exact Or.inr ⟨_, .checksum hbs hlength hsealed⟩
    · exact Or.inr ⟨_, .length hbs (Nat.not_le.1 hlength)⟩

/-- **A text is refused for the first rule that it breaks and for nothing else**, and read if it
breaks none. -/
theorem decode_version_eq_error_iff (n : Nat) (s : String) :
    ((∃ parts, decode n s = .ok parts) ↔
      ∃ bs, Base58.decode s = .ok bs ∧ n + 4 ≤ bs.length ∧ Sealed bs) ∧
    ∀ e, decode n s = .error e ↔ VersionBreaks n s e :=
  outcome_iff (sealed_or_breaks n s)
    (fun ⟨_, hbs, hlength, hsealed⟩ => ⟨_, decode_version_of_sealed hbs hlength hsealed⟩)
    fun _ => decode_version_of_breaks

/-! ## Each rule by itself -/

theorem exists_versionBreaks_base58_iff :
    (∃ fault, VersionBreaks n s (.base58 fault)) ↔ ∃ c ∈ s.toList, c ∉ alphabet := by
  rw [← exists_decode_eq_error_iff]
  constructor
  · rintro ⟨fault, h⟩
    cases h with
    | digits h => exact ⟨fault, h⟩
  · rintro ⟨fault, h⟩
    exact ⟨fault, .digits h⟩

theorem exists_versionBreaks_malformed_iff (hbs : Base58.decode s = .ok bs) :
    (∃ cause, VersionBreaks n s (.malformed cause)) ↔ bs.length < n + 4 := by
  constructor
  · rintro ⟨cause, h⟩
    cases h with
    | length hbs' h =>
      cases hbs.symm.trans hbs'
      exact h
  · exact fun h => ⟨_, .length hbs h⟩

theorem versionBreaks_checksumMismatch_iff (hbs : Base58.decode s = .ok bs) :
    VersionBreaks n s .checksumMismatch ↔ n + 4 ≤ bs.length ∧ ¬ Sealed bs := by
  constructor
  · intro h
    cases h with
    | checksum hbs' hlength h =>
      cases hbs.symm.trans hbs'
      exact ⟨hlength, h⟩
  · exact fun ⟨hlength, h⟩ => .checksum hbs hlength h

/-- The parts of a text are the first `n` of its bytes and the others in front of the checksum. -/
theorem parts_of_decode_version (hbs : Base58.decode s = .ok bs) {version payload : Bytes}
    (h : decode n s = .ok (version, payload)) :
    version = bs.take n ∧ version.length = n ∧ version ++ payload = bs.take (bs.length - 4) ∧
      version ++ payload ++ (Hash.checksum (version ++ payload)).toList = bs := by
  obtain ⟨bs', hbs', hlength, hsealed⟩ := (decode_version_eq_error_iff n s).1.1 ⟨_, h⟩
  cases hbs.symm.trans hbs'
  cases h.symm.trans (decode_version_of_sealed hbs hlength hsealed)
  rw [List.take_append_drop, List.length_take, List.length_take, List.take_take,
    Nat.min_eq_left (by omega), Nat.min_eq_left (by omega)]
  exact ⟨rfl, rfl, rfl, hsealed.eq_append.symm⟩

/-! ## All texts -/

/-- What is made of the bytes of a text whose version has `n` bytes: they are malformed if they are
not enough, refused if they end in another checksum, and read otherwise, as the first `n` of them
and those between these and the checksum. -/
structure BytesRules (n : Nat) (bs : Bytes) (r : Option (Except Error (Bytes × Bytes))) :
    Prop where
  malformed_iff : (∃ cause, r = some (.error (.malformed cause))) ↔ bs.length < n + 4
  checksumMismatch_iff :
    r = some (.error .checksumMismatch) ↔ n + 4 ≤ bs.length ∧ ¬ Sealed bs
  ok_iff : (∃ parts, r = some (.ok parts)) ↔ n + 4 ≤ bs.length ∧ Sealed bs
  parts : ∀ version payload, r = some (.ok (version, payload)) →
    version = bs.take n ∧ version.length = n ∧ version ++ payload = bs.take (bs.length - 4) ∧
      version ++ payload ++ (Hash.checksum (version ++ payload)).toList = bs

/-- What is made of a text whose version has `n` bytes: it is refused if it has a character that is
no digit, its bytes follow the rules above otherwise, and every error names the first rule that is
broken. That bytes are too few for a checksum is never reported by itself, and every check passes. -/
structure VersionRules (n : Nat) (s : String) (r : Option (Except Error (Bytes × Bytes))) :
    Prop where
  base58_iff : (∃ fault, r = some (.error (.base58 fault))) ↔ ∃ c ∈ s.toList, c ∉ alphabet
  bytes : (∀ c ∈ s.toList, c ∈ alphabet) → ∃ bs, Base58.decode s = .ok bs ∧ BytesRules n bs r
  error_iff : ∀ e, r = some (.error e) ↔ VersionBreaks n s e
  ne_belowChecksum : ∀ length, r ≠ some (.error (.malformed (.belowChecksum length)))
  ne_none : r ≠ none

/-- **`decode` follows the rules**, for a version of any length and every text. -/
theorem versionRules_decode (n : Nat) (s : String) : VersionRules n s (some (decode n s)) := by
  obtain ⟨hread, hrefused⟩ := decode_version_eq_error_iff n s
  have herror : ∀ e, some (decode n s) = some (.error e) ↔ VersionBreaks n s e := by
    simpa using hrefused
  refine ⟨?_, fun hdigits => ?_, herror, fun length h => ?_, nofun⟩
  · simp only [herror]
    exact exists_versionBreaks_base58_iff
  · obtain ⟨bs, hbs⟩ := exists_decode_iff.2 hdigits
    refine ⟨bs, hbs, ?_, ?_, ?_, fun version payload h => ?_⟩
    · simp only [herror]
      exact exists_versionBreaks_malformed_iff hbs
    · rw [herror]
      exact versionBreaks_checksumMismatch_iff hbs
    · simp only [Option.some.injEq, hread, hbs, Except.ok.injEq, exists_eq_left']
    · exact parts_of_decode_version hbs (Option.some.inj h)
  · cases (herror _).1 h

/-- A text of four bytes, enough for a checksum but not for a version in front of it. -/
example : decode 1 "3QJmnh" = .error (.malformed (.belowVersion 4 1)) := by decide +kernel

end Base58.Checked

/-! ## On a machine -/

namespace Bounded

variable {overflow : Overflow} {n least : UInt64}

theorem decodeVersion_of_error (overflow : Overflow) (n : UInt64) {fault : Base58.Fault}
    (h : Base58.decode s = .error fault) :
    decodeVersion overflow n s = some (.error (.base58 fault)) := by
  rw [decodeVersion, decodeRaw_of_error h]

/-- What is made of bytes when a machine has found how many there must be at least. -/
theorem decodeVersion_of_sum (hbs : Base58.decode s = .ok bs)
    (hsum : add? overflow n checksumWord = some least) :
    decodeVersion overflow n s =
      if bs.length < least.toNat then
        some (.error (.malformed (.belowVersion bs.length n.toNat)))
      else if bs.length < 4 then some (.error (.malformed (.belowChecksum bs.length)))
      else if ¬ Sealed bs then some (.error .checksumMismatch)
      else if n.toNat + 4 ≤ bs.length then
        some (.ok (bs.take n.toNat, (bs.take (bs.length - 4)).drop n.toNat))
      else none := by
  rw [decodeVersion, decodeRaw_eq_ok_iff.2 hbs]
  simp only [hsum, Option.bind_eq_bind, Option.bind_some, verifyChecksum_eq_some]
  split
  · rfl
  · by_cases hlen : bs.length < 4
    · rw [if_pos hlen, verifyChecksum_of_lt hlen]
    · have hdata : (bs.take (bs.length - 4)).length = bs.length - 4 :=
        List.length_take_of_le (Nat.sub_le _ _)
      rw [if_neg hlen, verifyChecksum_of_le (Nat.not_lt.1 hlen)]
      by_cases hsealed : Sealed bs
      · rw [if_pos hsealed, if_neg (not_not.2 hsealed)]
        -- The version ends at a place of the data if the bytes are enough, and behind it otherwise.
        simp only [splitAt?, hdata]
        split
        · next hplace =>
          rw [if_pos (by omega), List.splitAt_eq, List.take_take, Nat.min_eq_left hplace]
          rfl
        · rw [if_neg (by omega)]
          rfl
      · rw [if_neg hsealed, if_pos hsealed]

/-- **No check fails** if the length of the version and that of a checksum have a sum in a word,
whatever the text is. -/
theorem decodeVersion_eq_some (overflow : Overflow) (s : String)
    (h : n.toNat + 4 < UInt64.size) :
    decodeVersion overflow n s = some (Base58.Checked.decode n.toNat s) := by
  cases hbs : Base58.decode s with
  | error fault =>
    rw [decodeVersion_of_error overflow n hbs, decode_version_of_breaks (.digits hbs)]
  | ok bs =>
    rw [decodeVersion_of_sum hbs (add?_of_lt overflow h), toNat_add_of_lt h, toNat_checksumWord]
    split
    · next hlen => rw [decode_version_of_breaks (.length hbs hlen)]
    · next hlen =>
      have hlen := Nat.not_lt.1 hlen
      rw [if_neg (by omega), if_pos hlen]
      split
      · next hsealed => rw [decode_version_of_breaks (.checksum hbs hlen hsealed)]
      · next hsealed =>
        rw [decode_version_of_sealed hbs hlen (not_not.1 hsealed), List.take_take,
          Nat.min_eq_left (by omega)]

/-- What a machine reads as a version and a payload is the text that is written for them. -/
theorem decodeVersion_eq_ok_iff {version payload : Bytes} (h : n.toNat + 4 < UInt64.size) :
    decodeVersion overflow n s = some (.ok (version, payload)) ↔
      version.length = n.toNat ∧ s = encode version payload := by
  rw [decodeVersion_eq_some overflow s h, Option.some.injEq, decode_eq_ok_iff_decodeData,
    decodeData_eq_ok_iff]

/-- What is made of the bytes of a text whose version has `n` bytes on a machine that wraps, if the
lengths of the version and a checksum have no sum in a word. The bytes are measured against what is
left of the sum. If these are enough, they may be too few for a checksum, and if they end in their
checksum, the version may end behind the data. -/
structure WrappedRules (n : Nat) (bs : Bytes) (r : Option (Except Error (Bytes × Bytes))) :
    Prop where
  belowVersion_iff : r = some (.error (.malformed (.belowVersion bs.length n))) ↔
    bs.length + UInt64.size < n + 4
  belowChecksum_iff : r = some (.error (.malformed (.belowChecksum bs.length))) ↔
    n + 4 ≤ bs.length + UInt64.size ∧ bs.length < 4
  checksumMismatch_iff : r = some (.error .checksumMismatch) ↔ 4 ≤ bs.length ∧ ¬ Sealed bs
  ok_iff : ∀ version payload, r = some (.ok (version, payload)) ↔
    n + 4 ≤ bs.length ∧ Sealed bs ∧ version = bs.take n ∧
      payload = (bs.take (bs.length - 4)).drop n
  none_iff : r = none ↔ 4 ≤ bs.length ∧ bs.length < n + 4 ∧ Sealed bs

theorem decodeVersion_stops (hbs : Base58.decode s = .ok bs) (h : UInt64.size ≤ n.toNat + 4) :
    decodeVersion .stops n s = none := by
  have hsum : add? .stops n checksumWord = none := add?_stops_of_le h
  rw [decodeVersion, decodeRaw_eq_ok_iff.2 hbs]
  simp only [hsum, Option.bind_eq_bind, Option.bind_none]

theorem decodeVersion_wraps (hbs : Base58.decode s = .ok bs) (h : UInt64.size ≤ n.toNat + 4) :
    WrappedRules n.toNat bs (decodeVersion .wraps n s) := by
  have hn := n.toNat_lt_size
  have hleast : (n + checksumWord).toNat + UInt64.size = n.toNat + 4 := toNat_add_of_le h
  rw [decodeVersion_of_sum hbs (add?_wraps n checksumWord)]
  constructor <;> grind

end Bounded

namespace Base58.Checked

/-- **Every text is read by the rules if the length of the version and that of a checksum have a sum
in a word.** For a longer version a machine breaks them: one that stops gives nothing for any text of
digits, and one that wraps lets bytes pass that are too few. -/
theorem decode_version_outcome (overflow : Bounded.Overflow) (n : UInt64) (s : String) :
    (n.toNat + 4 < UInt64.size → VersionRules n.toNat s (Bounded.decodeVersion overflow n s)) ∧
    (UInt64.size ≤ n.toNat + 4 →
      (∀ fault, Base58.decode s = .error fault →
        Bounded.decodeVersion overflow n s = some (.error (.base58 fault))) ∧
      ∀ bs, Base58.decode s = .ok bs →
        (overflow = .stops → Bounded.decodeVersion overflow n s = none) ∧
        (overflow = .wraps →
          Bounded.WrappedRules n.toNat bs (Bounded.decodeVersion overflow n s))) := by
  refine ⟨fun h => ?_, fun h => ⟨fun fault => Bounded.decodeVersion_of_error overflow n,
    fun bs hbs => ⟨?_, ?_⟩⟩⟩
  · rw [Bounded.decodeVersion_eq_some overflow s h]
    exact versionRules_decode n.toNat s
  · rintro rfl
    exact Bounded.decodeVersion_stops hbs h
  · rintro rfl
    exact Bounded.decodeVersion_wraps hbs h

/-- The longest version that has the sum, and the next one, for the text of 25 bytes. -/
theorem decode_version_outcome_longest :
    let s := "1A1zP1eP5QGefi2DMPTfTL5SLmv7DivfNa"
    let n : UInt64 := 18446744073709551611
    VersionRules n.toNat s (Bounded.decodeVersion .stops n s) ∧
    Bounded.decodeVersion .stops n s = some (.error (.malformed (.belowVersion 25 n.toNat))) ∧
    Bounded.decodeVersion .stops (n + 1) s = none ∧
    ∃ bs, Base58.decode s = .ok bs ∧
      Bounded.WrappedRules (n + 1).toNat bs (Bounded.decodeVersion .wraps (n + 1) s) ∧
      Bounded.decodeVersion .wraps (n + 1) s = none := by
  intro s n
  have hlength : (Base58.decode s).map List.length = .ok 25 := by decide +kernel
  obtain ⟨bs, hbs, -⟩ := map_eq_ok.1 hlength
  have hrules := (decode_version_outcome .stops n s).1 (by decide)
  have hstops := (decode_version_outcome .stops (n + 1) s).2 (by decide)
  have hwraps := (decode_version_outcome .wraps (n + 1) s).2 (by decide)
  exact ⟨hrules, by decide +kernel, (hstops.2 bs hbs).1 rfl, bs, hbs, (hwraps.2 bs hbs).2 rfl,
    by decide +kernel⟩

/-- **Bytes that are fewer than a version are not refused as malformed** if the length of the
version is the largest word: a machine gives nothing, whether it stops or wraps. -/
theorem not_versionRules_of_largest_word :
    let s := "1A1zP1eP5QGefi2DMPTfTL5SLmv7DivfNa"
    let n : UInt64 := 18446744073709551615
    (∃ bs, Base58.decode s = .ok bs ∧ bs.length < n.toNat + 4) ∧
    ¬ VersionRules n.toNat s (Bounded.decodeVersion .stops n s) ∧
    ¬ VersionRules n.toNat s (Bounded.decodeVersion .wraps n s) := by
  intro s n
  have hlength : (Base58.decode s).map List.length = .ok 25 := by decide +kernel
  obtain ⟨bs, hbs, hlen⟩ := map_eq_ok.1 hlength
  have hstops : Bounded.decodeVersion .stops n s = none :=
    Bounded.decodeVersion_stops hbs (by decide)
  have hwraps : Bounded.decodeVersion .wraps n s = none := by decide +kernel
  refine ⟨⟨bs, hbs, ?_⟩, fun h => h.ne_none hstops, fun h => h.ne_none hwraps⟩
  rw [hlen]
  decide

end Base58.Checked

end CoinAddress
