import CoinAddress.Base58.Checked
import CoinAddress.Proofs.Base58.Numeral

/-!
# Base58Check text stands for data, one for one

A checksum is accepted only behind the data that it belongs to (`verifyChecksum_eq_ok_iff`), so the
texts that read as a version and a payload are those that `encode` writes: exactly one
(`decodeData_eq_ok_iff`). The reader that cuts off the version gives both parts back
(`decode_encode_version_payload`) and takes no other text for them (`encode_of_decode_version`).
-/

namespace CoinAddress.Base58.Checked

theorem verifyChecksum_append_checksum (data : Bytes) :
    verifyChecksum (data ++ (Hash.checksum data).toList) = .ok data := by
  have hlen : (Hash.checksum data).toList.length = checksumLength :=
    (Hash.checksum data).length_toList
  have hcut : (data ++ (Hash.checksum data).toList).length - checksumLength = data.length := by
    rw [List.length_append, hlen, Nat.add_sub_cancel]
  rw [verifyChecksum, if_neg (by rw [List.length_append, hlen]; omega)]
  simp only [hcut, List.take_left, List.drop_left, if_true]

theorem verifyChecksum_eq_ok_iff {bs data : Bytes} :
    verifyChecksum bs = .ok data ↔ bs = data ++ (Hash.checksum data).toList := by
  constructor
  · intro h
    rw [verifyChecksum] at h
    split at h
    · cases h
    · dsimp only at h
      split at h
      · next heq =>
        cases h
        rw [heq, List.take_append_drop]
      · cases h
  · rintro rfl
    exact verifyChecksum_append_checksum data

/-- The last four bytes are the checksum of the bytes in front of them. -/
def Sealed (bs : Bytes) : Prop :=
  (Hash.checksum (bs.take (bs.length - 4))).toList = bs.drop (bs.length - 4)

instance (bs : Bytes) : Decidable (Sealed bs) :=
  inferInstanceAs (Decidable ((Hash.checksum (bs.take (bs.length - 4))).toList = _))

theorem Sealed.eq_append {bs : Bytes} (h : Sealed bs) :
    bs = bs.take (bs.length - 4) ++ (Hash.checksum (bs.take (bs.length - 4))).toList := by
  rw [h, List.take_append_drop]

theorem sealed_append_checksum (data : Bytes) : Sealed (data ++ (Hash.checksum data).toList) := by
  have hcut : (data ++ (Hash.checksum data).toList).length - 4 = data.length := by
    rw [List.length_append, (Hash.checksum data).length_toList, Nat.add_sub_cancel]
  rw [Sealed, hcut, List.take_left, List.drop_left]

theorem verifyChecksum_of_lt {bs : Bytes} (h : bs.length < 4) :
    verifyChecksum bs = .error (.malformed (.belowChecksum bs.length)) := if_pos h

/-- Enough bytes are read if they end in their checksum. -/
theorem verifyChecksum_of_le {bs : Bytes} (h : 4 ≤ bs.length) :
    verifyChecksum bs =
      if Sealed bs then .ok (bs.take (bs.length - 4)) else .error .checksumMismatch := by
  have hlen : ¬ bs.length < checksumLength := Nat.not_lt.2 h
  rw [verifyChecksum, if_neg hlen]
  rfl

/-- **Each version and payload has exactly one text, the one that is written for them.** -/
theorem decodeData_eq_ok_iff {s : String} {version payload : Bytes} :
    decodeData s = .ok (version ++ payload) ↔ s = encode version payload := by
  simp only [decodeData, decodeRaw, bind_eq_ok, mapError_eq_ok, verifyChecksum_eq_ok_iff,
    exists_eq_right, decode_eq_ok_iff, encode]

theorem verifyChecksum_eq_checksumMismatch {bs : Bytes} (hlen : checksumLength ≤ bs.length)
    (h : ∀ data, verifyChecksum bs ≠ .ok data) : verifyChecksum bs = .error .checksumMismatch := by
  have hne := h (bs.take (bs.length - checksumLength))
  rw [verifyChecksum, if_neg (Nat.not_lt.2 hlen)] at hne ⊢
  dsimp only at hne ⊢
  split
  · next heq => exact absurd (if_pos heq) hne
  · rfl

/-- Why a text of digits that could hold a checksum is no Base58Check text. -/
theorem decodeData_eq_checksumMismatch {s : String} (hs : ∀ c ∈ s.toList, c ∈ alphabet)
    (hlen : 2 * checksumLength ≤ s.toList.length) (h : ¬ ∃ data, decodeData s = .ok data) :
    decodeData s = .error .checksumMismatch := by
  obtain ⟨bs, hbs⟩ := exists_decode_iff.2 hs
  have hraw : decodeRaw s = .ok bs := mapError_eq_ok.2 hbs
  have hbytes : checksumLength ≤ bs.length := by
    have hle := length_encode_le bs
    rw [← decode_eq_ok_iff.1 hbs] at hle
    omega
  have hdata : decodeData s = verifyChecksum bs := bind_of_ok hraw _
  rw [hdata] at h ⊢
  exact verifyChecksum_eq_checksumMismatch hbytes fun data hok => h ⟨data, hok⟩

/-- A text with another character is refused for that character. -/
theorem exists_decodeData_eq_base58 {s : String} (hs : ¬ ∀ c ∈ s.toList, c ∈ alphabet) :
    ∃ fault, decodeData s = .error (.base58 fault) := by
  obtain ⟨fault, hfault⟩ := exists_decode_eq_error_iff.2 (by simpa using hs)
  exact ⟨fault, bind_of_error (by rw [decodeRaw, hfault]; rfl) _⟩

theorem zero_not_mem_of_decodeData {s : String} {data : Bytes} (h : decodeData s = .ok data) :
    '0' ∉ s.toList := by
  obtain ⟨bs, hbs, -⟩ := bind_eq_ok.1 h
  exact zero_not_mem_of_decode (mapError_eq_ok.1 hbs)

/-! ## Versions of a known length -/

/-- Who knows the length of the version cuts the data behind it. -/
theorem decode_eq_ok_iff_decodeData {n : Nat} {s : String} {version payload : Bytes} :
    decode n s = .ok (version, payload) ↔
      version.length = n ∧ decodeData s = .ok (version ++ payload) := by
  simp only [decode, decodeData, bind_eq_ok]
  constructor
  · rintro ⟨bs, hbs, h⟩
    split at h
    · cases h
    · next hlen =>
      obtain ⟨data, hdata, h⟩ := bind_eq_ok.1 h
      have hn : n ≤ data.length := by
        rw [verifyChecksum_eq_ok_iff.1 hdata, List.length_append,
          (Hash.checksum data).length_toList] at hlen
        simp only [checksumLength] at hlen
        omega
      cases h
      rw [List.take_append_drop, List.length_take, Nat.min_eq_left hn]
      exact ⟨rfl, bs, hbs, hdata⟩
  · rintro ⟨rfl, bs, hbs, hdata⟩
    have hlen : version.length + checksumLength ≤ bs.length := by
      rw [verifyChecksum_eq_ok_iff.1 hdata, List.length_append, List.length_append,
        (Hash.checksum (version ++ payload)).length_toList]
      simp only [checksumLength]
      omega
    refine ⟨bs, hbs, ?_⟩
    rw [if_neg (Nat.not_lt.2 hlen)]
    refine bind_eq_ok.2 ⟨_, hdata, ?_⟩
    rw [List.take_left, List.drop_left]

/-- **Every version and payload are read back**, if the length of the version is known; both may be
empty or start with zeros. -/
theorem decode_encode_version_payload (version payload : Bytes) :
    decode version.length (encode version payload) = .ok (version, payload) :=
  decode_eq_ok_iff_decodeData.2 ⟨rfl, decodeData_eq_ok_iff.2 rfl⟩

/-- A first byte that is cut off as the version leaves the zeros behind it to the payload. -/
example : decode 1 (encode [0, 0] [1]) = .ok ([0], [0, 1]) := by decide +kernel

/-- **What is read as a version and a payload is the text that is written for them**, the only one
however many bytes the reader takes for the version. -/
theorem encode_of_decode_version {n : Nat} {s : String} {version payload : Bytes}
    (h : decode n s = .ok (version, payload)) :
    version.length = n ∧ encode version payload = s ∧
      ∀ m t, decode m t = .ok (version, payload) → t = s := by
  obtain ⟨hlen, hdata⟩ := decode_eq_ok_iff_decodeData.1 h
  have hs := decodeData_eq_ok_iff.1 hdata
  refine ⟨hlen, hs.symm, fun m t ht => ?_⟩
  obtain ⟨-, hdata'⟩ := decode_eq_ok_iff_decodeData.1 ht
  rw [decodeData_eq_ok_iff.1 hdata', hs]

/-- The version byte zero, which is a leading `1` in the text. -/
theorem encode_of_decode_version_zero :
    let s := "1A1zP1eP5QGefi2DMPTfTL5SLmv7DivfNa"
    let hash : Bytes := [0x62, 0xe9, 0x07, 0xb1, 0x5c, 0xbf, 0x27, 0xd5, 0x42, 0x53, 0x99, 0xeb,
      0xf6, 0xf0, 0xfb, 0x50, 0xeb, 0xb8, 0x8f, 0x18]
    decode 1 s = .ok ([0], hash) ∧ encode [0] hash = s ∧
      ∀ m t, decode m t = .ok ([0], hash) → t = s := by
  intro s hash
  have hread : decode 1 s = .ok ([0], hash) := by decide +kernel
  obtain ⟨-, hwrite⟩ := encode_of_decode_version hread
  exact ⟨hread, hwrite⟩

end CoinAddress.Base58.Checked
