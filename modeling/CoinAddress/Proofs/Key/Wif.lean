import CoinAddress.Key.Wif
import CoinAddress.Proofs.Base58.Checked

/-!
# Texts of private keys stand for their keys, one for one

The bytes of a key are its version byte, the key and perhaps the mark, 33 or 34 in all; with a
checksum these are the bytes whose shape is accepted (`Wif.compression_append_eq_ok_iff`). So a text
reads as a key if and only if it is the one that is written for it (`Wif.decode_eq_ok_iff`), and a
key of any network is read back with its mark (`Wif.reads_back_and_canonical`). Texts of other bytes
are malformed, whatever their checksum is (`Wif.decode_of_length_ne`).
-/

namespace CoinAddress.Wif

/-! ## Shape -/

@[simp] theorem length_payload (w : Wif) :
    w.payload.length = if w.compressed then 33 else 32 := by
  cases hc : w.compressed <;> simp [payload, hc, w.key.length_toList]

/-- **The bytes with the shape of a key** are a version byte, a key and the mark of a compressed one,
in front of four more. -/
theorem compression_append_eq_ok_iff {data : Bytes} {sum : FixedBytes 4} {compressed : Bool} :
    compression (data ++ sum.toList) = .ok compressed ↔
      ∃ w : Wif, w.compressed = compressed ∧ data = w.netId :: w.payload := by
  have hsum := sum.length_toList
  constructor
  · intro h
    rw [compression] at h
    split at h
    · next hlen =>
      cases h
      simp only [List.length_append, hsum, plainLength] at hlen
      obtain ⟨netId, key, rfl⟩ := List.exists_cons_of_length_pos (by omega : 0 < data.length)
      exact ⟨⟨⟨key, by simpa using hlen⟩, false, netId⟩, rfl, by simp [payload]⟩
    · split at h
      · next hlen =>
        simp only [List.length_append, hsum, markedLength] at hlen
        obtain ⟨netId, rest, rfl⟩ := List.exists_cons_of_length_pos (by omega : 0 < data.length)
        -- The byte with the index 33 is the last of those behind the version byte.
        have hrest : rest.length = 33 := by simpa using hlen
        obtain ⟨key, mark, rfl⟩ : ∃ key mark, rest = key ++ [mark] :=
          (List.eq_nil_or_concat' rest).resolve_left (List.ne_nil_of_length_pos (by omega))
        have hkey : key.length = 32 := by simpa using hrest
        dsimp only at h
        split at h
        · next hmark =>
          cases h
          have hget : (netId :: (key ++ [mark]) ++ sum.toList).getD 33 0 = mark := by
            simp [List.getD, ← hkey]
          rw [hget] at hmark
          exact ⟨⟨⟨key, hkey⟩, true, netId⟩, rfl, by simp [payload, hmark]⟩
        · cases h
      · cases h
  · rintro ⟨w, rfl, rfl⟩
    have hkey := w.key.length_toList
    rw [compression]
    cases hc : w.compressed with
    | false => simp [hc, hsum, plainLength]
    | true =>
      have hmark : (w.netId :: w.payload ++ sum.toList).getD 33 0 = compressionMark := by
        simp [payload, hc, List.getD, ← hkey]
      rw [if_neg (by simp [hc, hsum, plainLength]), if_pos (by simp [hc, hsum, markedLength])]
      exact if_pos hmark

/-! ## Texts -/

/-- The key stands behind the version byte. -/
theorem take_drop_payload (w : Wif) : ((w.netId :: w.payload).drop 1).take 32 = w.key.toList := by
  have hkey := w.key.length_toList
  simp [payload, ← hkey]

/-- **Each key has exactly one text, the one that is written for it.** -/
theorem decode_eq_ok_iff {s : String} {w : Wif} : decode s = .ok w ↔ s = w.encode := by
  constructor
  · intro h
    rw [decode] at h
    split at h
    · cases h
    · next bs hbs =>
      split at h
      · cases h
      · next compressed hshape =>
        split at h
        · cases h
        · next data hdata =>
          obtain rfl := Base58.Checked.verifyChecksum_eq_ok_iff.1 hdata
          obtain ⟨w', rfl, rfl⟩ := compression_append_eq_ok_iff.1 hshape
          rw [take_drop_payload, FixedBytes.ofList?_toList] at h
          cases h
          exact Base58.decode_eq_ok_iff.1 hbs
  · rintro rfl
    have hbs : Base58.decode w.encode = .ok
        (w.netId :: w.payload ++ (Hash.checksum (w.netId :: w.payload)).toList) :=
      Base58.decode_encode _
    have hshape : compression (w.netId :: w.payload ++
        (Hash.checksum (w.netId :: w.payload)).toList) = .ok w.compressed :=
      compression_append_eq_ok_iff.2 ⟨w, rfl, rfl⟩
    have hsum := Base58.Checked.verifyChecksum_append_checksum (w.netId :: w.payload)
    simp only [decode, hbs, hshape, hsum, take_drop_payload, FixedBytes.ofList?_toList,
      List.headD_cons]

theorem encode_inj {w w' : Wif} : w.encode = w'.encode ↔ w = w' := by
  rw [← decode_eq_ok_iff, decode_eq_ok_iff.2 rfl, Except.ok.injEq]

/-- The text of a key is a Base58Check text. -/
theorem decodeData_of_decode {s : String} {w : Wif} (h : decode s = .ok w) :
    Base58.Checked.decodeData s = .ok (w.netId :: w.payload) :=
  (@Base58.Checked.decodeData_eq_ok_iff s [w.netId] w.payload).2 (decode_eq_ok_iff.1 h)

/-! ## Keys of a network -/

/-- Every 32 bytes are a key of every network. -/
theorem ofKey_of_length_eq {key : Bytes} (h : key.length = 32) (net : Network) (compressed : Bool) :
    ofKey key net compressed = .ok ⟨⟨key, h⟩, compressed, net.privateKeyId⟩ := by
  rw [ofKey, FixedBytes.ofList?, dif_pos h]

/-- **A key is read back from its text** with the mark and the version byte that it was written
with, **and a text that is read as a key is the one that is written for it**. -/
theorem reads_back_and_canonical :
    (∀ (key : Bytes) (net : Network) (compressed : Bool), key.length = 32 →
      ∃ w v, ofKey key net compressed = .ok w ∧ decode w.encode = .ok v ∧ v.key.toList = key ∧
        v.compressed = compressed ∧ v.netId = net.privateKeyId) ∧
      ∀ s w, decode s = .ok w → w.encode = s := by
  refine ⟨fun key net compressed hkey => ?_, fun s w hread => (decode_eq_ok_iff.1 hread).symm⟩
  let w : Wif := ⟨⟨key, hkey⟩, compressed, net.privateKeyId⟩
  have hread : decode w.encode = .ok w := decode_eq_ok_iff.2 rfl
  exact ⟨w, w, ofKey_of_length_eq hkey net compressed, hread, rfl, rfl, rfl⟩

/-- A key without the mark that ends in the byte of the mark, and the text of a marked key. -/
theorem reads_back_last_byte_one :
    let key : Bytes := List.replicate 31 0 ++ [compressionMark]
    let s := "cN8GsdKbCifhAFzPsucjWHPvKH7isup3WReCHGgYznAmWiBKyzv3"
    let marked : Wif := ⟨⟨[0x10, 0x3e, 0x05, 0x45, 0x01, 0xfc, 0xb2, 0x86, 0xc2, 0x02, 0x95, 0xba,
      0xa7, 0xa5, 0x4a, 0x1e, 0x03, 0x65, 0x2e, 0xfa, 0x47, 0x21, 0x94, 0xad, 0xce, 0xc4, 0x24,
      0x8a, 0x3d, 0xf0, 0x84, 0xeb], rfl⟩, true, 0xef⟩
    key.length = 32 ∧
      (∃ w v, ofKey key Network.mainnet false = .ok w ∧ decode w.encode = .ok v ∧
        v.key.toList = key ∧ v.compressed = false ∧ v.netId = 0xcc) ∧
      decode s = .ok marked ∧ marked.encode = s := by
  intro key s marked
  have hread : decode s = .ok marked := by decide +kernel
  obtain ⟨hback, hcanonical⟩ := reads_back_and_canonical
  exact ⟨rfl, hback key Network.mainnet false rfl, hread, hcanonical s marked hread⟩

/-! ## Other texts -/

/-- A text that is not base 58 is malformed. -/
theorem decode_of_base58_error {s : String} {fault : Base58.Fault}
    (h : Base58.decode s = .error fault) : decode s = .error (.malformedKey (.notBase58 fault)) := by
  rw [decode, h]

/-- A text of other lengths is malformed, whatever its checksum is. -/
theorem decode_of_length_ne {s : String} {bs : Bytes} (h : Base58.decode s = .ok bs)
    (hplain : bs.length ≠ plainLength) (hmarked : bs.length ≠ markedLength) :
    decode s = .error (.malformedKey (.badLength bs.length)) := by
  simp only [decode, h, compression, if_neg hplain, if_neg hmarked]

end CoinAddress.Wif
