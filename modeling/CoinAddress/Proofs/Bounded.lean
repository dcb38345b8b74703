import CoinAddress.Bounded
import CoinAddress.Proofs.Key.Wif

/-!
# Every place is there

The reader of keys with checked places never fails a check, whatever the text is, and reads what
`Wif.decode` reads (`Bounded.decodeKey_eq_some`). The length is looked at before any place behind
it: the byte with the index 33 is asked for only if there are 38 bytes, and the checksum is split
off only if there are at least four.

A sum of two words that exceeds a word is wrong by the size of a word (`toNat_add_of_le`), on a
machine that goes on with it.
-/

namespace CoinAddress.Bounded

/-! ## Checked operations that pass -/

theorem sub?_eq_some {a b : Nat} (h : b ≤ a) : sub? a b = some (a - b) := if_pos h

theorem splitAt?_eq_some {place : Nat} {bs : Bytes} (h : place ≤ bs.length) :
    splitAt? place bs = some (bs.take place, bs.drop place) := by
  rw [splitAt?, if_pos h, List.splitAt_eq]

theorem slice?_eq_some {start stop : Nat} {bs : Bytes} (h : start ≤ stop) (h' : stop ≤ bs.length) :
    slice? start stop bs = some ((bs.take stop).drop start) := if_pos ⟨h, h'⟩

/-! ## Sums of two words -/

theorem toNat_add_of_lt {a b : UInt64} (h : a.toNat + b.toNat < UInt64.size) :
    (a + b).toNat = a.toNat + b.toNat := by
  rw [UInt64.toNat_add]
  exact Nat.mod_eq_of_lt h

/-- A sum that is no word is too large by the size of a word. -/
theorem toNat_add_of_le {a b : UInt64} (h : UInt64.size ≤ a.toNat + b.toNat) :
    (a + b).toNat + UInt64.size = a.toNat + b.toNat := by
  have ha := a.toNat_lt_size
  have hb := b.toNat_lt_size
  rw [UInt64.toNat_add]
  show (a.toNat + b.toNat) % UInt64.size + UInt64.size = a.toNat + b.toNat
  rw [Nat.mod_eq_sub_mod h, Nat.mod_eq_of_lt (by omega), Nat.sub_add_cancel h]

theorem add?_of_lt (overflow : Overflow) {a b : UInt64} (h : a.toNat + b.toNat < UInt64.size) :
    add? overflow a b = some (a + b) := if_pos h

theorem add?_stops_of_le {a b : UInt64} (h : UInt64.size ≤ a.toNat + b.toNat) :
    add? .stops a b = none := if_neg (Nat.not_lt.2 h)

theorem add?_wraps (a b : UInt64) : add? .wraps a b = some (a + b) := by
  rw [add?]
  split <;> rfl

theorem toNat_checksumWord : checksumWord.toNat = 4 := rfl

/-! ## Keys -/

theorem verifyChecksum_eq_some (bs : Bytes) :
    verifyChecksum bs = some (Base58.Checked.verifyChecksum bs) := by
  rw [verifyChecksum, Base58.Checked.verifyChecksum]
  split
  · rfl
  · next hlen =>
    rw [sub?_eq_some (Nat.not_lt.1 hlen), Option.bind_eq_bind, Option.bind_some,
      splitAt?_eq_some (Nat.sub_le _ _)]
    rfl

theorem compression_eq_some (bs : Bytes) : compression bs = some (Wif.compression bs) := by
  rw [compression, Wif.compression]
  split
  · rfl
  · split
    · next hlen =>
      have hlt : 33 < bs.length := by
        rw [hlen]
        decide
      rw [List.getElem?_eq_getElem hlt, List.getD_eq_getElem bs 0 hlt]
      rfl
    · rfl

/-- A version byte and the bytes of a key are long enough for a key. -/
theorem keyOfData_eq_some (w : Wif) : keyOfData (w.netId :: w.payload) w.compressed = some w := by
  have hlen : 33 ≤ (w.netId :: w.payload).length := by
    rw [List.length_cons, Wif.length_payload]
    split <;> decide
  rw [keyOfData, slice?_eq_some (by decide) hlen, List.drop_take, Option.bind_eq_bind,
    Option.bind_some, Wif.take_drop_payload, FixedBytes.ofList?_toList]
  rfl

/-- **No check fails**: every text is read, and as the same key or with the same error. -/
theorem decodeKey_eq_some (s : String) : decodeKey s = some (Wif.decode s) := by
  rw [decodeKey, Wif.decode]
  cases hbs : Base58.decode s with
  | error fault => rfl
  | ok bs =>
    simp only [compression_eq_some, verifyChecksum_eq_some, Option.bind_eq_bind, Option.bind_some]
    cases hshape : Wif.compression bs with
    | error fault => rfl
    | ok compressed =>
      cases hdata : Base58.Checked.verifyChecksum bs with
      | error e => rfl
      | ok data =>
        obtain rfl := Base58.Checked.verifyChecksum_eq_ok_iff.1 hdata
        obtain ⟨w, rfl, rfl⟩ := Wif.compression_append_eq_ok_iff.1 hshape
        simp only [keyOfData_eq_some, Wif.take_drop_payload, FixedBytes.ofList?_toList,
          Option.bind_some, List.headD_cons]

end CoinAddress.Bounded
