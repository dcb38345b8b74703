import CoinAddress.Key.Public
import CoinAddress.Proofs.Curve.Field
import CoinAddress.Proofs.Except
import CoinAddress.Proofs.Text.Hex

/-!
# Which bytes are taken in as public keys

`PublicKey.ofBytes_eq_ok_iff` says what a key keeps of its bytes: all of them, and the form that the
leading byte announces, whose length they have. Writing a key in another form keeps to this
(`PublicKey.Reachable.ofBytes_bytes`), so the first of its hexadecimal digits is always zero.
-/

namespace CoinAddress

namespace KeyFormat

/-- The leading bytes of a form. -/
def leadingBytes : KeyFormat → List UInt8
  | compressed => [2, 3]
  | uncompressed => [4]
  | hybrid => [6, 7]

theorem ofLeadingByte_eq_ok_iff {b : UInt8} {f : KeyFormat} :
    ofLeadingByte b = .ok f ↔ b ∈ f.leadingBytes := by
  constructor
  · intro h
    rw [ofLeadingByte] at h
    split at h
    · next hb =>
      cases h
      rcases hb with rfl | rfl <;> decide
    · split at h
      · next hb =>
        cases h
        rw [hb]
        decide
      · split at h
        · next hb =>
          cases h
          rcases hb with rfl | rfl <;> decide
        · cases h
  · have hread : ∀ f, ∀ b ∈ leadingBytes f, ofLeadingByte b = .ok f := by
      intro f
      cases f <;> simp [leadingBytes, ofLeadingByte]
    exact hread f b

/-- The leading byte of a key is small. -/
theorem lt_of_ofLeadingByte {b : UInt8} {f : KeyFormat} (h : ofLeadingByte b = .ok f) :
    b.toNat < 8 := by
  have hlt : ∀ b ∈ f.leadingBytes, b.toNat < 8 := by cases f <;> simp [leadingBytes]
  exact hlt b (ofLeadingByte_eq_ok_iff.1 h)

end KeyFormat

theorem PublicKey.ofBytes_eq_ok_iff {bytes : Bytes} {netId : UInt8} {k : PublicKey} :
    ofBytes bytes netId = .ok k ↔ k.bytes = bytes ∧ k.netId = netId ∧
      ∃ lead rest, bytes = lead :: rest ∧ KeyFormat.ofLeadingByte lead = .ok k.format ∧
        bytes.length = k.format.length := by
  cases bytes with
  | nil => simp [ofBytes]
  | cons lead rest =>
    simp only [ofBytes, bind_eq_ok]
    constructor
    · rintro ⟨format, hformat, h⟩
      split at h
      · next hlen =>
        cases h
        exact ⟨rfl, rfl, lead, rest, rfl, hformat, hlen⟩
      · cases h
    · obtain ⟨bytes, format, id⟩ := k
      rintro ⟨rfl, rfl, lead', rest', hcons, hformat, hlen⟩
      obtain ⟨rfl, rfl⟩ := List.cons.inj hcons
      exact ⟨format, hformat, if_pos hlen⟩

namespace PublicKey

/-! ## Other forms -/

/-- The bytes of a point in a form are taken in as a key of that form. -/
theorem ofBytes_formatBytes (p : Curve.PublicPoint) (format : KeyFormat) (netId : UInt8) :
    ofBytes (formatBytes p format) netId = .ok ⟨formatBytes p format, format, netId⟩ := by
  refine ofBytes_eq_ok_iff.2 ⟨rfl, rfl, ?_⟩
  cases format with
  | compressed =>
    refine ⟨if p.y.isOdd then 3 else 2, p.x.bytes, rfl, ?_, by simp [formatBytes,
      Curve.PublicPoint.compressed, KeyFormat.length]⟩
    split <;> rfl
  | uncompressed =>
    exact ⟨4, p.x.bytes ++ p.y.bytes, rfl, rfl, by simp [formatBytes,
      Curve.PublicPoint.uncompressed, KeyFormat.length]⟩
  | hybrid =>
    refine ⟨if p.y.isOdd then 7 else 6, p.x.bytes ++ p.y.bytes, rfl, ?_, by simp [formatBytes,
      Curve.PublicPoint.uncompressed, KeyFormat.length]⟩
    split <;> rfl

/-- The key of a point in a form. -/
def ofPoint (p : Curve.PublicPoint) (format : KeyFormat) (netId : UInt8) : PublicKey :=
  ⟨formatBytes p format, format, netId⟩

theorem withFormat_eq_ok_iff {k k' : PublicKey} {format : KeyFormat} :
    k.withFormat format = .ok k' ↔ format = k.format ∧ k' = k ∨
      format ≠ k.format ∧ ∃ p, Curve.PublicPoint.ofBytes? k.standardBytes = some p ∧
        k' = ofPoint p format k.netId := by
  rw [withFormat]
  by_cases hformat : format = k.format
  · simp [hformat, eq_comm]
  · cases hp : Curve.PublicPoint.ofBytes? k.standardBytes with
    | none => simp [hformat]
    | some p => simp [hformat, ofPoint, eq_comm]

/-- The keys that a program can hold: those that are taken in, and the same in other forms. -/
inductive Reachable : PublicKey → Prop
  | ofBytes {bytes : Bytes} {netId : UInt8} {k : PublicKey} (h : ofBytes bytes netId = .ok k) :
      Reachable k
  | withFormat {k k' : PublicKey} {format : KeyFormat} (hk : Reachable k)
      (h : k.withFormat format = .ok k') : Reachable k'

/-- One change of form gives a key that its bytes are taken in as. -/
theorem ofBytes_bytes_withFormat {k k' : PublicKey} {format : KeyFormat}
    (h : k.withFormat format = .ok k') (hk : ofBytes k.bytes k.netId = .ok k) :
    ofBytes k'.bytes k'.netId = .ok k' := by
  rcases withFormat_eq_ok_iff.1 h with ⟨-, rfl⟩ | ⟨-, p, -, rfl⟩
  · exact hk
  · exact ofBytes_formatBytes p format k.netId

/-- **A key is the one that its bytes are taken in as**, whatever forms it was written in before. -/
theorem Reachable.ofBytes_bytes {k : PublicKey} (h : k.Reachable) :
    PublicKey.ofBytes k.bytes k.netId = .ok k := by
  induction h with
  | ofBytes h =>
    obtain ⟨hbytes, hid, -⟩ := ofBytes_eq_ok_iff.1 h
    rw [hbytes, hid]
    exact h
  | withFormat _ h ih => exact ofBytes_bytes_withFormat h ih

/-! ## Digits -/

/-- The leading byte of a key has the first digit zero. -/
theorem zero_mem_hex {bytes : Bytes} {netId : UInt8} {k : PublicKey}
    (h : ofBytes bytes netId = .ok k) : '0' ∈ k.hex.toList := by
  obtain ⟨hbytes, -, lead, rest, rfl, hlead, -⟩ := ofBytes_eq_ok_iff.1 h
  have hzero : lead.toNat / 16 = 0 :=
    Nat.div_eq_of_lt (Nat.lt_trans (KeyFormat.lt_of_ofLeadingByte hlead) (by decide))
  rw [hex, hbytes, Text.Hex.encode, String.toList_ofList, Text.Hex.encodeChars_cons, hzero]
  exact List.mem_cons_self

end PublicKey

end CoinAddress
