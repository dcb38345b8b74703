import CoinAddress.Proofs.Address.HashAddress
import CoinAddress.Proofs.Curve.Encoding
import CoinAddress.Proofs.Key.Public

/-!
# Public keys in other forms

To write a key in another form, its point is read and written anew. All keys of a point are turned
into one another in this way (`PublicKey.withFormat_ofPoint`).

A hybrid key tells the parity of the second coordinate twice, by its leading byte and by its last
one, and only the last one is read. So a key that is written in another form and then in its own
form again has got the leading byte that it should have (`PublicKey.withFormat_back`): it is the
same key if and only if that is the byte it had.

Such a key can be written in any form by way of any others (`PublicKey.withFormat_of_withFormats`):
what comes out depends on the last form only.

Whatever forms a key is written in one after the other, its bytes are those of its form and its
version byte stays (`PublicKey.wellFormed_of_withFormats`).
-/

namespace CoinAddress.PublicKey

open Curve

/-! ## Keys of a point -/

/-- The point of a key is read from every form of the key. -/
theorem ofBytes?_standardBytes_ofPoint (p : PublicPoint) (format : KeyFormat) (netId : UInt8) :
    PublicPoint.ofBytes? (ofPoint p format netId).standardBytes = some p := by
  cases format with
  | compressed => exact p.ofBytes?_compressed
  | uncompressed | hybrid => exact p.ofBytes?_uncompressed

/-- **The keys of a point are turned into one another.** -/
theorem withFormat_ofPoint (p : PublicPoint) (format format' : KeyFormat) (netId : UInt8) :
    (ofPoint p format netId).withFormat format' = .ok (ofPoint p format' netId) := by
  rw [withFormat]
  split
  · next h =>
    obtain rfl : format' = format := h
    rfl
  · rw [ofBytes?_standardBytes_ofPoint]
    rfl

/-! ## One form after the other -/

/-- A key has the form that its leading byte announces, and as many bytes as keys of that form. -/
structure WellFormed (k : PublicKey) : Prop where
  format_of_lead : ∃ lead rest, k.bytes = lead :: rest ∧
    KeyFormat.ofLeadingByte lead = .ok k.format
  length_bytes : k.bytes.length = k.format.length

theorem Reachable.wellFormed {k : PublicKey} (hk : k.Reachable) : k.WellFormed := by
  obtain ⟨-, -, lead, rest, hcons, hlead, hlen⟩ := ofBytes_eq_ok_iff.1 hk.ofBytes_bytes
  exact ⟨⟨lead, rest, hcons, hlead⟩, hlen⟩

/-- The key that is written in forms, one after the other, unless one of them fails. -/
def withFormats (k : PublicKey) (formats : List KeyFormat) : Except Error PublicKey :=
  formats.foldlM withFormat k

/-- What one change of form keeps is kept by all of them together. -/
theorem withFormats_induction {P : PublicKey → Prop}
    (hP : ∀ {k k' : PublicKey} {format : KeyFormat}, P k → k.withFormat format = .ok k' → P k')
    {k k' : PublicKey} {formats : List KeyFormat} (hk : P k)
    (h : k.withFormats formats = .ok k') : P k' := by
  induction formats generalizing k with
  | nil =>
    obtain rfl : k = k' := Except.ok.inj h
    exact hk
  | cons format formats ih =>
    obtain ⟨next, hnext, hrest⟩ := bind_eq_ok.1 h
    exact ih (hP hk hnext) hrest

theorem netId_of_withFormat {k k' : PublicKey} {format : KeyFormat}
    (h : k.withFormat format = .ok k') : k'.netId = k.netId := by
  rcases withFormat_eq_ok_iff.1 h with ⟨-, rfl⟩ | ⟨-, p, -, rfl⟩ <;> rfl

/-- **A key stays well-formed and keeps its version byte**, whatever forms it is written in. -/
theorem wellFormed_of_withFormats {bytes : Bytes} {netId : UInt8} {k k' : PublicKey}
    {formats : List KeyFormat} (hk : ofBytes bytes netId = .ok k)
    (h : k.withFormats formats = .ok k') : k'.WellFormed ∧ k'.netId = netId := by
  obtain ⟨-, hid, -⟩ := ofBytes_eq_ok_iff.1 hk
  refine ⟨Reachable.wellFormed (withFormats_induction .withFormat (.ofBytes hk) h), ?_⟩
  exact withFormats_induction (P := fun k => k.netId = netId)
    (fun hk h => (netId_of_withFormat h).trans hk) hid h

/-! ## Parity -/

/-- The leading byte of a hybrid key with the last byte of a key. -/
def parityByte (k : PublicKey) : UInt8 := if (k.bytes.getLastD 0).toNat % 2 = 1 then 7 else 6

/-- Whether a key, if it is hybrid, has the leading byte that goes with its last byte. -/
def TellsParity (k : PublicKey) : Prop := k.format = .hybrid → k.bytes.headD 0 = k.parityByte

instance (k : PublicKey) : Decidable k.TellsParity :=
  inferInstanceAs (Decidable (_ → _))

/-- A key with the leading byte that goes with its last byte if it is hybrid. -/
def withParity (k : PublicKey) : PublicKey :=
  match k.format with
  | .hybrid => { k with bytes := k.parityByte :: k.bytes.drop 1 }
  | _ => k

theorem parityByte_eq {k : PublicKey} {p : PublicPoint} {lead : UInt8}
    (h : k.bytes = lead :: (p.x.bytes ++ p.y.bytes)) :
    k.parityByte = if p.y.isOdd then 7 else 6 := by
  have hy : p.y.bytes ≠ [] := List.ne_nil_of_length_pos (by simp)
  have hlast : k.bytes.getLastD 0 = p.y.bytes.getLastD 0 := by
    rw [h, ← List.cons_append, List.getLastD_eq_getLast?, List.getLast?_append_of_ne_nil _ hy,
      ← List.getLastD_eq_getLast?]
  rw [parityByte, hlast, Field.isOdd_eq_getLastD]
  simp only [beq_iff_eq]

section Accepted

variable {bytes : Bytes} {netId : UInt8} {k k' : PublicKey} {format : KeyFormat}
  (hk : ofBytes bytes netId = .ok k)
include hk

theorem withParity_eq_self_iff : k.withParity = k ↔ k.TellsParity := by
  obtain ⟨rfl, -, lead, rest, hcons, -⟩ := ofBytes_eq_ok_iff.1 hk
  obtain ⟨bytes, format, id⟩ := k
  obtain rfl : bytes = lead :: rest := hcons
  cases format <;> simp [withParity, TellsParity, eq_comm]

/-- **The key of the point that is read from a key** is that key with the right leading byte. -/
theorem ofPoint_eq_withParity {p : PublicPoint}
    (hp : PublicPoint.ofBytes? k.standardBytes = some p) :
    ofPoint p k.format k.netId = k.withParity := by
  obtain ⟨rfl, -, lead, rest, hcons, hlead, -⟩ := ofBytes_eq_ok_iff.1 hk
  obtain ⟨bytes, format, id⟩ := k
  obtain rfl : bytes = lead :: rest := hcons
  rw [KeyFormat.ofLeadingByte_eq_ok_iff] at hlead
  have hodd : (if p.y.isOdd then (3 : UInt8) else 2) ≠ 4 := by split <;> decide
  -- The leading byte tells which of the two byte strings of the point has been read.
  cases format with
  | compressed =>
    have hlead : lead ≠ 4 := by
      rintro rfl
      exact absurd hlead (by decide : 4 ∉ KeyFormat.compressed.leadingBytes)
    have hbytes : lead :: rest = p.compressed :=
      (PublicPoint.ofBytes?_eq_some_iff.1 hp).resolve_right fun h => hlead (List.cons.inj h).1
    rw [hbytes]
    rfl
  | uncompressed =>
    obtain rfl : lead = 4 := List.mem_singleton.1 hlead
    have hbytes : 4 :: rest = p.uncompressed :=
      (PublicPoint.ofBytes?_eq_some_iff.1 hp).resolve_left fun h => hodd (List.cons.inj h).1.symm
    rw [hbytes]
    rfl
  | hybrid =>
    have hbytes : 4 :: rest = p.uncompressed :=
      (PublicPoint.ofBytes?_eq_some_iff.1 hp).resolve_left fun h => hodd (List.cons.inj h).1.symm
    have hrest : rest = p.x.bytes ++ p.y.bytes := (List.cons.inj hbytes).2
    have hparity : parityByte ⟨lead :: rest, .hybrid, id⟩ = if p.y.isOdd then 7 else 6 :=
      parityByte_eq (congrArg (lead :: ·) hrest)
    simp only [ofPoint, formatBytes, PublicPoint.uncompressed, withParity, hparity,
      List.drop_succ_cons, List.drop_zero]
    rw [hrest]

/-! ## There and back -/

/-- **A key that is written in another form and in its own form again is the same key, if it is not
hybrid or its leading byte tells the right parity**, and otherwise the key with the leading byte put
right. -/
theorem withFormat_back (h : k.withFormat format = .ok k') :
    (k'.withFormat k.format = .ok k ↔ format = k.format ∨ k.TellsParity) ∧
      (format ≠ k.format → k'.withFormat k.format = .ok k.withParity) := by
  rw [← withParity_eq_self_iff hk]
  rcases withFormat_eq_ok_iff.1 h with ⟨hformat, rfl⟩ | ⟨hformat, p, hp, rfl⟩
  · exact ⟨iff_of_true (if_pos rfl) (Or.inl hformat), fun hne => absurd hformat hne⟩
  · have hback : (ofPoint p format k.netId).withFormat k.format = .ok k.withParity := by
      rw [withFormat_ofPoint, ofPoint_eq_withParity hk hp]
    rw [hback, Except.ok.injEq, or_iff_right hformat]
    exact ⟨Iff.rfl, fun _ => rfl⟩

end Accepted

/-- The hybrid key of the base point, whose second coordinate is even, by way of its compressed
form. -/
theorem withFormat_back_even :
    let x : Field := 0x79be667ef9dcbbac55a06295ce870b07029bfcdb2dce28d959f2815b16f81798
    let y : Field := 0x483ada7726a3c4655da4fbfc0e1108a8fd17b448a68554199c47d08ffb10d4b8
    let k : PublicKey := ⟨6 :: (x.bytes ++ y.bytes), .hybrid, 0x4c⟩
    let k' : PublicKey := ⟨2 :: x.bytes, .compressed, 0x4c⟩
    ofBytes k.bytes 0x4c = .ok k ∧ k.withFormat .compressed = .ok k' ∧ k.TellsParity ∧
      k'.withFormat .hybrid = .ok k := by
  intro x y k k'
  have hk : ofBytes k.bytes 0x4c = .ok k := by decide +kernel
  have h : k.withFormat .compressed = .ok k' := by decide +kernel
  have hparity : k.TellsParity := by decide +kernel
  exact ⟨hk, h, hparity, (withFormat_back hk h).1.2 (Or.inr hparity)⟩

/-- **The same point behind the byte of an odd coordinate does not come back**: its uncompressed
form gives another hybrid key with another address. -/
theorem withFormat_back_wrong_parity :
    let x : Field := 0x79be667ef9dcbbac55a06295ce870b07029bfcdb2dce28d959f2815b16f81798
    let y : Field := 0x483ada7726a3c4655da4fbfc0e1108a8fd17b448a68554199c47d08ffb10d4b8
    let k : PublicKey := ⟨7 :: (x.bytes ++ y.bytes), .hybrid, 0x4c⟩
    let k' : PublicKey := ⟨4 :: (x.bytes ++ y.bytes), .uncompressed, 0x4c⟩
    let back : PublicKey := ⟨6 :: (x.bytes ++ y.bytes), .hybrid, 0x4c⟩
    ofBytes k.bytes 0x4c = .ok k ∧ k.withFormat .uncompressed = .ok k' ∧
      k'.withFormat k.format = .ok back ∧ back ≠ k ∧ back.hash160 ≠ k.hash160 ∧
      (Address.ofKeyHash back).encode ≠ (Address.ofKeyHash k).encode := by
  intro x y k k' back
  have hhash : back.hash160 ≠ k.hash160 := by decide +kernel
  refine ⟨by decide +kernel, by decide +kernel, by decide +kernel, by decide +kernel, hhash,
    fun htext => hhash ?_⟩
  exact congrArg HashAddress.hash (HashAddress.encode_inj.1 htext)

/-! ## By way of other forms -/

section Path

variable {bytes : Bytes} {netId : UInt8} {k k' : PublicKey} {format : KeyFormat}
  (hk : ofBytes bytes netId = .ok k)
include hk

/-- A key in another form is written anew like the key with the right leading byte. -/
theorem withFormat_withFormat_of_ne (h : k.withFormat format = .ok k') (hne : format ≠ k.format)
    (last : KeyFormat) : k'.withFormat last = k.withParity.withFormat last := by
  rcases withFormat_eq_ok_iff.1 h with ⟨heq, -⟩ | ⟨-, p, hp, rfl⟩
  · exact absurd heq hne
  · rw [← ofPoint_eq_withParity hk hp, withFormat_ofPoint, withFormat_ofPoint]

/-- One form in between makes no difference. A key that is left in its own form need not be a point;
it is not looked at, either. -/
theorem withFormat_withFormat (hparity : k.TellsParity) (h : k.withFormat format = .ok k')
    (last : KeyFormat) : k'.withFormat last = k.withFormat last := by
  by_cases hformat : format = k.format
  · obtain rfl : k = k' := Except.ok.inj ((if_pos hformat).symm.trans h)
    rfl
  · rw [withFormat_withFormat_of_ne hk h hformat last, (withParity_eq_self_iff hk).2 hparity]

end Path

/-- **What a key is written as does not depend on the forms it is written in on the way**, if it is
not hybrid or its leading byte tells the right parity: after one other form, and after any number of
them, it is written in a form, or refused, like the key itself. -/
theorem withFormat_of_withFormats {k : PublicKey} (hk : k.Reachable) (hparity : k.TellsParity) :
    (∀ format k', k.withFormat format = .ok k' →
      ∀ last, k'.withFormat last = k.withFormat last) ∧
    ∀ formats k', k.withFormats formats = .ok k' →
      ∀ last, k'.withFormat last = k.withFormat last := by
  have hstep : ∀ format k', k.withFormat format = .ok k' →
      ∀ last, k'.withFormat last = k.withFormat last :=
    fun _ _ h last => withFormat_withFormat hk.ofBytes_bytes hparity h last
  refine ⟨hstep, fun formats k' h => ?_⟩
  -- What was reached so far is written like `k`, so the next form could be taken from `k` at once.
  refine withFormats_induction (P := fun k' => ∀ last, k'.withFormat last = k.withFormat last)
    (fun {_ next format} hso h => ?_) (fun _ => rfl) h
  exact hstep format next ((hso format).symm.trans h)

/-- The hybrid key of the base point by way of its compressed form, and by way of two forms. -/
theorem withFormat_of_withFormats_hybrid :
    let x : Field := 0x79be667ef9dcbbac55a06295ce870b07029bfcdb2dce28d959f2815b16f81798
    let y : Field := 0x483ada7726a3c4655da4fbfc0e1108a8fd17b448a68554199c47d08ffb10d4b8
    let k : PublicKey := ⟨6 :: (x.bytes ++ y.bytes), .hybrid, 0x4c⟩
    let k' : PublicKey := ⟨2 :: x.bytes, .compressed, 0x4c⟩
    k.Reachable ∧ k.TellsParity ∧ k.withFormat .compressed = .ok k' ∧
      k'.withFormat .uncompressed = k.withFormat .uncompressed ∧
        k.withFormats [.uncompressed, .compressed] = .ok k' ∧
          k'.withFormat .hybrid = k.withFormat .hybrid := by
  intro x y k k'
  have hk : k.Reachable := .ofBytes (by decide +kernel : ofBytes k.bytes 0x4c = .ok k)
  have hparity : k.TellsParity := by decide +kernel
  have hone : k.withFormat .compressed = .ok k' := by decide +kernel
  have htwo : k.withFormats [.uncompressed, .compressed] = .ok k' := by decide +kernel
  obtain ⟨hstep, hrun⟩ := withFormat_of_withFormats hk hparity
  exact ⟨hk, hparity, hone, hstep _ _ hone _, htwo, hrun _ _ htwo _⟩

end CoinAddress.PublicKey
