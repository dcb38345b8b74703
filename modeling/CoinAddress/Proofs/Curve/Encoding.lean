import CoinAddress.Curve.Encoding
import CoinAddress.Proofs.Curve.Field

/-!
# Points and their bytes

A point is read from two byte strings, the compressed and the uncompressed one, and from no others
(`PublicPoint.ofBytes?_eq_some_iff`). The compressed one leaves out the second coordinate: of the two
that the equation of the curve allows, it is the one with the right parity
(`PublicPoint.lift?_eq_some_iff`).
-/

namespace CoinAddress.Curve.PublicPoint

/-! ## Coordinates -/

theorem ofCoordinates?_eq_some_iff {x y : Field} {p : PublicPoint} :
    ofCoordinates? x y = some p ↔ p.x = x ∧ p.y = y := by
  obtain ⟨px, py, hp⟩ := p
  constructor
  · intro h
    rw [ofCoordinates?] at h
    split at h
    · cases h
      exact ⟨rfl, rfl⟩
    · cases h
  · rintro ⟨rfl, rfl⟩
    exact dif_pos hp

/-- No point has the second coordinate zero. -/
theorem y_ne_zero (p : PublicPoint) : p.y ≠ 0 := by
  intro h
  have hcurve := p.onCurve
  rw [OnCurve, h] at hcurve
  exact Field.cube_add_seven_ne_zero p.x hcurve.symm

/-- **The first coordinate and the parity of the second determine a point.** -/
theorem lift?_eq_some_iff {odd : Bool} {x : Field} {p : PublicPoint} :
    lift? odd x = some p ↔ p.x = x ∧ p.y.isOdd = odd := by
  simp only [lift?, ofCoordinates?_eq_some_iff]
  constructor
  · rintro ⟨hx, hy⟩
    refine ⟨hx, ?_⟩
    split at hy
    · next hodd => rw [hy, hodd]
    · next hodd =>
      have hroot : (x * x * x + 7).root ≠ 0 := by
        intro hzero
        rw [hzero, neg_zero] at hy
        exact p.y_ne_zero hy
      rw [hy, Field.isOdd_neg hroot, Bool.not_eq]
      exact hodd
  · rintro ⟨rfl, rfl⟩
    refine ⟨rfl, ?_⟩
    rw [← p.onCurve]
    rcases p.y.root_mul_self with hroot | hroot
    · rw [hroot, if_pos rfl]
    · rw [hroot, Field.isOdd_neg p.y_ne_zero, if_neg (Bool.not_ne_self _), neg_neg]

/-! ## Bytes -/

theorem ofBytes?_compressed (p : PublicPoint) : ofBytes? p.compressed = some p := by
  have hlead : (if p.y.isOdd then (3 : UInt8) else 2) = 2 ∨
      (if p.y.isOdd then (3 : UInt8) else 2) = 3 := (ite_eq_or_eq ..).symm
  have hodd : ((if p.y.isOdd then (3 : UInt8) else 2) == 3) = p.y.isOdd := by
    cases p.y.isOdd <;> rfl
  have hx := (Field.ofBytes?_eq_some_iff p.x.length_bytes).2 rfl
  rw [compressed, ofBytes?, if_pos ⟨hlead, p.x.length_bytes⟩, hodd]
  exact Option.bind_eq_some_iff.2 ⟨p.x, hx, lift?_eq_some_iff.2 ⟨rfl, rfl⟩⟩

theorem ofBytes?_uncompressed (p : PublicPoint) : ofBytes? p.uncompressed = some p := by
  have htake : (p.x.bytes ++ p.y.bytes).take 32 = p.x.bytes :=
    List.take_left' p.x.length_bytes
  have hdrop : (p.x.bytes ++ p.y.bytes).drop 32 = p.y.bytes :=
    List.drop_left' p.x.length_bytes
  have hlen : (p.x.bytes ++ p.y.bytes).length = 64 := by simp
  have hx := (Field.ofBytes?_eq_some_iff p.x.length_bytes).2 rfl
  have hy := (Field.ofBytes?_eq_some_iff p.y.length_bytes).2 rfl
  rw [uncompressed, ofBytes?, if_neg fun h => absurd h.1 (by decide), if_pos ⟨rfl, hlen⟩, htake, hdrop]
  refine Option.bind_eq_some_iff.2 ⟨p.x, hx, Option.bind_eq_some_iff.2 ⟨p.y, hy, ?_⟩⟩
  exact ofCoordinates?_eq_some_iff.2 ⟨rfl, rfl⟩

/-- **The byte strings of a point are its compressed and its uncompressed one.** -/
theorem ofBytes?_eq_some_iff {bs : Bytes} {p : PublicPoint} :
    ofBytes? bs = some p ↔ bs = p.compressed ∨ bs = p.uncompressed := by
  constructor
  · intro h
    cases bs with
    | nil => cases h
    | cons lead rest =>
      rw [ofBytes?] at h
      split at h
      · next hshape =>
        obtain ⟨hlead, hlen⟩ := hshape
        obtain ⟨x, hx, hlift⟩ := Option.bind_eq_some_iff.1 h
        obtain ⟨rfl, hodd⟩ := lift?_eq_some_iff.1 hlift
        left
        rw [compressed, hodd, (Field.ofBytes?_eq_some_iff hlen).1 hx]
        rcases hlead with rfl | rfl <;> rfl
      · split at h
        · next hshape =>
          obtain ⟨rfl, hlen⟩ := hshape
          obtain ⟨x, hx, h⟩ := Option.bind_eq_some_iff.1 h
          obtain ⟨y, hy, hcurve⟩ := Option.bind_eq_some_iff.1 h
          obtain ⟨rfl, rfl⟩ := ofCoordinates?_eq_some_iff.1 hcurve
          right
          rw [uncompressed, ← (Field.ofBytes?_eq_some_iff (by simp [hlen])).1 hx,
            ← (Field.ofBytes?_eq_some_iff (by simp [hlen])).1 hy, List.take_append_drop]
        · cases h
  · rintro (rfl | rfl)
    · exact ofBytes?_compressed p
    · exact ofBytes?_uncompressed p

end CoinAddress.Curve.PublicPoint
