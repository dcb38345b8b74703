import CoinAddress.Proofs.Json.Written
import Mathlib.Data.List.Nodup

/-!
# Records are read back

From the record that is made of fields with different names, the reader of fields takes each field
in the order of the names (`fields?_record`), and each kind of field gives the value it was made of.
An optional field that is absent is written as `null` and is read as absent (`optional_ofOption`).
-/

namespace CoinAddress.Json

theorem mapM_eq_some_map {α β : Type} {f : α → Option β} {g : α → β} {xs : List α}
    (h : ∀ x ∈ xs, f x = some (g x)) : xs.mapM f = some (xs.map g) := by
  induction xs with
  | nil => rfl
  | cons x xs ih =>
    obtain ⟨hx, hxs⟩ := List.forall_mem_cons.1 h
    rw [List.mapM_cons, hx, ih hxs]
    rfl

/-! ## Fields by name -/

section

variable {members : List (String × Value)}

/-- With different names, the member with a name is the one that was given. -/
theorem member?_of_mem (h : (members.map Prod.fst).Nodup) {m : String × Value} (hm : m ∈ members) :
    Value.member? (members.map fun m => (some m.1, m.2)) m.1 = some (some m.2) := by
  obtain ⟨before, behind, rfl⟩ := List.append_of_mem hm
  rw [List.map_append, List.map_cons, List.nodup_middle, List.nodup_cons, ← List.map_append] at h
  have hothers : ∀ x ∈ before ++ behind, ¬ ((some x.1 : StringValue) == some m.1) := by
    intro x hx hname
    exact h.1 (List.mem_map.2 ⟨x, hx, Option.some.inj (beq_iff_eq.1 hname)⟩)
  obtain ⟨hbefore, hbehind⟩ := List.forall_mem_append.1 hothers
  have hfilter : ((before ++ m :: behind).map fun m => ((some m.1 : StringValue), m.2)).filter
      (fun x => x.1 == some m.1) = [(some m.1, m.2)] := by
    have hone : (before ++ m :: behind).filter (fun x => (some x.1 : StringValue) == some m.1) =
        [m] := by
      rw [List.filter_append, List.filter_cons_of_pos (by simp), List.filter_eq_nil_iff.2 hbefore,
        List.filter_eq_nil_iff.2 hbehind, List.nil_append]
    rw [List.filter_map]
    exact congrArg (List.map fun m => (some m.1, m.2)) hone
  rw [Value.member?, hfilter]

/-- **The fields of a record are those it is made of.** -/
theorem fields?_record (names : List String) (hnames : members.map Prod.fst = names)
    (h : names.Nodup) :
    (Value.record members).fields? names = some (members.map fun m => some m.2) := by
  have hall : (members.map fun m => ((some m.1 : StringValue), m.2)).all
      (fun m => m.1.isSome) = true := by
    simp
  subst hnames
  rw [Value.record, Value.fields?, if_pos hall, List.mapM_map]
  exact mapM_eq_some_map fun m hm => member?_of_mem h hm

end

/-! ## Single fields -/

theorem natBelow?_ofNat {n bound : Nat} (h : n < bound) :
    (Value.ofNat n).natBelow? bound = some n := by
  rw [Value.ofNat, Value.natBelow?, natOfDigits?_toString]
  exact if_pos h

@[simp]
theorem byte?_ofNat (b : UInt8) : (Value.ofNat b.toNat).byte? = some b := by
  rw [Value.byte?, natBelow?_ofNat b.toNat_lt]
  exact congrArg some UInt8.ofNat_toNat

@[simp]
theorem word?_ofNat (w : UInt32) : (Value.ofNat w.toNat).word? = some w := by
  rw [Value.word?, natBelow?_ofNat w.toNat_lt]
  exact congrArg some UInt32.ofNat_toNat

@[simp]
theorem bool?_bool (b : Bool) : (Value.bool b).bool? = some b := rfl

@[simp]
theorem string?_ofString (s : String) : (Value.ofString s).string? = some s := rfl

@[simp]
theorem tag?_ofString {α : Type} (tags : List (String × α)) (t : String) :
    (Value.ofString t).tag? tags = tags.lookup t := rfl

section

variable {α : Type} {read : Value → Option α}

@[simp]
theorem required_some (v : Value) : required read (some v) = read v := rfl

/-- **An optional field is read back**, absent or not. -/
theorem optional_ofOption (f : α → Value) (hnull : ∀ a, f a ≠ .null)
    (h : ∀ a, read (f a) = some a) (o : Option α) :
    optional read (some (.ofOption f o)) = some o := by
  cases o with
  | none => rfl
  | some a =>
    rw [Value.ofOption, optional.eq_3 _ _ (hnull a), h]
    rfl

end

@[simp]
theorem optional_ofString (o : Option String) :
    optional Value.string? (some (.ofOption .ofString o)) = some o :=
  optional_ofOption Value.ofString (fun _ => nofun) string?_ofString o

@[simp]
theorem optional_byte (o : Option UInt8) :
    optional Value.byte? (some (.ofOption (fun b => .ofNat b.toNat) o)) = some o :=
  optional_ofOption (fun b => Value.ofNat b.toNat) (fun _ => nofun) byte?_ofNat o

/-! ## Whole values -/

theorem Whole.record {members : List (String × Value)} (h : ∀ m ∈ members, Whole m.2) :
    Whole (.record members) := by
  refine .object fun m hm => ?_
  obtain ⟨x, hx, rfl⟩ := List.mem_map.1 hm
  exact h x hx

theorem Whole.ofOption {α : Type} {f : α → Value} (h : ∀ a, Whole (f a)) (o : Option α) :
    Whole (.ofOption f o) := by
  cases o with
  | none => exact .null
  | some a => exact h a

end CoinAddress.Json
