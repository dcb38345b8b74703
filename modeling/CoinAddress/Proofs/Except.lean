/-!
# Steps that may fail

What it means that a computation in steps gives a result: every step gives one. The lemmas take a
pipeline apart into its steps, and say what the first step that fails makes of it. In the same way a
list has a first member without a property unless all have it (`exists_first_not`).

Where every input is fine or has a first fault, it is enough to know what is made of either
(`outcome_iff`).
-/

namespace CoinAddress

variable {ε ε' α β : Type}

/-- A step that gives a result hands it to the next. -/
theorem bind_of_ok {x : Except ε α} {a : α} (h : x = .ok a) (f : α → Except ε β) :
    (x >>= f) = f a := by
  rw [h]
  rfl

/-- A step that fails is the last. -/
theorem bind_of_error {x : Except ε α} {e : ε} (h : x = .error e) (f : α → Except ε β) :
    (x >>= f) = .error e := by
  rw [h]
  rfl

theorem bind_eq_ok {x : Except ε α} {f : α → Except ε β} {b : β} :
    (x >>= f) = .ok b ↔ ∃ a, x = .ok a ∧ f a = .ok b := by
  cases x <;> simp [bind, Except.bind]

theorem bind_eq_error {x : Except ε α} {f : α → Except ε β} {e : ε} :
    (x >>= f) = .error e ↔ x = .error e ∨ ∃ a, x = .ok a ∧ f a = .error e := by
  cases x <;> simp [bind, Except.bind]

theorem map_eq_ok {x : Except ε α} {f : α → β} {b : β} :
    x.map f = .ok b ↔ ∃ a, x = .ok a ∧ f a = b := by
  cases x <;> simp [Except.map]

theorem map_eq_error {x : Except ε α} {f : α → β} {e : ε} :
    x.map f = .error e ↔ x = .error e := by
  cases x <;> simp [Except.map]

theorem mapError_eq_ok {x : Except ε α} {f : ε → ε'} {a : α} :
    x.mapError f = .ok a ↔ x = .ok a := by
  cases x with
  | error e => exact iff_of_false (fun h => nomatch h) (fun h => nomatch h)
  | ok b =>
    show Except.ok b = Except.ok a ↔ Except.ok b = Except.ok a
    rw [Except.ok.injEq, Except.ok.injEq]

/-- A computation fails if it gives no result. -/
theorem exists_eq_error_iff {x : Except ε α} : (∃ e, x = .error e) ↔ ¬ ∃ a, x = .ok a := by
  cases x <;> simp

/-- **What is known of all cases is known in both directions**: if an input is fine or has a fault, a
computation that succeeds on what is fine and reports the fault does so for no other reason. -/
theorem outcome_iff {x : Except ε α} {fine : Prop} {fault : ε → Prop} (h : fine ∨ ∃ e, fault e)
    (hfine : fine → ∃ a, x = .ok a) (hfault : ∀ e, fault e → x = .error e) :
    ((∃ a, x = .ok a) ↔ fine) ∧ ∀ e, x = .error e ↔ fault e := by
  refine ⟨⟨?_, hfine⟩, fun e => ⟨fun hx => ?_, hfault e⟩⟩
  · rintro ⟨a, ha⟩
    refine h.resolve_right fun ⟨e, he⟩ => ?_
    cases ha.symm.trans (hfault e he)
  · rcases h with hok | ⟨e', he'⟩
    · obtain ⟨a, ha⟩ := hfine hok
      cases ha.symm.trans hx
    · cases hx.symm.trans (hfault e' he')
      exact he'

theorem exists_first_not {p : α → Prop} {xs : List α} (h : ¬ ∀ x ∈ xs, p x) :
    ∃ before x behind, xs = before ++ x :: behind ∧ (∀ y ∈ before, p y) ∧ ¬ p x := by
  induction xs with
  | nil => exact absurd (fun _ hx => absurd hx List.not_mem_nil) h
  | cons x xs ih =>
    by_cases hx : p x
    · obtain ⟨before, y, behind, rfl, hbefore, hy⟩ := ih fun hxs =>
        h (List.forall_mem_cons.2 ⟨hx, hxs⟩)
      exact ⟨x :: before, y, behind, rfl, List.forall_mem_cons.2 ⟨hx, hbefore⟩, hy⟩
    · exact ⟨[], x, xs, rfl, fun _ hy => absurd hy List.not_mem_nil, hx⟩

end CoinAddress
