/-!
Results that may be errors. What a result that is no error came from, and how a change of the result
goes together with what is done next: a run of a processor or of a ledger is a chain of these two. The
library has the laws for `<$>` and `>>=`; here they are for `Except.map` and `Except.bind`, as the runs
spell them.
-/

section

variable {ε α β γ : Type}

theorem Except.map_map (first : Except ε α) (f : α → β) (g : β → γ) :
    (first.map f).map g = first.map fun value => g (f value) := by
  cases first <;> rfl

theorem Except.map_bind (first : Except ε α) (next : α → Except ε β) (f : β → γ) :
    (first.bind next).map f = first.bind fun value => (next value).map f := by
  cases first <;> rfl

theorem Except.bind_map (first : Except ε α) (f : α → β) (next : β → Except ε γ) :
    (first.map f).bind next = first.bind fun value => next (f value) := by
  cases first <;> rfl

theorem Except.bind_assoc (first : Except ε α) (next : α → Except ε β) (last : β → Except ε γ) :
    (first.bind next).bind last = first.bind fun value => (next value).bind last := by
  cases first <;> rfl

/-- Where a result leads depends only on what follows the values that it can have. -/
theorem Except.bind_congr {first : Except ε α} {next next' : α → Except ε β}
    (h : ∀ value, first = .ok value → next value = next' value) :
    first.bind next = first.bind next' := by
  cases first with
  | error e => rfl
  | ok value => exact h value rfl

end

namespace MarketFeed

variable {ε α β γ : Type}

theorem exists_of_bind_ok {first : Except ε α} {next : α → Except ε β} {result : β}
    (h : first >>= next = .ok result) :
    ∃ value, first = .ok value ∧ next value = .ok result := by
  cases first with
  | error e => cases h
  | ok value => exact ⟨value, rfl, h⟩

theorem exists_of_map_ok {first : Except ε α} {f : α → β} {result : β}
    (h : first.map f = .ok result) : ∃ value, first = .ok value ∧ f value = result := by
  cases first with
  | error e => cases h
  | ok value => exact ⟨value, rfl, Except.ok.inj h⟩

theorem eq_error_of_map_error {first : Except ε α} {f : α → β} {e : ε}
    (h : first.map f = .error e) : first = .error e := by
  cases first with
  | error e' =>
      cases h
      rfl
  | ok value => cases h

/-- Results that are the same in a finer view are the same in a coarser one. -/
theorem map_eq_map_of_finer {first second : Except ε α} {f : α → β} {g : α → γ}
    (hfiner : ∀ a b, f a = f b → g a = g b) (h : first.map f = second.map f) :
    first.map g = second.map g := by
  cases hfirst : first with
  | error e =>
      rw [hfirst] at h
      rw [eq_error_of_map_error h.symm]
  | ok a =>
      rw [hfirst] at h
      obtain ⟨b, hsecond, hb⟩ := exists_of_map_ok h.symm
      rw [hsecond]
      exact congrArg Except.ok (hfiner a b hb.symm)

end MarketFeed
