/-!
# Operations in sequence

A sequence of two operations succeeds exactly if both do, and it fails with the failure of the first
one that fails.
-/

namespace CommitPolicy

variable {ε α β : Type} {x : Except ε α} {f : α → Except ε β}

theorem bind_eq_ok {a : α} {b : β} (hx : x = .ok a) (hf : f a = .ok b) :
  x >>= f = .ok b
  := by
  rw [hx]
  apply hf

theorem exists_of_bind_eq_ok {b : β} (h : x >>= f = .ok b) :
  ∃ a, x = .ok a ∧ f a = .ok b
  := by
  cases x with
  | error e => cases h
  | ok a => exact ⟨a, rfl, h⟩

theorem or_exists_of_bind_eq_error {e : ε} (h : x >>= f = .error e) :
  x = .error e ∨ ∃ a, x = .ok a ∧ f a = .error e
  := by
  cases x with
  | error e => exact .inl (congrArg _ (Except.error.inj h))
  | ok a => exact .inr ⟨a, rfl, h⟩

end CommitPolicy
