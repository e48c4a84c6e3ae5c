/-!
# Computations that may fail

A row of steps that went through is taken apart step by step, each with the value that it gave. What does
not go through fails, so what is known of the outcomes that go through decides when there is a failure.
-/

namespace BootSeal

variable {ε α β : Type}

theorem bind_eq_ok {x : Except ε α} {f : α → Except ε β} {b : β} (h : (x >>= f) = .ok b) :
    ∃ a, x = .ok a ∧ f a = .ok b := by
  cases x with
  | error e => cases h
  | ok a => exact ⟨a, rfl, h⟩

/-- What goes through behind a check has passed the check. -/
theorem ite_error_eq_ok {p : Prop} [Decidable p] {x : Except ε α} {e : ε} {a : α}
    (h : (if p then x else .error e) = .ok a) : p ∧ x = .ok a := by
  split at h
  next hp => exact ⟨hp, h⟩
  next => cases h

theorem map_eq_ok {x : Except ε α} {f : α → β} {b : β} (h : x.map f = .ok b) :
    ∃ a, x = .ok a ∧ f a = b := by
  cases x with
  | error e => cases h
  | ok a =>
      cases h
      exact ⟨a, rfl, rfl⟩

theorem map_eq_error {x : Except ε α} {f : α → β} {e : ε} (h : x.map f = .error e) :
    x = .error e := by
  cases x with
  | error e' =>
      cases h
      rfl
  | ok a => cases h

theorem map_some_ne_none (x : Except ε α) : x.map some ≠ .ok none := by
  intro h
  cases x with
  | error e => cases h
  | ok a => cases h

theorem exists_error_iff {x : Except ε α} : (∃ e, x = .error e) ↔ ¬∃ a, x = .ok a := by
  cases x with
  | error e => simp
  | ok a => simp

theorem exists_error_congr {ε' : Type} {x : Except ε α} {y : Except ε' α}
    (h : ∀ {a}, x = .ok a ↔ y = .ok a) : (∃ e, x = .error e) ↔ ∃ e, y = .error e := by
  simp only [exists_error_iff, h]

/-- A list is recovered from its image if every entry is. -/
theorem mapM_map_eq_some {f : β → Option α} {g : α → β} {l : List α}
    (h : ∀ a ∈ l, f (g a) = some a) : (l.map g).mapM f = some l := by
  induction l with
  | nil => rfl
  | cons a l ih =>
      have hrest := ih fun x hx => h x (List.mem_cons_of_mem a hx)
      rw [List.map_cons, List.mapM_cons, h a List.mem_cons_self, hrest]
      rfl

end BootSeal
