/-!
# Results of stages that may fail

What a result is after another stage, with its value or its error changed, or as an option.
-/

namespace NotificationTap.Except

variable {ε ε' α β : Type} {x : Except ε α}

@[simp] theorem mapError_ok (change : ε → ε') (a : α) :
    (.ok a : Except ε α).mapError change = .ok a := rfl

@[simp] theorem mapError_error (change : ε → ε') (e : ε) :
    (.error e : Except ε α).mapError change = .error (change e) := rfl

@[simp] theorem bind_eq_ok {next : α → Except ε β} {b : β} :
    x.bind next = .ok b ↔ ∃ a, x = .ok a ∧ next a = .ok b := by
  cases x <;> simp [Except.bind]

@[simp] theorem bind_eq_error {next : α → Except ε β} {e : ε} :
    x.bind next = .error e ↔ x = .error e ∨ ∃ a, x = .ok a ∧ next a = .error e := by
  cases x <;> simp [Except.bind]

@[simp] theorem map_eq_ok {change : α → β} {b : β} :
    x.map change = .ok b ↔ ∃ a, x = .ok a ∧ change a = b := by
  cases x <;> simp [Except.map]

@[simp] theorem map_eq_error {change : α → β} {e : ε} :
    x.map change = .error e ↔ x = .error e := by
  cases x <;> simp [Except.map]

@[simp] theorem mapError_eq_ok {change : ε → ε'} {a : α} :
    x.mapError change = .ok a ↔ x = .ok a := by
  cases x <;> simp

@[simp] theorem mapError_eq_error {change : ε → ε'} {e : ε'} :
    x.mapError change = .error e ↔ ∃ d, x = .error d ∧ change d = e := by
  cases x <;> simp

theorem toOption_eq_some {a : α} : x.toOption = some a ↔ x = .ok a := by
  cases x <;> simp [Except.toOption]

theorem toOption_eq_none : x.toOption = none ↔ ∃ e, x = .error e := by
  cases x <;> simp [Except.toOption]

end NotificationTap.Except
