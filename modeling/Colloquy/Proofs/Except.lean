/-!
# Results of what may fail

A computation made of steps that may fail has a result exactly if every step has one.
-/

namespace Colloquy

variable {ε α β : Type}

theorem bind_eq_ok_iff {first : Except ε α} {next : α → Except ε β} {result : β} :
    (first >>= next) = .ok result ↔ ∃ value, first = .ok value ∧ next value = .ok result := by
  cases first with
  | error cause => simp [bind, Except.bind]
  | ok value => simp [bind, Except.bind]

/-- A computation fails because its first step does, or because what follows does. -/
theorem bind_eq_error_iff {first : Except ε α} {next : α → Except ε β} {cause : ε} :
    (first >>= next) = .error cause ↔
      first = .error cause ∨ ∃ value, first = .ok value ∧ next value = .error cause := by
  cases first with
  | error other => simp [bind, Except.bind]
  | ok value => simp [bind, Except.bind]

theorem map_eq_ok_iff {first : Except ε α} {change : α → β} {result : β} :
    first.map change = .ok result ↔ ∃ value, first = .ok value ∧ change value = result := by
  cases first with
  | error cause => simp [Except.map]
  | ok value => simp [Except.map]

/-! ## Results without their faults -/

@[simp]
theorem toOption_ok (value : α) : (.ok value : Except ε α).toOption = some value :=
  rfl

@[simp]
theorem toOption_error (cause : ε) : (.error cause : Except ε α).toOption = none :=
  rfl

@[simp]
theorem toOption_bind (first : Except ε α) (next : α → Except ε β) :
    (first >>= next).toOption = first.toOption.bind fun value => (next value).toOption := by
  cases first with
  | error cause => rfl
  | ok value => rfl

@[simp]
theorem toOption_map (first : Except ε α) (change : α → β) :
    (first.map change).toOption = first.toOption.map change := by
  cases first with
  | error cause => rfl
  | ok value => rfl

theorem toOption_eq_some_iff {result : Except ε α} {value : α} :
    result.toOption = some value ↔ result = .ok value := by
  cases result with
  | error cause => simp
  | ok other => simp

end Colloquy
