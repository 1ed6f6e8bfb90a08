import Mathlib

/-!
# Outcomes of computations

When a sequence of steps succeeds and when it fails. Every reader and every stage of a run is such
a sequence, so its outcome is taken apart by these equivalences and not by unfolding.
-/

namespace FileQuery.Outcome

variable {ε ε' α β : Type}

@[simp]
theorem ok_bind (value : α) (next : α → Except ε β) : Except.ok value >>= next = next value := rfl

@[simp]
theorem error_bind (error : ε) (next : α → Except ε β) :
    Except.error error >>= next = .error error := rfl

@[simp]
theorem bind_ok (outcome : Except ε α) : (outcome >>= fun value => .ok value) = outcome := by
  cases outcome <;> rfl

@[simp]
theorem mapError_ok (convert : ε → ε') (value : α) :
    (Except.ok value).mapError convert = .ok value := rfl

@[simp]
theorem mapError_error (convert : ε → ε') (error : ε) :
    (Except.error error : Except ε α).mapError convert = .error (convert error) := rfl

theorem exists_eq_ok_iff {outcome : Except ε α} :
    (∃ value, outcome = .ok value) ↔ ¬∃ error, outcome = .error error := by
  cases outcome with
  | error error => simp
  | ok value => simp

theorem bind_eq_ok_iff {first : Except ε α} {next : α → Except ε β} {result : β} :
    first >>= next = .ok result ↔ ∃ value, first = .ok value ∧ next value = .ok result := by
  cases first with
  | error error => simp [bind, Except.bind]
  | ok value => simp [bind, Except.bind]

theorem bind_eq_error_iff {first : Except ε α} {next : α → Except ε β} {error : ε} :
    first >>= next = .error error ↔
      first = .error error ∨ ∃ value, first = .ok value ∧ next value = .error error := by
  cases first with
  | error error => simp [bind, Except.bind]
  | ok value => simp [bind, Except.bind]

theorem map_eq_ok_iff {outcome : Except ε α} {convert : α → β} {result : β} :
    outcome.map convert = .ok result ↔ ∃ value, outcome = .ok value ∧ convert value = result := by
  cases outcome with
  | error error => simp [Except.map]
  | ok value => simp [Except.map]

theorem map_eq_error_iff {outcome : Except ε α} {convert : α → β} {error : ε} :
    outcome.map convert = .error error ↔ outcome = .error error := by
  cases outcome with
  | error error => simp [Except.map]
  | ok value => simp [Except.map]

theorem mapError_eq_ok_iff {outcome : Except ε α} {convert : ε → ε'} {result : α} :
    outcome.mapError convert = .ok result ↔ outcome = .ok result := by
  cases outcome with
  | error error => simp [Except.mapError]
  | ok value => simp [Except.mapError]

theorem mapError_eq_error_iff {outcome : Except ε α} {convert : ε → ε'} {error : ε'} :
    outcome.mapError convert = .error error ↔
      ∃ cause, outcome = .error cause ∧ convert cause = error := by
  cases outcome with
  | error error => simp [Except.mapError]
  | ok value => simp [Except.mapError]

end FileQuery.Outcome
