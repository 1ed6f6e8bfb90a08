import FileQuery.Proofs.Filter.Comparison
import FileQuery.Proofs.Filter.Like

/-!
# Agreement of the operators

The operators decide a value in three ways: equality by its text, patterns by a search in this text,
and the ordering operators by the numbers that the text and the literal denote. All three agree with
each other. A pattern without `%` and `_` accepts its own text only; the ordering operators ask for
the same numbers whichever of them it is, so that they fail together or answer by one order; and a
number that is written as the literal is the number that the literal denotes.

A date is left out of the last: a text of a date can stand for two instants, and the literal means
one of them.
-/

namespace FileQuery

open Calendar (Zone)

namespace Like

variable {pattern text : List Char}

theorem matches_iff_eq_of_plain (noPercent : '%' ∉ pattern) (noUnderscore : '_' ∉ pattern) :
    Matches pattern text ↔ text = pattern := by
  induction pattern generalizing text with
  | nil => rfl
  | cons p pattern ih =>
      rw [List.mem_cons, not_or] at noPercent noUnderscore
      rw [matches_cons_iff (Ne.symm noPercent.1)]
      constructor
      · rintro ⟨c, rest, rfl, fits, fitsRest⟩
        have same : p = c := fits.resolve_left (Ne.symm noUnderscore.1)
        rw [same, (ih noPercent.2 noUnderscore.2).1 fitsRest]
      · rintro rfl
        exact ⟨p, pattern, rfl, .inr rfl, (ih noPercent.2 noUnderscore.2).2 rfl⟩

theorem accepts_eq_beq_of_plain (noPercent : '%' ∉ pattern) (noUnderscore : '_' ∉ pattern) :
    accepts pattern text = (text == pattern) := by
  rw [Bool.eq_iff_iff, beq_iff_eq, accepts, search_eq_true_iff _ (tracks_initial _ _)]
  exact matches_iff_eq_of_plain noPercent noUnderscore

end Like

namespace FieldValue

variable {zone : Zone} {value : FieldValue} {field : Field} {literal : String} {order : Ordering}

/-- The order of a value and a literal does not depend on the operator that asks for it. -/
theorem order_eq_ok_congr (operator operator' : Operator) :
    value.order zone ⟨field, operator, literal⟩ = .ok order ↔
      value.order zone ⟨field, operator', literal⟩ = .ok order := by
  cases value with
  | integer number | text content =>
      simp only [FieldValue.order, Outcome.bind_eq_ok_iff, integerOperand_eq_ok_iff]
  | date instant => exact Iff.rfl

/-- A number or text that is written as the literal is ordered as its equal. -/
theorem order_eq_eq_of_render_eq {operator : Operator} (noDate : ∀ instant, value ≠ date instant)
    (same : value.render zone = literal)
    (ordered : value.order zone ⟨field, operator, literal⟩ = .ok order) : order = .eq := by
  cases value with
  | date instant => exact absurd rfl (noDate instant)
  | integer number =>
      rcases Outcome.bind_eq_ok_iff.1 ordered with ⟨denoted, read, compared⟩
      have denotes := (Decimal.readInt64?_eq_some_iff.1 (integerOperand_eq_ok_iff.1 read)).1
      have written : Decimal.SignedText literal.toList number := by
        rw [← same, render, Decimal.ofInt, String.toList_ofList]
        exact Decimal.signedText_signed number
      cases compared
      rw [written.unique denotes]
      exact compare_eq_iff_eq.2 rfl
  | text content =>
      rcases Outcome.bind_eq_ok_iff.1 ordered with ⟨number, readContent, ordered⟩
      rcases Outcome.bind_eq_ok_iff.1 ordered with ⟨denoted, readLiteral, compared⟩
      have same : content = literal := same
      rw [same, readLiteral] at readContent
      cases readContent
      cases compared
      exact compare_eq_iff_eq.2 rfl

end FieldValue

/-- Answers of the ordering operators that fit together: two of them are the opposites of the other
two, and exactly one of less, greater and neither holds. -/
structure Operator.Complementary (answers : Operator → Bool) : Prop where
  lt_eq : answers .lt = !answers .ge
  gt_eq : answers .gt = !answers .le
  count_eq_one : [answers .lt, answers .gt, answers .le && answers .ge].count true = 1

theorem Operator.complementary_satisfiedBy (order : Ordering) :
    Complementary fun operator => operator.satisfiedBy order := by
  cases order <;> exact ⟨rfl, rfl, rfl⟩

/-- How the answers of the operators to one value and one literal fit together. -/
structure FieldValue.Coherent (zone : Zone) (value : FieldValue) (field : Field)
    (literal : String) : Prop where
  /-- Equality and inequality always have an answer, and opposite ones. -/
  eq_ne : ∃ equal, value.satisfies zone ⟨field, .eq, literal⟩ = .ok equal ∧
    value.satisfies zone ⟨field, .ne, literal⟩ = .ok !equal
  like : ∃ fits, value.satisfies zone ⟨field, .like, literal⟩ = .ok fits
  like_eq : '%' ∉ literal.toList → '_' ∉ literal.toList →
    value.satisfies zone ⟨field, .like, literal⟩ = value.satisfies zone ⟨field, .eq, literal⟩
  /-- The ordering operators all fail, or all have answers that fit together. -/
  ordering :
    (∀ operator, operator.isOrdering = true →
      ∃ error, value.satisfies zone ⟨field, operator, literal⟩ = .error error) ∨
    ∃ answers, Operator.Complementary answers ∧ ∀ operator, operator.isOrdering = true →
      value.satisfies zone ⟨field, operator, literal⟩ = .ok (answers operator)
  /-- What equals the literal is neither less nor greater, unless it cannot be ordered. -/
  ordering_of_eq : (∀ instant, value ≠ date instant) →
    value.satisfies zone ⟨field, .eq, literal⟩ = .ok true →
    ∀ operator, operator = .le ∨ operator = .ge →
      ∀ answer, value.satisfies zone ⟨field, operator, literal⟩ = .ok answer → answer = true

/-- The operators agree with each other on every value and every literal. -/
theorem FieldValue.coherent (zone : Zone) (value : FieldValue) (field : Field)
    (literal : String) : value.Coherent zone field literal where
  eq_ne := ⟨_, rfl, rfl⟩
  like := ⟨_, rfl⟩
  like_eq := by
    intro noPercent noUnderscore
    simp only [satisfies, Except.ok.injEq]
    rw [Like.accepts_eq_beq_of_plain noPercent noUnderscore, Bool.eq_iff_iff, beq_iff_eq,
      beq_iff_eq, String.toList_inj]
  ordering := by
    by_cases ordered : ∃ order, value.order zone ⟨field, .lt, literal⟩ = .ok order
    · rcases ordered with ⟨order, ordered⟩
      right
      refine ⟨_, Operator.complementary_satisfiedBy order, ?_⟩
      intro operator isOrdering
      rw [satisfies_of_isOrdering isOrdering, (order_eq_ok_congr .lt operator).1 ordered]
      rfl
    · left
      intro operator isOrdering
      by_contra noError
      rcases Outcome.exists_eq_ok_iff.2 noError with ⟨answer, answered⟩
      rw [satisfies_of_isOrdering isOrdering] at answered
      rcases Outcome.map_eq_ok_iff.1 answered with ⟨order, found, -⟩
      exact ordered ⟨order, (order_eq_ok_congr operator .lt).1 found⟩
  ordering_of_eq := by
    intro noDate equal operator either answer answered
    have same : value.render zone = literal := by
      simpa [satisfies] using equal
    have isOrdering : operator.isOrdering = true := by
      rcases either with rfl | rfl <;> rfl
    rw [satisfies_of_isOrdering isOrdering] at answered
    rcases Outcome.map_eq_ok_iff.1 answered with ⟨order, ordered, rfl⟩
    rw [order_eq_eq_of_render_eq noDate same ordered]
    rcases either with rfl | rfl <;> rfl

end FileQuery
