import FileQuery.Proofs.Calendar.Order
import FileQuery.Proofs.Filter.Comparison
import FileQuery.Proofs.Filter.DateOperand

/-!
# Ranges of dates

A later date literal does not denote an earlier instant, so a condition that bounds a date from
above lets no fewer records pass with a later literal, and one that bounds it from below no fewer
with an earlier literal. This holds across every change of the clocks.
-/

namespace FileQuery

open Calendar

variable {zone : Zone} {left right : String} {wall wall' : WallTime} {field : Field}
  {instant instant' : Int}

theorem dateOperand_mono (regular : zone.Regular)
    (written : DateLiteral.written? left.toList = some wall)
    (written' : DateLiteral.written? right.toList = some wall')
    (notAfter : wall.numbers ≤ wall'.numbers)
    (accepted : dateOperand zone field left = .ok instant)
    (accepted' : dateOperand zone field right = .ok instant') : instant ≤ instant' := by
  rw [dateOperand_eq_ok_iff] at accepted accepted'
  exact DateLiteral.instant_le_of_written regular written written' notAfter accepted accepted'

/-- How a record passes a single bound on a date. -/
theorem passes_date_iff {record : FileRecord} {operator : Operator} {shown : Int}
    (projected : record.project field = .ok (.date shown))
    (ordering : operator.isOrdering = true)
    (accepted : dateOperand zone field left = .ok instant) :
    record.passes zone [⟨field, operator, left⟩] = .ok true ↔ operator.Relates shown instant := by
  rw [FileRecord.passes_singleton, FileRecord.satisfies_of_project_eq_ok projected]
  apply FieldValue.satisfies_date_iff
  · exact ordering
  · exact accepted

/-- Of two date literals, the one that is not written with a later time does not denote a later
instant. A record that passes an upper bound passes it with the later literal too, and a record
that passes a lower bound passes it with the earlier one too. -/
theorem dateOperand_le_and_passes (common : zone.IsCommon)
    (written : DateLiteral.written? left.toList = some wall)
    (written' : DateLiteral.written? right.toList = some wall')
    (notAfter : wall.numbers ≤ wall'.numbers)
    (accepted : dateOperand zone field left = .ok instant)
    (accepted' : dateOperand zone field right = .ok instant') :
    instant ≤ instant' ∧
      (field = .modified ∨ field = .created → ∀ record : FileRecord,
        (∀ operator, operator = .lt ∨ operator = .le →
          record.passes zone [⟨field, operator, left⟩] = .ok true →
          record.passes zone [⟨field, operator, right⟩] = .ok true) ∧
        (∀ operator, operator = .gt ∨ operator = .ge →
          record.passes zone [⟨field, operator, right⟩] = .ok true →
          record.passes zone [⟨field, operator, left⟩] = .ok true)) := by
  have le := dateOperand_mono common.regular written written' notAfter accepted accepted'
  refine ⟨le, ?_⟩
  intro isDate record
  have kind : field.kind = .date := by rcases isDate with rfl | rfl <;> rfl
  rcases record.exists_project_eq_date kind with ⟨shown, projected⟩
  constructor
  · rintro operator (rfl | rfl) passes
    · rw [passes_date_iff projected rfl accepted] at passes
      exact (passes_date_iff projected rfl accepted').2 (passes.trans_le le)
    · rw [passes_date_iff projected rfl accepted] at passes
      exact (passes_date_iff projected rfl accepted').2 (passes.trans le)
  · rintro operator (rfl | rfl) passes
    · rw [passes_date_iff projected rfl accepted'] at passes
      exact (passes_date_iff projected rfl accepted).2 (le.trans_lt passes)
    · rw [passes_date_iff projected rfl accepted'] at passes
      exact (passes_date_iff projected rfl accepted).2 (le.trans passes)

/-- A time that is written with a sixtieth second, before the hour that New York has twice. -/
def sixtiethSecond : WallTime where
  date := { year := 2024, month := 11, day := 3 }
  hour := 0
  minute := 59
  second := 60

def oneOClock : WallTime where
  date := { year := 2024, month := 11, day := 3 }
  hour := 1

theorem dateOperand_le_and_passes_sixtieth_second :
    DateLiteral.written? "2024-11-3 0:59:60".toList = some sixtiethSecond ∧
      DateLiteral.written? "2024-11-03 01:00:00".toList = some oneOClock ∧
      sixtiethSecond.numbers ≤ oneOClock.numbers ∧
      dateOperand newYork .modified "2024-11-3 0:59:60" = .ok 1730609999 ∧
      dateOperand newYork .modified "2024-11-03 01:00:00" = .ok 1730613600 ∧
      (1730609999 : Int) ≤ 1730613600 ∧
      ∀ record : FileRecord,
        record.passes newYork [⟨.modified, .le, "2024-11-3 0:59:60"⟩] = .ok true →
        record.passes newYork [⟨.modified, .le, "2024-11-03 01:00:00"⟩] = .ok true := by
  have written : DateLiteral.written? "2024-11-3 0:59:60".toList = some sixtiethSecond := by cbv
  have written' : DateLiteral.written? "2024-11-03 01:00:00".toList = some oneOClock := by cbv
  have notAfter : sixtiethSecond.numbers ≤ oneOClock.numbers := by decide
  have accepted : dateOperand newYork .modified "2024-11-3 0:59:60" = .ok 1730609999 := by cbv
  have accepted' : dateOperand newYork .modified "2024-11-03 01:00:00" = .ok 1730613600 := by cbv
  rcases dateOperand_le_and_passes newYork_isCommon written written' notAfter accepted
    accepted' with ⟨le, passes⟩
  refine ⟨written, written', notAfter, accepted, accepted', le, ?_⟩
  intro record
  exact (passes (Or.inl rfl) record).1 .le (Or.inr rfl)

end FileQuery
