import FileQuery.Proofs.Filter.Failure

/-!
# Conditions on integers

Sizes and link counts are machine words without sign, and conditions see them cut off at the
largest integer of 64 bits with sign. The ordering operators look at numbers: they read the literal
and compare it with the word as if nothing was cut off, and the cut shows in two answers only, at
the one literal that is this largest integer. Equality and patterns look at texts: a number has a
single text for them, while the ordering operators read it in many spellings.
-/

namespace FileQuery

open Calendar (Zone)

namespace Decimal

/-- The digits of a number behind some zeros and maybe a plus sign. -/
def respelled (plus : Bool) (zeros n : Nat) : List Char :=
  (if plus then ['+'] else []) ++ List.replicate zeros '0' ++ digits n

theorem isNumeral_replicate_zero_append (zeros n : Nat) :
    IsNumeral (List.replicate zeros '0' ++ digits n) := by
  refine ⟨List.append_ne_nil_of_right_ne_nil _ (digits_ne_nil n), fun c member => ?_⟩
  rcases List.mem_append.1 member with zero | digit
  · rw [List.eq_of_mem_replicate zero]
    rfl
  · exact List.all_eq_true.1 (all_isDigit_digits n) c digit

theorem value_replicate_zero_append (zeros n : Nat) :
    value (List.replicate zeros '0' ++ digits n) = n := by
  rw [value_append, value_replicate_zero, value_digits]
  simp

theorem signedText_respelled (plus : Bool) (zeros n : Nat) :
    SignedText (respelled plus zeros n) n := by
  have numeral := isNumeral_replicate_zero_append zeros n
  have denoted : value (List.replicate zeros '0' ++ digits n) = n :=
    value_replicate_zero_append zeros n
  cases plus with
  | false => simpa [respelled, denoted] using SignedText.bare numeral
  | true => simpa [respelled, denoted] using SignedText.plus numeral

/-- Only the bare digits of a number are the text of a number. -/
theorem respelled_eq_digits_iff {plus : Bool} {zeros m n : Nat} :
    respelled plus zeros n = digits m ↔ plus = false ∧ zeros = 0 ∧ n = m := by
  constructor
  · intro same
    have denoted : value (respelled plus zeros n) = m := by rw [same, value_digits]
    cases plus with
    | true =>
        have inDigits : '+' ∈ digits m := by simp [← same, respelled]
        have isDigit := List.all_eq_true.1 (all_isDigit_digits m) '+' inDigits
        cases isDigit
    | false =>
        simp only [respelled, Bool.false_eq_true, if_false, List.nil_append] at same denoted
        rw [value_replicate_zero_append] at denoted
        subst denoted
        have length := congrArg List.length same
        simp only [List.length_append, List.length_replicate] at length
        exact ⟨rfl, by omega, rfl⟩
  · rintro ⟨rfl, rfl, rfl⟩
    rfl

end Decimal

/-- The text that is shown for a word: the digits of its number, or of the largest integer of 64
bits with sign if that is less. -/
def saturatedText (word : UInt64) : List Char :=
  Decimal.digits (min word.toNat (2 ^ 63 - 1))

theorem FieldValue.render_saturated (zone : Zone) (word : UInt64) :
    (integer (saturated word)).render zone = String.ofList (saturatedText word) := by
  rw [← String.toList_inj, String.toList_ofList, render, saturated_eq_min,
    Decimal.toList_ofInt_natCast, saturatedText]

namespace Operator

/-- The word is above the largest integer of 64 bits with sign, and the operator and the literal are
such that it makes a difference whether the word or this integer is compared. -/
structure CutShows (operator : Operator) (word : UInt64) (literal : Int) : Prop where
  operator_eq : operator = .le ∨ operator = .gt
  word_gt : Decimal.maxInt64 < word.toNat
  literal_eq : literal = Decimal.maxInt64

theorem relates_saturated_iff {operator : Operator} {word : UInt64} {literal : Int}
    (small : literal ≤ Decimal.maxInt64) (hidden : ¬operator.CutShows word literal) :
    operator.Relates (saturated word) literal ↔ operator.Relates word.toNat literal := by
  have notLargest : operator = .le ∨ operator = .gt →
      (word.toNat : Int) ≤ Decimal.maxInt64 ∨ literal < Decimal.maxInt64 := by
    intro operator_eq
    by_contra large
    rw [not_or, not_le, not_lt] at large
    exact hidden ⟨operator_eq, large.1, le_antisymm small large.2⟩
  unfold Relates saturated
  cases operator with
  | lt | ge => simp only; omega
  | le | gt =>
      have := notLargest (by simp)
      simp only
      omega
  | eq | bang | ne | like => exact Iff.rfl

theorem relates_saturated_iff_not {operator : Operator} {word : UInt64} {literal : Int}
    (shows : operator.CutShows word literal) :
    operator.Relates (saturated word) literal ↔ ¬operator.Relates word.toNat literal := by
  rcases shows with ⟨rfl | rfl, large, rfl⟩
  · simp only [Relates, saturated]
    omega
  · simp only [Relates, saturated]
    omega

end Operator

namespace FileRecord

/-- The machine word in a field of the record. -/
def word? (record : FileRecord) : Field → Option UInt64
  | .fileSize => some record.size
  | .links => some record.links
  | _ => none

theorem exists_word?_iff {record : FileRecord} {field : Field} :
    (∃ word, record.word? field = some word) ↔ field.kind = .integer := by
  cases field <;> simp [word?, Field.kind, Field.info]

variable {record : FileRecord} {field : Field} {word : UInt64}

theorem project_of_word? (counts : record.word? field = some word) :
    record.project field = .ok (.integer (saturated word)) := by
  cases field with
  | links | fileSize =>
      cases counts
      rfl
  | _ => cases counts

/-- An ordering operator compares the cut off word with the number that the literal denotes. -/
theorem exists_satisfies_of_word? {operator : Operator} {literal : String} {number : Int}
    (zone : Zone) (counts : record.word? field = some word)
    (ordering : operator.isOrdering = true)
    (denotes : Decimal.readInt64? literal.toList = some number) :
    ∃ answer, record.satisfies zone ⟨field, operator, literal⟩ = .ok answer ∧
      (answer = true ↔ operator.Relates (saturated word) number) := by
  have operand : integerOperand field operator literal = .ok number := by
    rw [integerOperand, denotes]
  refine ⟨operator.satisfiedBy (compare (saturated word) number), ?_,
    Operator.satisfiedBy_compare_iff⟩
  rw [satisfies_of_project_eq_ok (project_of_word? counts),
    FieldValue.satisfies_of_isOrdering ordering, FieldValue.order, operand]
  rfl

theorem satisfies_eq_of_word? (zone : Zone) (counts : record.word? field = some word)
    (literal : String) :
    record.satisfies zone ⟨field, .eq, literal⟩ =
      .ok (decide (literal.toList = saturatedText word)) := by
  rw [satisfies_of_project_eq_ok (project_of_word? counts)]
  simp only [FieldValue.satisfies, FieldValue.render_saturated, Except.ok.injEq]
  rw [Bool.eq_iff_iff, beq_iff_eq, decide_eq_true_eq, ← String.toList_inj, String.toList_ofList,
    eq_comm]

/-- How conditions on a field with a machine word decide the record. -/
structure DecidedByWord (zone : Zone) (record : FileRecord) (field : Field) (word : UInt64) :
    Prop where
  /-- Words and literals compare as integers, but for the two answers in which the cut shows. -/
  ordering : ∀ operator literal number, operator.isOrdering = true →
    Decimal.SignedText literal.toList number →
    Decimal.minInt64 ≤ number → number ≤ Decimal.maxInt64 →
      ∃ answer, record.satisfies zone ⟨field, operator, literal⟩ = .ok answer ∧
        (¬operator.CutShows word number →
          (answer = true ↔ operator.Relates word.toNat number)) ∧
        (operator.CutShows word number →
          (answer = true ↔ ¬operator.Relates word.toNat number))
  /-- The literals that the ordering operators accept. -/
  accepts : ∀ operator literal, operator.isOrdering = true →
    ((∃ answer, record.satisfies zone ⟨field, operator, literal⟩ = .ok answer) ↔
      Decimal.IsInt64Text literal.toList)
  eq : ∀ literal, record.satisfies zone ⟨field, .eq, literal⟩ =
    .ok (decide (literal.toList = saturatedText word))
  ne : ∀ literal, record.satisfies zone ⟨field, .ne, literal⟩ =
    .ok (decide (literal.toList ≠ saturatedText word))
  like : ∀ literal, record.satisfies zone ⟨field, .like, literal⟩ =
    .ok (Like.accepts literal.toList (saturatedText word))
  /-- Zeros and a plus sign before a number make a difference to equality only. -/
  respelled : ∀ (plus : Bool) (zeros n : Nat), n ≤ Decimal.maxInt64 →
    (∀ operator, operator.isOrdering = true → ∃ answer,
      record.satisfies zone ⟨field, operator, .ofList (Decimal.respelled plus zeros n)⟩ =
        .ok answer ∧
      record.satisfies zone ⟨field, operator, Decimal.ofNat n⟩ = .ok answer) ∧
    (record.satisfies zone ⟨field, .eq, .ofList (Decimal.respelled plus zeros n)⟩ = .ok true ↔
      plus = false ∧ zeros = 0 ∧ n = min word.toNat (2 ^ 63 - 1))

/-- The size and the link count of a record are compared as integers up to the largest one of 64
bits with sign, and as the texts that are shown for them. -/
theorem decidedByWord (zone : Zone) (record : FileRecord) {field : Field} {word : UInt64}
    (counts : record.word? field = some word) : record.DecidedByWord zone field word where
  ordering := by
    intro operator literal number ordering denotes minInt64_le le_maxInt64
    have read := Decimal.readInt64?_eq_some_iff.2 ⟨denotes, minInt64_le, le_maxInt64⟩
    rcases exists_satisfies_of_word? zone counts ordering read with
      ⟨answer, decided, meaning⟩
    refine ⟨answer, decided, ?_, ?_⟩
    · intro hidden
      exact meaning.trans (Operator.relates_saturated_iff le_maxInt64 hidden)
    · intro shows
      exact meaning.trans (Operator.relates_saturated_iff_not shows)
  accepts := by
    intro operator literal ordering
    have kind : field.kind = .integer := exists_word?_iff.1 ⟨word, counts⟩
    have fails : ∀ error, record.satisfies zone ⟨field, operator, literal⟩ = .error error ↔
        ¬Decimal.IsInt64Text literal.toList ∧
          error = .nonNumericOperand field operator literal :=
      fun _ => record.satisfies_eq_error_iff_of_integer ordering kind
    rw [Outcome.exists_eq_ok_iff]
    simp [fails]
  eq := satisfies_eq_of_word? zone counts
  ne := by
    intro literal
    have equal := satisfies_eq_of_word? zone counts literal
    rw [satisfies_of_project_eq_ok (project_of_word? counts)] at equal ⊢
    simp only [FieldValue.satisfies, Except.ok.injEq] at equal ⊢
    rw [bne, equal, decide_not]
  like := by
    intro literal
    rw [satisfies_of_project_eq_ok (project_of_word? counts), FieldValue.satisfies,
      FieldValue.render_saturated, String.toList_ofList]
  respelled := by
    intro plus zeros n small
    have denotes : ∀ plus zeros, Decimal.readInt64?
        (String.ofList (Decimal.respelled plus zeros n)).toList = some (n : Int) := by
      intro plus zeros
      rw [String.toList_ofList, Decimal.readInt64?_eq_some_iff]
      have positive : Decimal.minInt64 ≤ n := le_trans (by decide) (Int.natCast_nonneg n)
      exact ⟨Decimal.signedText_respelled plus zeros n, positive, small⟩
    constructor
    · intro operator ordering
      rcases exists_satisfies_of_word? zone counts ordering (denotes plus zeros) with
        ⟨answer, decided, meaning⟩
      rcases exists_satisfies_of_word? zone counts ordering (denotes false 0) with
        ⟨answer', decided', meaning'⟩
      have same : answer = answer' := Bool.eq_iff_iff.2 (meaning.trans meaning'.symm)
      exact ⟨answer, decided, same ▸ decided'⟩
    · rw [satisfies_eq_of_word? zone counts, Except.ok.injEq, decide_eq_true_eq,
        String.toList_ofList, saturatedText, Decimal.respelled_eq_digits_iff]

/-- A size of 2 ^ 63 is not at most the largest integer of 64 bits with sign, but counts as such,
however this integer is spelled; it has its text only in the plain spelling. -/
theorem decidedByWord_above_largest :
    let record : FileRecord := { FileRecord.named "x" with size := 9223372036854775808 }
    record.word? .fileSize = some 9223372036854775808 ∧
      record.satisfies .universal ⟨.fileSize, .le, "+09223372036854775807"⟩ = .ok true ∧
      ¬Operator.le.Relates (9223372036854775808 : UInt64).toNat 9223372036854775807 ∧
      record.satisfies .universal ⟨.fileSize, .eq, "+09223372036854775807"⟩ ≠ .ok true ∧
      record.satisfies .universal ⟨.fileSize, .eq, "9223372036854775807"⟩ = .ok true := by
  intro record
  have counts : record.word? .fileSize = some 9223372036854775808 := rfl
  have decided := decidedByWord .universal record counts
  have digits : Decimal.digits 9223372036854775807 = "9223372036854775807".toList := by cbv
  have plain : "9223372036854775807" =
      String.ofList (Decimal.respelled false 0 9223372036854775807) := by
    rw [Decimal.respelled, digits]
    rfl
  have spelled : "+09223372036854775807" =
      String.ofList (Decimal.respelled true 1 9223372036854775807) := by
    rw [Decimal.respelled, digits]
    rfl
  have large : ¬Operator.le.Relates (9223372036854775808 : UInt64).toNat 9223372036854775807 := by
    simp [Operator.Relates]
  have denotes : Decimal.SignedText "+09223372036854775807".toList 9223372036854775807 := by
    rw [spelled, String.toList_ofList]
    exact Decimal.signedText_respelled true 1 9223372036854775807
  rcases decided.ordering .le "+09223372036854775807" 9223372036854775807 rfl denotes (by decide)
    (by decide) with ⟨answer, satisfied, -, opposite⟩
  have true_of_cut : answer = true := (opposite ⟨.inl rfl, by decide, rfl⟩).2 large
  refine ⟨counts, true_of_cut ▸ satisfied, large, ?_, ?_⟩
  · intro equal
    rw [spelled, (decided.respelled true 1 9223372036854775807 (by decide)).2] at equal
    cases equal.1
  · rw [plain, (decided.respelled false 0 9223372036854775807 (by decide)).2]
    exact ⟨rfl, rfl, by decide⟩

end FileRecord

end FileQuery
