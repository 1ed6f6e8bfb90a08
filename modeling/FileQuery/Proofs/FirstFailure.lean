import FileQuery.Listing.Basic
import FileQuery.Proofs.Outcome

/-!
# First failures

Every stage of a run goes through a list of items and ends with the first of them that fails. The
outcome of an item is a relation here, so that it may also be one of several possible outcomes.
-/

namespace FileQuery

variable {ι α β ε ε' : Type}

/-- Of some items, the first that does not succeed has a failure. -/
def FirstFailure (gives : ι → Except ε α → Prop) (items : List ι) (failed : ι) (failure : ε) :
    Prop :=
  ∃ before rest, items = before ++ failed :: rest ∧
    (∀ item ∈ before, ∃ result, gives item (.ok result)) ∧ gives failed (.error failure)

theorem FirstFailure.mem {gives : ι → Except ε α → Prop} {items : List ι} {failed : ι}
    {failure : ε} (first : FirstFailure gives items failed failure) :
    failed ∈ items ∧ gives failed (.error failure) := by
  rcases first with ⟨before, rest, rfl, _, fails⟩
  exact ⟨by simp, fails⟩

theorem FirstFailure.cons {gives : ι → Except ε α → Prop} {items : List ι} {item failed : ι}
    {failure : ε} (succeeds : ∃ result, gives item (.ok result))
    (first : FirstFailure gives items failed failure) :
    FirstFailure gives (item :: items) failed failure := by
  rcases first with ⟨before, rest, rfl, succeed, fails⟩
  exact ⟨item :: before, rest, rfl, by simpa using ⟨succeeds, succeed⟩, fails⟩

theorem FirstFailure.mono {gives gives' : ι → Except ε α → Prop}
    (weaker : ∀ item outcome, gives item outcome → gives' item outcome) {items : List ι}
    {failed : ι} {failure : ε} (first : FirstFailure gives items failed failure) :
    FirstFailure gives' items failed failure := by
  rcases first with ⟨before, rest, split, succeed, fails⟩
  refine ⟨before, rest, split, ?_, weaker _ _ fails⟩
  intro item member
  rcases succeed item member with ⟨result, succeeds⟩
  exact ⟨result, weaker _ _ succeeds⟩

/-- Among items that are inspected one after another, a first failure comes after successes. -/
theorem firstFailure_cons_iff {inspect : ι → Except ε α} {items : List ι} {item failed : ι}
    {failure : ε} :
    FirstFailure (inspect · = ·) (item :: items) failed failure ↔
      (failed = item ∧ inspect item = .error failure) ∨
        (∃ result, inspect item = .ok result) ∧
          FirstFailure (inspect · = ·) items failed failure := by
  constructor
  · rintro ⟨before, rest, split, succeed, fails⟩
    cases before with
    | nil =>
        cases split
        exact Or.inl ⟨rfl, fails⟩
    | cons head before =>
        cases split
        exact Or.inr ⟨succeed item List.mem_cons_self, before, rest, rfl,
          fun other member => succeed other (List.mem_cons_of_mem item member), fails⟩
  · rintro (⟨rfl, fails⟩ | ⟨succeeds, first⟩)
    · exact ⟨[], items, rfl, by simp, fails⟩
    · exact first.cons succeeds

/-- Errors that are put in other words leave the first failure where it is. -/
theorem firstFailure_mapError_iff {inspect : ι → Except ε α} {convert : ι → ε → ε'}
    {items : List ι} {failed : ι} {failure : ε'} :
    FirstFailure (fun item outcome => (inspect item).mapError (convert item) = outcome) items
        failed failure ↔
      ∃ cause, failure = convert failed cause ∧
        FirstFailure (fun item outcome => inspect item = outcome) items failed cause := by
  simp only [FirstFailure, Outcome.mapError_eq_ok_iff, Outcome.mapError_eq_error_iff]
  constructor
  · rintro ⟨before, rest, split, succeed, cause, fails, rfl⟩
    exact ⟨cause, rfl, before, rest, split, succeed, fails⟩
  · rintro ⟨cause, rfl, before, rest, split, succeed, fails⟩
    exact ⟨before, rest, split, succeed, cause, fails, rfl⟩

theorem exists_firstFailure_iff {inspect : ι → Except ε α} {items : List ι} :
    (∃ failed failure, FirstFailure (inspect · = ·) items failed failure) ↔
      ∃ item ∈ items, ∃ failure, inspect item = .error failure := by
  constructor
  · rintro ⟨failed, failure, first⟩
    exact ⟨failed, first.mem.1, failure, first.mem.2⟩
  · rintro ⟨item, member, failure, fails⟩
    induction items with
    | nil => cases member
    | cons head items ih =>
        cases outcome : inspect head with
        | error failure' => exact ⟨head, failure', [], items, rfl, by simp, outcome⟩
        | ok result =>
            rcases List.mem_cons.1 member with rfl | member
            · rw [outcome] at fails
              cases fails
            · rcases ih member with ⟨failed, failure', first⟩
              exact ⟨failed, failure', first.cons ⟨result, outcome⟩⟩

/-- Where every item fails alike, the first item does. -/
theorem exists_firstFailure_iff_of_uniform {inspect : ι → Except ε α} {fails : ε → Prop}
    (uniform : ∀ item failure, inspect item = .error failure ↔ fails failure) {items : List ι}
    {failure : ε} :
    (∃ failed, FirstFailure (inspect · = ·) items failed failure) ↔
      items ≠ [] ∧ fails failure := by
  constructor
  · rintro ⟨failed, first⟩
    exact ⟨List.ne_nil_of_mem first.mem.1, (uniform failed failure).1 first.mem.2⟩
  · rintro ⟨nonempty, fails⟩
    rcases List.exists_cons_of_ne_nil nonempty with ⟨item, rest, rfl⟩
    exact ⟨item, [], rest, rfl, by simp, (uniform item failure).2 fails⟩

theorem inspectInOrder_eq_error_iff {inspect : ι → Except ε α} {items : List ι} {failure : ε} :
    inspectInOrder inspect items = .error failure ↔
      ∃ failed, FirstFailure (inspect · = ·) items failed failure := by
  induction items with
  | nil => simp [inspectInOrder, FirstFailure]
  | cons item items ih =>
      simp only [inspectInOrder, Outcome.bind_eq_error_iff, ih, reduceCtorEq, and_false,
        exists_false, or_false, firstFailure_cons_iff, exists_or]
      constructor
      · rintro (fails | ⟨result, succeeds, failed, first⟩)
        · exact Or.inl ⟨item, rfl, fails⟩
        · exact Or.inr ⟨failed, ⟨result, succeeds⟩, first⟩
      · rintro (⟨_, rfl, fails⟩ | ⟨failed, ⟨result, succeeds⟩, first⟩)
        · exact Or.inl fails
        · exact Or.inr ⟨result, succeeds, failed, first⟩

theorem exists_mem_of_forall₂ {α β : Type} {relates : α → β → Prop} {left : List α}
    {right : List β} (related : List.Forall₂ relates left right) {other : β}
    (member : other ∈ right) : ∃ item ∈ left, relates item other := by
  induction related with
  | nil => cases member
  | @cons item other' left right first _ ih =>
      rcases List.mem_cons.1 member with rfl | member
      · exact ⟨item, List.mem_cons_self, first⟩
      · rcases ih member with ⟨item', member', relates'⟩
        exact ⟨item', List.mem_cons_of_mem item member', relates'⟩

theorem inspectInOrder_eq_ok_iff_forall₂ {inspect : ι → Except ε α} {items : List ι}
    {results : List α} :
    inspectInOrder inspect items = .ok results ↔
      List.Forall₂ (fun item result => inspect item = .ok result) items results := by
  induction items generalizing results with
  | nil => cases results <;> simp [inspectInOrder]
  | cons item items ih =>
      simp only [inspectInOrder, Outcome.bind_eq_ok_iff, ih, List.forall₂_cons_left_iff,
        Except.ok.injEq]
      constructor
      · rintro ⟨result, succeeds, results', rest, rfl⟩
        exact ⟨result, results', succeeds, rest, rfl⟩
      · rintro ⟨result, results', succeeds, rest, rfl⟩
        exact ⟨result, succeeds, results', rest, rfl⟩

theorem readEntries_eq_ok_iff {files : FileSystem} {directory : RawPath}
    {entries : List DirectoryEntry} :
    readEntries files directory = .ok entries ↔ files.readDirectory directory = .ok entries := by
  rw [readEntries, Outcome.mapError_eq_ok_iff]

theorem inspect_eq_ok_iff {files : FileSystem} {accounts : Accounts} {directory : RawPath}
    {entry : DirectoryEntry} {record : FileRecord} :
    inspect files accounts directory entry = .ok record ↔
      ∃ node, files.stat (directory.join entry.name.bytes) = .ok node ∧
        recordOf accounts directory entry node = record := by
  cases status : files.stat (directory.join entry.name.bytes) with
  | ok node => simp [inspect, status]
  | error cause => simp [inspect, status]

theorem inspect_eq_error_iff {files : FileSystem} {accounts : Accounts} {directory : RawPath}
    {entry : DirectoryEntry} {failure : ListingError} :
    inspect files accounts directory entry = .error failure ↔
      ∃ cause, files.stat (directory.join entry.name.bytes) = .error cause ∧
        failure = .stat (directory.join entry.name.bytes) cause := by
  cases status : files.stat (directory.join entry.name.bytes) with
  | ok node => simp [inspect, status]
  | error cause => simp [inspect, status, eq_comm]

theorem inspectInOrder_map {κ : Type} (convert : κ → ι) (inspect : ι → Except ε α)
    (items : List κ) :
    inspectInOrder inspect (items.map convert) =
      inspectInOrder (fun item => inspect (convert item)) items := by
  induction items with
  | nil => rfl
  | cons item items ih => simp only [List.map_cons, inspectInOrder, ih]

end FileQuery
