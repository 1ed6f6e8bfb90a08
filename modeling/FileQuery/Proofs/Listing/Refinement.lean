import FileQuery.Listing.Directory
import FileQuery.Proofs.Listing.Accounting
import FileQuery.Proofs.Outcome

/-!
# Worker pools refine inspection in order

Whatever a pool of workers answers once all of them have stopped is, up to the order of the
results and the choice among several failures, the answer of inspecting the items in order. Either
the flag was never set, and then the queue is empty and nothing has been dropped, so what has been
sent accounts for every item; or it was, and then a failure has been sent, so that no part of the
results passes for the whole.
-/

namespace FileQuery

variable {ι α ε : Type}

theorem inspectInOrder_eq_ok_iff {inspect : ι → Except ε α} {items : List ι} {results : List α} :
    inspectInOrder inspect items = .ok results ↔ items.map inspect = results.map .ok := by
  induction items generalizing results with
  | nil =>
      cases results with
      | nil => simp [inspectInOrder]
      | cons result results => simp [inspectInOrder]
  | cons item items ih =>
      simp only [inspectInOrder, Outcome.bind_eq_ok_iff, ih]
      cases results with
      | nil => simp
      | cons head tail =>
          simp only [Except.ok.injEq, List.cons.injEq, List.map_cons]
          constructor
          · rintro ⟨result, inspected, results, rest, rfl, rfl⟩
            exact ⟨inspected, rest⟩
          · rintro ⟨inspected, rest⟩
            exact ⟨head, inspected, tail, rest, rfl, rfl⟩

theorem exists_inspectInOrder_eq_ok_iff {inspect : ι → Except ε α} {items : List ι} :
    (∃ results, inspectInOrder inspect items = .ok results) ↔
      ∀ item ∈ items, ∃ result, inspect item = .ok result := by
  simp only [inspectInOrder_eq_ok_iff]
  constructor
  · rintro ⟨results, inspected⟩ item member
    have found : inspect item ∈ results.map .ok := inspected ▸ List.mem_map_of_mem member
    rcases List.mem_map.1 found with ⟨result, _, succeeds⟩
    exact ⟨result, succeeds.symm⟩
  · intro succeed
    induction items with
    | nil => exact ⟨[], rfl⟩
    | cons item items ih =>
        rcases succeed item List.mem_cons_self with ⟨result, succeeds⟩
        rcases ih fun other member => succeed other (List.mem_cons_of_mem item member) with
          ⟨results, inspected⟩
        exact ⟨result :: results, by simp [succeeds, inspected]⟩

theorem exists_mem_of_inspectInOrder_eq_error {inspect : ι → Except ε α} {items : List ι}
    {failure : ε} (fails : inspectInOrder inspect items = .error failure) :
    ∃ item ∈ items, inspect item = .error failure := by
  induction items with
  | nil => cases fails
  | cons item items ih =>
      rcases Outcome.bind_eq_error_iff.1 fails with failed | ⟨result, _, later⟩
      · exact ⟨item, List.mem_cons_self, failed⟩
      · rcases Outcome.bind_eq_error_iff.1 later with failed | ⟨results, _, impossible⟩
        · rcases ih failed with ⟨other, member, failed⟩
          exact ⟨other, List.mem_cons_of_mem item member, failed⟩
        · cases impossible

/-- The answers for some items that agree with inspecting them in order: all results in some order
when every item succeeds, else the failure of an item that fails, which is the failure in order
when only one item fails. -/
structure RefinesInOrder (inspect : ι → Except ε α) (items : List ι)
    (answer : Except ε (List α)) : Prop where
  succeeds_iff : (∃ results, answer = .ok results) ↔
    ∀ item ∈ items, ∃ result, inspect item = .ok result
  results_perm : ∀ results, answer = .ok results →
    ∃ inOrder, inspectInOrder inspect items = .ok inOrder ∧ results.Perm inOrder
  failure_of_item : ∀ failure, answer = .error failure →
    ∃ item ∈ items, inspect item = .error failure
  only_failure : ∀ before item rest failure, items = before ++ item :: rest →
    (∀ other ∈ before ++ rest, ∃ result, inspect other = .ok result) →
    inspect item = .error failure →
    answer = .error failure ∧ inspectInOrder inspect items = .error failure

/-- The only failure among some items is the answer whenever every failure that may be the answer
comes from one of them. -/
theorem eq_error_of_only_failure {inspect : ι → Except ε α} {before rest : List ι} {item : ι}
    {failure : ε} {answer : Except ε (List α)}
    (succeeds : (∃ results, answer = .ok results) →
      ∀ item' ∈ before ++ item :: rest, ∃ result, inspect item' = .ok result)
    (fails : ∀ failure', answer = .error failure' →
      ∃ item' ∈ before ++ item :: rest, inspect item' = .error failure')
    (others : ∀ other ∈ before ++ rest, ∃ result, inspect other = .ok result)
    (failed : inspect item = .error failure) : answer = .error failure := by
  cases answer with
  | ok results =>
      rcases succeeds ⟨results, rfl⟩ item (by simp) with ⟨result, succeeded⟩
      rw [failed] at succeeded
      cases succeeded
  | error failure' =>
      rcases fails failure' rfl with ⟨item', member, failed'⟩
      have position : item' ∈ before ++ rest ∨ item' = item := by
        simp only [List.mem_append, List.mem_cons] at member ⊢
        rcases member with member | same | member
        · exact Or.inl (Or.inl member)
        · exact Or.inr same
        · exact Or.inl (Or.inr member)
      rcases position with member | rfl
      · rcases others item' member with ⟨result, succeeded⟩
        rw [failed'] at succeeded
        cases succeeded
      · rw [failed] at failed'
        cases failed'
        rfl

theorem RefinesInOrder.of_ok_of_error {inspect : ι → Except ε α} {items : List ι}
    {answer : Except ε (List α)}
    (ok : ∀ results, answer = .ok results → (results.map .ok).Perm (items.map inspect))
    (error : ∀ failure, answer = .error failure → ∃ item ∈ items, inspect item = .error failure) :
    RefinesInOrder inspect items answer := by
  have succeed : (∃ results, answer = .ok results) →
      ∀ item ∈ items, ∃ result, inspect item = .ok result := by
    rintro ⟨results, answered⟩ item member
    have found : inspect item ∈ results.map .ok :=
      (ok results answered).mem_iff.2 (List.mem_map_of_mem member)
    rcases List.mem_map.1 found with ⟨result, _, succeeds⟩
    exact ⟨result, succeeds.symm⟩
  constructor
  · refine ⟨succeed, ?_⟩
    intro succeeds
    cases answer with
    | ok results => exact ⟨results, rfl⟩
    | error failure =>
        rcases error failure rfl with ⟨item, member, failed⟩
        rcases succeeds item member with ⟨result, succeeded⟩
        rw [failed] at succeeded
        cases succeeded
  · intro results answered
    rcases exists_inspectInOrder_eq_ok_iff.2 (succeed ⟨results, answered⟩) with
      ⟨inOrder, inspected⟩
    have all := ok results answered
    rw [inspectInOrder_eq_ok_iff.1 inspected] at all
    exact ⟨inOrder, inspected, (List.map_perm_map_iff fun _ _ => Except.ok.inj).1 all⟩
  · exact error
  · rintro before item rest failure rfl others failed
    constructor
    · exact eq_error_of_only_failure succeed error others failed
    · exact eq_error_of_only_failure exists_inspectInOrder_eq_ok_iff.1
        (fun _ => exists_mem_of_inspectInOrder_eq_error) others failed

theorem refinesInOrder_inspectInOrder (inspect : ι → Except ε α) (items : List ι) :
    RefinesInOrder inspect items (inspectInOrder inspect items) := by
  apply RefinesInOrder.of_ok_of_error
  · intro results inspected
    rw [inspectInOrder_eq_ok_iff.1 inspected]
  · intro failure fails
    exact exists_mem_of_inspectInOrder_eq_error fails

namespace WorkerPool

theorem flatMap_messageOutcomes_of_gather_eq_ok {sent : List (Except ε (List α))}
    {results : List α} (gathered : gather sent = .ok results) :
    sent.flatMap messageOutcomes = results.map .ok := by
  induction sent generalizing results with
  | nil =>
      cases gathered
      rfl
  | cons message sent ih =>
      cases message with
      | error failure => cases gathered
      | ok batch =>
          rcases Outcome.map_eq_ok_iff.1 gathered with ⟨later, rest, rfl⟩
          simp [ih rest]

theorem mem_of_gather_eq_error {sent : List (Except ε (List α))} {failure : ε}
    (gathered : gather sent = .error failure) : .error failure ∈ sent := by
  induction sent with
  | nil => cases gathered
  | cons message sent ih =>
      cases message with
      | error failure' =>
          cases gathered
          exact List.mem_cons_self
      | ok batch => exact List.mem_cons_of_mem _ (ih (Outcome.map_eq_error_iff.1 gathered))

theorem error_mem_flatMap_messageOutcomes {sent : List (Except ε (List α))} {failure : ε}
    (member : .error failure ∈ sent) : .error failure ∈ sent.flatMap messageOutcomes :=
  List.mem_flatMap.2 ⟨.error failure, member, by simp⟩

theorem Worker.exists_act_of_running (inspect : ι → Except ε α) (limit : Nat)
    (shared : Shared ι α ε) {worker : Worker ι α ε} (running : worker.hasStopped = false) :
    ∃ next, worker.act inspect limit shared = some next := by
  rcases worker with ⟨phase, batch⟩
  cases phase with
  | idle =>
      simp only [Worker.act]
      split <;> exact ⟨_, rfl⟩
  | inspecting item =>
      simp only [Worker.act]
      split <;> exact ⟨_, rfl⟩
  | draining =>
      simp only [Worker.act]
      split <;> exact ⟨_, rfl⟩
  | holding | collecting | flushing | failing | reporting => exact ⟨_, rfl⟩
  | stopped => cases running

theorem State.mem_running_iff {state : State ι α ε} {index : Nat} :
    index ∈ state.running ↔
      ∃ worker, state.workers[index]? = some worker ∧ worker.hasStopped = false := by
  simp only [State.running, List.mem_filter, List.mem_range, Option.any_eq_true, Bool.not_eq_true']
  constructor
  · rintro ⟨_, worker, found, running⟩
    exact ⟨worker, found, running⟩
  · rintro ⟨worker, found, running⟩
    exact ⟨(List.getElem?_eq_some_iff.1 found).1, worker, found, running⟩

theorem State.exists_step_of_mem_running (inspect : ι → Except ε α) (limit : Nat)
    {state : State ι α ε} {index : Nat} (running : index ∈ state.running) :
    ∃ after, state.step inspect limit index = some after := by
  rcases State.mem_running_iff.1 running with ⟨worker, found, notStopped⟩
  rcases Worker.exists_act_of_running inspect limit state.shared notStopped with
    ⟨⟨shared, after⟩, acted⟩
  exact ⟨{ shared, workers := state.workers.set index after }, by simp [State.step, found, acted]⟩

/-- A state from which no choice leads on has no running worker. -/
theorem State.hasStopped_of_advance_eq_none {inspect : ι → Except ε α} {limit choice : Nat}
    {state : State ι α ε} (final : state.advance inspect limit choice = none) :
    ∀ worker ∈ state.workers, worker.hasStopped = true := by
  intro worker member
  rw [← Bool.not_eq_false]
  intro running
  rcases List.mem_iff_getElem?.1 member with ⟨index, found⟩
  have listed : index ∈ state.running := State.mem_running_iff.2 ⟨worker, found, running⟩
  have chosen : choice % state.running.length < state.running.length :=
    Nat.mod_lt _ (List.length_pos_of_mem listed)
  rcases State.exists_step_of_mem_running inspect limit (List.getElem_mem chosen) with
    ⟨after, action⟩
  simp [State.advance, List.getElem?_eq_getElem chosen, action] at final

theorem State.hasStopped_run (inspect : ι → Except ε α) (limit : Nat) (schedule : Schedule)
    (round : Nat) (state : State ι α ε) :
    ∀ worker ∈ (state.run inspect limit schedule round).workers, worker.hasStopped = true := by
  fun_induction State.run inspect limit schedule round state with
  | case1 round state final => exact State.hasStopped_of_advance_eq_none final
  | case2 round state after action ih => exact ih

section Finished

variable {inspect : ι → Except ε α} {limit workers : Nat} {items : List ι} {state : State ι α ε}

/-- A failure that has been sent is that of an item. -/
theorem State.Accounted.exists_item_of_error_mem (accounted : state.Accounted inspect items)
    {failure : ε} (sent : .error failure ∈ state.shared.sent) :
    ∃ item ∈ items, inspect item = .error failure := by
  apply accounted.exists_item_of_mem_outcomes
  simp only [State.outcomes, Shared.outcomes, List.mem_append]
  exact Or.inl (Or.inr (error_mem_flatMap_messageOutcomes sent))

theorem Worker.hasStopped_iff {worker : Worker ι α ε} :
    worker.hasStopped = true ↔ worker.phase = .stopped := by
  unfold Worker.hasStopped
  split
  · rename_i stopped
    simp [stopped]
  · rename_i running
    simpa using running

/-- A worker that stops without a failure has found the queue empty. -/
theorem Reachable.queue_eq_nil (atLeastOne : 0 < workers)
    (reachable : Reachable inspect limit workers items state)
    (stopped : ∀ worker ∈ state.workers, worker.hasStopped = true)
    (unfailed : state.shared.failed = false) : state.shared.queue = [] := by
  have present : 0 < state.workers.length := reachable.length_workers ▸ atLeastOne
  rcases List.exists_mem_of_length_pos present with ⟨worker, member⟩
  have returned := Worker.hasStopped_iff.1 (stopped worker member)
  rcases (reachable.accounted.consistent worker member).returning (Or.inr returned) with
    empty | raised
  · exact empty
  · rw [unfailed] at raised
    cases raised

/-- When no worker has failed and all have stopped, every outcome has been sent. -/
theorem Reachable.sent_perm (atLeastOne : 0 < workers)
    (reachable : Reachable inspect limit workers items state)
    (stopped : ∀ worker ∈ state.workers, worker.hasStopped = true)
    (unfailed : state.shared.failed = false) :
    (state.shared.sent.flatMap messageOutcomes).Perm (items.map inspect) := by
  have accounted := reachable.accounted
  rcases accounted.dropped with ⟨dropped, total, failed⟩
  have nothingDropped : dropped = [] := by
    cases dropped with
    | nil => rfl
    | cons outcome dropped =>
        have raised := failed (by simp)
        rw [unfailed] at raised
        cases raised
  have nothingHeld : state.workers.flatMap (Worker.outcomes inspect) = [] := by
    rw [List.flatMap_eq_nil_iff]
    intro worker member
    simp [stopped worker member]
  have nothingQueued := reachable.queue_eq_nil atLeastOne stopped unfailed
  simpa [State.outcomes, nothingDropped, nothingHeld, nothingQueued] using total

/-- When a worker has failed and all have stopped, a failure has been sent. -/
theorem Reachable.exists_error_mem (reachable : Reachable inspect limit workers items state)
    (stopped : ∀ worker ∈ state.workers, worker.hasStopped = true)
    (failed : state.shared.failed = true) : ∃ failure, .error failure ∈ state.shared.sent := by
  rcases reachable.accounted.reported failed with sent | ⟨worker, member, failure, reporting⟩
  · exact sent
  · have returned := Worker.hasStopped_iff.1 (stopped worker member)
    rw [reporting] at returned
    cases returned

theorem Reachable.failed_eq_false_of_gather_eq_ok
    (reachable : Reachable inspect limit workers items state)
    (stopped : ∀ worker ∈ state.workers, worker.hasStopped = true) {results : List α}
    (gathered : gather state.shared.sent = .ok results) : state.shared.failed = false := by
  rw [← Bool.not_eq_true]
  intro failed
  rcases reachable.exists_error_mem stopped failed with ⟨failure, member⟩
  have found := error_mem_flatMap_messageOutcomes member
  rw [flatMap_messageOutcomes_of_gather_eq_ok gathered] at found
  rcases List.mem_map.1 found with ⟨result, _, impossible⟩
  cases impossible

theorem Reachable.results_perm_of_gather_eq_ok (atLeastOne : 0 < workers)
    (reachable : Reachable inspect limit workers items state)
    (stopped : ∀ worker ∈ state.workers, worker.hasStopped = true) {results : List α}
    (gathered : gather state.shared.sent = .ok results) :
    (results.map .ok).Perm (items.map inspect) := by
  rw [← flatMap_messageOutcomes_of_gather_eq_ok gathered]
  exact reachable.sent_perm atLeastOne stopped
    (reachable.failed_eq_false_of_gather_eq_ok stopped gathered)

/-- Once all workers of a pool have stopped, its answer refines inspecting the items in order. -/
theorem refinesInOrder_of_reachable (atLeastOne : 0 < workers)
    (reachable : Reachable inspect limit workers items state)
    (stopped : ∀ worker ∈ state.workers, worker.hasStopped = true) :
    RefinesInOrder inspect items (gather state.shared.sent) := by
  apply RefinesInOrder.of_ok_of_error
  · intro results gathered
    exact reachable.results_perm_of_gather_eq_ok atLeastOne stopped gathered
  · intro failure gathered
    exact reachable.accounted.exists_item_of_error_mem (mem_of_gather_eq_error gathered)

end Finished

theorem refinesInOrder_two_workers :
    let inspect : ℕ → Except String ℕ := fun size => if size < 100 then .ok size else .error "large"
    let state := (State.start 2 [3, 100, 5]).run inspect 2 (fun round => round) 0
    gather state.shared.sent = .error "large" ∧
      RefinesInOrder inspect [3, 100, 5] (gather state.shared.sent) := by
  dsimp only
  constructor
  · cbv
  · apply refinesInOrder_of_reachable (by decide : 0 < 2) (Reachable.run _ .start)
    apply State.hasStopped_run

theorem refinesInOrder_inspectAll (inspect : ι → Except ε α) (limit : Nat) (schedule : Schedule)
    {workers : Nat} (atLeastOne : 0 < workers) (items : List ι) :
    RefinesInOrder inspect items (inspectAll inspect limit schedule workers items) := by
  have reachable : Reachable inspect limit workers items
      ((State.start workers items).run inspect limit schedule 0) := Reachable.run schedule .start
  have stopped := State.hasStopped_run inspect limit schedule 0 (State.start workers items)
  apply RefinesInOrder.of_ok_of_error
  · intro results gathered
    exact reachable.results_perm_of_gather_eq_ok atLeastOne stopped gathered
  · intro failure gathered
    exact reachable.accounted.exists_item_of_error_mem (mem_of_gather_eq_error gathered)

end WorkerPool

/-- Listing items refines inspecting them in order, with any number of workers and in whatever
order they act. -/
theorem refinesInOrder_inspectItems (inspect : ι → Except ε α) (schedule : WorkerPool.Schedule)
    (jobs : Nat) (items : List ι) :
    RefinesInOrder inspect items (inspectItems inspect schedule jobs items) := by
  unfold inspectItems
  split
  · exact refinesInOrder_inspectInOrder inspect items
  · rename_i several
    exact WorkerPool.refinesInOrder_inspectAll inspect batchSize schedule (by omega) items

end FileQuery
