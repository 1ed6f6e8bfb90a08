import FileQuery.Proofs.Listing.Refinement

/-!
# Inspected items

An item is inspected at most once, and not at all only if the answer is a failure. One worker stops
at the first item that fails. In a pool, every action moves an item from the queue into the hands of
a worker, from there to those that have been inspected, or skips it after a failure; and when all
workers have stopped without a failure, no item is left in the queue.
-/

namespace FileQuery

variable {ι α ε : Type}

/-- Which of some items are inspected on the way to an answer. -/
structure InspectsOnce (items inspected : List ι) (answer : Except ε (List α)) : Prop where
  skips : ∃ skipped, (inspected ++ skipped).Perm items
  inspects_all : ∀ results, answer = .ok results → inspected.Perm items

theorem InspectsOnce.subset {items inspected : List ι} {answer : Except ε (List α)}
    (once : InspectsOnce items inspected answer) : inspected ⊆ items := by
  rcases once.skips with ⟨skipped, perm⟩
  intro item member
  exact perm.subset (List.mem_append_left skipped member)

theorem inspectedInOrder_isPrefixOf (inspect : ι → Except ε α) (items : List ι) :
    inspectedInOrder inspect items <+: items := by
  induction items with
  | nil => exact List.prefix_rfl
  | cons item items ih =>
      rw [inspectedInOrder]
      split
      · exact List.cons_prefix_cons.2 ⟨rfl, ih⟩
      · exact List.cons_prefix_cons.2 ⟨rfl, List.nil_prefix⟩

theorem inspectedInOrder_of_ok {inspect : ι → Except ε α} {items : List ι} {results : List α}
    (inspected : inspectInOrder inspect items = .ok results) :
    inspectedInOrder inspect items = items := by
  induction items generalizing results with
  | nil => rfl
  | cons item items ih =>
      rcases Outcome.bind_eq_ok_iff.1 inspected with ⟨result, first, inspected⟩
      rcases Outcome.bind_eq_ok_iff.1 inspected with ⟨others, rest, _⟩
      rw [inspectedInOrder, first]
      exact congrArg (item :: ·) (ih rest)

theorem inspectsOnce_inspectedInOrder (inspect : ι → Except ε α) (items : List ι) :
    InspectsOnce items (inspectedInOrder inspect items) (inspectInOrder inspect items) where
  skips := by
    rcases inspectedInOrder_isPrefixOf inspect items with ⟨skipped, whole⟩
    exact ⟨skipped, .of_eq whole⟩
  inspects_all results inspected := .of_eq (inspectedInOrder_of_ok inspected)

namespace WorkerPool

/-- The item that a worker has taken and not inspected yet. -/
@[simp]
def Phase.pending : Phase ι α ε → List ι
  | .holding item | .inspecting item => [item]
  | _ => []

/-- The items that may still be inspected. -/
def State.pending (state : State ι α ε) : List ι :=
  state.shared.queue ++ state.workers.flatMap fun worker => worker.phase.pending

theorem State.pending_start (workers : Nat) (items : List ι) :
    (State.start workers items : State ι α ε).pending = items := by
  have nothing : ∀ worker ∈ List.replicate workers (Worker.fresh : Worker ι α ε),
      worker.phase.pending = [] := by
    intro worker member
    rw [List.eq_of_mem_replicate member]
    rfl
  simp only [State.pending, State.start, List.flatMap_eq_nil_iff.2 nothing, List.append_nil]

section Action

variable {inspect : ι → Except ε α} {limit : Nat}

/-- An action inspects the item in the hands of its worker, or leaves all items pending but for one
that it skips. -/
theorem Acts.exists_skipped {shared shared' : Shared ι α ε} {worker worker' : Worker ι α ε}
    (acts : Acts inspect limit shared worker shared' worker') :
    ∃ skipped, (worker.inspecting?.toList ++ (shared'.queue ++ worker'.phase.pending) ++
        skipped).Perm (shared.queue ++ worker.phase.pending) ∧
      (skipped ≠ [] → shared'.failed = true) := by
  cases acts with
  | take => exact ⟨[], by simp [Worker.inspecting?], by simp⟩
  | @giveUp queue sent item batch =>
      exact ⟨[item], by simp [Worker.inspecting?], fun _ => rfl⟩
  | succeed | fail =>
      refine ⟨[], ?_, by simp⟩
      simpa [Worker.inspecting?] using (List.perm_append_singleton _ _).symm
  | drain | goOn | collect | fill | flush | raise | report | stop | flushLast =>
      exact ⟨[], by simp [Worker.inspecting?], by simp⟩

variable {schedule : Schedule} {round choice : Nat} {state after : State ι α ε}

theorem State.failed_of_advance (action : state.advance inspect limit choice = some after)
    (failed : state.shared.failed = true) : after.shared.failed = true := by
  rcases Option.bind_eq_some_iff.1 action with ⟨index, _, acted⟩
  rcases State.acts_of_step acted with ⟨_, _, _, acts, _⟩
  exact acts.leads.failed failed

theorem State.exists_skipped_of_advance
    (action : state.advance inspect limit choice = some after) :
    ∃ skipped, ((state.inspecting? choice).toList ++ after.pending ++ skipped).Perm
        state.pending ∧
      (skipped ≠ [] → after.shared.failed = true) := by
  rcases Option.bind_eq_some_iff.1 action with ⟨index, chosen, acted⟩
  rcases State.acts_of_step acted with ⟨worker, worker', found, acts, replaced⟩
  rcases acts.exists_skipped with ⟨skipped, kept, failed⟩
  rcases exists_others_perm (fun worker => worker.phase.pending) worker' found with
    ⟨others, old, new⟩
  have inspecting : state.inspecting? choice = worker.inspecting? := by
    rw [State.inspecting?, chosen, Option.bind_some, found, Option.bind_some]
  refine ⟨skipped, ?_, failed⟩
  classical
  simp only [State.pending, replaced, inspecting, List.perm_iff_count, List.count_append] at *
  intro item
  have := kept item
  have := old item
  have := new item
  omega

theorem State.failed_run (failed : state.shared.failed = true) :
    (state.run inspect limit schedule round).shared.failed = true := by
  fun_induction State.run inspect limit schedule round state with
  | case1 => exact failed
  | case2 round state after action ih => exact ih (State.failed_of_advance action failed)

/-- Every item that is pending is inspected in the course of a run, is still pending at its end, or
is skipped after a failure. -/
theorem State.exists_skipped_of_run (inspect : ι → Except ε α) (limit : Nat)
    (schedule : Schedule) (round : Nat) (state : State ι α ε) :
    ∃ skipped, (state.inspected inspect limit schedule round ++
        (state.run inspect limit schedule round).pending ++ skipped).Perm state.pending ∧
      (skipped ≠ [] → (state.run inspect limit schedule round).shared.failed = true) := by
  fun_induction State.run inspect limit schedule round state with
  | case1 round state final =>
      rw [State.inspected, final]
      exact ⟨[], by simp, by simp⟩
  | case2 round state after action ih =>
      rcases State.exists_skipped_of_advance action with ⟨now, kept, failed⟩
      rcases ih with ⟨later, rest, failed'⟩
      refine ⟨now ++ later, ?_, ?_⟩
      · rw [State.inspected, action]
        classical
        simp only [List.perm_iff_count, List.count_append] at *
        intro item
        have := kept item
        have := rest item
        omega
      · intro skips
        cases now with
        | nil => exact failed' skips
        | cons item now => exact State.failed_run (failed (by simp))

end Action

theorem inspectsOnce_inspectedAll (inspect : ι → Except ε α) (limit : Nat) (schedule : Schedule)
    {workers : Nat} (atLeastOne : 0 < workers) (items : List ι) :
    InspectsOnce items (inspectedAll inspect limit schedule workers items)
      (inspectAll inspect limit schedule workers items) := by
  have reachable : Reachable inspect limit workers items
      ((State.start workers items).run inspect limit schedule 0) := Reachable.start.run schedule
  have stopped := State.hasStopped_run inspect limit schedule 0 (State.start workers items)
  rcases State.exists_skipped_of_run inspect limit schedule 0 (State.start workers items) with
    ⟨skipped, perm, failed⟩
  rw [State.pending_start] at perm
  constructor
  · exact ⟨_, by rwa [List.append_assoc] at perm⟩
  · intro results answered
    have unfailed := reachable.failed_eq_false_of_gather_eq_ok stopped answered
    have nothingSkipped : skipped = [] := by
      rw [unfailed] at failed
      simpa using failed
    have nothingHeld : ∀ worker ∈ ((State.start workers items).run inspect limit schedule
        0).workers, worker.phase.pending = [] := by
      intro worker member
      rw [Worker.hasStopped_iff.1 (stopped worker member)]
      rfl
    rw [nothingSkipped, State.pending, reachable.queue_eq_nil atLeastOne stopped unfailed,
      List.flatMap_eq_nil_iff.2 nothingHeld] at perm
    simpa [inspectedAll] using perm

end WorkerPool

/-- With any number of workers, an item is inspected at most once, and every one of them if there
are results. -/
theorem inspectsOnce_inspectedItems (inspect : ι → Except ε α) (schedule : WorkerPool.Schedule)
    (jobs : Nat) (items : List ι) :
    InspectsOnce items (inspectedItems inspect schedule jobs items)
      (inspectItems inspect schedule jobs items) := by
  unfold inspectedItems inspectItems
  split
  · exact inspectsOnce_inspectedInOrder inspect items
  · rename_i parallel
    rw [not_or] at parallel
    exact WorkerPool.inspectsOnce_inspectedAll inspect batchSize schedule (by omega) items

end FileQuery
