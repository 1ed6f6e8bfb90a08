import Mathlib.Data.List.Perm.Basic
import FileQuery.Proofs.Listing.Accounting

/-!
# Labelled pools

A result does not say which item it is of, and two items may have the same result, so outcomes alone
do not account for the items themselves. A *labelled* pool inspects in the same way but pairs every
result and every failure with its item. No worker looks into a result, so erasing the labels turns a
labelled run into the run of the pool by the same actions, and what holds of the outcomes of every
pool says, of a labelled one, where each item is.
-/

namespace FileQuery.WorkerPool

variable {ι α ε : Type}

/-- The state after actions of workers in some order, unless one of them has none. -/
def State.follow (inspect : ι → Except ε α) (limit : Nat) (state : State ι α ε)
    (order : List Nat) : Option (State ι α ε) :=
  order.foldlM (State.step inspect limit) state

@[simp]
theorem State.follow_nil (inspect : ι → Except ε α) (limit : Nat) (state : State ι α ε) :
    state.follow inspect limit [] = some state := rfl

theorem State.follow_cons (inspect : ι → Except ε α) (limit : Nat) (state : State ι α ε)
    (index : Nat) (order : List Nat) :
    state.follow inspect limit (index :: order) =
      (state.step inspect limit index).bind fun after => after.follow inspect limit order :=
  List.foldlM_cons

theorem State.follow_append (inspect : ι → Except ε α) (limit : Nat) (state : State ι α ε)
    (order later : List Nat) :
    state.follow inspect limit (order ++ later) =
      (state.follow inspect limit order).bind fun after => after.follow inspect limit later :=
  List.foldlM_append

section Order

variable {inspect : ι → Except ε α} {limit workers : Nat} {items : List ι} {state : State ι α ε}

theorem Reachable.follow (reachable : Reachable inspect limit workers items state)
    {order : List Nat} {after : State ι α ε}
    (followed : state.follow inspect limit order = some after) :
    Reachable inspect limit workers items after := by
  induction order generalizing state with
  | nil =>
      cases followed
      exact reachable
  | cons index order ih =>
      rw [State.follow_cons] at followed
      rcases Option.bind_eq_some_iff.1 followed with ⟨next, action, later⟩
      exact ih (reachable.step action) later

/-- A state is reachable when the actions of workers lead to it in some order. -/
theorem reachable_iff_exists_follow : Reachable inspect limit workers items state ↔
    ∃ order, (State.start workers items).follow inspect limit order = some state := by
  constructor
  · intro reachable
    induction reachable with
    | start => exact ⟨[], rfl⟩
    | @step state after index reachable action ih =>
        rcases ih with ⟨order, followed⟩
        exact ⟨order ++ [index], by simp [State.follow_append, State.follow_cons, followed, action]⟩
  · rintro ⟨order, followed⟩
    exact Reachable.start.follow followed

end Order

/-- The outcome of an item, with the item itself as its label. -/
def label (inspect : ι → Except ε α) (item : ι) : Except (ι × ε) (ι × α) :=
  match inspect item with
  | .ok result => .ok (item, result)
  | .error failure => .error (item, failure)

/-- The item that a labelled outcome is of. -/
def labelOf : Except (ι × ε) (ι × α) → ι
  | .ok labelled => labelled.1
  | .error labelled => labelled.1

@[simp]
theorem labelOf_ok (labelled : ι × α) :
    labelOf (.ok labelled : Except (ι × ε) _) = labelled.1 := rfl

@[simp]
theorem labelOf_error (labelled : ι × ε) :
    labelOf (.error labelled : Except _ (ι × α)) = labelled.1 := rfl

@[simp]
theorem labelOf_label (inspect : ι → Except ε α) (item : ι) :
    labelOf (label inspect item) = item := by
  unfold label
  split <;> rfl

/-- A pool whose results and failures carry the items that they are of. -/
abbrev LabelledState (ι α ε : Type) := State ι (ι × α) (ι × ε)

def Phase.erase : Phase ι (ι × α) (ι × ε) → Phase ι α ε
  | .idle => .idle
  | .holding item => .holding item
  | .inspecting item => .inspecting item
  | .collecting labelled => .collecting labelled.2
  | .flushing => .flushing
  | .failing labelled => .failing labelled.2
  | .reporting labelled => .reporting labelled.2
  | .draining => .draining
  | .stopped => .stopped

def Worker.erase (worker : Worker ι (ι × α) (ι × ε)) : Worker ι α ε where
  phase := worker.phase.erase
  batch := worker.batch.map Prod.snd

def eraseMessage : Except (ι × ε) (List (ι × α)) → Except ε (List α)
  | .ok batch => .ok (batch.map Prod.snd)
  | .error labelled => .error labelled.2

def Shared.erase (shared : Shared ι (ι × α) (ι × ε)) : Shared ι α ε where
  queue := shared.queue
  failed := shared.failed
  sent := shared.sent.map eraseMessage

def State.erase (state : LabelledState ι α ε) : State ι α ε where
  shared := state.shared.erase
  workers := state.workers.map Worker.erase

theorem State.erase_start (workers : Nat) (items : List ι) :
    (State.start workers items : LabelledState ι α ε).erase = State.start workers items := by
  simp [State.erase, State.start, Shared.erase, Worker.erase, Phase.erase, Worker.fresh]

/-- Workers act without looking at labels. -/
theorem Worker.act_erase (inspect : ι → Except ε α) (limit : Nat)
    (shared : Shared ι (ι × α) (ι × ε)) (worker : Worker ι (ι × α) (ι × ε)) :
    worker.erase.act inspect limit shared.erase =
      (worker.act (label inspect) limit shared).map fun (shared', worker') =>
        (shared'.erase, worker'.erase) := by
  rcases shared with ⟨queue, failed, sent⟩
  rcases worker with ⟨phase, batch⟩
  cases phase with
  | idle => cases queue <;> rfl
  | holding item => cases failed <;> rfl
  | inspecting item =>
      cases outcome : inspect item <;>
        simp [Worker.act, Worker.erase, Phase.erase, label, outcome]
  | collecting labelled =>
      simp only [Worker.act, Worker.erase, Phase.erase, List.length_append, List.length_map,
        List.length_cons, List.length_nil, Option.map_some, List.map_append, List.map_cons,
        List.map_nil]
      split <;> rfl
  | flushing | failing labelled | reporting labelled =>
      simp [Worker.act, Worker.erase, Phase.erase, Shared.erase, eraseMessage]
  | draining =>
      cases batch <;> simp [Worker.act, Worker.erase, Phase.erase, Shared.erase, eraseMessage]
  | stopped => rfl

theorem State.step_erase (inspect : ι → Except ε α) (limit : Nat) (state : LabelledState ι α ε)
    (index : Nat) :
    state.erase.step inspect limit index =
      (state.step (label inspect) limit index).map State.erase := by
  unfold State.step
  cases found : state.workers[index]? with
  | none => simp [State.erase, found]
  | some worker =>
      simp only [State.erase, List.getElem?_map, found, Option.map_some, Worker.act_erase,
        Option.map_map]
      congr 1
      funext ⟨shared', worker'⟩
      simp [State.erase, List.map_set]

theorem State.follow_erase (inspect : ι → Except ε α) (limit : Nat) (state : LabelledState ι α ε)
    (order : List Nat) :
    state.erase.follow inspect limit order =
      (state.follow (label inspect) limit order).map State.erase := by
  induction order generalizing state with
  | nil => rfl
  | cons index order ih =>
      rw [State.follow_cons, State.follow_cons, State.step_erase]
      cases state.step (label inspect) limit index with
      | none => rfl
      | some after => exact ih after

/-- The item in the hands of a worker. -/
@[simp]
def Phase.items : Phase ι (ι × α) (ι × ε) → List ι
  | .holding item | .inspecting item => [item]
  | .collecting labelled => [labelled.1]
  | .failing labelled | .reporting labelled => [labelled.1]
  | .idle | .flushing | .draining | .stopped => []

namespace LabelledState

def inHands (state : LabelledState ι α ε) : List ι :=
  state.workers.flatMap fun worker => worker.phase.items

/-- The items whose results a worker still holds: a worker that has stopped sends no more. -/
def inBatches (state : LabelledState ι α ε) : List ι :=
  state.workers.flatMap fun worker =>
    if worker.hasStopped then [] else worker.batch.map Prod.fst

/-- The items whose results or failures have been sent. -/
def inMessages (state : LabelledState ι α ε) : List ι :=
  (state.shared.sent.flatMap messageOutcomes).map labelOf

/-- The items that have not been dropped. -/
def places (state : LabelledState ι α ε) : List ι :=
  state.shared.queue ++ state.inHands ++ state.inBatches ++ state.inMessages

/-- The labels of the outcomes of a worker are the item in its hands and those of its batch. -/
theorem map_labelOf_outcomes_worker (inspect : ι → Except ε α)
    (worker : Worker ι (ι × α) (ι × ε)) :
    (worker.outcomes (label inspect)).map labelOf =
      worker.phase.items ++ if worker.hasStopped then [] else worker.batch.map Prod.fst := by
  rcases worker with ⟨phase, batch⟩
  cases phase <;> simp [Worker.hasStopped, Function.comp_def]

/-- The outcomes are listed worker by worker, the places all hands first and then all batches. -/
theorem map_labelOf_outcomes_perm (inspect : ι → Except ε α) (state : LabelledState ι α ε) :
    ((State.outcomes (label inspect) state).map labelOf).Perm state.places := by
  have held : ((state.workers.flatMap (Worker.outcomes (label inspect))).map labelOf).Perm
      (state.inHands ++ state.inBatches) := by
    simp only [List.map_flatMap, map_labelOf_outcomes_worker]
    exact (List.flatMap_append_perm _ _ _).symm
  have queued : (state.shared.queue.map (label inspect)).map labelOf = state.shared.queue := by
    simp [Function.comp_def]
  have split : (State.outcomes (label inspect) state).map labelOf =
      state.shared.queue ++ state.inMessages ++
        (state.workers.flatMap (Worker.outcomes (label inspect))).map labelOf := by
    simp only [State.outcomes, Shared.outcomes, List.map_append, queued, inMessages]
  rw [split]
  refine (held.append_left _).trans ?_
  simp only [places, List.append_assoc]
  exact (List.perm_append_comm.trans (by simp)).append_left _

end LabelledState

end FileQuery.WorkerPool
