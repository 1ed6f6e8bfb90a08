/-!
# Worker pools

Several workers share a queue of items, a flag and a channel of results. A worker takes an item,
gives up if the flag is set, inspects the item and collects the result in a batch, which it sends
once the batch is full and once more when the queue is empty. A worker whose item fails sets the
flag, sends the failure and stops, and a worker that gives up drops what it holds.

`Worker.act` is one action of one worker, so that a run is a sequence of actions of workers in any
order. A *schedule* chooses among the workers that have not stopped, and `run` carries a schedule
through. Every action lowers `State.remaining`, so every run ends, and since a worker that has not
stopped can always act, it ends with all workers stopped.
-/

namespace FileQuery.WorkerPool

variable {ι α ε : Type}

inductive Phase (ι α ε : Type) where
  | idle
  | holding (item : ι)
  | inspecting (item : ι)
  | collecting (result : α)
  | flushing
  | failing (failure : ε)
  | reporting (failure : ε)
  | draining
  | stopped

/-- A worker: where it stands, and the results that it has not sent yet. -/
structure Worker (ι α ε : Type) where
  phase : Phase ι α ε
  batch : List α

/-- What the workers share: the items that nobody has taken, whether a worker has failed, and
what has been sent, oldest first. -/
structure Shared (ι α ε : Type) where
  queue : List ι
  failed : Bool
  sent : List (Except ε (List α))

structure State (ι α ε : Type) where
  shared : Shared ι α ε
  workers : List (Worker ι α ε)

def Worker.fresh : Worker ι α ε where
  phase := .idle
  batch := []

def State.start (workers : Nat) (items : List ι) : State ι α ε where
  shared := { queue := items, failed := false, sent := [] }
  workers := List.replicate workers .fresh

def Worker.hasStopped (worker : Worker ι α ε) : Bool :=
  match worker.phase with
  | .stopped => true
  | _ => false

/-- The next action of a worker, unless it has stopped. A batch of `limit` results is full. -/
def Worker.act (inspect : ι → Except ε α) (limit : Nat) (shared : Shared ι α ε)
    (worker : Worker ι α ε) : Option (Shared ι α ε × Worker ι α ε) :=
  match worker.phase with
  | .idle =>
      match shared.queue with
      | item :: queue => some ({ shared with queue }, { worker with phase := .holding item })
      | [] => some (shared, { worker with phase := .draining })
  | .holding item =>
      some (shared,
        { worker with phase := if shared.failed then .stopped else .inspecting item })
  | .inspecting item =>
      match inspect item with
      | .ok result => some (shared, { worker with phase := .collecting result })
      | .error failure => some (shared, { worker with phase := .failing failure })
  | .collecting result =>
      let batch := worker.batch ++ [result]
      some (shared, { phase := if limit ≤ batch.length then .flushing else .idle, batch })
  | .flushing =>
      some ({ shared with sent := shared.sent ++ [.ok worker.batch] },
        { phase := .idle, batch := [] })
  | .failing failure =>
      some ({ shared with failed := true }, { worker with phase := .reporting failure })
  | .reporting failure =>
      some ({ shared with sent := shared.sent ++ [.error failure] },
        { worker with phase := .stopped })
  | .draining =>
      if worker.batch.isEmpty then
        some (shared, { worker with phase := .stopped })
      else
        some ({ shared with sent := shared.sent ++ [.ok worker.batch] },
          { phase := .stopped, batch := [] })
  | .stopped => none

namespace State

/-- The state after the next action of one worker, unless there is none. -/
def step (inspect : ι → Except ε α) (limit : Nat) (state : State ι α ε) (index : Nat) :
    Option (State ι α ε) :=
  match state.workers[index]? with
  | none => none
  | some worker =>
      (worker.act inspect limit state.shared).map fun (shared, after) =>
        { shared, workers := state.workers.set index after }

def running (state : State ι α ε) : List Nat :=
  (List.range state.workers.length).filter fun index =>
    (state.workers[index]?).any fun worker => !worker.hasStopped

/-- The next action of the worker that a number chooses among those that have not stopped. -/
def advance (inspect : ι → Except ε α) (limit : Nat) (state : State ι α ε) (choice : Nat) :
    Option (State ι α ε) :=
  (state.running[choice % state.running.length]?).bind (state.step inspect limit)

end State

/-- The states that some order of actions leads to, when all workers start together on some
items. -/
inductive Reachable (inspect : ι → Except ε α) (limit workers : Nat) (items : List ι) :
    State ι α ε → Prop where
  | start : Reachable inspect limit workers items (State.start workers items)
  | step {state after : State ι α ε} {index : Nat}
      (reachable : Reachable inspect limit workers items state)
      (action : state.step inspect limit index = some after) :
      Reachable inspect limit workers items after

/-- A bound on the actions of a worker that takes no further item. -/
def Worker.remaining (worker : Worker ι α ε) : Nat :=
  match worker.phase with
  | .holding _ => 6
  | .inspecting _ => 5
  | .collecting _ => 4
  | .flushing => 3
  | .idle | .failing _ => 2
  | .reporting _ | .draining => 1
  | .stopped => 0

def totalCost {β : Type} (cost : β → Nat) (items : List β) : Nat :=
  items.foldr (fun item total => cost item + total) 0

/-- A bound on the actions of all workers: an item in the queue costs five. -/
def State.remaining (state : State ι α ε) : Nat :=
  5 * state.shared.queue.length + totalCost Worker.remaining state.workers

theorem remaining_lt_of_act {inspect : ι → Except ε α} {limit : Nat}
    {shared shared' : Shared ι α ε} {worker worker' : Worker ι α ε}
    (action : worker.act inspect limit shared = some (shared', worker')) :
    5 * shared'.queue.length + worker'.remaining < 5 * shared.queue.length + worker.remaining := by
  obtain ⟨phase, batch⟩ := worker
  cases phase with
  | idle =>
    simp only [Worker.act] at action
    split at action
    · rename_i item queue taken
      cases action
      simp only [Worker.remaining, taken, List.length_cons]
      omega
    · cases action
      simp only [Worker.remaining]
      omega
  | holding item =>
    simp only [Worker.act] at action
    cases action
    cases shared.failed <;> simp [Worker.remaining]
  | inspecting item =>
    simp only [Worker.act] at action
    split at action <;> cases action <;> simp only [Worker.remaining] <;> omega
  | collecting result =>
    simp only [Worker.act] at action
    cases action
    simp only [Worker.remaining]
    split <;> rename_i phase <;> split at phase <;> simp_all
  | flushing | failing | reporting =>
    simp only [Worker.act] at action
    cases action
    simp only [Worker.remaining]
    omega
  | draining =>
    simp only [Worker.act] at action
    split at action <;> cases action <;> simp only [Worker.remaining] <;> omega
  | stopped => simp [Worker.act] at action

/-- Replacing a member of a list changes a sum over it by the difference of the two terms. -/
theorem totalCost_set {β : Type} (cost : β → Nat) (new : β) :
    ∀ {items : List β} {index : Nat} {old : β}, items[index]? = some old →
      totalCost cost (items.set index new) + cost old = totalCost cost items + cost new
  | [], _, _, found => by simp at found
  | head :: tail, 0, old, found => by
      simp only [List.getElem?_cons_zero, Option.some.injEq] at found
      simp only [totalCost, List.set_cons_zero, List.foldr_cons, found]
      omega
  | head :: tail, index + 1, old, found => by
      simp only [List.getElem?_cons_succ] at found
      have rest := totalCost_set cost new found
      simp only [totalCost, List.set_cons_succ, List.foldr_cons] at rest ⊢
      omega

theorem State.remaining_lt_of_step {inspect : ι → Except ε α} {limit : Nat}
    {state after : State ι α ε} {index : Nat}
    (action : state.step inspect limit index = some after) :
    after.remaining < state.remaining := by
  unfold State.step at action
  split at action
  · cases action
  · rename_i worker found
    obtain ⟨⟨shared', worker'⟩, acted, rfl⟩ := Option.map_eq_some_iff.1 action
    have total := totalCost_set Worker.remaining worker' found
    have less := remaining_lt_of_act acted
    simp only [State.remaining]
    omega

theorem State.remaining_lt_of_advance {inspect : ι → Except ε α} {limit : Nat}
    {state after : State ι α ε} {choice : Nat}
    (action : state.advance inspect limit choice = some after) :
    after.remaining < state.remaining := by
  obtain ⟨index, -, acted⟩ := Option.bind_eq_some_iff.1 action
  exact State.remaining_lt_of_step acted

/-- An endless sequence of choices among the workers that have not stopped. -/
abbrev Schedule := Nat → Nat

def State.run (inspect : ι → Except ε α) (limit : Nat) (schedule : Schedule) (round : Nat)
    (state : State ι α ε) : State ι α ε :=
  match _action : state.advance inspect limit (schedule round) with
  | none => state
  | some after => after.run inspect limit schedule (round + 1)
termination_by state.remaining
decreasing_by exact State.remaining_lt_of_advance _action

/-- A schedule only leads to states that some order of actions leads to. -/
theorem Reachable.run {inspect : ι → Except ε α} {limit workers : Nat} {items : List ι}
    (schedule : Schedule) {round : Nat} {state : State ι α ε}
    (reachable : Reachable inspect limit workers items state) :
    Reachable inspect limit workers items (state.run inspect limit schedule round) := by
  fun_induction State.run inspect limit schedule round state with
  | case1 => exact reachable
  | case2 round state after action ih =>
    obtain ⟨index, -, acted⟩ := Option.bind_eq_some_iff.1 action
    exact ih (reachable.step acted)

/-- The item that a worker inspects with its next action, if it does. -/
def Worker.inspecting? (worker : Worker ι α ε) : Option ι :=
  match worker.phase with
  | .inspecting item => some item
  | _ => none

/-- The item that is inspected with the next action of the worker that a number chooses. -/
def State.inspecting? (state : State ι α ε) (choice : Nat) : Option ι :=
  (state.running[choice % state.running.length]?).bind fun index =>
    (state.workers[index]?).bind Worker.inspecting?

/-- The items that are inspected from a state on, in the order in which that happens. -/
def State.inspected (inspect : ι → Except ε α) (limit : Nat) (schedule : Schedule) (round : Nat)
    (state : State ι α ε) : List ι :=
  match _action : state.advance inspect limit (schedule round) with
  | none => []
  | some after =>
      (state.inspecting? (schedule round)).toList ++
        after.inspected inspect limit schedule (round + 1)
termination_by state.remaining
decreasing_by exact State.remaining_lt_of_advance _action

/-- The results of all batches in the order sent, or the first failure that was sent. -/
def gather : List (Except ε (List α)) → Except ε (List α)
  | [] => .ok []
  | .error failure :: _ => .error failure
  | .ok batch :: rest => (gather rest).map (batch ++ ·)

/-- The results for all items by a number of workers, or the failure of one of the items. -/
def inspectAll (inspect : ι → Except ε α) (limit : Nat) (schedule : Schedule) (workers : Nat)
    (items : List ι) : Except ε (List α) :=
  gather ((State.start workers items).run inspect limit schedule 0).shared.sent

/-- The items that a number of workers inspect before they have all stopped. -/
def inspectedAll (inspect : ι → Except ε α) (limit : Nat) (schedule : Schedule) (workers : Nat)
    (items : List ι) : List ι :=
  (State.start workers items).inspected inspect limit schedule 0

end FileQuery.WorkerPool
