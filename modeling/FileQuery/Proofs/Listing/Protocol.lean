import FileQuery.Proofs.Listing.Labels
import FileQuery.Proofs.Listing.Refinement

/-!
# The protocol of a worker pool

The flag of a pool separates two kinds of states. While it is unset, every item is in the queue, in
the hands of a worker, in a batch or in a batch that has been sent, and nowhere twice. Once it is
set, workers may drop what they hold, and some failure of an item has been sent or is the next
message of a worker that has set the flag: there may be many actions of other workers between the
flag and the message. In all states the batches sent are neither empty nor too large. Every action
lowers the remaining work, so a run has a bounded length, and it cannot stop before all workers do.
-/

namespace FileQuery.WorkerPool

variable {ι α ε : Type}

/-- What a worker keeps to: its batch is full exactly while it is about to be sent, and the worker
stops with a batch only after a failure. -/
structure Worker.Orderly (limit : Nat) (shared : Shared ι α ε) (worker : Worker ι α ε) : Prop where
  full : worker.phase = .flushing → worker.batch.length = limit
  room : worker.phase ≠ .flushing → worker.batch.length < limit
  abandons : worker.phase = .stopped → worker.batch ≠ [] → shared.failed = true

/-- What holds of the messages sent. -/
structure Shared.Orderly (limit : Nat) (shared : Shared ι α ε) : Prop where
  batches : ∀ batch, .ok batch ∈ shared.sent → batch ≠ [] ∧ batch.length ≤ limit
  failures : ∀ failure, .error failure ∈ shared.sent → shared.failed = true

structure State.Orderly (limit : Nat) (state : State ι α ε) : Prop where
  shared : state.shared.Orderly limit
  workers : ∀ worker ∈ state.workers, worker.Orderly limit state.shared

theorem Worker.Orderly.mono {limit : Nat} {shared shared' : Shared ι α ε} {worker : Worker ι α ε}
    (leads : shared.Leads shared') (orderly : worker.Orderly limit shared) :
    worker.Orderly limit shared' where
  full := orderly.full
  room := orderly.room
  abandons stopped held := leads.failed (orderly.abandons stopped held)

section Sending

variable {limit : Nat} {queue : List ι} {failed : Bool} {sent : List (Except ε (List α))}

theorem Shared.Orderly.send_batch {batch : List α}
    (orderly : Shared.Orderly limit ⟨queue, failed, sent⟩) (held : batch ≠ [])
    (fits : batch.length ≤ limit) :
    Shared.Orderly limit ⟨queue, failed, sent ++ [.ok batch]⟩ := by
  constructor
  · intro other member
    rcases List.mem_append.1 member with earlier | now
    · exact orderly.batches other earlier
    · cases List.mem_singleton.1 now
      exact ⟨held, fits⟩
  · intro failure member
    rcases List.mem_append.1 member with earlier | now
    · exact orderly.failures failure earlier
    · cases List.mem_singleton.1 now

theorem Shared.Orderly.send_failure {failure : ε}
    (orderly : Shared.Orderly limit ⟨queue, failed, sent⟩) (flagged : failed = true) :
    Shared.Orderly limit ⟨queue, failed, sent ++ [.error failure]⟩ := by
  constructor
  · intro batch member
    rcases List.mem_append.1 member with earlier | now
    · exact orderly.batches batch earlier
    · cases List.mem_singleton.1 now
  · intro _ _
    exact flagged

end Sending

section Action

variable {inspect : ι → Except ε α} {limit : Nat} {shared shared' : Shared ι α ε}
  {worker worker' : Worker ι α ε}

theorem Acts.orderly_worker (positive : 0 < limit)
    (acts : Acts inspect limit shared worker shared' worker')
    (consistent : worker.Consistent shared) (orderly : worker.Orderly limit shared) :
    worker'.Orderly limit shared' := by
  cases acts with
  | take | drain | goOn | succeed | fail | raise =>
      exact ⟨by simp, fun _ => orderly.room (by simp), by simp⟩
  | giveUp => exact ⟨by simp, fun _ => orderly.room (by simp), fun _ _ => rfl⟩
  | collect room => exact ⟨by simp, by simpa using room, by simp⟩
  | fill full =>
      have room := orderly.room (by simp)
      simp only at room
      refine ⟨fun _ => ?_, by simp, by simp⟩
      rw [List.length_append, List.length_singleton]
      omega
  | report =>
      exact ⟨by simp, fun _ => orderly.room (by simp), fun _ _ => consistent.flagged _ rfl⟩
  | flush | stop | flushLast => exact ⟨by simp, by simpa using positive, by simp⟩

/-- Messages are batches that are not empty and not too large, and failures of which the flag
tells. -/
theorem Acts.orderly_shared (positive : 0 < limit)
    (acts : Acts inspect limit shared worker shared' worker')
    (consistent : worker.Consistent shared) (orderly : worker.Orderly limit shared)
    (orderlyShared : shared.Orderly limit) : shared'.Orderly limit := by
  cases acts with
  | take | drain | giveUp | goOn | succeed | fail | collect | fill | stop =>
      exact ⟨orderlyShared.batches, orderlyShared.failures⟩
  | raise => exact ⟨orderlyShared.batches, fun _ _ => rfl⟩
  | flush =>
      have full := orderly.full rfl
      exact orderlyShared.send_batch (List.ne_nil_of_length_pos (full ▸ positive)) full.le
  | flushLast held => exact orderlyShared.send_batch held (orderly.room (by simp)).le
  | report => exact orderlyShared.send_failure (consistent.flagged _ rfl)

end Action

theorem State.orderly_start {limit : Nat} (positive : 0 < limit) (workers : Nat)
    (items : List ι) : (State.start workers items : State ι α ε).Orderly limit where
  shared := ⟨by simp [State.start], by simp [State.start]⟩
  workers worker member := by
    rw [List.eq_of_mem_replicate member]
    exact ⟨by simp [Worker.fresh], by simpa [Worker.fresh] using positive, by simp [Worker.fresh]⟩

theorem State.Orderly.step {inspect : ι → Except ε α} {limit : Nat} {items : List ι}
    {state after : State ι α ε} {index : Nat} (positive : 0 < limit)
    (accounted : state.Accounted inspect items) (orderly : state.Orderly limit)
    (action : state.step inspect limit index = some after) : after.Orderly limit := by
  rcases State.acts_of_step action with ⟨worker, worker', found, acts, replaced⟩
  have consistent := accounted.consistent worker (List.mem_of_getElem? found)
  have own := orderly.workers worker (List.mem_of_getElem? found)
  constructor
  · exact acts.orderly_shared positive consistent own orderly.shared
  · intro other member
    rw [replaced] at member
    rcases List.mem_or_eq_of_mem_set member with member | rfl
    · exact (orderly.workers other member).mono acts.leads
    · exact acts.orderly_worker positive consistent own

theorem Reachable.orderly {inspect : ι → Except ε α} {limit workers : Nat} {items : List ι}
    {state : State ι α ε} (positive : 0 < limit)
    (reachable : Reachable inspect limit workers items state) : state.Orderly limit := by
  induction reachable with
  | start => exact State.orderly_start positive workers items
  | step reachable action ih => exact ih.step positive reachable.accounted action

section Failure

variable {inspect : ι → Except ε α} {limit workers : Nat} {items : List ι} {state : State ι α ε}

/-- Some worker has set the flag for a failure, and its next action is to send it. -/
def State.IsAboutToSend (inspect : ι → Except ε α) (limit : Nat) (state : State ι α ε)
    (failure : ε) : Prop :=
  ∃ index worker after, state.workers[index]? = some worker ∧ worker.phase = .reporting failure ∧
    state.step inspect limit index = some after ∧ .error failure ∈ after.shared.sent

/-- A failure has been sent or is about to be. -/
def State.Announces (inspect : ι → Except ε α) (limit : Nat) (state : State ι α ε)
    (failure : ε) : Prop :=
  .error failure ∈ state.shared.sent ∨ state.IsAboutToSend inspect limit failure

theorem State.isAboutToSend_of_reporting {worker : Worker ι α ε} {failure : ε}
    (member : worker ∈ state.workers) (reporting : worker.phase = .reporting failure) :
    state.IsAboutToSend inspect limit failure := by
  rcases List.mem_iff_getElem?.1 member with ⟨index, found⟩
  have running : index ∈ state.running :=
    State.mem_running_iff.2 ⟨worker, found, by simp [Worker.hasStopped, reporting]⟩
  rcases State.exists_step_of_mem_running inspect limit running with ⟨after, action⟩
  rcases State.acts_of_step action with ⟨acting, acted, found', acts, _⟩
  cases found.symm.trans found'
  exact ⟨index, worker, after, found, reporting, action, acts.sent_of_reporting reporting⟩

theorem State.Accounted.exists_item_of_reporting (accounted : state.Accounted inspect items)
    {worker : Worker ι α ε} {failure : ε} (member : worker ∈ state.workers)
    (reporting : worker.phase = .reporting failure) :
    ∃ item ∈ items, inspect item = .error failure := by
  have held : .error failure ∈ worker.outcomes inspect := by
    simp [Worker.hasStopped, reporting]
  apply accounted.exists_item_of_mem_outcomes
  simp only [State.outcomes, List.mem_append, List.mem_flatMap]
  exact Or.inr ⟨worker, member, held⟩

theorem Reachable.exists_item_of_announces
    (reachable : Reachable inspect limit workers items state) {failure : ε}
    (announces : state.Announces inspect limit failure) :
    ∃ item ∈ items, inspect item = .error failure := by
  rcases announces with sent | ⟨index, worker, _, found, reporting, _⟩
  · exact reachable.accounted.exists_item_of_error_mem sent
  · exact reachable.accounted.exists_item_of_reporting (List.mem_of_getElem? found) reporting

/-- The flag is set exactly while a failure has been sent or is about to be. -/
theorem Reachable.failed_iff_exists_announces (positive : 0 < limit)
    (reachable : Reachable inspect limit workers items state) :
    state.shared.failed = true ↔ ∃ failure, state.Announces inspect limit failure := by
  constructor
  · intro failed
    rcases reachable.accounted.reported failed with
      ⟨failure, sent⟩ | ⟨worker, member, failure, reporting⟩
    · exact ⟨failure, Or.inl sent⟩
    · exact ⟨failure, Or.inr (State.isAboutToSend_of_reporting member reporting)⟩
  · rintro ⟨failure, sent | ⟨index, worker, _, found, reporting, _⟩⟩
    · exact (reachable.orderly positive).shared.failures failure sent
    · exact (reachable.accounted.consistent worker (List.mem_of_getElem? found)).flagged
        failure reporting

/-- The worker whose action sets the flag is about to send its failure. -/
theorem State.exists_reporting_of_step {after : State ι α ε} {index : Nat}
    (action : state.step inspect limit index = some after)
    (unset : state.shared.failed = false) (raised : after.shared.failed = true) :
    ∃ worker failure, after.workers[index]? = some worker ∧ worker.phase = .reporting failure := by
  rcases State.acts_of_step action with ⟨worker, worker', found, acts, replaced⟩
  have replacing : after.workers[index]? = some worker' := by
    rw [replaced, List.getElem?_set_self (List.getElem?_eq_some_iff.1 found).1]
  rcases acts.reporting_of_failed raised with failed | ⟨failure, reporting⟩
  · rw [unset] at failed
    cases failed
  · exact ⟨worker', failure, replacing, reporting⟩

end Failure

/-- In a labelled pool, every item is somewhere while the flag is unset, and nothing is dropped
before it is set. -/
structure LabelledState.AccountsFor (items : List ι) (state : LabelledState ι α ε) : Prop where
  unflagged : state.shared.failed = false → state.places.Perm items
  dropped : ∃ dropped, (state.places ++ dropped).Perm items ∧
    (dropped ≠ [] → state.shared.failed = true)

theorem Reachable.accountsFor {inspect : ι → Except ε α} {limit workers : Nat} {items : List ι}
    {state : LabelledState ι α ε}
    (reachable : Reachable (label inspect) limit workers items state) :
    LabelledState.AccountsFor items state := by
  rcases reachable.accounted.dropped with ⟨lost, total, flagged⟩
  have located : (state.places ++ lost.map labelOf).Perm items := by
    have labels := total.map labelOf
    simp only [List.map_append, List.map_map, Function.comp_def, labelOf_label,
      List.map_id'] at labels
    exact ((LabelledState.map_labelOf_outcomes_perm inspect state).symm.append_right _).trans labels
  constructor
  · intro unset
    cases lost with
    | nil => simpa using located
    | cons outcome lost =>
        rw [flagged (by simp)] at unset
        cases unset
  · refine ⟨lost.map labelOf, located, ?_⟩
    intro some_lost
    exact flagged (by simpa using some_lost)

/-- The labelled run by the same actions accounts for the items. -/
theorem exists_labelled_of_follow {inspect : ι → Except ε α} {limit workers : Nat}
    {items : List ι} {order : List Nat} {state : State ι α ε}
    (followed : (State.start workers items).follow inspect limit order = some state) :
    ∃ labelled : LabelledState ι α ε,
      (State.start workers items).follow (label inspect) limit order = some labelled ∧
      labelled.erase = state ∧ labelled.AccountsFor items := by
  rw [← State.erase_start, State.follow_erase] at followed
  rcases Option.map_eq_some_iff.1 followed with ⟨labelled, same, erased⟩
  exact ⟨labelled, same, erased, (Reachable.start.follow same).accountsFor⟩

section Ends

variable {inspect : ι → Except ε α} {limit workers : Nat} {items : List ι} {state : State ι α ε}

theorem State.remaining_start (workers : Nat) (items : List ι) :
    (State.start workers items : State ι α ε).remaining = 5 * items.length + 2 * workers := by
  have fresh : totalCost Worker.remaining
      (List.replicate workers (Worker.fresh : Worker ι α ε)) = 2 * workers := by
    induction workers with
    | zero => rfl
    | succ workers ih =>
        simp only [totalCost, List.replicate_succ, List.foldr_cons] at ih ⊢
        rw [ih]
        simp only [Worker.remaining, Worker.fresh]
        omega
  simp only [State.remaining, State.start, fresh]

theorem State.length_add_remaining_le {order : List Nat} {after : State ι α ε}
    (followed : state.follow inspect limit order = some after) :
    order.length + after.remaining ≤ state.remaining := by
  induction order generalizing state with
  | nil =>
      cases followed
      simp
  | cons index order ih =>
      rw [State.follow_cons] at followed
      rcases Option.bind_eq_some_iff.1 followed with ⟨next, action, later⟩
      have less := State.remaining_lt_of_step action
      have rest := ih later
      rw [List.length_cons]
      omega

/-- The length of a run is bounded by the numbers of items and workers alone. -/
theorem Reachable.length_le (reachable : Reachable inspect limit workers items state)
    {order : List Nat} {after : State ι α ε}
    (followed : state.follow inspect limit order = some after) :
    order.length ≤ 5 * items.length + 2 * workers := by
  rcases reachable_iff_exists_follow.1 reachable with ⟨before, reached⟩
  have earlier := State.length_add_remaining_le reached
  have later := State.length_add_remaining_le followed
  rw [State.remaining_start] at earlier
  omega

/-- No worker can act only when all have stopped. -/
theorem State.no_step_iff :
    (∀ index, state.step inspect limit index = none) ↔
      ∀ worker ∈ state.workers, worker.hasStopped = true := by
  constructor
  · intro stuck worker member
    rw [← Bool.not_eq_false]
    intro running
    rcases List.mem_iff_getElem?.1 member with ⟨index, found⟩
    rcases State.exists_step_of_mem_running inspect limit
      (State.mem_running_iff.2 ⟨worker, found, running⟩) with ⟨after, action⟩
    rw [stuck index] at action
    cases action
  · intro stopped index
    unfold State.step
    split
    · rfl
    · rename_i worker found
      have returned := Worker.hasStopped_iff.1 (stopped worker (List.mem_of_getElem? found))
      rcases worker with ⟨phase, batch⟩
      cases returned
      rfl

end Ends

/-- What holds of a state of a pool that has started on some items. -/
structure State.KeepsProtocol (inspect : ι → Except ε α) (limit workers : Nat) (items : List ι)
    (state : State ι α ε) : Prop where
  /-- The same actions with labels tell which items are in the queue, in hands, in batches and in
  messages. -/
  accounts : ∃ order, ∃ labelled : LabelledState ι α ε,
    (State.start workers items).follow inspect limit order = some state ∧
    (State.start workers items).follow (label inspect) limit order = some labelled ∧
    labelled.erase = state ∧ labelled.AccountsFor items
  abandons : ∀ worker ∈ state.workers, worker.phase = .stopped → worker.batch ≠ [] →
    state.shared.failed = true
  failed_iff : state.shared.failed = true ↔ ∃ failure, state.Announces inspect limit failure
  failures : ∀ failure, state.Announces inspect limit failure →
    ∃ item ∈ items, inspect item = .error failure
  raises : ∀ index after, state.step inspect limit index = some after →
    state.shared.failed = false → after.shared.failed = true →
    ∃ worker failure, after.workers[index]? = some worker ∧ worker.phase = .reporting failure
  batches : ∀ batch, .ok batch ∈ state.shared.sent → batch ≠ [] ∧ batch.length ≤ limit
  ends : ∀ order after, state.follow inspect limit order = some after →
    order.length ≤ 5 * items.length + 2 * workers
  stuck_iff : (∀ index, state.step inspect limit index = none) ↔
    ∀ worker ∈ state.workers, worker.hasStopped = true

theorem Reachable.keepsProtocol_of_limit {inspect : ι → Except ε α} {limit workers : Nat}
    {items : List ι} {state : State ι α ε} (positive : 0 < limit)
    (reachable : Reachable inspect limit workers items state) :
    state.KeepsProtocol inspect limit workers items where
  accounts := by
    rcases reachable_iff_exists_follow.1 reachable with ⟨order, followed⟩
    rcases exists_labelled_of_follow followed with ⟨labelled, same, erased, accounts⟩
    exact ⟨order, labelled, followed, same, erased, accounts⟩
  abandons worker member stopped held :=
    ((reachable.orderly positive).workers worker member).abandons stopped held
  failed_iff := reachable.failed_iff_exists_announces positive
  failures _ announces := reachable.exists_item_of_announces announces
  raises _ _ action unset raised := State.exists_reporting_of_step action unset raised
  batches := (reachable.orderly positive).shared.batches
  ends _ _ followed := reachable.length_le followed
  stuck_iff := State.no_step_iff

/-- The workers of a listing keep to the protocol in every state, whatever the items, the outcomes
and the number of workers. -/
theorem listing_keepsProtocol {inspect : ι → Except ε α} {workers : Nat} {items : List ι}
    {state : State ι α ε} (reachable : Reachable inspect batchSize workers items state) :
    state.KeepsProtocol inspect batchSize workers items :=
  reachable.keepsProtocol_of_limit (by decide)

/-- Between the flag and the failure that a worker sends, another gives up with the item 5. -/
theorem listing_keepsProtocol_before_failure :
    let inspect : ℕ → Except String ℕ := fun size => if size < 100 then .ok size else .error "large"
    let state : State ℕ ℕ String :=
      { shared := { queue := [], failed := true, sent := [] },
        workers :=
          [{ phase := .reporting "large", batch := [3] }, { phase := .stopped, batch := [] }] }
    Reachable inspect batchSize 2 [3, 100, 5] state ∧
      state.KeepsProtocol inspect batchSize 2 [3, 100, 5] := by
  intro inspect state
  have reachable : Reachable inspect batchSize 2 [3, 100, 5] state :=
    reachable_iff_exists_follow.2 ⟨[0, 0, 0, 0, 0, 0, 0, 1, 0, 1], rfl⟩
  exact ⟨reachable, listing_keepsProtocol reachable⟩

end FileQuery.WorkerPool
