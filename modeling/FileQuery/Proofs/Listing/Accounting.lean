import FileQuery.Listing.WorkerPool

/-!
# Accounting for the items of a pool

Every item of a pool is somewhere: in the queue, in the hands of a worker, in a batch, or sent.
What an item is worth is its outcome under inspection, and the outcomes found in all these places
are, with those that have been dropped, the outcomes of the items that the workers started with.
Nothing is dropped before a worker has failed, a failure is on its way as soon as the flag is set,
and no worker returns early for any other reason. One action of one worker preserves all of it, so
it holds in every reachable state.
-/

namespace FileQuery.WorkerPool

variable {ι α ε : Type}

/-- One action of a worker, with the shared state and the worker before and after it. -/
inductive Acts (inspect : ι → Except ε α) (limit : Nat) :
    Shared ι α ε → Worker ι α ε → Shared ι α ε → Worker ι α ε → Prop where
  | take {item : ι} {queue : List ι} {failed : Bool} {sent : List (Except ε (List α))}
      {batch : List α} :
      Acts inspect limit ⟨item :: queue, failed, sent⟩ ⟨.idle, batch⟩
        ⟨queue, failed, sent⟩ ⟨.holding item, batch⟩
  | drain {failed : Bool} {sent : List (Except ε (List α))} {batch : List α} :
      Acts inspect limit ⟨[], failed, sent⟩ ⟨.idle, batch⟩ ⟨[], failed, sent⟩ ⟨.draining, batch⟩
  | giveUp {queue : List ι} {sent : List (Except ε (List α))} {item : ι} {batch : List α} :
      Acts inspect limit ⟨queue, true, sent⟩ ⟨.holding item, batch⟩
        ⟨queue, true, sent⟩ ⟨.stopped, batch⟩
  | goOn {queue : List ι} {sent : List (Except ε (List α))} {item : ι} {batch : List α} :
      Acts inspect limit ⟨queue, false, sent⟩ ⟨.holding item, batch⟩
        ⟨queue, false, sent⟩ ⟨.inspecting item, batch⟩
  | succeed {shared : Shared ι α ε} {item : ι} {result : α} {batch : List α}
      (succeeds : inspect item = .ok result) :
      Acts inspect limit shared ⟨.inspecting item, batch⟩ shared ⟨.collecting result, batch⟩
  | fail {shared : Shared ι α ε} {item : ι} {failure : ε} {batch : List α}
      (fails : inspect item = .error failure) :
      Acts inspect limit shared ⟨.inspecting item, batch⟩ shared ⟨.failing failure, batch⟩
  | collect {shared : Shared ι α ε} {result : α} {batch : List α}
      (room : batch.length + 1 < limit) :
      Acts inspect limit shared ⟨.collecting result, batch⟩ shared ⟨.idle, batch ++ [result]⟩
  | fill {shared : Shared ι α ε} {result : α} {batch : List α}
      (full : limit ≤ batch.length + 1) :
      Acts inspect limit shared ⟨.collecting result, batch⟩ shared ⟨.flushing, batch ++ [result]⟩
  | flush {queue : List ι} {failed : Bool} {sent : List (Except ε (List α))} {batch : List α} :
      Acts inspect limit ⟨queue, failed, sent⟩ ⟨.flushing, batch⟩
        ⟨queue, failed, sent ++ [.ok batch]⟩ ⟨.idle, []⟩
  | raise {queue : List ι} {failed : Bool} {sent : List (Except ε (List α))} {failure : ε}
      {batch : List α} :
      Acts inspect limit ⟨queue, failed, sent⟩ ⟨.failing failure, batch⟩
        ⟨queue, true, sent⟩ ⟨.reporting failure, batch⟩
  | report {queue : List ι} {failed : Bool} {sent : List (Except ε (List α))} {failure : ε}
      {batch : List α} :
      Acts inspect limit ⟨queue, failed, sent⟩ ⟨.reporting failure, batch⟩
        ⟨queue, failed, sent ++ [.error failure]⟩ ⟨.stopped, batch⟩
  | stop {shared : Shared ι α ε} :
      Acts inspect limit shared ⟨.draining, []⟩ shared ⟨.stopped, []⟩
  | flushLast {queue : List ι} {failed : Bool} {sent : List (Except ε (List α))} {batch : List α}
      (held : batch ≠ []) :
      Acts inspect limit ⟨queue, failed, sent⟩ ⟨.draining, batch⟩
        ⟨queue, failed, sent ++ [.ok batch]⟩ ⟨.stopped, []⟩

theorem acts_of_act {inspect : ι → Except ε α} {limit : Nat} {shared shared' : Shared ι α ε}
    {worker worker' : Worker ι α ε}
    (action : worker.act inspect limit shared = some (shared', worker')) :
    Acts inspect limit shared worker shared' worker' := by
  rcases shared with ⟨queue, failed, sent⟩
  rcases worker with ⟨phase, batch⟩
  cases phase with
  | idle =>
      cases queue with
      | nil =>
          cases action
          exact .drain
      | cons item queue =>
          cases action
          exact .take
  | holding item =>
      cases failed with
      | false =>
          cases action
          exact .goOn
      | true =>
          cases action
          exact .giveUp
  | inspecting item =>
      simp only [Worker.act] at action
      split at action
      · rename_i result succeeds
        cases action
        exact .succeed succeeds
      · rename_i failure fails
        cases action
        exact .fail fails
  | collecting result =>
      by_cases full : limit ≤ batch.length + 1
      · simp only [Worker.act, List.length_append, List.length_cons, List.length_nil, full,
          if_true] at action
        cases action
        exact .fill full
      · simp only [Worker.act, List.length_append, List.length_cons, List.length_nil, full,
          if_false] at action
        cases action
        exact .collect (by omega)
  | flushing =>
      cases action
      exact .flush
  | failing failure =>
      cases action
      exact .raise
  | reporting failure =>
      cases action
      exact .report
  | draining =>
      cases batch with
      | nil =>
          cases action
          exact .stop
      | cons result batch =>
          cases action
          exact .flushLast (by simp)
  | stopped => cases action

theorem State.acts_of_step {inspect : ι → Except ε α} {limit : Nat} {state after : State ι α ε}
    {index : Nat} (action : state.step inspect limit index = some after) :
    ∃ worker worker', state.workers[index]? = some worker ∧
      Acts inspect limit state.shared worker after.shared worker' ∧
      after.workers = state.workers.set index worker' := by
  unfold State.step at action
  split at action
  · cases action
  · rename_i worker found
    rcases Option.map_eq_some_iff.1 action with ⟨⟨shared', worker'⟩, acted, rfl⟩
    exact ⟨worker, worker', found, acts_of_act acted, rfl⟩

/-- The outcome of the item that a worker is busy with. -/
@[simp]
def Phase.outcomes (inspect : ι → Except ε α) : Phase ι α ε → List (Except ε α)
  | .holding item | .inspecting item => [inspect item]
  | .collecting result => [.ok result]
  | .failing failure | .reporting failure => [.error failure]
  | .idle | .flushing | .draining | .stopped => []

/-- The outcomes that a worker still holds: none once it has stopped. -/
@[simp]
def Worker.outcomes (inspect : ι → Except ε α) (worker : Worker ι α ε) : List (Except ε α) :=
  if worker.hasStopped then []
  else worker.phase.outcomes inspect ++ worker.batch.map .ok

/-- The outcomes in one message. -/
@[simp]
def messageOutcomes : Except ε (List α) → List (Except ε α)
  | .ok batch => batch.map .ok
  | .error failure => [.error failure]

/-- The outcomes of the items in the queue and those sent. -/
@[simp]
def Shared.outcomes (inspect : ι → Except ε α) (shared : Shared ι α ε) : List (Except ε α) :=
  shared.queue.map inspect ++ shared.sent.flatMap messageOutcomes

/-- The outcomes that have not been dropped. -/
def State.outcomes (inspect : ι → Except ε α) (state : State ι α ε) : List (Except ε α) :=
  state.shared.outcomes inspect ++ state.workers.flatMap (Worker.outcomes inspect)

/-- What the phase of a worker says about the shared state. -/
structure Worker.Consistent (shared : Shared ι α ε) (worker : Worker ι α ε) : Prop where
  flagged : ∀ failure, worker.phase = .reporting failure → shared.failed = true
  returning : worker.phase = .draining ∨ worker.phase = .stopped →
    shared.queue = [] ∨ shared.failed = true

/-- The shared state after more actions: nothing joins the queue, the flag stays set, and what has
been sent stays sent. -/
structure Shared.Leads (shared shared' : Shared ι α ε) : Prop where
  queue : shared.queue = [] → shared'.queue = []
  failed : shared.failed = true → shared'.failed = true
  sent : ∀ message ∈ shared.sent, message ∈ shared'.sent

theorem Worker.Consistent.mono {shared shared' : Shared ι α ε} {worker : Worker ι α ε}
    (leads : shared.Leads shared') (consistent : worker.Consistent shared) :
    worker.Consistent shared' := by
  constructor
  · intro failure reporting
    exact leads.failed (consistent.flagged failure reporting)
  · intro returning
    rcases consistent.returning returning with empty | failed
    · exact Or.inl (leads.queue empty)
    · exact Or.inr (leads.failed failed)

section Action

variable {inspect : ι → Except ε α} {limit : Nat} {shared shared' : Shared ι α ε}
  {worker worker' : Worker ι α ε}

theorem Acts.leads (acts : Acts inspect limit shared worker shared' worker') :
    shared.Leads shared' := by
  cases acts with
  | take => exact ⟨by simp, id, by simp⟩
  | drain | giveUp | goOn | succeed | fail | collect | fill | stop => exact ⟨id, id, by simp⟩
  | raise => exact ⟨id, by simp, by simp⟩
  | flush | report | flushLast => exact ⟨id, id, by simp +contextual⟩

theorem Acts.consistent (acts : Acts inspect limit shared worker shared' worker')
    (consistent : worker.Consistent shared) : worker'.Consistent shared' := by
  cases acts with
  | take | drain | giveUp | goOn | succeed | fail | collect | fill | flush | raise =>
      exact ⟨by simp, by simp⟩
  | report => exact ⟨by simp, fun _ => Or.inr (consistent.flagged _ rfl)⟩
  | stop | flushLast => exact ⟨by simp, fun _ => consistent.returning (Or.inl rfl)⟩

/-- An action keeps the outcomes in the queue, in the worker and sent, up to their order, but for
those that it drops because a worker has failed. -/
theorem Acts.exists_dropped (acts : Acts inspect limit shared worker shared' worker')
    (consistent : worker.Consistent shared) :
    ∃ dropped, (shared'.outcomes inspect ++ worker'.outcomes inspect ++ dropped).Perm
        (shared.outcomes inspect ++ worker.outcomes inspect) ∧
      (dropped ≠ [] → shared'.failed = true) := by
  cases acts with
  | @take item queue failed sent batch =>
      refine ⟨[], ?_, by simp⟩
      simp only [Shared.outcomes, Worker.outcomes, Worker.hasStopped, Phase.outcomes, List.map_cons,
        List.append_nil, List.cons_append, List.nil_append, Bool.false_eq_true, if_false]
      exact List.perm_middle
  | drain | goOn | raise | stop => exact ⟨[], by simp [Worker.hasStopped], by simp⟩
  | succeed succeeds => exact ⟨[], by simp [Worker.hasStopped, succeeds], by simp⟩
  | fail fails => exact ⟨[], by simp [Worker.hasStopped, fails], by simp⟩
  | @giveUp queue sent item batch =>
      exact ⟨inspect item :: batch.map .ok, by simp [Worker.hasStopped], by simp⟩
  | @collect shared result batch | @fill shared result batch =>
      refine ⟨[], ?_, by simp⟩
      simp only [Worker.outcomes, Worker.hasStopped, Phase.outcomes, List.map_append, List.map_cons,
        List.map_nil, List.append_nil, List.nil_append, Bool.false_eq_true, if_false]
      exact List.perm_append_comm.append_left _
  | flush | flushLast => exact ⟨[], by simp [Worker.hasStopped], by simp⟩
  | @report queue failed sent failure batch =>
      refine ⟨batch.map .ok, by simp [Worker.hasStopped], ?_⟩
      intro _
      exact consistent.flagged failure rfl

/-- When the flag is set by an action, the worker that set it is about to send its failure. -/
theorem Acts.reporting_of_failed (acts : Acts inspect limit shared worker shared' worker')
    (failed' : shared'.failed = true) :
    shared.failed = true ∨ ∃ failure, worker'.phase = .reporting failure := by
  cases acts with
  | raise => exact Or.inr ⟨_, rfl⟩
  | take | drain | giveUp | goOn | succeed | fail | collect | fill | flush | report | stop
  | flushLast => exact Or.inl failed'

/-- A worker that is about to send a failure does so with its next action. -/
theorem Acts.sent_of_reporting {failure : ε}
    (acts : Acts inspect limit shared worker shared' worker')
    (reporting : worker.phase = .reporting failure) : .error failure ∈ shared'.sent := by
  cases acts with
  | report =>
      cases reporting
      simp
  | take | drain | giveUp | goOn | succeed | fail | collect | fill | flush | raise | stop
  | flushLast => cases reporting

end Action

/-- What holds in every state that workers reach from some items: the outcomes are those of the
items but for what has been dropped after a failure, a failure has been or is about to be sent once
the flag is set, and every worker is consistent with what it shares. -/
structure State.Accounted (inspect : ι → Except ε α) (items : List ι) (state : State ι α ε) :
    Prop where
  dropped : ∃ dropped, (state.outcomes inspect ++ dropped).Perm (items.map inspect) ∧
    (dropped ≠ [] → state.shared.failed = true)
  reported : state.shared.failed = true →
    (∃ failure, .error failure ∈ state.shared.sent) ∨
      ∃ worker ∈ state.workers, ∃ failure, worker.phase = .reporting failure
  consistent : ∀ worker ∈ state.workers, worker.Consistent state.shared

/-- An outcome that has not been dropped is that of an item. -/
theorem State.Accounted.exists_item_of_mem_outcomes {inspect : ι → Except ε α} {items : List ι}
    {state : State ι α ε} (accounted : state.Accounted inspect items) {outcome : Except ε α}
    (found : outcome ∈ state.outcomes inspect) : ∃ item ∈ items, inspect item = outcome := by
  rcases accounted.dropped with ⟨dropped, total, _⟩
  exact List.mem_map.1 (total.mem_iff.1 (List.mem_append_left dropped found))

theorem State.accounted_start (inspect : ι → Except ε α) (workers : Nat) (items : List ι) :
    (State.start workers items : State ι α ε).Accounted inspect items := by
  constructor
  · refine ⟨[], ?_, by simp⟩
    have nothing : ∀ count : Nat, (List.replicate count Worker.fresh).flatMap
        (Worker.outcomes inspect) = [] := by
      intro count
      simp [Worker.fresh]
    simp [State.outcomes, State.start, nothing]
  · intro failed
    cases failed
  · intro worker member
    rw [List.eq_of_mem_replicate member]
    exact ⟨by simp [Worker.fresh], by simp [Worker.fresh]⟩

/-- What the members of a list hold, with the part of one member and that of its replacement. -/
theorem exists_others_perm {β γ : Type} (part : β → List γ) (new : β) {items : List β}
    {index : Nat} {old : β} (found : items[index]? = some old) :
    ∃ others, (items.flatMap part).Perm (part old ++ others) ∧
      ((items.set index new).flatMap part).Perm (part new ++ others) := by
  induction items generalizing index with
  | nil => simp at found
  | cons head tail ih =>
      cases index with
      | zero =>
          simp only [List.getElem?_cons_zero, Option.some.injEq] at found
          subst found
          exact ⟨tail.flatMap part, by simp, by simp⟩
      | succ index =>
          simp only [List.getElem?_cons_succ] at found
          rcases ih found with ⟨others, before, after⟩
          refine ⟨part head ++ others, ?_, ?_⟩
          · simp only [List.flatMap_cons]
            exact (before.append_left _).trans (List.perm_append_comm_assoc _ _ _)
          · simp only [List.set_cons_succ, List.flatMap_cons]
            exact (after.append_left _).trans (List.perm_append_comm_assoc _ _ _)

theorem mem_set_or_eq {β : Type} {items : List β} {index : Nat} {old member : β} (new : β)
    (found : items[index]? = some old) (mem : member ∈ items) :
    member ∈ items.set index new ∨ member = old := by
  rcases List.mem_iff_getElem?.1 mem with ⟨position, at_position⟩
  by_cases same : position = index
  · rw [same, found, Option.some.injEq] at at_position
    exact Or.inr at_position.symm
  · refine Or.inl (List.mem_iff_getElem?.2 ⟨position, ?_⟩)
    rw [List.getElem?_set_ne (Ne.symm same), at_position]

/-- An action keeps the accounts. What the other workers hold is the same before and after it, so
that only the part of the acting worker and the shared part have to be compared. A failure that is
on its way in the acting worker is sent with this action. -/
theorem State.Accounted.step {inspect : ι → Except ε α} {limit : Nat} {items : List ι}
    {state after : State ι α ε} {index : Nat} (accounted : state.Accounted inspect items)
    (action : state.step inspect limit index = some after) : after.Accounted inspect items := by
  rcases State.acts_of_step action with ⟨worker, worker', found, acts, replaced⟩
  have consistent := accounted.consistent worker (List.mem_of_getElem? found)
  constructor
  · rcases accounted.dropped with ⟨before, total, failed⟩
    rcases acts.exists_dropped consistent with ⟨now, kept, failed'⟩
    rcases exists_others_perm (Worker.outcomes inspect) worker' found with ⟨others, old, new⟩
    refine ⟨now ++ before, ?_, ?_⟩
    · classical
      simp only [State.outcomes, replaced, List.perm_iff_count, List.count_append] at *
      intro outcome
      have := total outcome
      have := kept outcome
      have := old outcome
      have := new outcome
      omega
    · intro lost
      cases now with
      | nil => exact acts.leads.failed (failed lost)
      | cons outcome now => exact failed' (by simp)
  · intro raised
    have stays : worker' ∈ after.workers := by
      rw [replaced]
      exact List.mem_set (List.getElem?_eq_some_iff.1 found).1 worker'
    rcases acts.reporting_of_failed raised with failed | reporting
    · rcases accounted.reported failed with ⟨failure, sent⟩ | ⟨other, member, failure, reporting⟩
      · exact Or.inl ⟨failure, acts.leads.sent _ sent⟩
      · rcases mem_set_or_eq worker' found member with member | rfl
        · exact Or.inr ⟨other, replaced ▸ member, failure, reporting⟩
        · exact Or.inl ⟨failure, acts.sent_of_reporting reporting⟩
    · exact Or.inr ⟨worker', stays, reporting⟩
  · intro other member
    rw [replaced] at member
    rcases List.mem_or_eq_of_mem_set member with member | rfl
    · exact (accounted.consistent other member).mono acts.leads
    · exact acts.consistent consistent

/-- The accounts hold in every state, in whatever order the workers have acted. -/
theorem Reachable.accounted {inspect : ι → Except ε α} {limit workers : Nat} {items : List ι}
    {state : State ι α ε} (reachable : Reachable inspect limit workers items state) :
    state.Accounted inspect items := by
  induction reachable with
  | start => exact State.accounted_start inspect workers items
  | step reachable action ih => exact ih.step action

theorem Reachable.length_workers {inspect : ι → Except ε α} {limit workers : Nat} {items : List ι}
    {state : State ι α ε} (reachable : Reachable inspect limit workers items state) :
    state.workers.length = workers := by
  induction reachable with
  | start => simp [State.start]
  | step reachable action ih =>
      rcases State.acts_of_step action with ⟨worker, worker', found, acts, replaced⟩
      rw [replaced, List.length_set, ih]

end FileQuery.WorkerPool
