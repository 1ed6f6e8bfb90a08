import FileQuery.Proofs.Outcome
import FileQuery.Run.Pipeline

/-!
# What a run computes

A run without its events is three computations one after another: the query is read, the records
of its paths are collected, and its conditions are applied to them. A given home directory takes
precedence over that of the host.
-/

namespace FileQuery

open Pipeline

theorem outcome_listOne (host : Host) (jobs : Nat) (directory : RawPath)
    (cached : CachedAccounts) :
    (listOne host jobs directory cached).outcome = (do
      let entries ← (readEntries host.files directory).mapError .list
      (inspectItems (inspect host.files host.accounts directory) host.schedule jobs
        entries).mapError .list) := by
  simp [listOne]

/-- What is known of the accounts makes no difference to what is listed. -/
theorem outcome_listOne_cached (host : Host) (jobs : Nat) (directory : RawPath)
    (cached : CachedAccounts) :
    (listOne host jobs directory cached).outcome = (listOne host jobs directory).outcome := by
  rw [outcome_listOne, outcome_listOne]

theorem outcome_listOne_eq_ok_iff {host : Host} {jobs : Nat} {directory : RawPath}
    {records : List FileRecord} :
    (listOne host jobs directory).outcome = .ok records ↔
      ∃ entries, readEntries host.files directory = .ok entries ∧
        inspectItems (inspect host.files host.accounts directory) host.schedule jobs entries =
          .ok records := by
  simp only [outcome_listOne, Outcome.bind_eq_ok_iff, Outcome.mapError_eq_ok_iff]

/-- A query with one path collects what listing that path gives. -/
theorem outcome_collectRecords_eq_ok_iff_of_singleton {host : Host} {home : Option String}
    {jobs : Nat} {query : Query} {raw : String} {records : List FileRecord}
    (single : query.paths = [raw]) :
    (collectRecords host home jobs query).outcome = .ok records ↔
      ∃ path, resolvePath host.files home raw = .ok path ∧
        (listOne host jobs (RawPath.ofString path)).outcome = .ok records := by
  simp [collectRecords, single, resolvePaths, listAll, Outcome.bind_eq_ok_iff,
    Outcome.mapError_eq_ok_iff]

/-- The durations that a run reports. -/
def Host.runMetrics (host : Host) : Metrics :=
  (((({} : Metrics).record .parse (host.elapsed .parse)).record .collect
    (host.elapsed .collect)).record .filter (host.elapsed .filter))

theorem start_of_settings (host : Host) (jobs : Nat) (home : Option String) :
    (if home.isSome then ((timed host).withJobs jobs).withHome home
      else (timed host).withJobs jobs) =
    { home := home.or host.home, jobs := effectiveJobs jobs, queryText := none,
      timer := .timed {}, state := {} } := by
  cases home with
  | none => rfl
  | some home => rfl

theorem outcome_parse (host : Host) (pipeline : Pipeline Started) (text : String) :
    (pipeline.parse host text).outcome = (do
      let query ← (Query.parse text).mapError .parse
      .ok { pipeline.advance host .parse { query } with queryText := some text }) := by
  simp [Pipeline.parse, readQuery]

theorem outcome_collect (host : Host) (pipeline : Pipeline Parsed) :
    (pipeline.collect host).outcome = (do
      let records ←
        (collectRecords host pipeline.home pipeline.jobs pipeline.state.query).outcome
      .ok (pipeline.advance host .collect { query := pipeline.state.query, records })) := by
  simp [Pipeline.collect]

theorem outcome_filter (host : Host) (pipeline : Pipeline Collected) :
    (pipeline.filter host).outcome = (do
      let results ← (ResultSet.ofRecords host.zone pipeline.state.query.conditions
        pipeline.state.records).mapError .filter
      .ok (pipeline.advance host .filter
        { query := pipeline.state.query, results, scanned := pipeline.state.records.length })) := by
  simp [Pipeline.filter]

theorem outcome_runQuery (host : Host) (jobs : Nat) (home : Option String) (text : String) :
    (runQuery host jobs home text).outcome = (do
      let query ← (Query.parse text).mapError .parse
      let records ← (collectRecords host (home.or host.home) (effectiveJobs jobs) query).outcome
      let results ← (ResultSet.ofRecords host.zone query.conditions records).mapError .filter
      .ok { query, results, scanned := records.length, metrics := some host.runMetrics }) := by
  unfold runQuery
  simp only [start_of_settings, Traced.outcome_bind, outcome_parse, outcome_collect, outcome_filter,
    Traced.outcome_emit, Traced.outcome_pure, bind_assoc, Outcome.ok_bind]
  rfl

/-- An answer is what the stages of a run compute, with the records that have been collected. -/
structure QueryAnswer.ComesFrom (answer : QueryAnswer) (host : Host) (jobs : Nat)
    (home : Option String) (text : String) (records : List FileRecord) : Prop where
  parsed : Query.parse text = .ok answer.query
  collected : (collectRecords host (home.or host.home) (effectiveJobs jobs) answer.query).outcome =
    .ok records
  filtered : ResultSet.ofRecords host.zone answer.query.conditions records = .ok answer.results
  scanned_eq : answer.scanned = records.length
  metrics_eq : answer.metrics = some host.runMetrics

theorem outcome_runQuery_eq_ok_iff {host : Host} {jobs : Nat} {home : Option String}
    {text : String} {answer : QueryAnswer} :
    (runQuery host jobs home text).outcome = .ok answer ↔
      ∃ records, answer.ComesFrom host jobs home text records := by
  simp only [outcome_runQuery, Outcome.bind_eq_ok_iff, Outcome.mapError_eq_ok_iff,
    Except.ok.injEq]
  constructor
  · rintro ⟨query, parsed, records, collected, results, filtered, rfl⟩
    exact ⟨records, parsed, collected, filtered, rfl, rfl⟩
  · rintro ⟨records, parsed, collected, filtered, scanned_eq, metrics_eq⟩
    refine ⟨answer.query, parsed, records, collected, answer.results, filtered, ?_⟩
    rw [← scanned_eq, ← metrics_eq]

end FileQuery
