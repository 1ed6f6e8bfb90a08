import FileQuery.Proofs.Run.EntriesKept

/-!
# Drives of a pipeline

A pipeline is driven from a text or from a plan, with or without measuring its stages, and its home
directory and number of workers can be set between any two stages. What it collects and answers
depends on the query and on the last settings before its records are collected, and is what a whole
run of the text answers. Later settings are not seen at all, and a pipeline that measures its stages
has measured exactly those that it has gone through.
-/

namespace FileQuery

namespace Metrics

def duration? (metrics : Metrics) : Stage → Option Nat
  | .parse => metrics.parse
  | .collect => metrics.collect
  | .filter => metrics.filter

theorem duration?_record (metrics : Metrics) (stage other : Stage) (duration : Nat) :
    (metrics.record stage duration).duration? other =
      if other = stage then some duration else metrics.duration? other := by
  cases stage <;> cases other <;> rfl

theorem total_record {metrics : Metrics} {stage : Stage}
    (unmeasured : metrics.duration? stage = none) (duration : Nat) :
    (metrics.record stage duration).total = metrics.total + duration := by
  cases stage <;> simp only [duration?] at unmeasured <;> simp [record, total, unmeasured] <;> omega

/-- The metrics have the durations of some stages and of no others, and their sum. -/
structure Measures (metrics : Metrics) (host : Host) (stages : List Stage) : Prop where
  duration_eq : ∀ stage, metrics.duration? stage =
    if stage ∈ stages then some (host.elapsed stage) else none
  total_eq : metrics.total = (stages.map host.elapsed).sum

theorem measures_nil (host : Host) : ({} : Metrics).Measures host [] where
  duration_eq stage := by cases stage <;> rfl
  total_eq := rfl

theorem Measures.record {metrics : Metrics} {host : Host} {stages : List Stage} {stage : Stage}
    (measures : metrics.Measures host stages) (fresh : stage ∉ stages) :
    (metrics.record stage (host.elapsed stage)).Measures host (stages ++ [stage]) where
  duration_eq other := by
    rw [duration?_record, measures.duration_eq]
    by_cases same : other = stage
    · simp [same]
    · simp [same]
  total_eq := by
    have unmeasured : metrics.duration? stage = none := by
      rw [measures.duration_eq, if_neg fresh]
    simp [total_record unmeasured, measures.total_eq]

end Metrics

theorem Timer.metrics?_measure (timer : Timer) (stage : Stage) (duration : Nat) :
    (timer.measure stage duration).metrics? =
      timer.metrics?.map fun metrics => metrics.record stage duration := by
  cases timer <;> rfl

inductive Setting where
  | home (path : Option String)
  | jobs (requested : Nat)

namespace Setting

def home? : Setting → Option (Option String)
  | home path => some path
  | jobs _ => none

def jobs? : Setting → Option Nat
  | home _ => none
  | jobs requested => some requested

variable {α : Type}

/-- What the last setting of a kind chooses, or what was chosen before there is one. -/
def last (kind : Setting → Option α) (before : α) (settings : List Setting) : α :=
  (settings.filterMap kind).getLast?.getD before

theorem last_append (kind : Setting → Option α) (before : α) (first second : List Setting) :
    last kind before (first ++ second) = last kind (last kind before first) second := by
  simp [last, List.getLast?_append, Option.getD_or]

end Setting

namespace Pipeline

variable {σ τ : Type}

def set (pipeline : Pipeline σ) : Setting → Pipeline σ
  | .home path => pipeline.withHome path
  | .jobs requested => pipeline.withJobs requested

/-- The pipeline after some settings, in the order given. -/
def configure (pipeline : Pipeline σ) (settings : List Setting) : Pipeline σ :=
  settings.foldl set pipeline

theorem home_configure (pipeline : Pipeline σ) (settings : List Setting) :
    (pipeline.configure settings).home = Setting.last Setting.home? pipeline.home settings := by
  induction settings generalizing pipeline with
  | nil => rfl
  | cons setting settings ih =>
      rw [← List.singleton_append, Setting.last_append]
      refine (ih (pipeline.set setting)).trans ?_
      cases setting <;> rfl

theorem jobs_configure {pipeline : Pipeline σ} {requested : Nat}
    (jobs_eq : pipeline.jobs = effectiveJobs requested) (settings : List Setting) :
    (pipeline.configure settings).jobs =
      effectiveJobs (Setting.last Setting.jobs? requested settings) := by
  induction settings generalizing pipeline requested with
  | nil => exact jobs_eq
  | cons setting settings ih =>
      rw [← List.singleton_append, Setting.last_append]
      cases setting with
      | home path => exact ih jobs_eq
      | jobs chosen => exact ih rfl

/-- What can be seen of a pipeline from outside. -/
structure View (σ : Type) where
  state : σ
  queryText : Option String
  metrics : Option Metrics

def view (pipeline : Pipeline σ) : View σ where
  state := pipeline.state
  queryText := pipeline.queryText
  metrics := pipeline.metrics?

/-- Settings are not seen. -/
theorem view_configure (pipeline : Pipeline σ) (settings : List Setting) :
    (pipeline.configure settings).view = pipeline.view := by
  induction settings generalizing pipeline with
  | nil => rfl
  | cons setting settings ih =>
      refine (ih (pipeline.set setting)).trans ?_
      cases setting <;> rfl

theorem view_configure_congr {pipeline other : Pipeline σ} (same : pipeline.view = other.view)
    (settings settings' : List Setting) :
    (pipeline.configure settings).view = (other.configure settings').view := by
  rw [view_configure, view_configure, same]

theorem state_configure (pipeline : Pipeline σ) (settings : List Setting) :
    (pipeline.configure settings).state = pipeline.state :=
  congrArg View.state (pipeline.view_configure settings)

theorem metrics?_advance (pipeline : Pipeline σ) (host : Host) (stage : Stage) (state : τ) :
    (pipeline.advance host stage state).metrics? =
      pipeline.metrics?.map fun metrics => metrics.record stage (host.elapsed stage) :=
  Timer.metrics?_measure _ _ _

theorem view_advance (pipeline : Pipeline σ) (host : Host) (stage : Stage) (state : τ) :
    (pipeline.advance host stage state).view =
      { state, queryText := pipeline.view.queryText,
        metrics := pipeline.view.metrics.map fun metrics =>
          metrics.record stage (host.elapsed stage) } :=
  congrArg (View.mk state pipeline.queryText) (metrics?_advance _ _ _ _)

/-- What a pipeline tells about its run: the text that it was given, and, if it is timed, how long
the stages took that it has gone through. -/
structure Reports (pipeline : Pipeline σ) (host : Host) (timed : Bool) (text? : Option String)
    (stages : List Stage) : Prop where
  queryText_eq : pipeline.queryText = text?
  untimed : timed = false → pipeline.metrics? = none
  timed : timed = true →
    ∃ metrics, pipeline.metrics? = some metrics ∧ metrics.Measures host stages

section Reports

variable {pipeline : Pipeline σ} {host : Host} {timed : Bool} {text? : Option String}
  {stages : List Stage}

theorem Reports.of_view_eq {other : Pipeline σ} (reports : pipeline.Reports host timed text? stages)
    (same : other.view = pipeline.view) : other.Reports host timed text? stages where
  queryText_eq := (congrArg View.queryText same).trans reports.queryText_eq
  untimed off := (congrArg View.metrics same).trans (reports.untimed off)
  timed on := by
    rcases reports.timed on with ⟨metrics, found, measures⟩
    exact ⟨metrics, (congrArg View.metrics same).trans found, measures⟩

theorem Reports.configure (reports : pipeline.Reports host timed text? stages)
    (settings : List Setting) : (pipeline.configure settings).Reports host timed text? stages :=
  reports.of_view_eq (pipeline.view_configure settings)

/-- A stage that a pipeline goes through is one more that it has measured. -/
theorem Reports.advance {stage : Stage} (reports : pipeline.Reports host timed text? stages)
    (fresh : stage ∉ stages) (state : τ) :
    (pipeline.advance host stage state).Reports host timed text? (stages ++ [stage]) where
  queryText_eq := reports.queryText_eq
  untimed off := by
    rw [metrics?_advance, reports.untimed off, Option.map_none]
  timed on := by
    rcases reports.timed on with ⟨metrics, found, measures⟩
    refine ⟨_, ?_, measures.record fresh⟩
    rw [metrics?_advance, found, Option.map_some]

end Reports

end Pipeline

/-- How a pipeline gets its query: it parses a text, or it is given a plan. -/
inductive Entrance where
  | text (content : String)
  | plan (query : Query)

namespace Entrance

def query : Entrance → Except QueryError Query
  | text content => (Query.parse content).mapError .parse
  | plan query => .ok query

def text? : Entrance → Option String
  | text content => some content
  | plan _ => none

/-- The stages that a pipeline goes through to get its query. -/
def stages : Entrance → List Stage
  | text _ => [.parse]
  | plan _ => []

theorem eq_parse_of_mem_stages {entrance : Entrance} {stage : Stage}
    (member : stage ∈ entrance.stages) : stage = .parse := by
  cases entrance with
  | text content => exact List.mem_singleton.1 member
  | plan query => exact absurd member List.not_mem_nil

/-- The query is that of a text. A plan can only be that of a text that is parsed. -/
def Asks (content : String) : Entrance → Prop
  | text own => own = content
  | plan query => Query.parse content = .ok query

theorem Asks.query_eq {content : String} {entrance : Entrance} (asks : entrance.Asks content) :
    entrance.query = (Query.parse content).mapError .parse := by
  cases entrance with
  | text own =>
      cases asks
      rfl
  | plan query =>
      have parsed : Query.parse content = .ok query := asks
      rw [parsed]
      rfl

end Entrance

/-- A way to drive a pipeline: whether it is timed, how it gets its query, and what is set before
and after each of its stages. -/
structure Drive where
  timed : Bool
  entrance : Entrance
  atStart : List Setting := []
  afterEntrance : List Setting := []
  afterCollect : List Setting := []
  afterFilter : List Setting := []

namespace Drive

def started (drive : Drive) (host : Host) : Pipeline Started :=
  (if drive.timed then .timed host else .untimed host : Pipeline Started).configure drive.atStart

def parsed (drive : Drive) (host : Host) : Traced QueryError (Pipeline Parsed) := do
  let pipeline ← match drive.entrance with
    | .text content => (drive.started host).parse host content
    | .plan query => pure ((drive.started host).withQuery query)
  return pipeline.configure drive.afterEntrance

def collected (drive : Drive) (host : Host) : Traced QueryError (Pipeline Collected) := do
  let pipeline ← drive.parsed host
  let pipeline ← pipeline.collect host
  return pipeline.configure drive.afterCollect

def filtered (drive : Drive) (host : Host) : Traced QueryError (Pipeline Filtered) := do
  let pipeline ← drive.collected host
  let pipeline ← pipeline.filter host
  return pipeline.configure drive.afterFilter

/-- The settings that are made before the records are collected. -/
def early (drive : Drive) : List Setting :=
  drive.atStart ++ drive.afterEntrance

def home (drive : Drive) (host : Host) : Option String :=
  Setting.last Setting.home? host.home drive.early

def jobs (drive : Drive) : Nat :=
  Setting.last Setting.jobs? defaultJobs drive.early

variable {drive : Drive} {host : Host}

theorem reports_started (drive : Drive) (host : Host) :
    (drive.started host).Reports host drive.timed none [] := by
  refine Pipeline.Reports.configure ?_ drive.atStart
  cases drive.timed with
  | false => exact ⟨rfl, fun _ => rfl, fun on => absurd on Bool.false_ne_true⟩
  | true =>
      exact ⟨rfl, fun off => absurd off.symm Bool.false_ne_true,
        fun _ => ⟨_, rfl, Metrics.measures_nil host⟩⟩

theorem home_started (drive : Drive) (host : Host) :
    (drive.started host).home = Setting.last Setting.home? host.home drive.atStart := by
  refine (Pipeline.home_configure _ _).trans ?_
  cases drive.timed <;> rfl

theorem jobs_started (drive : Drive) (host : Host) :
    (drive.started host).jobs =
      effectiveJobs (Setting.last Setting.jobs? defaultJobs drive.atStart) := by
  apply Pipeline.jobs_configure
  cases drive.timed <;> rfl

/-- What a drive has got to when its pipeline has a query. -/
structure Enters (drive : Drive) (host : Host) (query : Query) (pipeline : Pipeline Parsed) :
    Prop where
  state_eq : pipeline.state = { query }
  home_eq : pipeline.home = drive.home host
  jobs_eq : pipeline.jobs = effectiveJobs drive.jobs
  reports : pipeline.Reports host drive.timed drive.entrance.text? drive.entrance.stages

/-- The settings at the start last until those that follow the query. -/
theorem enters_configure {query : Query} {pipeline : Pipeline Parsed}
    (state_eq : pipeline.state = { query })
    (home_eq : pipeline.home = (drive.started host).home)
    (jobs_eq : pipeline.jobs = (drive.started host).jobs)
    (reports :
      pipeline.Reports host drive.timed drive.entrance.text? drive.entrance.stages) :
    drive.Enters host query (pipeline.configure drive.afterEntrance) where
  state_eq := (Pipeline.state_configure _ _).trans state_eq
  home_eq := by
    rw [Pipeline.home_configure, home_eq, home_started, home, early, Setting.last_append]
  jobs_eq := by
    rw [Pipeline.jobs_configure (jobs_eq.trans (drive.jobs_started host)), jobs, early,
      Setting.last_append]
  reports := reports.configure drive.afterEntrance

/-- A pipeline gets to its query unless there is none. -/
theorem exists_enters (drive : Drive) (host : Host) :
    ∃ reached : Query → Pipeline Parsed,
      (drive.parsed host).outcome = (do
        let query ← drive.entrance.query
        .ok (reached query)) ∧
      ∀ query, drive.Enters host query (reached query) := by
  have started := drive.reports_started host
  cases entrance_eq : drive.entrance with
  | text content =>
      refine ⟨fun query => ({ (drive.started host).advance host .parse { query } with
        queryText := some content } : Pipeline Parsed).configure drive.afterEntrance, ?_, ?_⟩
      · simp only [parsed, entrance_eq, Traced.outcome_bind, outcome_parse, Entrance.query]
        cases Query.parse content <;> rfl
      · intro query
        have advanced := started.advance (List.not_mem_nil (a := .parse)) (Parsed.mk query)
        refine enters_configure rfl rfl rfl ?_
        rw [entrance_eq]
        exact ⟨rfl, advanced.untimed, advanced.timed⟩
  | plan query =>
      refine ⟨fun query => ((drive.started host).withQuery query).configure drive.afterEntrance,
        ?_, ?_⟩
      · simp only [parsed, entrance_eq]
        rfl
      · intro query
        refine enters_configure rfl rfl rfl ?_
        rw [entrance_eq]
        exact ⟨started.queryText_eq, started.untimed, started.timed⟩

/-- What the pipeline of a drive collects, it collects with the last settings before. -/
theorem exists_collects (drive : Drive) (host : Host) :
    ∃ reached : Query → List FileRecord → Pipeline Collected,
      (drive.collected host).outcome = (do
        let query ← drive.entrance.query
        let records ← (Pipeline.collectRecords host (drive.home host) (effectiveJobs drive.jobs)
          query).outcome
        .ok (reached query records)) ∧
      ∀ query records, (reached query records).state = { query, records } ∧
        (reached query records).Reports host drive.timed drive.entrance.text?
          (drive.entrance.stages ++ [.collect]) := by
  rcases drive.exists_enters host with ⟨entered, parsed, enters⟩
  refine ⟨fun query records => ((entered query).advance host .collect
    (Collected.mk query records)).configure drive.afterCollect, ?_, ?_⟩
  · simp only [collected, Traced.outcome_bind, parsed, outcome_collect, Traced.outcome_pure,
      bind_assoc, Outcome.ok_bind, (enters _).state_eq, (enters _).home_eq, (enters _).jobs_eq]
  · intro query records
    constructor
    · exact Pipeline.state_configure _ _
    · have fresh : .collect ∉ drive.entrance.stages := by
        intro member
        cases Entrance.eq_parse_of_mem_stages member
      exact ((enters query).reports.advance fresh _).configure _

theorem exists_filters (drive : Drive) (host : Host) :
    ∃ reached : Query → List FileRecord → ResultSet → Pipeline Filtered,
      (drive.filtered host).outcome = (do
        let query ← drive.entrance.query
        let records ← (Pipeline.collectRecords host (drive.home host) (effectiveJobs drive.jobs)
          query).outcome
        let results ← (ResultSet.ofRecords host.zone query.conditions records).mapError .filter
        .ok (reached query records results)) ∧
      ∀ query records results,
        (reached query records results).state = { query, results, scanned := records.length } ∧
        (reached query records results).Reports host drive.timed drive.entrance.text?
          (drive.entrance.stages ++ [.collect, .filter]) := by
  rcases drive.exists_collects host with ⟨gathered, collected, collects⟩
  refine ⟨fun query records results => ((gathered query records).advance host .filter
    (Filtered.mk query results records.length)).configure drive.afterFilter, ?_, ?_⟩
  · simp only [filtered, Traced.outcome_bind, collected, outcome_filter, Traced.outcome_pure,
      bind_assoc, Outcome.ok_bind, (collects _ _).1]
  · intro query records results
    constructor
    · exact Pipeline.state_configure _ _
    · have fresh : .filter ∉ drive.entrance.stages ++ [.collect] := by
        rw [List.mem_append, List.mem_singleton]
        rintro (member | same)
        · cases Entrance.eq_parse_of_mem_stages member
        · cases same
      have reports := (collects query records).2.advance fresh
        (Filtered.mk query results records.length)
      rw [List.append_assoc, List.singleton_append] at reports
      exact reports.configure _

end Drive

namespace Traced

variable {ε α β γ δ : Type}

/-- A computation as far as its result can be observed. -/
def seen (observe : α → β) (traced : Traced ε α) : Traced ε β where
  events := traced.events
  outcome := traced.outcome.map observe

/-- What is seen of two steps depends on what is seen of the first, if the second does not look at
more of it. -/
theorem seen_bind_congr {observe : α → γ} {observe' : β → δ} {first first' : Traced ε α}
    {next next' : α → Traced ε β} (start : first.seen observe = first'.seen observe)
    (step : ∀ value value', observe value = observe value' →
      (next value).seen observe' = (next' value').seen observe') :
    (first >>= next).seen observe' = (first' >>= next').seen observe' := by
  rcases first with ⟨events, outcome⟩
  rcases first' with ⟨events', outcome'⟩
  obtain ⟨rfl, observed⟩ := Traced.mk.inj start
  cases outcome with
  | error error =>
      cases outcome' with
      | error error' =>
          cases observed
          rfl
      | ok value' => cases observed
  | ok value =>
      cases outcome' with
      | error error' => cases observed
      | ok value' =>
          obtain ⟨rest_events, rest_outcome⟩ :=
            Traced.mk.inj (step value value' (Except.ok.inj observed))
          exact congrArg₂ Traced.mk (congrArg (events ++ ·) rest_events) rest_outcome

theorem seen_pure_of_eq {observe : α → γ} {value value' : α}
    (same : observe value = observe value') :
    (pure value : Traced ε α).seen observe = (pure value' : Traced ε α).seen observe :=
  congrArg (fun observed => Traced.mk [] (.ok observed)) same

end Traced

namespace Pipeline

/-- Filtering looks at no settings. -/
theorem seen_filter_of_view_eq {pipeline other : Pipeline Collected}
    (same : pipeline.view = other.view) (host : Host) :
    (pipeline.filter host).seen view = (other.filter host).seen view := by
  have state_eq : pipeline.state = other.state := congrArg View.state same
  unfold Pipeline.filter
  rw [state_eq]
  dsimp only
  cases ResultSet.ofRecords host.zone other.state.query.conditions other.state.records with
  | error cause => rfl
  | ok results =>
      refine congrArg (fun view => Traced.mk _ (Except.ok view)) ?_
      rw [view_advance, view_advance, same]

end Pipeline

namespace Drive

/-- The drive without the settings that are made after the records are collected. -/
def quiet (drive : Drive) : Drive :=
  { drive with afterCollect := [], afterFilter := [] }

theorem seen_collected_quiet (drive : Drive) (host : Host) :
    (drive.collected host).seen Pipeline.view =
      (drive.quiet.collected host).seen Pipeline.view := by
  have parsed_eq : drive.quiet.parsed host = drive.parsed host := rfl
  unfold collected
  rw [parsed_eq]
  refine Traced.seen_bind_congr (rfl : (drive.parsed host).seen id = _) ?_
  rintro pipeline _ rfl
  refine Traced.seen_bind_congr (rfl : (pipeline.collect host).seen id = _) ?_
  rintro gathered _ rfl
  exact Traced.seen_pure_of_eq (Pipeline.view_configure_congr rfl _ _)

theorem seen_filtered_quiet (drive : Drive) (host : Host) :
    (drive.filtered host).seen Pipeline.view =
      (drive.quiet.filtered host).seen Pipeline.view := by
  unfold filtered
  refine Traced.seen_bind_congr (drive.seen_collected_quiet host) ?_
  intro pipeline other same
  refine Traced.seen_bind_congr (Pipeline.seen_filter_of_view_eq same host) ?_
  intro passed passed' same
  exact Traced.seen_pure_of_eq (Pipeline.view_configure_congr same _ _)

/-- What can be seen along a drive: each pipeline reports the stages before it, and settings after
the records are collected change nothing. -/
structure Observed (drive : Drive) (host : Host) : Prop where
  started : (drive.started host).Reports host drive.timed none []
  parsed : ∀ pipeline, (drive.parsed host).outcome = .ok pipeline →
    pipeline.Reports host drive.timed drive.entrance.text? drive.entrance.stages
  collected : ∀ pipeline, (drive.collected host).outcome = .ok pipeline →
    pipeline.Reports host drive.timed drive.entrance.text? (drive.entrance.stages ++ [.collect])
  filtered : ∀ pipeline, (drive.filtered host).outcome = .ok pipeline →
    pipeline.Reports host drive.timed drive.entrance.text?
      (drive.entrance.stages ++ [.collect, .filter])
  collected_quiet : (drive.collected host).seen Pipeline.view =
    (drive.quiet.collected host).seen Pipeline.view
  filtered_quiet : (drive.filtered host).seen Pipeline.view =
    (drive.quiet.filtered host).seen Pipeline.view

theorem observed (drive : Drive) (host : Host) : drive.Observed host where
  started := drive.reports_started host
  parsed := by
    intro pipeline reached
    rcases drive.exists_enters host with ⟨entered, parsed, enters⟩
    rw [parsed] at reached
    rcases Outcome.bind_eq_ok_iff.1 reached with ⟨query, -, reached⟩
    cases reached
    exact (enters query).reports
  collected := by
    intro pipeline reached
    rcases drive.exists_collects host with ⟨gathered, collected, collects⟩
    rw [collected] at reached
    rcases Outcome.bind_eq_ok_iff.1 reached with ⟨query, -, reached⟩
    rcases Outcome.bind_eq_ok_iff.1 reached with ⟨records, -, reached⟩
    cases reached
    exact (collects query records).2
  filtered := by
    intro pipeline reached
    rcases drive.exists_filters host with ⟨passed, filtered, filters⟩
    rw [filtered] at reached
    rcases Outcome.bind_eq_ok_iff.1 reached with ⟨query, -, reached⟩
    rcases Outcome.bind_eq_ok_iff.1 reached with ⟨records, -, reached⟩
    rcases Outcome.bind_eq_ok_iff.1 reached with ⟨results, -, reached⟩
    cases reached
    exact (filters query records results).2
  collected_quiet := drive.seen_collected_quiet host
  filtered_quiet := drive.seen_filtered_quiet host

end Drive

/-- Two hosts with the same tree, zone and home directory on which every directory lists alike with
each number of workers. The order in which workers act and the durations of stages may differ. -/
structure Host.ListsAs (host host' : Host) : Prop where
  files_eq : host'.files = host.files
  zone_eq : host'.zone = host.zone
  home_eq : host'.home = host.home
  outcome_listOne_eq : ∀ jobs directory, (Pipeline.listOne host' jobs directory).outcome =
    (Pipeline.listOne host jobs directory).outcome

theorem Host.ListsAs.refl (host : Host) : host.ListsAs host :=
  ⟨rfl, rfl, rfl, fun _ _ => rfl⟩

section Listing

variable {host host' : Host}

theorem Host.ListsAs.outcome_listAll_eq (same : host.ListsAs host') (jobs : Nat)
    (paths : List String) (cached cached' : CachedAccounts) :
    (Pipeline.listAll host' jobs paths cached').outcome =
      (Pipeline.listAll host jobs paths cached).outcome := by
  induction paths generalizing cached cached' with
  | nil => rfl
  | cons path paths ih =>
      have first : (Pipeline.listOne host' jobs (RawPath.ofString path) cached').outcome =
          (Pipeline.listOne host jobs (RawPath.ofString path) cached).outcome := by
        rw [outcome_listOne_cached, same.outcome_listOne_eq, ← outcome_listOne_cached]
      have others := ih (cached.after (host.questionsIn jobs (RawPath.ofString path)))
        (cached'.after (host'.questionsIn jobs (RawPath.ofString path)))
      simp only [Pipeline.listAll, Traced.outcome_bind, Traced.outcome_pure, first, others]

theorem Host.ListsAs.outcome_collectRecords_eq (same : host.ListsAs host')
    (home : Option String) (jobs : Nat) (query : Query) :
    (Pipeline.collectRecords host' home jobs query).outcome =
      (Pipeline.collectRecords host home jobs query).outcome := by
  unfold Pipeline.collectRecords
  split
  · rfl
  · simp only [Traced.outcome_bind, same.files_eq,
      same.outcome_listAll_eq jobs _ (.fresh host.accounts)]

end Listing

/-- What an answer tells of the query, as a pipeline that has filtered holds it. -/
def QueryAnswer.content (answer : QueryAnswer) : Filtered where
  query := answer.query
  results := answer.results
  scanned := answer.scanned

section Agreement

variable {host host' : Host} {home : Option String} {jobs : Nat} {text : String}

/-- The query of a text and all records of its paths. -/
def Host.collectedOf (host : Host) (home : Option String) (jobs : Nat) (text : String) :
    Except QueryError Collected := do
  let query ← (Query.parse text).mapError .parse
  let records ← (Pipeline.collectRecords host home (effectiveJobs jobs) query).outcome
  .ok { query, records }

/-- The query of a text and the records of its paths that satisfy its conditions. -/
def Host.filteredOf (host : Host) (home : Option String) (jobs : Nat) (text : String) :
    Except QueryError Filtered := do
  let query ← (Query.parse text).mapError .parse
  let records ← (Pipeline.collectRecords host home (effectiveJobs jobs) query).outcome
  let results ← (ResultSet.ofRecords host.zone query.conditions records).mapError .filter
  .ok { query, results, scanned := records.length }

theorem content_outcome_runQuery (same : host.ListsAs host') {given : Option String}
    (home_eq : given.or host.home = home) :
    QueryAnswer.content <$> (runQuery host' jobs given text).outcome =
      host.filteredOf home jobs text := by
  simp only [outcome_runQuery, map_bind, Except.map_ok, same.home_eq, home_eq, same.zone_eq,
    same.outcome_collectRecords_eq]
  rfl

/-- A whole run measures every stage. -/
theorem exists_measures_of_runQuery_eq_ok {given : Option String} {answer : QueryAnswer}
    (answered : (runQuery host jobs given text).outcome = .ok answer) :
    ∃ metrics, answer.metrics = some metrics ∧
      metrics.Measures host [.parse, .collect, .filter] := by
  rcases outcome_runQuery_eq_ok_iff.1 answered with ⟨records, stages⟩
  have parsed := (Metrics.measures_nil host).record (List.not_mem_nil (a := .parse))
  have collected := parsed.record (by simp : .collect ∉ [Stage.parse])
  exact ⟨_, stages.metrics_eq, collected.record (by simp)⟩

variable {drive : Drive}

theorem state_outcome_collected (same : host.ListsAs host') (asks : drive.entrance.Asks text)
    (home_eq : drive.home host = home) (jobs_eq : drive.jobs = jobs) :
    Pipeline.state <$> (drive.collected host').outcome = host.collectedOf home jobs text := by
  have home_eq' : drive.home host' = home := by
    rw [← home_eq, Drive.home, Drive.home, same.home_eq]
  rcases drive.exists_collects host' with ⟨gathered, collected, collects⟩
  simp only [collected, map_bind, Except.map_ok, asks.query_eq, home_eq', jobs_eq,
    same.outcome_collectRecords_eq, (collects _ _).1]
  rfl

theorem state_outcome_filtered (same : host.ListsAs host') (asks : drive.entrance.Asks text)
    (home_eq : drive.home host = home) (jobs_eq : drive.jobs = jobs) :
    Pipeline.state <$> (drive.filtered host').outcome = host.filteredOf home jobs text := by
  have home_eq' : drive.home host' = home := by
    rw [← home_eq, Drive.home, Drive.home, same.home_eq]
  rcases drive.exists_filters host' with ⟨passed, filtered, filters⟩
  simp only [filtered, map_bind, Except.map_ok, asks.query_eq, home_eq', jobs_eq, same.zone_eq,
    same.outcome_collectRecords_eq, (filters _ _ _).1]
  rfl

/-- However a query is driven, with the same last settings before its records are collected it has
the same records, and answers with the same content or fails with the same error as a whole run of
its text. What is seen on the way is the text, if there was one, and the stages so far. -/
theorem drives_agree (host : Host) (text : String) (home : Option String) (jobs : Nat) :
    ∃ (collected : Except QueryError Collected) (filtered : Except QueryError Filtered),
      (∀ (host' : Host) (given : Option String), host.ListsAs host' → given.or host.home = home →
        QueryAnswer.content <$> (runQuery host' jobs given text).outcome = filtered ∧
        ∀ answer, (runQuery host' jobs given text).outcome = .ok answer →
          ∃ metrics, answer.metrics = some metrics ∧
            metrics.Measures host' [.parse, .collect, .filter]) ∧
      ∀ (drive : Drive) (host' : Host), host.ListsAs host' → drive.entrance.Asks text →
        drive.home host = home → drive.jobs = jobs →
        Pipeline.state <$> (drive.collected host').outcome = collected ∧
        Pipeline.state <$> (drive.filtered host').outcome = filtered ∧
        drive.Observed host' := by
  refine ⟨host.collectedOf home jobs text, host.filteredOf home jobs text, ?_, ?_⟩
  · intro host' given same home_eq
    exact ⟨content_outcome_runQuery same home_eq, fun _ => exists_measures_of_runQuery_eq_ok⟩
  · intro drive host' same asks home_eq jobs_eq
    exact ⟨state_outcome_collected same asks home_eq jobs_eq,
      state_outcome_filtered same asks home_eq jobs_eq, drive.observed host'⟩

end Agreement

/-- A plan that is driven with many settings, and its text with one. -/
theorem drives_agree_plan_and_text :
    let host := Host.holding [⟨[0x61], by decide⟩]
    let text := "SELECT * FROM d"
    let fromPlan : Drive :=
      { timed := true, entrance := .plan wholeQuery, atStart := [.jobs 7, .home (some "h")],
        afterEntrance := [.home none, .jobs 2], afterCollect := [.jobs 64] }
    let fromText : Drive :=
      { timed := false, entrance := .text text, atStart := [.jobs 2] }
    host.ListsAs host ∧ (none : Option String).or host.home = none ∧
      (fromPlan.entrance.Asks text ∧ fromPlan.home host = none ∧ fromPlan.jobs = 2) ∧
      (fromText.entrance.Asks text ∧ fromText.home host = none ∧ fromText.jobs = 2) ∧
      ∃ answer, (runQuery host 2 none text).outcome = .ok answer ∧
        Pipeline.state <$> (fromPlan.filtered host).outcome = .ok answer.content ∧
        Pipeline.state <$> (fromText.filtered host).outcome = .ok answer.content ∧
        fromPlan.Observed host ∧ fromText.Observed host := by
  intro host text fromPlan fromText
  have known : ∀ name ∈ [EntryName.mk [0x61] (by decide)],
      host.files.stat ((RawPath.ofString "d").join name.bytes) = .ok (.plain .file) := by
    simp only [List.forall_mem_cons, List.not_mem_nil, false_implies, implies_true, and_true]
    cbv
  rcases exists_answer_holding 2 known with ⟨answer, answered, -, -⟩
  have same := Host.ListsAs.refl host
  have byPlan : fromPlan.entrance.Asks text := parse_wholeQuery
  have byText : fromText.entrance.Asks text := rfl
  rcases drives_agree host text none 2 with ⟨collected, filtered, whole, driven⟩
  have content := (whole host none same rfl).1
  rw [answered] at content
  rcases driven fromPlan host same byPlan rfl rfl with ⟨-, planned, planned_observed⟩
  rcases driven fromText host same byText rfl rfl with ⟨-, read, read_observed⟩
  exact ⟨same, rfl, ⟨byPlan, rfl, rfl⟩, ⟨byText, rfl, rfl⟩, answer, answered,
    planned.trans content.symm, read.trans content.symm, planned_observed, read_observed⟩

end FileQuery
