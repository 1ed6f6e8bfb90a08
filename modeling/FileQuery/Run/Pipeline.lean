import FileQuery.Filter.ResultSet
import FileQuery.Query.Parser
import FileQuery.Run.Host
import FileQuery.Run.Traced

/-!
# Pipelines

A query is run in three stages: it is parsed, or given as a plan; its paths are resolved and
listed; and its conditions are applied to the records. The type of a pipeline says which stage it
has reached, so that stages can only be taken in order. A pipeline is timed or not, and what it
does is the same either way.

All paths are resolved before anything is listed, and an error ends a run without any result.
-/

namespace FileQuery

/-- Whether a pipeline measures its stages, and what it has measured so far. -/
inductive Timer where
  | untimed
  | timed (metrics : Metrics)
  deriving DecidableEq, Repr

namespace Timer

def measure (stage : Stage) (duration : Nat) : Timer → Timer
  | untimed => untimed
  | timed metrics => timed (metrics.record stage duration)

def metrics? : Timer → Option Metrics
  | untimed => none
  | timed metrics => some metrics

end Timer

/-- A run that has reached a stage, with the settings for the stages to come. -/
structure Pipeline (σ : Type) where
  home : Option String
  jobs : Nat
  queryText : Option String
  timer : Timer
  state : σ

structure Started where

structure Parsed where
  query : Query

structure Collected where
  query : Query
  records : List FileRecord

/-- The stage with a query, the records that satisfy its conditions, and the number of all. -/
structure Filtered where
  query : Query
  results : ResultSet
  scanned : Nat

namespace Pipeline

variable {σ τ : Type}

/-- A pipeline with the home directory of the host and the default number of workers. -/
def start (host : Host) (timer : Timer) : Pipeline Started where
  home := host.home
  jobs := defaultJobs
  queryText := none
  timer
  state := {}

def untimed (host : Host) : Pipeline Started :=
  start host .untimed

def timed (host : Host) : Pipeline Started :=
  start host (.timed {})

def withHome (pipeline : Pipeline σ) (home : Option String) : Pipeline σ :=
  { pipeline with home }

/-- The pipeline with another number of workers, brought into its range. -/
def withJobs (pipeline : Pipeline σ) (jobs : Nat) : Pipeline σ :=
  { pipeline with jobs := effectiveJobs jobs }

def metrics? (pipeline : Pipeline σ) : Option Metrics :=
  pipeline.timer.metrics?

def advance (pipeline : Pipeline σ) (host : Host) (stage : Stage) (state : τ) : Pipeline τ :=
  { home := pipeline.home, jobs := pipeline.jobs, queryText := pipeline.queryText,
    timer := pipeline.timer.measure stage (host.elapsed stage), state }

def readQuery (text : String) : Traced ParseError Query := do
  let query ← Traced.ofExcept (Query.parse text)
  Traced.emit (.queryParsed query.fields.length query.paths.length query.conditions.length)
  return query

def parse (host : Host) (pipeline : Pipeline Started) (text : String) :
    Traced QueryError (Pipeline Parsed) := do
  let query ← (readQuery text).mapError .parse
  return { pipeline.advance host .parse { query } with queryText := some text }

def withQuery (pipeline : Pipeline Started) (query : Query) : Pipeline Parsed :=
  { pipeline with state := { query } }

def resolvePaths (files : FileSystem) (home : Option String) :
    List String → Traced QueryError (List String)
  | [] => return []
  | raw :: raws => do
      let path ← Traced.ofExcept ((resolvePath files home raw).mapError (.resolve raw))
      Traced.emit (.pathResolved raw path)
      let paths ← resolvePaths files home raws
      return path :: paths

/-- Lists a directory. Numbers without a name are noted when they come up for the first time, as
`cached` knows those that came up before. -/
def listOne (host : Host) (jobs : Nat) (directory : RawPath)
    (cached : CachedAccounts := .fresh host.accounts) : Traced QueryError (List FileRecord) := do
  let entries ← Traced.ofExcept ((readEntries host.files directory).mapError .list)
  Traced.emit (.directoryRead entries.length directory jobs)
  Traced.emitAll ((cached.missing (host.questionsIn jobs directory)).map fun (table, id) =>
    .nameMissing table id)
  let records ← Traced.ofExcept
    ((inspectItems (inspect host.files host.accounts directory) host.schedule jobs
      entries).mapError .list)
  Traced.emit (.recordsCollected records.length directory)
  return records

/-- Lists directories one after another, with one cache of the accounts for all of them. -/
def listAll (host : Host) (jobs : Nat) (paths : List String)
    (cached : CachedAccounts := .fresh host.accounts) : Traced QueryError (List FileRecord) :=
  match paths with
  | [] => return []
  | path :: paths => do
      let directory := RawPath.ofString path
      let records ← listOne host jobs directory cached
      let others ← listAll host jobs paths (cached.after (host.questionsIn jobs directory))
      return records ++ others

/-- The records of all paths of a query, in the order of the paths. -/
def collectRecords (host : Host) (home : Option String) (jobs : Nat) (query : Query) :
    Traced QueryError (List FileRecord) := do
  if query.paths.isEmpty then
    Traced.ofExcept (.error .noPaths)
  else
    let paths ← resolvePaths host.files home query.paths
    listAll host jobs paths

/-- Resolves every path of the query, and then lists every directory. -/
def collect (host : Host) (pipeline : Pipeline Parsed) :
    Traced QueryError (Pipeline Collected) := do
  let query := pipeline.state.query
  let records ← collectRecords host pipeline.home pipeline.jobs query
  return pipeline.advance host .collect { query, records }

def filter (host : Host) (pipeline : Pipeline Collected) :
    Traced QueryError (Pipeline Filtered) := do
  let { query, records } := pipeline.state
  let results ← Traced.ofExcept
    ((ResultSet.ofRecords host.zone query.conditions records).mapError .filter)
  Traced.emit (.recordsFiltered results.size records.length)
  return pipeline.advance host .filter { query, results, scanned := records.length }

end Pipeline

/-- The answer to a query: the plan, the records that satisfy its conditions, the number of all
records that were looked at, and how long it took. -/
structure QueryAnswer where
  query : Query
  results : ResultSet
  scanned : Nat
  metrics : Option Metrics

/-- Runs a query with a number of workers. A given home directory replaces that of the host. -/
def runQuery (host : Host) (jobs : Nat) (home : Option String) (text : String) :
    Traced QueryError QueryAnswer := do
  let start := (Pipeline.timed host).withJobs jobs
  let start := if home.isSome then start.withHome home else start
  let parsed ← start.parse host text
  let collected ← parsed.collect host
  let filtered ← collected.filter host
  let { query, results, scanned } := filtered.state
  Traced.emit (.queryAnswered results.size scanned)
  return { query, results, scanned, metrics := filtered.metrics? }

end FileQuery
