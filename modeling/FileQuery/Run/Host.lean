import FileQuery.Calendar.Zone
import FileQuery.Filter.Value
import FileQuery.Listing.Directory
import FileQuery.Query.ParseError

/-!
# Hosts and errors of a run

A host is everything outside a query that its answer depends on. An error of a run says in which
phase the run ended and why.
-/

namespace FileQuery

inductive Stage where
  | parse
  | collect
  | filter
  deriving DecidableEq, Repr

/-- The surroundings of a run: the files, the names of their owners, the local time zone, the home
directory if there is one, the order in which workers act, and how long each phase takes in
nanoseconds. -/
structure Host where
  files : FileSystem
  accounts : Accounts
  zone : Calendar.Zone := .universal
  home : Option String := none
  schedule : WorkerPool.Schedule := id
  elapsed : Stage → Nat := fun _ => 0

/-- What listing a directory with a number of workers asks about owners and groups. -/
def Host.questionsIn (host : Host) (jobs : Nat) (directory : RawPath) : List Accounts.Question :=
  FileQuery.questionsIn host.files host.accounts host.schedule jobs directory

inductive QueryError where
  | parse (cause : ParseError)
  | noPaths
  | resolve (raw : String) (cause : ListingError)
  | list (cause : ListingError)
  | filter (cause : EvalError)
  deriving DecidableEq

def QueryError.message : QueryError → String
  | parse cause => "parse query: " ++ cause.message
  | noPaths => "query has no paths"
  | resolve raw cause => "resolve path \"" ++ raw ++ "\": " ++ cause.message
  | list cause => "list directory: " ++ cause.message
  | filter cause => "filter files: " ++ cause.message

/-- How long the phases of a run took in nanoseconds, as far as they were measured. -/
structure Metrics where
  parse : Option Nat := none
  collect : Option Nat := none
  filter : Option Nat := none
  deriving DecidableEq, Repr

namespace Metrics

def record (metrics : Metrics) (stage : Stage) (duration : Nat) : Metrics :=
  match stage with
  | .parse => { metrics with parse := some duration }
  | .collect => { metrics with collect := some duration }
  | .filter => { metrics with filter := some duration }

def total (metrics : Metrics) : Nat :=
  metrics.parse.getD 0 + metrics.collect.getD 0 + metrics.filter.getD 0

end Metrics

end FileQuery
