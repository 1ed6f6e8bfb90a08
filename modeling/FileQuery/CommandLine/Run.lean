import FileQuery.CommandLine.Usage
import FileQuery.Run.Pipeline

/-!
# Running a command line

A command line ends with an exit code and with texts on the standard output and on the error
output. Results are written only after the whole query has been answered, so a query that fails
leaves the standard output empty. The plan and the log go to the error output as they arise.
-/

namespace FileQuery

structure Environment where
  host : Host
  logLevel : LogLevel := .warn
  logTime : String := ""
  terminal : Bool := false

structure Ending where
  code : UInt32
  written : Written
  deriving DecidableEq, Repr

namespace Environment

def log (environment : Environment) (events : List Event) : List Char :=
  (Event.log environment.logLevel environment.logTime events).toList

end Environment

namespace Settings

/-- What is written about a query before it runs: the log of reading it, and its plan if it can be
read. -/
def explanation (settings : Settings) (environment : Environment) : List Char :=
  let reading := Pipeline.readQuery settings.query
  environment.log reading.events ++
    match reading.outcome with
    | .ok query => query.render.toList ++ ['\n', '\n']
    | .error _ => []

def startEvents (settings : Settings) : List Event :=
  (if maxJobs < settings.jobs then [.jobsAboveLimit settings.jobs maxJobs] else []) ++
    [.commandStarted settings.jobs settings.json]

def preamble (settings : Settings) (environment : Environment) : List Char :=
  (if settings.explain then settings.explanation environment else []) ++
    environment.log settings.startEvents

def printer (settings : Settings) (terminal : Bool) : Printer :=
  .fresh (if settings.json then .json else .table) (settings.color.isOn terminal) !settings.quiet

def printed (settings : Settings) (environment : Environment) (answer : QueryAnswer) : Written :=
  (settings.printer environment.terminal).printResults environment.host.zone
    { query := answer.query, total := answer.results.size, scanned := answer.scanned,
      metrics := answer.metrics }
    answer.results.values

def failureLine (error : QueryError) : List Char :=
  "[error] execute query: ".toList ++ error.message.toList ++ ['\n']

def run (settings : Settings) (environment : Environment) : Ending :=
  let answer := runQuery environment.host settings.jobs none settings.query
  let err := settings.preamble environment ++ environment.log answer.events
  match answer.outcome with
  | .ok answer =>
      { code := 0, written := { err } ++ settings.printed environment answer }
  | .error error => { code := 2, written := { err := err ++ failureLine error } }

end Settings

def Request.perform (environment : Environment) : Request → Ending
  | help => { code := 0, written := { out := Usage.help.toList } }
  | version => { code := 0, written := { out := Usage.version.toList } }
  | run settings => settings.run environment

def UsageError.ending (error : UsageError) : Ending where
  code := 2
  written := { err := error.text.toList }

def runArguments (environment : Environment) (arguments : List String) : Ending :=
  match Request.ofArguments arguments with
  | .ok request => request.perform environment
  | .error error => error.ending

end FileQuery
