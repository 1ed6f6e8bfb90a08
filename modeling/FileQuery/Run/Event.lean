import FileQuery.Number.Decimal
import FileQuery.Record.Accounts
import FileQuery.Text.Quoted
import FileQuery.Tree.Path

/-!
# Events

What happens while a query runs, as far as a log tells it. An event knows its level, the part of
the program it belongs to and its message. A logger shows the events up to its own level, one line
each.
-/

namespace FileQuery

inductive LogLevel where
  | error
  | warn
  | info
  | debug
  | trace
  deriving DecidableEq, Repr

namespace LogLevel

/-- The place of a level when levels are ordered from the most important one. -/
def rank : LogLevel → Nat
  | error => 1
  | warn => 2
  | info => 3
  | debug => 4
  | trace => 5

def word : LogLevel → String
  | error => "ERROR"
  | warn => "WARN"
  | info => "INFO"
  | debug => "DEBUG"
  | trace => "TRACE"

def levels : List LogLevel :=
  [error, warn, info, debug, trace]

def named? (setting : String) : Option LogLevel :=
  levels.find? fun level => level.word.toList == setting.toList.map Char.toUpper

/-- The level of the logger for a setting: warnings unless the setting names a level. -/
def ofSetting (setting : Option String) : LogLevel :=
  (setting.bind named?).getD warn

end LogLevel

inductive Event where
  | jobsAboveLimit (requested limit : Nat)
  | commandStarted (jobs : Nat) (json : Bool)
  | queryParsed (fields paths conditions : Nat)
  | pathResolved (raw path : String)
  | directoryRead (entries : Nat) (directory : RawPath) (jobs : Nat)
  | nameMissing (table : AccountTable) (id : UInt32)
  | recordsCollected (records : Nat) (directory : RawPath)
  | recordsFiltered (passed seen : Nat)
  | queryAnswered (matched scanned : Nat)
  deriving DecidableEq

namespace Event

def level : Event → LogLevel
  | jobsAboveLimit .. => .warn
  | queryAnswered .. => .info
  | _ => .debug

def target : Event → String
  | jobsAboveLimit .. | commandStarted .. => "sqlfs::commands::query"
  | queryParsed .. => "sqlfs_engine::dsl::parser"
  | pathResolved .. => "sqlfs_fs::resolve"
  | directoryRead .. => "sqlfs_fs::listing"
  | nameMissing .. => "sqlfs_fs::identity::sys"
  | recordsCollected .. => "sqlfs_engine::pipeline"
  | recordsFiltered .. => "sqlfs_engine::eval"
  | queryAnswered .. => "sqlfs_engine::query_runner"

def message : Event → String
  | jobsAboveLimit requested limit =>
      "--jobs " ++ Decimal.ofNat requested ++ " is above the limit, using " ++ Decimal.ofNat limit
  | commandStarted jobs json =>
      "[cli] jobs=" ++ Decimal.ofNat jobs ++ " json=" ++ if json then "true" else "false"
  | queryParsed fields paths conditions =>
      "[parser] " ++ Decimal.ofNat fields ++ " fields, " ++ Decimal.ofNat paths ++ " paths, " ++
        Decimal.ofNat conditions ++ " conditions"
  | pathResolved raw path =>
      "[resolve] " ++ String.ofList (Text.quoted raw.toList) ++ " -> " ++ path
  | directoryRead entries directory jobs =>
      "[list_dir] " ++ Decimal.ofNat entries ++ " entries in " ++
        String.ofList (Text.quoted (Text.decode directory)) ++
        " (jobs=" ++ Decimal.ofNat jobs ++ ")"
  | nameMissing .users id =>
      "[identity] no user entry for uid " ++ Decimal.ofNat id.toNat ++ " (rc=0)"
  | nameMissing .groups id =>
      "[identity] no group entry for gid " ++ Decimal.ofNat id.toNat ++ " (rc=0)"
  | recordsCollected records directory =>
      "[collect] " ++ Decimal.ofNat records ++ " records from " ++ directory.display
  | recordsFiltered passed seen =>
      "[filter] " ++ Decimal.ofNat passed ++ " of " ++ Decimal.ofNat seen ++ " records passed"
  | queryAnswered matched scanned =>
      "[query] " ++ Decimal.ofNat matched ++ " of " ++ Decimal.ofNat scanned ++ " entries matched"

def programName : String := "sqlfs"

def line (time : String) (event : Event) : String :=
  time ++ " " ++ programName ++ " " ++ event.level.word ++ " [" ++ event.target ++ "] " ++
    event.message ++ "\n"

/-- The log lines of the events that are at least as important as a level. -/
def log (level : LogLevel) (time : String) (events : List Event) : String :=
  String.join ((events.filter fun event => event.level.rank ≤ level.rank).map (line time))

end Event

end FileQuery
