import FileQuery.Calendar.ZoneText
import FileQuery.CommandLine.Run
import FileQuery.Tree.Snapshot
import Std.Time.DateTime.Timestamp

/-!
# The program

Runs the command line on a snapshot of a directory tree, which it reads from the standard input.
The environment supplies the home directory (`HOME`), the local time zone (`TZ`) and the level of
the log (`SQLFS_LOG_LEVEL`).
-/

namespace FileQuery

partial def readToEnd (stream : IO.FS.Stream) (start : ByteArray := .empty) : IO ByteArray := do
  let chunk ← stream.read 65536
  if chunk.isEmpty then return start else readToEnd stream (start ++ chunk)

def readSnapshot : IO Snapshot := do
  let bytes ← readToEnd (← IO.getStdin)
  match Snapshot.ofBytes? bytes.toList with
  | some snapshot => return snapshot
  | none => throw (IO.userError "read snapshot: a line is not understood")

/-- The local time zone, or universal time if it is not set or not understood. -/
def localZone : IO Calendar.Zone := do
  let setting := (← IO.getEnv "TZ").getD ""
  return (Calendar.Zone.ofText? setting.toList).getD .universal

def presentTime (zone : Calendar.Zone) : IO String := do
  let nanos := (← Std.Time.Timestamp.now).toNanosecondsSinceUnixEpoch.toInt
  let millis := (nanos.fdiv 1000000).fmod 1000
  return zone.render (nanos.fdiv 1000000000) ++ "." ++
    String.ofList (Decimal.padded 3 millis.toNat)

def measured {α : Type} (work : Unit → α) : IO (α × Nat) := do
  let start ← IO.monoNanosNow
  let result ← IO.lazyPure work
  let stop ← IO.monoNanosNow
  return (result, stop - start)

/-- How long each stage of a query takes, as far as the query gets. -/
def measureStages (host : Host) (settings : Settings) : IO (Stage → Nat) := do
  let start := (Pipeline.untimed host).withJobs settings.jobs
  let (parsed, parse) ← measured fun _ => (start.parse host settings.query).outcome
  let (collected, collect) ← measured fun _ => do ((← parsed).collect host).outcome
  let (_, filter) ← measured fun _ => do ((← collected).filter host).outcome
  return fun
    | .parse => parse
    | .collect => collect
    | .filter => filter

def queryEnvironment (settings : Settings) : IO Environment := do
  let snapshot ← readSnapshot
  let zone ← localZone
  match snapshot.files? with
  | none => throw (IO.userError "read snapshot: the entries are no tree")
  | some files =>
      let host : Host :=
        { files, accounts := snapshot.accounts, zone,
          home := (← IO.getEnv "HOME").filter (!·.isEmpty) }
      return {
        host := { host with elapsed := ← measureStages host settings },
        logLevel := .ofSetting (← IO.getEnv "SQLFS_LOG_LEVEL"),
        logTime := ← presentTime zone,
        terminal := ← (← IO.getStdout).isTty }

def idleEnvironment : Environment where
  host := { files := .bare 0 0, accounts := Snapshot.accounts [] }

end FileQuery

open FileQuery in
def main (arguments : List String) : IO UInt32 := do
  let environment ← match Request.ofArguments arguments with
    | .ok (.run settings) => queryEnvironment settings
    | _ => pure idleEnvironment
  let ending := runArguments environment arguments
  IO.eprint (String.ofList ending.written.err)
  IO.print (String.ofList ending.written.out)
  return ending.code
