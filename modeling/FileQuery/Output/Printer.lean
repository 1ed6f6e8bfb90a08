import FileQuery.Filter.ResultSet
import FileQuery.Number.Binary
import FileQuery.Output.Json
import FileQuery.Output.Table
import FileQuery.Query.Basic
import FileQuery.Run.Host

/-!
# Printers

A printer is told that results begin, then each record, and then that they are finished; it writes
everything when it is finished. The table printer fixes its columns when results begin and forgets
its rows once they are written. The JSON printer writes one object whose members are the records
by path, and forgets them only when results begin again. Both can add how long the query took, on
the error output.
-/

namespace FileQuery

inductive ColorChoice where
  | auto
  | always
  | never
  deriving DecidableEq, Repr

namespace ColorChoice

def word : ColorChoice → String
  | auto => "auto"
  | always => "always"
  | never => "never"

def named? (word : String) : Option ColorChoice :=
  [auto, always, never].find? fun choice => choice.word == word

/-- The choice that a word names, and the automatic one for any other word. -/
def ofWord (word : String) : ColorChoice :=
  (named? word).getD auto

/-- Whether there is color, given whether the output is a terminal. -/
def isOn (choice : ColorChoice) (terminal : Bool) : Bool :=
  match choice with
  | auto => terminal
  | always => true
  | never => false

end ColorChoice

structure Written where
  out : List Char := []
  err : List Char := []
  deriving DecidableEq, Repr

def Written.append (first second : Written) : Written where
  out := first.out ++ second.out
  err := first.err ++ second.err

instance : Append Written := ⟨Written.append⟩

/-- What a printer is told about the run whose results it prints. -/
structure PrintContext where
  query : Query
  total : Nat
  scanned : Nat
  metrics : Option Metrics

def durationText (nanos : Nat) : List Char :=
  (milliseconds nanos).fixed 2 ++ "ms".toList

def timingLine (context : PrintContext) (metrics : Metrics) : List Char :=
  "\n[query] ".toList ++ Decimal.digits context.total ++ " of ".toList ++
    Decimal.digits context.scanned ++ " entries in ".toList ++ durationText metrics.total ++
    " (parse: ".toList ++ durationText (metrics.parse.getD 0) ++
    ", collect: ".toList ++ durationText (metrics.collect.getD 0) ++
    ", filter: ".toList ++ durationText (metrics.filter.getD 0) ++ ")\n".toList

def durationValue (nanos : Nat) : JsonValue :=
  .number (milliseconds nanos).shortestText

def summary (context : PrintContext) (metrics : Metrics) : JsonValue :=
  .object [
    ("scanned", .number (Decimal.digits context.scanned)),
    ("timing_ms", .object [
      ("collect", durationValue (metrics.collect.getD 0)),
      ("filter", durationValue (metrics.filter.getD 0)),
      ("parse", durationValue (metrics.parse.getD 0)),
      ("total", durationValue metrics.total)]),
    ("total", .number (Decimal.digits context.total)),
    ("type", .string "summary")]

/-- A printer of tables, with its columns and the rows that it has not written. -/
structure TablePrinter where
  color : Bool
  showTiming : Bool
  columns : List Field := []
  rows : List (List Cell) := []

namespace TablePrinter

def begin (printer : TablePrinter) (context : PrintContext) : TablePrinter :=
  { printer with columns := Field.expand context.query.fields, rows := [] }

def record (printer : TablePrinter) (zone : Calendar.Zone) (record : FileRecord) :
    TablePrinter :=
  { printer with rows := printer.rows ++ [Table.row zone printer.columns record] }

def finish (printer : TablePrinter) (context : PrintContext) : TablePrinter × Written :=
  let err := match printer.showTiming, context.metrics with
    | true, some metrics => timingLine context metrics
    | _, _ => []
  ({ printer with rows := [] },
    { out := Table.render printer.color printer.columns printer.rows, err })

end TablePrinter

structure JsonPrinter where
  showTiming : Bool
  records : PathMap JsonValue := PathMap.empty

namespace JsonPrinter

def recordValue (zone : Calendar.Zone) (record : FileRecord) : JsonValue :=
  .object [
    ("createdt", .string (zone.render record.created)),
    ("extension", .string record.extension),
    ("group", .string record.group),
    ("lastmod", .string (zone.render record.modified)),
    ("name", .string record.name),
    ("owner", .string record.owner),
    ("path", .string record.path),
    ("size", .number (Decimal.digits record.size.toNat))]

def begin (printer : JsonPrinter) : JsonPrinter :=
  { printer with records := PathMap.empty }

def record (printer : JsonPrinter) (zone : Calendar.Zone) (record : FileRecord) : JsonPrinter :=
  { printer with records := printer.records.insert record.path (recordValue zone record) }

def finish (printer : JsonPrinter) (context : PrintContext) : JsonPrinter × Written :=
  let err := match printer.showTiming, context.metrics with
    | true, some metrics => (summary context metrics).compact ++ ['\n']
    | _, _ => []
  (printer, { out := (JsonValue.object printer.records.rows).pretty 0 ++ ['\n'], err })

end JsonPrinter

inductive OutputFormat where
  | table
  | json
  deriving DecidableEq, Repr

inductive Printer where
  | table (printer : TablePrinter)
  | json (printer : JsonPrinter)

inductive PrintStep where
  | begin (context : PrintContext)
  | record (record : FileRecord)
  | finish (context : PrintContext)

namespace Printer

def fresh (format : OutputFormat) (color showTiming : Bool) : Printer :=
  match format with
  | .table => table { color, showTiming }
  | .json => json { showTiming }

def perform (zone : Calendar.Zone) : Printer → PrintStep → Printer × Written
  | table printer, .begin context => (table (printer.begin context), {})
  | table printer, .record record => (table (printer.record zone record), {})
  | table printer, .finish context =>
      let (printer, written) := printer.finish context
      (table printer, written)
  | json printer, .begin _ => (json printer.begin, {})
  | json printer, .record record => (json (printer.record zone record), {})
  | json printer, .finish context =>
      let (printer, written) := printer.finish context
      (json printer, written)

def performAll (zone : Calendar.Zone) (printer : Printer) : List PrintStep → List Written
  | [] => []
  | step :: steps =>
      let (printer, written) := printer.perform zone step
      written :: printer.performAll zone steps

def printResults (zone : Calendar.Zone) (printer : Printer) (context : PrintContext)
    (records : List FileRecord) : Written :=
  (printer.performAll zone
    (.begin context :: records.map .record ++ [.finish context])).foldl (· ++ ·) {}

end Printer

end FileQuery
