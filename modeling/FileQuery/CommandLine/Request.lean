import FileQuery.Listing.Directory
import FileQuery.Output.Printer

/-!
# Requests on the command line

The arguments of the program are read one after another. An argument that starts with two dashes
is a long option, perhaps with a value after an equals sign; one that starts with a single dash is
a cluster of short options; and two dashes alone say that only the query can follow. A single dash
alone is an ordinary argument.

No option can be given twice, and there is exactly one query. Help and version are answered as soon
as they are reached, so that only a mistake before them is reported instead.

The program leaves reading its arguments to a library, and this is what that is taken to do. Long
names are not abbreviated. A flag has no value. The value of another option follows in the same
argument, after an equals sign if the name is long, or is the next argument, unless this one looks
like an option. Values are checked when they are read, and whether anything is missing when all
arguments have been. Nothing is read from the environment.
-/

namespace FileQuery

structure Settings where
  query : String
  jobs : Nat := defaultJobs
  color : ColorChoice := .auto
  json : Bool := false
  explain : Bool := false
  quiet : Bool := false
  deriving DecidableEq, Repr

inductive Request where
  | help
  | version
  | run (settings : Settings)
  deriving DecidableEq, Repr

inductive Flag where
  | json
  | explain
  | quiet
  | help
  | version
  deriving DecidableEq, Repr

inductive ValueOption where
  | jobs
  | color
  deriving DecidableEq, Repr

inductive CommandOption where
  | flag (flag : Flag)
  | valued (option : ValueOption)
  deriving DecidableEq, Repr

namespace CommandOption

def all : List CommandOption :=
  [valued .jobs, flag .explain, flag .json, valued .color, flag .quiet, flag .help, flag .version]

def longName : CommandOption → String
  | valued .jobs => "jobs"
  | valued .color => "color"
  | flag .json => "json"
  | flag .explain => "explain"
  | flag .quiet => "quiet"
  | flag .help => "help"
  | flag .version => "version"

def letter? : CommandOption → Option Char
  | valued .jobs => some 'j'
  | flag .quiet => some 'q'
  | flag .help => some 'h'
  | flag .version => some 'V'
  | _ => none

def ofLongName? (name : List Char) : Option CommandOption :=
  all.find? fun option => option.longName.toList == name

def ofLetter? (letter : Char) : Option CommandOption :=
  all.find? fun option => option.letter? == some letter

end CommandOption

inductive UsageError where
  | nothingGiven
  | missingQuery
  | unknownOption (text : String)
  | unexpectedArgument (text : String)
  | unexpectedValue (flag : Flag) (value : String)
  | missingValue (option : ValueOption)
  | invalidValue (option : ValueOption) (value : String)
  | repeatedOption (option : CommandOption)
  deriving DecidableEq, Repr

inductive Argument where
  | endOfOptions
  | long (name : List Char) (value : Option (List Char))
  | cluster (letters : List Char)
  | plain (text : List Char)
  deriving DecidableEq, Repr

/-- A name, and the value after the first equals sign if there is one. -/
def splitAtEquals (text : List Char) : List Char × Option (List Char) :=
  match text.dropWhile (· != '=') with
  | [] => (text, none)
  | _ :: value => (text.takeWhile (· != '='), some value)

def Argument.ofChars : List Char → Argument
  | ['-', '-'] => endOfOptions
  | '-' :: '-' :: text =>
      let (name, value) := splitAtEquals text
      long name value
  | ['-'] => plain ['-']
  | '-' :: letters => cluster letters
  | text => plain text

inductive Expected where
  | anything
  | valueOf (option : ValueOption)
  | onlyQuery
  deriving DecidableEq, Repr

structure Reading where
  query : Option String := none
  jobs : Option Nat := none
  color : Option ColorChoice := none
  flags : List Flag := []
  expected : Expected := .anything
  deriving DecidableEq, Repr

inductive Interruption where
  | asked (request : Request)
  | refused (error : UsageError)
  deriving DecidableEq, Repr

namespace Reading

def takeQuery (reading : Reading) (text : List Char) : Except Interruption Reading :=
  match reading.query with
  | none => .ok { reading with query := some (String.ofList text) }
  | some _ => .error (.refused (.unexpectedArgument (String.ofList text)))

def takeFlag (reading : Reading) (flag : Flag) : Except Interruption Reading :=
  match flag with
  | .help => .error (.asked .help)
  | .version => .error (.asked .version)
  | _ =>
      if flag ∈ reading.flags then .error (.refused (.repeatedOption (.flag flag)))
      else .ok { reading with flags := flag :: reading.flags }

def hasValue (reading : Reading) : ValueOption → Bool
  | .jobs => reading.jobs.isSome
  | .color => reading.color.isSome

def withValue? (reading : Reading) (option : ValueOption) (value : List Char) : Option Reading :=
  match option with
  | .jobs =>
      (Decimal.readUInt64? value).map fun jobs => { reading with jobs := some jobs }
  | .color =>
      (ColorChoice.named? (String.ofList value)).map fun color =>
        { reading with color := some color }

/-- Takes the value of an option, after which anything can follow. -/
def takeValue (reading : Reading) (option : ValueOption) (value : List Char) :
    Except Interruption Reading :=
  if reading.hasValue option then .error (.refused (.repeatedOption (.valued option)))
  else
    match reading.withValue? option value with
    | some reading => .ok { reading with expected := .anything }
    | none => .error (.refused (.invalidValue option (String.ofList value)))

def takeLong (reading : Reading) (name : List Char) (value : Option (List Char)) :
    Except Interruption Reading :=
  match CommandOption.ofLongName? name, value with
  | none, _ => .error (.refused (.unknownOption ("--" ++ String.ofList name)))
  | some (.flag flag), none => reading.takeFlag flag
  | some (.flag flag), some value =>
      .error (.refused (.unexpectedValue flag (String.ofList value)))
  | some (.valued option), none => .ok { reading with expected := .valueOf option }
  | some (.valued option), some value => reading.takeValue option value

/-- The value in the rest of a cluster: none if nothing is left, and without the equals sign that
may come before it. -/
def attachedValue? : List Char → Option (List Char)
  | [] => none
  | '=' :: value => some value
  | value => some value

/-- Takes a cluster of short options. An option with a value ends the cluster. -/
def takeCluster (reading : Reading) : List Char → Except Interruption Reading
  | [] => .ok reading
  | letter :: letters =>
      match CommandOption.ofLetter? letter with
      | none => .error (.refused (.unknownOption (String.ofList ['-', letter])))
      | some (.flag flag) => do
          let reading ← reading.takeFlag flag
          reading.takeCluster letters
      | some (.valued option) =>
          match attachedValue? letters with
          | none => .ok { reading with expected := .valueOf option }
          | some value => reading.takeValue option value

/-- Takes one argument. An option that waits for its value takes only an argument that does not
look like an option. -/
def take (reading : Reading) (argument : String) : Except Interruption Reading :=
  match reading.expected, Argument.ofChars argument.toList with
  | .onlyQuery, _ => reading.takeQuery argument.toList
  | .valueOf option, .plain text => reading.takeValue option text
  | .valueOf option, _ => .error (.refused (.missingValue option))
  | .anything, .endOfOptions => .ok { reading with expected := .onlyQuery }
  | .anything, .long name value => reading.takeLong name value
  | .anything, .cluster letters => reading.takeCluster letters
  | .anything, .plain text => reading.takeQuery text

/-- The settings of a command line that has been read to its end. -/
def settings (reading : Reading) : Except UsageError Settings :=
  match reading.expected, reading.query with
  | .valueOf option, _ => .error (.missingValue option)
  | _, some query =>
      .ok {
        query,
        jobs := reading.jobs.getD defaultJobs,
        color := reading.color.getD .auto,
        json := reading.flags.contains .json,
        explain := reading.flags.contains .explain,
        quiet := reading.flags.contains .quiet }
  | _, none =>
      if reading.jobs.isNone && reading.color.isNone && reading.flags.isEmpty then
        .error .nothingGiven
      else
        .error .missingQuery

end Reading

def Request.ofArguments (arguments : List String) : Except UsageError Request :=
  match arguments.foldlM Reading.take {} with
  | .ok reading => reading.settings.map .run
  | .error (.asked request) => .ok request
  | .error (.refused error) => .error error

end FileQuery
