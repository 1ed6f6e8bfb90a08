import FileQuery.CommandLine.Request
import FileQuery.Run.Event

/-!
# Help

The texts that tell how the program is used, and the wording of the reasons to refuse a command
line.
-/

namespace FileQuery

namespace Usage

def synopsis : String :=
  "Usage: " ++ Event.programName ++ " [OPTIONS] <QUERY>\n"

/-- What the program does, its argument and its options, with an example and the words of the
query language. -/
def help : String :=
  "Query file metadata with a small SQL dialect\n\n" ++ synopsis ++ "
Arguments:
  <QUERY>  The query to execute, e.g. \"SELECT * FROM ~/ WHERE extension = 'sh'\"

Options:
  -j, --jobs <N>      Number of threads used to stat directory entries [default: 1]
      --explain       Print the parsed query plan to stderr before running it
      --json          Output results as one JSON object keyed by path
      --color <WHEN>  When to color the table header [default: auto] [possible values: auto, always, never]
  -q, --quiet         Suppress timing statistics
  -h, --help          Print help
  -V, --version       Print version

Example:
  sqlfs \"SELECT * FROM ~/ WHERE extension = 'sh'\"
  sqlfs --json \"SELECT name, size FROM /tmp, ~/Downloads WHERE size > 1024\"

Fields:
  name, extension, path, filesize (size), lastmod, createdt,
  owner, group, permission, links, type

Operators:
  =  !=  <  <=  >  >=  LIKE
"

def version : String :=
  Event.programName ++ " 0.1.0\n"

end Usage

def CommandOption.written (option : CommandOption) : String :=
  "--" ++ option.longName

def UsageError.message : UsageError → String
  | nothingGiven | missingQuery => "the query is missing"
  | unknownOption text | unexpectedArgument text => "unexpected argument '" ++ text ++ "' found"
  | unexpectedValue flag value =>
      "unexpected value '" ++ value ++ "' for '" ++ (CommandOption.flag flag).written ++ "' found"
  | missingValue option =>
      "a value is required for '" ++ (CommandOption.valued option).written ++ "'"
  | invalidValue option value =>
      "invalid value '" ++ value ++ "' for '" ++ (CommandOption.valued option).written ++ "'"
  | repeatedOption option =>
      "the argument '" ++ option.written ++ "' cannot be used multiple times"

/-- What is shown for a refused command line: the whole help if nothing was given at all, else the
reason. -/
def UsageError.text (error : UsageError) : String :=
  match error with
  | nothingGiven => Usage.help
  | _ =>
      "error: " ++ error.message ++ "\n\n" ++ Usage.synopsis ++
        "\nFor more information, try '--help'.\n"

end FileQuery
