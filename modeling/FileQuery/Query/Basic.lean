import FileQuery.Query.Field
import FileQuery.Query.Operator
import FileQuery.Text.Blank

/-!
# Queries and their text

A query names the fields to show, the directories to list and the conditions on the listed
entries. `Query.render` writes a query on several lines, with quotes only around the texts that
need them. There are two kinds of quotes and no escapes, so the text of a query reads as that query
only if each path that needs quotes lacks one of the two kinds.
-/

namespace FileQuery

inductive Command where
  | select
  deriving DecidableEq, Repr

namespace Command

def keyword : Command → String
  | select => "SELECT"

def named? (word : String) : Option Command :=
  if word == select.keyword then some select else none

end Command

def fromKeyword : String := "FROM"

def whereKeyword : String := "WHERE"

def onKeyword : String := "ON"

structure Condition where
  field : Field
  operator : Operator
  value : String
  deriving DecidableEq, Repr

/-- A query plan. Paths are kept as written, before a leading tilde is expanded. -/
structure Query where
  command : Command := .select
  fields : List Field
  paths : List String
  conditions : List Condition
  deriving DecidableEq, Repr

def doubleQuote : Char := '"'

/-- The quote that goes around texts with a double quote in them. -/
def singleQuote : Char := '\''

def enclosed (quote : Char) (text : List Char) : List Char :=
  quote :: text ++ [quote]

namespace Condition

/-- The value as a condition shows it: in single quotes, or in double quotes when it has a single
quote, or bare when it has both, since such a value can only have been written bare. -/
def quotedValue (value : List Char) : List Char :=
  if value.contains singleQuote then
    if value.contains doubleQuote then value else enclosed doubleQuote value
  else
    enclosed singleQuote value

/-- The condition as field, operator and value with one space between. -/
def renderChars (condition : Condition) : List Char :=
  condition.field.keyword.toList ++ ' ' :: condition.operator.symbol.toList ++
    ' ' :: quotedValue condition.value.toList

/-- The condition as field, operator and value with one space between. -/
def render (condition : Condition) : String :=
  String.ofList condition.renderChars

end Condition

namespace Query

/-- Whether a path would be read as something else, or as several paths, without quotes. -/
def needsQuotes (path : List Char) : Bool :=
  path.isEmpty || path.head? == some doubleQuote || path.head? == some singleQuote ||
    path == whereKeyword.toList || path == onKeyword.toList ||
    path.any fun c => c == ',' || Text.isSpace c

/-- The path as a query shows it: bare if possible, else in the quotes that it does not contain. -/
def quotedPath (path : List Char) : List Char :=
  if needsQuotes path then
    enclosed (if path.contains doubleQuote then singleQuote else doubleQuote) path
  else
    path

def indent : List Char := "\n    ".toList

def commaSeparated (items : List (List Char)) : List Char :=
  List.intercalate ", ".toList items

/-- The query on several lines, one clause keyword a line and its contents indented below. -/
def renderChars (query : Query) : List Char :=
  query.command.keyword.toList ++
    indent ++ commaSeparated (query.fields.map fun field => field.keyword.toList) ++
    '\n' :: fromKeyword.toList ++
    indent ++ commaSeparated (query.paths.map fun path => quotedPath path.toList) ++
    if query.conditions.isEmpty then [] else
      '\n' :: whereKeyword.toList ++
        query.conditions.flatMap fun condition => indent ++ condition.renderChars

/-- The query on several lines, one clause keyword a line and its contents indented below. -/
def render (query : Query) : String :=
  String.ofList query.renderChars

end Query

end FileQuery
