import FileQuery.Filter.Value
import FileQuery.Text.Blank

/-!
# Tables

A table has one column for each field, a header line of titles and one line for each record. A
column is as wide as its widest cell, and never narrower than a least width. Every cell is filled
up with blanks to the width of its column and followed by two more, and the spaces at the end of a
line are dropped. Widths count characters.
-/

namespace FileQuery

abbrev Cell := List Char

namespace Table

def minWidth : Nat := 10

def titles (columns : List Field) : List Cell :=
  columns.map fun field => field.title.toList

def row (zone : Calendar.Zone) (columns : List Field) (record : FileRecord) : List Cell :=
  columns.map fun field => (record.renderField zone field).toList

def width (rows : List (List Cell)) (index : Nat) (column : Field) : Nat :=
  (rows.map fun cells => (cells.getD index []).length).foldl max
    (max column.title.toList.length minWidth)

def widths (columns : List Field) (rows : List (List Cell)) : List Nat :=
  columns.mapIdx (width rows)

/-- A cell at the width of its column. Formatting a text knows no width above 65535, so columns are
taken to be no wider than that. -/
def padded (cell : Cell) (width : Nat) : List Char :=
  cell.rightpad width ' ' ++ [' ', ' ']

def line (widths : List Nat) (cells : List Cell) : List Char :=
  Text.trimEnd (List.zipWith padded cells widths).flatten

def colored (text : List Char) : List Char :=
  "\x1b[1;36m".toList ++ text ++ "\x1b[0m".toList

def lines (color : Bool) (columns : List Field) (rows : List (List Cell)) : List (List Char) :=
  let widths := widths columns rows
  let header := line widths (titles columns)
  (if color then colored header else header) :: rows.map (line widths)

def render (color : Bool) (columns : List Field) (rows : List (List Cell)) : List Char :=
  (lines color columns rows).flatMap fun text => text ++ ['\n']

end Table

end FileQuery
