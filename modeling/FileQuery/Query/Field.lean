/-!
# Fields

A query selects and compares *fields* of file records. Each field has one row of properties: the
keyword that names it, other spellings, the kind of its values, whether a condition may use it and
the title of its column. `*` stands for the default columns and is the only field that no
condition may use.
-/

namespace FileQuery

/-- How the values of a field compare under the ordering operators. -/
inductive ValueKind where
  | text
  | integer
  | date
  deriving DecidableEq, Repr

/-- The fields of a file record, and `all` for the default columns. -/
inductive Field where
  | all
  | permission
  | links
  | owner
  | group
  | fileSize
  | modified
  | created
  | name
  | extension
  | path
  | type
  deriving DecidableEq, Repr

structure FieldInfo where
  keyword : String
  aliases : List String := []
  kind : ValueKind := .text
  filterable : Bool := true
  title : String

namespace Field

def info : Field → FieldInfo
  | all => { keyword := "*", filterable := false, title := "*" }
  | permission => { keyword := "permission", title := "Perms" }
  | links => { keyword := "links", kind := .integer, title := "Links" }
  | owner => { keyword := "owner", title := "Owner" }
  | group => { keyword := "group", title := "Group" }
  | fileSize => { keyword := "filesize", aliases := ["size"], kind := .integer, title := "Size" }
  | modified => { keyword := "lastmod", kind := .date, title := "Last Mod" }
  | created => { keyword := "createdt", kind := .date, title := "Created" }
  | name => { keyword := "name", title := "Name" }
  | extension => { keyword := "extension", title := "Ext." }
  | path => { keyword := "path", title := "Path" }
  | type => { keyword := "type", title := "Type" }

def keyword (field : Field) : String := field.info.keyword

def kind (field : Field) : ValueKind := field.info.kind

def filterable (field : Field) : Bool := field.info.filterable

def title (field : Field) : String := field.info.title

theorem filterable_iff {field : Field} : field.filterable = true ↔ field ≠ all := by
  cases field <;> decide

/-- Every field, in the order in which spellings are looked up. -/
def table : List Field :=
  [all, permission, links, owner, group, fileSize, modified, created, name, extension, path, type]

/-- Whether a word is the field's keyword or one of its aliases. -/
def spelledBy (field : Field) (word : String) : Bool :=
  field.keyword == word || field.info.aliases.contains word

/-- The field that a word names, by keyword or alias; case matters. -/
def named? (word : String) : Option Field :=
  table.find? fun field => field.spelledBy word

def defaultColumns : List Field :=
  [path, modified, created, owner, group, name, extension, fileSize]

def columns : Field → List Field
  | all => defaultColumns
  | field => [field]

/-- The selected fields with the default columns in place of every `*`. -/
def expand (fields : List Field) : List Field :=
  fields.flatMap columns

theorem all_notMem_expand (fields : List Field) : all ∉ expand fields := by
  simp only [expand, List.mem_flatMap, not_exists, not_and]
  intro field _
  cases field <;> decide

end Field

end FileQuery
