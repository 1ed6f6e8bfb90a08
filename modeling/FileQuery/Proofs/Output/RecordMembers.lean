import FileQuery.Proofs.Filter.Failure
import FileQuery.Proofs.Output.JsonReading
import FileQuery.Proofs.Output.Printed

/-!
# Records in JSON objects

A printed JSON object is read back as an object with one member for each record of the result set,
under the record's path and in ascending order of the paths. The value of a member has eight members
of its own, from which the texts of the record, its rendered times and its exact size are read, so
that the output determines all that is shown of every record.
-/

namespace FileQuery

namespace JsonValue

/-- The names of the members of an object, in the order in which they are written. -/
def memberNames : JsonValue → List String
  | object members => members.map Prod.fst
  | _ => []

def member? (name : String) : JsonValue → Option JsonValue
  | object members => members.lookup name
  | _ => none

/-- A value has the eight members of a record and no others. The size is the number that the digits
of its member denote. -/
structure ShowsRecord (zone : Calendar.Zone) (record : FileRecord) (value : JsonValue) : Prop where
  memberNames_eq : value.memberNames =
    ["createdt", "extension", "group", "lastmod", "name", "owner", "path", "size"]
  created_eq : value.member? "createdt" = some (string (zone.render record.created))
  extension_eq : value.member? "extension" = some (string record.extension)
  group_eq : value.member? "group" = some (string record.group)
  modified_eq : value.member? "lastmod" = some (string (zone.render record.modified))
  name_eq : value.member? "name" = some (string record.name)
  owner_eq : value.member? "owner" = some (string record.owner)
  path_eq : value.member? "path" = some (string record.path)
  size_eq : ∃ literal, value.member? "size" = some (number literal) ∧
    Decimal.readNat? literal = some record.size.toNat

end JsonValue

theorem JsonPrinter.showsRecord_recordValue (zone : Calendar.Zone) (record : FileRecord) :
    (recordValue zone record).ShowsRecord zone record where
  memberNames_eq := rfl
  created_eq := rfl
  extension_eq := rfl
  group_eq := rfl
  modified_eq := rfl
  name_eq := rfl
  owner_eq := rfl
  path_eq := rfl
  size_eq := ⟨_, rfl, Decimal.readNat?_digits record.size.toNat⟩

theorem JsonPrinter.wellFormed_recordValue (zone : Calendar.Zone) (record : FileRecord) :
    (recordValue zone record).WellFormed := by
  refine .object ?_
  simp only [List.forall_mem_cons, List.not_mem_nil, false_implies, implies_true, and_true]
  exact ⟨.string _, .string _, .string _, .string _, .string _, .string _, .string _,
    .number (JsonValue.isNumber_digits _)⟩

theorem JsonPrinter.wellFormed_members (zone : Calendar.Zone) (records : List FileRecord) :
    (JsonValue.object (records.map fun record =>
      (record.path, recordValue zone record))).WellFormed := by
  refine .object ?_
  intro member isMember
  rcases List.mem_map.1 isMember with ⟨record, -, rfl⟩
  exact wellFormed_recordValue zone record

/-- Two records look the same in all eight members, each in a zone of its own. -/
structure FileRecord.ShownAlike (zone zone' : Calendar.Zone) (record record' : FileRecord) :
    Prop where
  created_eq : zone.render record.created = zone'.render record'.created
  extension_eq : record.extension = record'.extension
  group_eq : record.group = record'.group
  modified_eq : zone.render record.modified = zone'.render record'.modified
  name_eq : record.name = record'.name
  owner_eq : record.owner = record'.owner
  path_eq : record.path = record'.path
  size_eq : record.size = record'.size

section Shown

variable {zone zone' : Calendar.Zone}

/-- A value shows no two records that differ in one of its members. -/
theorem JsonValue.ShowsRecord.shownAlike {record record' : FileRecord} {value : JsonValue}
    (shows : value.ShowsRecord zone record) (shows' : value.ShowsRecord zone' record') :
    record.ShownAlike zone zone' record' := by
  have text_eq : ∀ {name left right : String}, value.member? name = some (string left) →
      value.member? name = some (string right) → left = right := by
    intro name left right found found'
    rw [found] at found'
    exact JsonValue.string.inj (Option.some.inj found')
  rcases shows.size_eq with ⟨literal, found, read⟩
  rcases shows'.size_eq with ⟨literal', found', read'⟩
  have size_eq : record.size.toNat = record'.size.toNat := by
    rw [found] at found'
    cases found'
    rw [read] at read'
    exact Option.some.inj read'
  exact {
    created_eq := text_eq shows.created_eq shows'.created_eq
    extension_eq := text_eq shows.extension_eq shows'.extension_eq
    group_eq := text_eq shows.group_eq shows'.group_eq
    modified_eq := text_eq shows.modified_eq shows'.modified_eq
    name_eq := text_eq shows.name_eq shows'.name_eq
    owner_eq := text_eq shows.owner_eq shows'.owner_eq
    path_eq := text_eq shows.path_eq shows'.path_eq
    size_eq := UInt64.toNat_inj.1 size_eq }

theorem forall₂_shownAlike {records records' : List FileRecord}
    {members : List (String × JsonValue)}
    (shown : List.Forall₂ (fun record member => member.2.ShowsRecord zone record) records members)
    (shown' : List.Forall₂ (fun record member => member.2.ShowsRecord zone' record) records'
      members) :
    List.Forall₂ (FileRecord.ShownAlike zone zone') records records' := by
  induction shown generalizing records' with
  | nil =>
      cases shown'
      exact .nil
  | cons shows _ ih =>
      cases shown' with
      | cons shows' rest => exact .cons (shows.shownAlike shows') (ih rest)

end Shown

/-- A printed object is read back, with or without the line break at its end, as one member for each
record. -/
theorem exists_members_of_printed_json (zone : Calendar.Zone) (printer : JsonPrinter)
    (context : PrintContext) {results : ResultSet} (keyed : results.KeyedByPath) :
    ∃ text members,
      ((Printer.json printer).printResults zone context results.values).out = text ++ ['\n'] ∧
      JsonValue.ofChars? text = some (.object members) ∧
      JsonValue.ofChars? (text ++ ['\n']) = some (.object members) ∧
      members.map Prod.fst = results.paths ∧
      List.Forall₂ (fun record member => member.2.ShowsRecord zone record) results.values
        members := by
  let members := results.values.map fun record =>
    (record.path, JsonPrinter.recordValue zone record)
  have wellFormed := JsonPrinter.wellFormed_members zone results.values
  have read := JsonValue.ofChars?_pretty_append wellFormed 0 (List.forall_mem_nil _)
  rw [List.append_nil] at read
  have readLine := JsonValue.ofChars?_pretty_append wellFormed 0
    (List.forall_mem_singleton.2 (rfl : Text.isBlank '\n' = true))
  refine ⟨_, members, Printer.out_printResults_json_of_keyedByPath zone printer context keyed,
    read, readLine, ?_, ?_⟩
  · rw [← keyed.map_path_values, List.map_map]
    rfl
  · simp only [members, List.forall₂_map_right_iff, List.forall₂_same]
    intro record _
    exact JsonPrinter.showsRecord_recordValue zone record

/-- A printed JSON text is one value and a line break. It is read back as an object whose members
are named by the paths of the result set, in ascending order and hence each once, and show the
records of these paths. Result sets that are printed alike have the same paths, and records that
agree in all members. -/
theorem printed_json_read_back (zone : Calendar.Zone) (printer : JsonPrinter)
    (context : PrintContext) {results : ResultSet} (keyed : results.KeyedByPath) :
    let out := ((Printer.json printer).printResults zone context results.values).out
    (∃ text members, out = text ++ ['\n'] ∧
      JsonValue.ofChars? text = some (.object members) ∧
      JsonValue.ofChars? out = some (.object members) ∧
      members.map Prod.fst = results.paths ∧
      (members.map Prod.fst).Pairwise (· < ·) ∧
      List.Forall₂ (fun record member => member.2.ShowsRecord zone record) results.values
        members) ∧
    ∀ (zone' : Calendar.Zone) (printer' : JsonPrinter) (context' : PrintContext)
      (results' : ResultSet), results'.KeyedByPath →
      ((Printer.json printer').printResults zone' context' results'.values).out = out →
      results.paths = results'.paths ∧
        List.Forall₂ (FileRecord.ShownAlike zone zone') results.values results'.values := by
  intro out
  rcases exists_members_of_printed_json zone printer context keyed with
    ⟨text, members, printed, read, readLine, names, shown⟩
  constructor
  · refine ⟨text, members, printed, read, ?_, names, ?_, shown⟩
    · exact (congrArg JsonValue.ofChars? printed).trans readLine
    · rw [names, PathMap.paths, List.pairwise_map]
      exact results.ascending
  · intro zone' printer' context' results' keyed' same
    rcases exists_members_of_printed_json zone' printer' context' keyed' with
      ⟨text', members', printed', read', -, names', shown'⟩
    have texts : text' = text := by
      have joined : text' ++ ['\n'] = text ++ ['\n'] := printed'.symm.trans (same.trans printed)
      exact List.append_cancel_right joined
    rw [texts, read] at read'
    cases read'
    exact ⟨names.symm.trans names', forall₂_shownAlike shown shown'⟩

/-- A name with a quote, a backslash, a line break and a letter outside ASCII. -/
theorem printed_json_read_back_unusual_name :
    let record := FileRecord.named "\"\\\n\u00e9"
    let results : ResultSet := PathMap.empty.insert record.path record
    let context : PrintContext :=
      { query := { fields := [.all], paths := ["d"], conditions := [] }, total := 1, scanned := 1,
        metrics := none }
    results.KeyedByPath ∧ ∃ text member,
      ((Printer.json { showTiming := false }).printResults .universal context results.values).out =
        text ++ ['\n'] ∧
      JsonValue.ofChars? text = some (.object [member]) ∧ member.1 = "d/\"\\\n\u00e9" ∧
      member.2.ShowsRecord .universal record := by
  intro record results context
  have keyed : results.KeyedByPath := by
    intro row member
    rw [List.mem_singleton.1 member]
  rcases (printed_json_read_back .universal { showTiming := false } context keyed).1 with
    ⟨text, members, printed, read, -, names, -, shown⟩
  rcases List.forall₂_cons_left_iff.1 shown with ⟨member, others, shows, rest, rfl⟩
  obtain rfl : others = [] := List.forall₂_nil_left_iff.1 rest
  exact ⟨keyed, text, member, printed, read, (List.cons.inj names).1, shows⟩

end FileQuery
