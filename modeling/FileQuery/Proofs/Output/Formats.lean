import FileQuery.Proofs.Output.RecordMembers

/-!
# Tables and JSON objects of the same records

A table of the default columns and a JSON object show the same records in the same order. A cell
has the text of the member of the same field, except that the table shows a size as an integer of
64 bits with sign, so that a size above the largest of them is cut off there and exact in JSON.
-/

namespace FileQuery

/-- The name under which JSON shows a field of a record. -/
def Field.memberName : Field → String
  | fileSize => "size"
  | field => field.keyword

namespace JsonValue

/-- The text of a string, and the digits of a number. -/
def scalarText? : JsonValue → Option (List Char)
  | string content => some content.toList
  | number literal => some literal
  | _ => none

def memberText? (value : JsonValue) (name : String) : Option (List Char) :=
  (value.member? name).bind scalarText?

end JsonValue

namespace FileRecord

/-- The text of a cell and that of a member agree on a field of a record. They differ only for a
size that 64 bits with sign cannot hold, which the cell replaces by the largest number that they
can. -/
structure Agree (record : FileRecord) (field : Field) (cell text : List Char) : Prop where
  eq_iff : cell = text ↔ (field = .fileSize → record.size.toNat ≤ 2 ^ 63 - 1)
  sizeText_eq : field = .fileSize → text = Decimal.digits record.size.toNat
  sizeCell_eq : field = .fileSize → cell = Decimal.digits (min record.size.toNat (2 ^ 63 - 1))

theorem Agree.refl (record : FileRecord) {field : Field} (other : field ≠ .fileSize)
    (text : List Char) : record.Agree field text text where
  eq_iff := iff_of_true rfl fun size => absurd size other
  sizeText_eq size := absurd size other
  sizeCell_eq size := absurd size other

theorem agree_size (record : FileRecord) :
    record.Agree .fileSize (Decimal.digits (min record.size.toNat (2 ^ 63 - 1)))
      (Decimal.digits record.size.toNat) where
  eq_iff := by
    rw [Decimal.digits_inj, min_eq_left_iff]
    exact ⟨fun small _ => small, fun small => small rfl⟩
  sizeText_eq _ := rfl
  sizeCell_eq _ := rfl

theorem toList_renderField_fileSize (record : FileRecord) (zone : Calendar.Zone) :
    (record.renderField zone .fileSize).toList =
      Decimal.digits (min record.size.toNat (2 ^ 63 - 1)) := by
  have rendered : record.renderField zone .fileSize = Decimal.ofInt (saturated record.size) := rfl
  rw [rendered, saturated_eq_min, Decimal.toList_ofInt_natCast]

/-- Each default column has a member, with the text of the column's cell where that is not cut
off. All members but the size are strings. -/
theorem exists_memberText_of_mem_defaultColumns (record : FileRecord) (zone : Calendar.Zone)
    {field : Field} (isDefault : field ∈ Field.defaultColumns) :
    ∃ text,
      (JsonPrinter.recordValue zone record).memberText? field.memberName = some text ∧
      record.Agree field (record.renderField zone field).toList text := by
  by_cases isSize : field = .fileSize
  · subst isSize
    refine ⟨_, rfl, ?_⟩
    rw [toList_renderField_fileSize]
    exact record.agree_size
  · have member : (JsonPrinter.recordValue zone record).memberText? field.memberName =
        some (record.renderField zone field).toList := by
      simp only [Field.defaultColumns, List.mem_cons, List.not_mem_nil, or_false] at isDefault
      rcases isDefault with rfl | rfl | rfl | rfl | rfl | rfl | rfl | rfl
      exacts [rfl, rfl, rfl, rfl, rfl, rfl, rfl, absurd rfl isSize]
    exact ⟨_, member, .refl record isSize _⟩

/-- A row of a table of the default columns and a member of an object describe a record. -/
structure DescribedBy (zone : Calendar.Zone) (record : FileRecord) (row : List Cell)
    (member : String × JsonValue) : Prop where
  name_eq : member.1 = record.path
  shows : member.2.ShowsRecord zone record
  row_eq : row = Table.row zone Field.defaultColumns record
  agree : List.Forall₂
    (fun field cell => ∃ text, member.2.memberText? field.memberName = some text ∧
      record.Agree field cell text) Field.defaultColumns row

theorem describedBy (zone : Calendar.Zone) (record : FileRecord) :
    record.DescribedBy zone (Table.row zone Field.defaultColumns record)
      (record.path, JsonPrinter.recordValue zone record) where
  name_eq := rfl
  shows := JsonPrinter.showsRecord_recordValue zone record
  row_eq := rfl
  agree := by
    rw [Table.row, List.forall₂_map_right_iff, List.forall₂_same]
    exact fun field isDefault => record.exists_memberText_of_mem_defaultColumns zone isDefault

end FileRecord

/-- A table of all default columns has a row and a JSON text has a member for each record of a
result set, in the order of the result set, and the cells of the row agree with the texts of the
member. -/
theorem printed_formats_agree {filterZone : Calendar.Zone} {conditions : List Condition}
    {records : List FileRecord} {results : ResultSet}
    (filtered : ResultSet.ofRecords filterZone conditions records = .ok results)
    (zone : Calendar.Zone) (tablePrinter : TablePrinter) (jsonPrinter : JsonPrinter)
    (context : PrintContext) (star : context.query.fields = [.all]) :
    ∃ rows members,
      ((Printer.table tablePrinter).printResults zone context results.values).out =
        Table.render tablePrinter.color Field.defaultColumns rows ∧
      JsonValue.ofChars?
        ((Printer.json jsonPrinter).printResults zone context results.values).out =
          some (.object members) ∧
      rows.length = results.size ∧ members.length = results.size ∧
      ∀ (index : Nat) (record : FileRecord), results.values[index]? = some record →
        ∃ row member, rows[index]? = some row ∧ members[index]? = some member ∧
          record.DescribedBy zone row member := by
  have keyed := ResultSet.keyedByPath_of_ofRecords_eq_ok filtered
  have read := JsonValue.ofChars?_pretty_append
    (JsonPrinter.wellFormed_members zone results.values) 0
    (List.forall_mem_singleton.2 (rfl : Text.isBlank '\n' = true))
  refine ⟨results.values.map (Table.row zone Field.defaultColumns),
    results.values.map fun record => (record.path, JsonPrinter.recordValue zone record),
    ?_, ?_, ?_, ?_, ?_⟩
  · rw [Printer.out_printResults_table, star]
    rfl
  · rw [Printer.out_printResults_json_of_keyedByPath zone jsonPrinter context keyed]
    exact read
  · simp [PathMap.values, PathMap.size]
  · simp [PathMap.values, PathMap.size]
  · intro index record found
    refine ⟨_, _, ?_, ?_, record.describedBy zone⟩
    · rw [List.getElem?_map, found, Option.map_some]
    · rw [List.getElem?_map, found, Option.map_some]

/-- A size of 2 ^ 63, the first that a cell cuts off. -/
theorem printed_formats_agree_large_size :
    let record : FileRecord := { FileRecord.named "x" with size := 9223372036854775808 }
    let results : ResultSet := PathMap.empty.insert record.path record
    let context : PrintContext :=
      { query := { fields := [.all], paths := ["d"], conditions := [] }, total := 1, scanned := 1,
        metrics := none }
    ResultSet.ofRecords .universal [] [record] = .ok results ∧ context.query.fields = [.all] ∧
      ∃ row member,
        ((Printer.table { color := false, showTiming := false }).printResults .universal context
          results.values).out = Table.render false Field.defaultColumns [row] ∧
        JsonValue.ofChars? ((Printer.json { showTiming := false }).printResults .universal context
          results.values).out = some (.object [member]) ∧
        record.DescribedBy .universal row member := by
  intro record results context
  have filtered : ResultSet.ofRecords .universal [] [record] = .ok results := rfl
  rcases printed_formats_agree filtered .universal { color := false, showTiming := false }
      { showTiming := false } context rfl with
    ⟨rows, members, table, json, rows_length, members_length, described⟩
  rcases List.length_eq_one_iff.1 rows_length with ⟨row, rfl⟩
  rcases List.length_eq_one_iff.1 members_length with ⟨member, rfl⟩
  rcases described 0 record rfl with ⟨_, _, first, first', describes⟩
  cases first
  cases first'
  exact ⟨filtered, rfl, row, member, table, json, describes⟩

/-- The texts of the cells are not always those of the members. -/
theorem not_forall_memberText_eq_renderField :
    ¬∀ (filterZone zone : Calendar.Zone) (conditions : List Condition)
      (records : List FileRecord) (results : ResultSet),
      ResultSet.ofRecords filterZone conditions records = .ok results →
        ∀ record ∈ results.values, ∀ field ∈ Field.defaultColumns,
          (JsonPrinter.recordValue zone record).memberText? field.memberName =
            some (record.renderField zone field).toList := by
  intro equal
  let record : FileRecord := { FileRecord.named "x" with size := 9223372036854775808 }
  have same := equal .universal .universal [] [record] (PathMap.empty.insert record.path record)
    rfl record List.mem_cons_self .fileSize (by decide)
  rw [FileRecord.toList_renderField_fileSize] at same
  have digits_eq : Decimal.digits (2 ^ 63) = Decimal.digits (2 ^ 63 - 1) := Option.some.inj same
  have := Decimal.digits_inj.1 digits_eq
  omega

end FileQuery
