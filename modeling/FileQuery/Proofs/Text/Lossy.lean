import FileQuery.Tree.Path

/-!
# Decoding around ASCII bytes

An ASCII byte never goes on with a character that started before it, so decoding commutes with
cutting bytes at any occurrence of one, whatever the bytes around it are. The text of a path in a
directory is for this reason the text of the directory followed by that of the name, and two names
in one directory give the same path text only if they give the same text themselves.
-/

namespace FileQuery.Text

/-- The bytes that stand for themselves in UTF-8. -/
def IsAscii (byte : UInt8) : Prop :=
  byte < 0x80

instance (byte : UInt8) : Decidable (IsAscii byte) :=
  inferInstanceAs (Decidable (byte < 0x80))

theorem continuationRanges_of_isAscii {byte : UInt8} (ascii : IsAscii byte) :
    continuationRanges byte = some [] := by
  unfold continuationRanges
  exact if_pos ascii

theorem lt_low_of_mem_continuationRanges {byte lead : UInt8} {ranges : List (UInt8 × UInt8)}
    {range : UInt8 × UInt8} (ascii : IsAscii byte)
    (table : continuationRanges lead = some ranges) (member : range ∈ ranges) :
    byte < range.1 := by
  have low : 0x80 ≤ range.1 := by
    unfold continuationRanges at table
    repeat' split at table
    all_goals cases table <;> grind [continuation]
  exact UInt8.lt_of_lt_of_le ascii low

theorem takeInRanges_append_cons {ranges : List (UInt8 × UInt8)} {byte : UInt8}
    (below : ∀ range ∈ ranges, byte < range.1) (front rest : Bytes) :
    takeInRanges ranges (front ++ byte :: rest) = takeInRanges ranges front := by
  induction front generalizing ranges with
  | nil =>
      cases ranges with
      | nil => rfl
      | cons range ranges =>
          have outside : ¬ range.1 ≤ byte := UInt8.not_le.2 (below range List.mem_cons_self)
          simp [takeInRanges, outside]
  | cons first front ih =>
      cases ranges with
      | nil => rfl
      | cons range ranges =>
          simp only [List.cons_append, takeInRanges]
          rw [ih fun other member => below other (List.mem_cons_of_mem range member)]

theorem length_takeInRanges_le (ranges : List (UInt8 × UInt8)) (bytes : Bytes) :
    (takeInRanges ranges bytes).length ≤ bytes.length := by
  induction bytes generalizing ranges with
  | nil => cases ranges <;> simp [takeInRanges]
  | cons byte bytes ih =>
      cases ranges with
      | nil => simp [takeInRanges]
      | cons range ranges =>
          simp only [takeInRanges]
          split
          · exact Nat.succ_le_succ (ih ranges)
          · exact Nat.zero_le _

theorem decode_cons_of_isAscii {byte : UInt8} (ascii : IsAscii byte) (rest : Bytes) :
    decode (byte :: rest) = assemble byte [] :: decode rest := by
  rw [decode, continuationRanges_of_isAscii ascii]
  simp [takeInRanges]

/-- Decoding commutes with cutting at an ASCII byte. The byte is below every range, so a character
that started before it ends before it. -/
theorem decode_append_cons {byte : UInt8} (ascii : IsAscii byte) (front rest : Bytes) :
    decode (front ++ byte :: rest) = decode front ++ assemble byte [] :: decode rest := by
  fun_induction decode front with
  | case1 => exact decode_cons_of_isAscii ascii rest
  | case2 lead bytes table ih =>
      rw [List.cons_append, decode, table]
      simp [ih]
  | case3 lead bytes ranges table following c ih =>
      have taken : takeInRanges ranges (bytes ++ byte :: rest) = following :=
        takeInRanges_append_cons
          (fun range member => lt_low_of_mem_continuationRanges ascii table member) bytes rest
      have short : following.length ≤ bytes.length := length_takeInRanges_le ranges bytes
      rw [List.cons_append, decode, table]
      simp only [taken, List.drop_append_of_le_length short, ih]
      rfl

end FileQuery.Text

namespace FileQuery.RawPath

open Text (Bytes)

/-- What stands before a name in the text of its path in a directory. -/
def prefixText (directory : RawPath) : List Char :=
  Text.decode (directory ++ separator directory)

theorem eq_nil_or_endsWithSlash (directory : RawPath) :
    directory ++ separator directory = [] ∨
      ∃ front, directory ++ separator directory = front ++ [slash] := by
  unfold separator
  split
  · rename_i bare
    rcases bare with rfl | ending
    · exact Or.inl rfl
    · rcases List.getLast?_eq_some_iff.1 ending with ⟨front, rfl⟩
      exact Or.inr ⟨front, List.append_nil _⟩
  · exact Or.inr ⟨directory, rfl⟩

theorem decode_join (directory : RawPath) (name : Bytes) :
    Text.decode (directory.join name) = directory.prefixText ++ Text.decode name := by
  unfold join prefixText
  rcases eq_nil_or_endsWithSlash directory with empty | ⟨front, ending⟩
  · simp [empty, Text.decode]
  · have ascii : Text.IsAscii slash := by decide
    rw [ending, List.append_assoc, List.singleton_append, Text.decode_append_cons ascii,
      Text.decode_append_cons ascii]
    simp [Text.decode]

theorem display_join_inj {directory : RawPath} {name name' : Bytes} :
    (directory.join name).display = (directory.join name').display ↔
      Text.decode name = Text.decode name' := by
  rw [display, display, String.ofList_inj, decode_join, decode_join, List.append_cancel_left_eq]

end FileQuery.RawPath
