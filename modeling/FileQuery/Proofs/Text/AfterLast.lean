import FileQuery.Proofs.Text.Encoding

/-!
# After the last sign

What follows the last occurrence of a sign in a list, and the extension of a name, which is what
follows its last dot. Decoding makes the character of an ASCII byte of this byte alone, so that the
extension of a decoded name is the decoded extension of its bytes, whatever stands next to the dot.
-/

namespace FileQuery.Text

/-- A part of a list is what follows the last occurrence of a sign. -/
def IsAfterLast {α : Type} (sign : α) (whole part : List α) : Prop :=
  sign ∉ part ∧ ∃ front, whole = front ++ sign :: part

/-- The extension of a name: what follows its last dot, or nothing if it has no dot. -/
inductive IsExtension {α : Type} (dot : α) (name : List α) : List α → Prop where
  | dotless (absent : dot ∉ name) : IsExtension dot name []
  | afterDot {extension : List α} (after : IsAfterLast dot name extension) :
      IsExtension dot name extension

section Cuts

variable {α : Type} {sign dot : α} {whole part part' name extension extension' : List α}

theorem IsAfterLast.mem (after : IsAfterLast sign whole part) : sign ∈ whole := by
  rcases after with ⟨-, front, rfl⟩
  exact List.mem_append_right front List.mem_cons_self

theorem exists_isAfterLast_of_mem (member : sign ∈ whole) :
    ∃ part, IsAfterLast sign whole part := by
  rcases List.eq_append_cons_of_mem (List.mem_reverse.2 member) with ⟨part, front, cut, absent⟩
  refine ⟨part.reverse, fun present => absent (List.mem_reverse.1 present), front.reverse, ?_⟩
  rw [← List.reverse_reverse whole, cut]
  simp

theorem IsAfterLast.eq_reverse_takeWhile [DecidableEq α] (after : IsAfterLast sign whole part) :
    part = (whole.reverse.takeWhile (· != sign)).reverse := by
  rcases after with ⟨absent, front, rfl⟩
  have kept : ∀ item ∈ part.reverse, (item != sign) = true := by
    intro item member
    rw [bne_iff_ne]
    rintro rfl
    exact absent (List.mem_reverse.1 member)
  rw [List.reverse_append, List.reverse_cons, List.append_assoc,
    List.takeWhile_append_of_pos kept]
  simp

theorem IsAfterLast.unique [DecidableEq α] (after : IsAfterLast sign whole part)
    (after' : IsAfterLast sign whole part') : part = part' := by
  rw [after.eq_reverse_takeWhile, after'.eq_reverse_takeWhile]

theorem IsExtension.unique [DecidableEq α] (ends : IsExtension dot name extension)
    (ends' : IsExtension dot name extension') : extension = extension' := by
  cases ends with
  | dotless absent =>
      cases ends' with
      | dotless => rfl
      | afterDot after' => exact absurd after'.mem absent
  | afterDot after =>
      cases ends' with
      | dotless absent' => exact absurd after.mem absent'
      | afterDot after' => exact after.unique after'

theorem exists_isExtension (dot : α) (name : List α) :
    ∃ extension, IsExtension dot name extension := by
  by_cases member : dot ∈ name
  · rcases exists_isAfterLast_of_mem member with ⟨extension, after⟩
    exact ⟨extension, .afterDot after⟩
  · exact ⟨[], .dotless member⟩

end Cuts

theorem afterLastDot_eq_iff {text extension : List Char} :
    afterLastDot text = extension ↔ IsExtension '.' text extension := by
  have ends : IsExtension '.' text (afterLastDot text) := by
    unfold afterLastDot
    split
    · rename_i dotted
      rcases exists_isAfterLast_of_mem (List.contains_iff_mem.1 dotted) with ⟨part, after⟩
      rw [← after.eq_reverse_takeWhile]
      exact .afterDot after
    · rename_i dotless
      exact .dotless fun member => dotless (List.contains_iff_mem.2 member)
  constructor
  · rintro rfl
    exact ends
  · exact ends.unique

section Decoding

variable {byte : UInt8} {whole part : Bytes}

theorem IsAfterLast.decode (ascii : IsAscii byte) (after : IsAfterLast byte whole part) :
    IsAfterLast (assemble byte []) (decode whole) (decode part) := by
  rcases after with ⟨absent, front, rfl⟩
  exact ⟨fun member => absent (mem_of_mem_decode ascii member), Text.decode front,
    decode_append_cons ascii front part⟩

theorem IsExtension.decode (ascii : IsAscii byte) (ends : IsExtension byte whole part) :
    IsExtension (assemble byte []) (decode whole) (decode part) := by
  cases ends with
  | dotless absent =>
      rw [Text.decode.eq_def []]
      exact .dotless fun member => absent (mem_of_mem_decode ascii member)
  | afterDot after => exact .afterDot (after.decode ascii)

theorem decode_eq_nil_iff : decode whole = [] ↔ whole = [] := by
  cases whole with
  | nil => simp [decode]
  | cons lead bytes =>
      rw [decode]
      split <;> simp

/-- A text ends in an ASCII character exactly when its bytes end in that of the character. -/
theorem getLast?_decode_eq_some_iff (ascii : IsAscii byte) :
    (decode whole).getLast? = some (assemble byte []) ↔ whole.getLast? = some byte := by
  constructor
  · intro last
    have member := mem_of_mem_decode ascii (List.mem_of_getLast? last)
    rcases exists_isAfterLast_of_mem member with ⟨part, absent, front, rfl⟩
    cases part with
    | nil => exact List.getLast?_concat
    | cons first part =>
        have onward : decode (first :: part) ≠ [] := by
          rw [ne_eq, decode_eq_nil_iff]
          exact List.cons_ne_nil first part
        rw [decode_append_cons ascii, List.append_cons, List.getLast?_append_of_ne_nil _ onward]
          at last
        exact absurd (mem_of_mem_decode ascii (List.mem_of_getLast? last)) absent
  · intro last
    rcases List.getLast?_eq_some_iff.1 last with ⟨front, rfl⟩
    rw [decode_append_cons ascii, decode, List.getLast?_concat]

end Decoding

end FileQuery.Text
