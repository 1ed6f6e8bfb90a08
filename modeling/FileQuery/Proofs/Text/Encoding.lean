import FileQuery.Proofs.Text.Lossy
import FileQuery.Text.Blank
import Mathlib

/-!
# Texts and their encodings

A text in UTF-8 is read back as itself, whatever bytes follow it, so one text is the start of
another exactly if its bytes are. The length of a text in bytes is the length of its encoding, and a
text can be cut wherever the encoding of some of its characters ends. In the other direction a
decoded text holds an ASCII character only where the decoded bytes do.

A character takes one to four bytes, and `Spells` says what reading needs of them: the lead byte
announces the others, and together they make the character.
-/

namespace FileQuery.Text

theorem encode_append (left right : List Char) :
    encode (left ++ right) = encode left ++ encode right :=
  List.flatMap_append

theorem length_encode (text : List Char) : (encode text).length = byteLength text := by
  induction text with
  | nil => rfl
  | cons c text ih =>
      rw [byteLength_cons, ← ih, ← String.length_utf8EncodeChar]
      exact List.length_append

theorem byteLength_eq_zero_iff {text : List Char} : byteLength text = 0 ↔ text = [] := by
  cases text with
  | nil => simp
  | cons c text =>
      have positive := c.utf8Size_pos
      simp only [byteLength_cons, reduceCtorEq, iff_false]
      omega

/-- A blank takes one byte. -/
theorem byteLength_eq_length_of_blank {run : List Char}
    (blank : ∀ c ∈ run, isBlank c = true) : byteLength run = run.length := by
  induction run with
  | nil => rfl
  | cons c run ih =>
      rcases List.forall_mem_cons.mp blank with ⟨first, others⟩
      have single : c.utf8Size = 1 := by
        simp only [isBlank, Bool.or_eq_true, beq_iff_eq] at first
        rcases first with ((rfl | rfl) | rfl) | rfl <;> rfl
      rw [byteLength_cons, single, ih others, List.length_cons, Nat.add_comm]

theorem utf8ByteSize_ofList (text : List Char) :
    (String.ofList text).utf8ByteSize = byteLength text := by
  rw [String.utf8ByteSize_ofList]
  induction text with
  | nil => rfl
  | cons c text ih => rw [String.utf8Len_cons, ih, byteLength_cons, Nat.add_comm]

/-- The byte length of the first part of a text is a place between two of its characters. -/
theorem isValid_byteLength (front rest : List Char) :
    String.Pos.Raw.IsValid (String.ofList (front ++ rest)) ⟨byteLength front⟩ := by
  rw [String.Pos.Raw.isValid_iff_exists_append]
  refine ⟨String.ofList front, String.ofList rest, String.ofList_append, ?_⟩
  rw [← utf8ByteSize_ofList]
  rfl

/-- The bytes lie in the ranges one by one. -/
abbrev Within : List (UInt8 × UInt8) → Bytes → Prop :=
  List.Forall₂ fun range byte => range.1 ≤ byte ∧ byte ≤ range.2

/-- A lead byte announces the bytes after it, and they make the character together. -/
def Spells (lead : UInt8) (following : Bytes) (c : Char) : Prop :=
  ∃ ranges, continuationRanges lead = some ranges ∧ Within ranges following ∧
    assemble lead following = c

section Assembly

variable (lead first second third : UInt8)

theorem assemble_one : assemble lead [] = Char.ofNat (lead.toNat % 128) := rfl

theorem assemble_two :
    assemble lead [first] = Char.ofNat (lead.toNat % 32 * 64 + first.toNat % 64) := rfl

theorem assemble_three :
    assemble lead [first, second] =
      Char.ofNat ((lead.toNat % 16 * 64 + first.toNat % 64) * 64 + second.toNat % 64) := rfl

theorem assemble_four :
    assemble lead [first, second, third] =
      Char.ofNat (((lead.toNat % 8 * 64 + first.toNat % 64) * 64 + second.toNat % 64) * 64 +
        third.toNat % 64) := rfl

end Assembly

section Announcement

variable {lead : Nat}

theorem continuationRanges_of_two (low : 0xc2 ≤ lead) (high : lead < 0xe0) :
    continuationRanges (UInt8.ofNat lead) = some [continuation] := by
  interval_cases lead <;> rfl

theorem continuationRanges_of_three (low : 0xe0 ≤ lead) (high : lead < 0xf0) :
    continuationRanges (UInt8.ofNat lead) =
      some [if lead = 0xe0 then (0xa0, 0xbf) else if lead = 0xed then (0x80, 0x9f)
        else continuation, continuation] := by
  interval_cases lead <;> rfl

theorem continuationRanges_of_four (low : 0xf0 ≤ lead) (high : lead < 0xf5) :
    continuationRanges (UInt8.ofNat lead) =
      some [if lead = 0xf0 then (0x90, 0xbf) else if lead = 0xf4 then (0x80, 0x8f)
        else continuation, continuation, continuation] := by
  interval_cases lead <;> rfl

end Announcement

theorem ofNat_between {byte : Nat} (low high : Nat) (above : low ≤ byte) (below : byte ≤ high)
    (small : high < 256) :
    UInt8.ofNat low ≤ UInt8.ofNat byte ∧ UInt8.ofNat byte ≤ UInt8.ofNat high := by
  simp only [UInt8.le_iff_toNat_le, UInt8.toNat_ofNat']
  omega

theorem within_continuation (bits : Nat) :
    continuation.1 ≤ UInt8.ofNat (bits % 64 + 128) ∧
      UInt8.ofNat (bits % 64 + 128) ≤ continuation.2 :=
  ofNat_between 0x80 0xbf (by omega) (by omega) (by decide)

section Spelling

variable {code : Nat}

theorem spells_of_one (high : code ≤ 0x7f) :
    Spells (UInt8.ofNat code) [] (Char.ofNat code) := by
  refine ⟨[], ?_, .nil, ?_⟩
  · apply continuationRanges_of_isAscii
    simp only [IsAscii, UInt8.lt_iff_toNat_lt, UInt8.toNat_ofNat', UInt8.toNat_ofNat]
    omega
  · rw [assemble_one, UInt8.toNat_ofNat']
    congr 1
    omega

theorem spells_of_two (low : 0x7f < code) (high : code ≤ 0x7ff) :
    Spells (UInt8.ofNat (code / 64 % 32 + 192)) [UInt8.ofNat (code % 64 + 128)]
      (Char.ofNat code) := by
  refine ⟨_, continuationRanges_of_two ?_ ?_, .cons (within_continuation code) .nil, ?_⟩
  · omega
  · omega
  · rw [assemble_two]
    simp only [UInt8.toNat_ofNat']
    congr 1
    omega

/-- Overlong forms and surrogates are excluded by the range of the first continuation byte. -/
theorem spells_of_three (low : 0x7ff < code) (high : code ≤ 0xffff)
    (valid : code < 0xd800 ∨ 0xdfff < code) :
    Spells (UInt8.ofNat (code / 4096 % 16 + 224))
      [UInt8.ofNat (code / 64 % 64 + 128), UInt8.ofNat (code % 64 + 128)] (Char.ofNat code) := by
  refine ⟨_, continuationRanges_of_three ?_ ?_,
    .cons ?_ (.cons (within_continuation code) .nil), ?_⟩
  · omega
  · omega
  · split_ifs
    · exact ofNat_between 0xa0 0xbf (by omega) (by omega) (by decide)
    · exact ofNat_between 0x80 0x9f (by omega) (by omega) (by decide)
    · exact within_continuation (code / 64)
  · rw [assemble_three]
    simp only [UInt8.toNat_ofNat']
    congr 1
    omega

theorem spells_of_four (low : 0xffff < code) (high : code < 0x110000) :
    Spells (UInt8.ofNat (code / 262144 % 8 + 240))
      [UInt8.ofNat (code / 4096 % 64 + 128), UInt8.ofNat (code / 64 % 64 + 128),
        UInt8.ofNat (code % 64 + 128)] (Char.ofNat code) := by
  refine ⟨_, continuationRanges_of_four ?_ ?_,
    .cons ?_ (.cons (within_continuation (code / 64)) (.cons (within_continuation code) .nil)), ?_⟩
  · omega
  · omega
  · split_ifs
    · exact ofNat_between 0x90 0xbf (by omega) (by omega) (by decide)
    · exact ofNat_between 0x80 0x8f (by omega) (by omega) (by decide)
    · exact within_continuation (code / 4096)
  · rw [assemble_four]
    simp only [UInt8.toNat_ofNat']
    congr 1
    omega

end Spelling

theorem exists_spells_eq_encodeChar (c : Char) :
    ∃ lead following, String.utf8EncodeChar c = lead :: following ∧ Spells lead following c := by
  have valid : c.val.toNat < 0xd800 ∨ 0xdfff < c.val.toNat ∧ c.val.toNat < 0x110000 := c.valid
  have assembled : Char.ofNat c.val.toNat = c := c.ofNat_toNat
  unfold String.utf8EncodeChar
  generalize c.val.toNat = code at valid assembled
  subst assembled
  dsimp only
  split_ifs with one two three
  · exact ⟨_, _, rfl, spells_of_one one⟩
  · exact ⟨_, _, rfl, spells_of_two (by omega) two⟩
  · exact ⟨_, _, rfl, spells_of_three (by omega) three (by omega)⟩
  · exact ⟨_, _, rfl, spells_of_four (by omega) (by omega)⟩

theorem takeInRanges_of_within {ranges : List (UInt8 × UInt8)} {following : Bytes}
    (within : Within ranges following) (rest : Bytes) :
    takeInRanges ranges (following ++ rest) = following := by
  induction within with
  | nil => cases rest <;> rfl
  | cons inside within ih => rw [List.cons_append, takeInRanges, if_pos inside, ih]

theorem decode_of_spells {lead : UInt8} {following : Bytes} {c : Char}
    (spells : Spells lead following c) (rest : Bytes) :
    decode (lead :: (following ++ rest)) = c :: decode rest := by
  rcases spells with ⟨ranges, table, within, rfl⟩
  have taken := takeInRanges_of_within within rest
  have complete : following.length = ranges.length := within.length_eq.symm
  rw [decode, table]
  simp only [taken, if_pos complete, List.drop_left]

/-- A text at the start of some bytes is read as itself, whatever follows it. -/
theorem decode_encode_append (text : List Char) (rest : Bytes) :
    decode (encode text ++ rest) = text ++ decode rest := by
  induction text with
  | nil => rfl
  | cons c text ih =>
      rcases exists_spells_eq_encodeChar c with ⟨lead, following, encoded, spells⟩
      have shape : encode (c :: text) ++ rest = lead :: (following ++ (encode text ++ rest)) := by
        rw [encode, List.flatMap_cons, encoded, List.append_assoc, List.cons_append]
        rfl
      rw [shape, decode_of_spells spells, ih, List.cons_append]

theorem decode_encode (text : List Char) : decode (encode text) = text := by
  have whole := decode_encode_append text []
  rwa [List.append_nil, decode, List.append_nil] at whole

theorem encode_prefix_iff {left right : List Char} :
    encode left <+: encode right ↔ left <+: right := by
  constructor
  · rintro ⟨rest, whole⟩
    refine ⟨decode rest, ?_⟩
    rw [← decode_encode_append, whole, decode_encode]
  · rintro ⟨rest, rfl⟩
    exact ⟨encode rest, (encode_append left rest).symm⟩

theorem within_takeInRanges {ranges : List (UInt8 × UInt8)} {bytes : Bytes}
    (complete : (takeInRanges ranges bytes).length = ranges.length) :
    Within ranges (takeInRanges ranges bytes) := by
  induction ranges generalizing bytes with
  | nil => cases bytes <;> exact .nil
  | cons range ranges ih =>
      cases bytes with
      | nil => simp [takeInRanges] at complete
      | cons byte bytes =>
          rw [takeInRanges] at complete ⊢
          split at complete
          · rename_i inside
            rw [if_pos inside]
            exact .cons inside (ih (Nat.succ.inj complete))
          · simp at complete

/-- The table of lead bytes, ordered by how many bytes follow. -/
theorem continuationRanges_eq_some_cases {lead : UInt8} {ranges : List (UInt8 × UInt8)}
    (table : continuationRanges lead = some ranges) :
    lead.toNat < 0x80 ∧ ranges = [] ∨
      (0xc2 ≤ lead.toNat ∧ lead.toNat < 0xe0) ∧ ranges = [continuation] ∨
      (0xe0 ≤ lead.toNat ∧ lead.toNat < 0xf0) ∧
        ranges = [if lead.toNat = 0xe0 then (0xa0, 0xbf) else if lead.toNat = 0xed then (0x80, 0x9f)
          else continuation, continuation] ∨
      (0xf0 ≤ lead.toNat ∧ lead.toNat < 0xf5) ∧
        ranges = [if lead.toNat = 0xf0 then (0x90, 0xbf) else if lead.toNat = 0xf4 then (0x80, 0x8f)
          else continuation, continuation, continuation] := by
  simp only [continuationRanges, UInt8.lt_iff_toNat_lt, ← UInt8.toNat_inj,
    UInt8.toNat_ofNat] at table
  repeat' split at table
  all_goals cases table
  all_goals grind

/-- No character of several bytes is an ASCII character. -/
theorem assemble_ne_of_within {lead first : UInt8} {ranges : List (UInt8 × UInt8)}
    {following : Bytes} {c : Char} (table : continuationRanges lead = some ranges)
    (within : Within ranges (first :: following)) (ascii : c.toNat < 0x80) :
    assemble lead (first :: following) ≠ c := by
  intro assembled
  have code := congrArg Char.toNat assembled
  rcases continuationRanges_eq_some_cases table with
    ⟨-, rfl⟩ | ⟨bounds, rfl⟩ | ⟨bounds, rfl⟩ | ⟨bounds, rfl⟩
  · cases within
  · rcases within with _ | ⟨inside, _ | _⟩
    rw [assemble_two, Char.toNat_ofNat] at code
    simp only [UInt8.le_iff_toNat_le] at inside
    split_ifs at code <;> simp [continuation] at inside <;> omega
  · rcases within with _ | ⟨inside, _ | ⟨-, _ | _⟩⟩
    rw [assemble_three, Char.toNat_ofNat] at code
    simp only [UInt8.le_iff_toNat_le] at inside
    split_ifs at inside code <;> simp [continuation] at inside <;> omega
  · rcases within with _ | ⟨inside, _ | ⟨-, _ | ⟨-, _ | _⟩⟩⟩
    rw [assemble_four, Char.toNat_ofNat] at code
    simp only [UInt8.le_iff_toNat_le] at inside
    split_ifs at inside code <;> simp [continuation] at inside <;> omega

theorem toNat_assemble_of_isAscii {byte : UInt8} (ascii : IsAscii byte) :
    (assemble byte []).toNat = byte.toNat := by
  have low : byte.toNat < 0x80 := UInt8.lt_iff_toNat_lt.mp ascii
  have valid : byte.toNat.isValidChar := Or.inl (low.trans (by decide))
  have bits : byte.toNat % 128 = byte.toNat := Nat.mod_eq_of_lt low
  rw [assemble_one, bits, Char.toNat_ofNat, if_pos valid]

/-- An ASCII character is made of its own byte alone. -/
theorem lead_eq_of_assemble_eq {lead byte : UInt8} {ranges : List (UInt8 × UInt8)}
    {following : Bytes} (ascii : IsAscii byte) (table : continuationRanges lead = some ranges)
    (within : Within ranges following) (assembled : assemble lead following = assemble byte []) :
    lead = byte := by
  have number := toNat_assemble_of_isAscii ascii
  have low : byte.toNat < 0x80 := UInt8.lt_iff_toNat_lt.mp ascii
  cases following with
  | nil =>
      cases within
      rcases continuationRanges_eq_some_cases table with ⟨single, -⟩ | ⟨-, many⟩ | ⟨-, many⟩ |
        ⟨-, many⟩
      · have same := congrArg Char.toNat assembled
        rw [toNat_assemble_of_isAscii (UInt8.lt_iff_toNat_lt.mpr single), number] at same
        exact UInt8.toNat_inj.mp same
      all_goals simp at many
  | cons first following =>
      exact absurd assembled (assemble_ne_of_within table within (by omega))

/-- An ASCII character of a decoded text is a byte of what was decoded. -/
theorem mem_of_mem_decode {byte : UInt8} {bytes : Bytes} (ascii : IsAscii byte)
    (member : assemble byte [] ∈ decode bytes) : byte ∈ bytes := by
  have other : assemble byte [] ≠ replacement := by
    intro same
    have large : (assemble byte []).toNat = 0xfffd := congrArg Char.toNat same
    have low : byte.toNat < 0x80 := UInt8.lt_iff_toNat_lt.mp ascii
    rw [toNat_assemble_of_isAscii ascii] at large
    omega
  fun_induction decode bytes with
  | case1 => simp at member
  | case2 lead bytes table ih =>
      rcases List.mem_cons.mp member with here | later
      · contradiction
      · exact List.mem_cons_of_mem lead (ih later)
  | case3 lead bytes ranges table following c ih =>
      rcases List.mem_cons.mp member with here | later
      · have complete : following.length = ranges.length := by
          by_contra short
          exact other (here.trans (if_neg short))
        have assembled : assemble lead following = assemble byte [] :=
          (here.trans (if_pos complete)).symm
        rw [lead_eq_of_assemble_eq ascii table (within_takeInRanges complete) assembled]
        exact List.mem_cons_self
      · exact List.mem_cons_of_mem lead (List.mem_of_mem_drop (ih later))

end FileQuery.Text
