import FileQuery.Filter.Like
import Mathlib

/-!
# Patterns and their search

The search remembers the last `%` alone and never returns to an earlier one. Nothing is lost by
that: behind an earlier `%` the pattern is a segment without `%` up to the last one, which takes as
many characters wherever it is matched. If the earlier `%` absorbed more, the last one would be left
with a shorter end of the text, and it can absorb the difference itself.

So a state stands for two ways to match: the pattern ahead matches the text ahead, or the last `%`
absorbs more. Each round keeps that one of them is open exactly if the whole pattern matches the
whole text.
-/

namespace FileQuery.Like

section Matching

variable {pattern text : List Char}

theorem matches_percent_iff :
    Matches ('%' :: pattern) text ↔ ∃ suffix, suffix <:+ text ∧ Matches pattern suffix := by
  simp [Matches]

theorem matches_cons_iff {p : Char} (ordinary : p ≠ '%') :
    Matches (p :: pattern) text ↔
      ∃ c rest, text = c :: rest ∧ (p = '_' ∨ p = c) ∧ Matches pattern rest := by
  simp [Matches, ordinary]

theorem matches_nil_right_iff : Matches pattern [] ↔ ∀ p ∈ pattern, p = '%' := by
  induction pattern with
  | nil => simp [Matches]
  | cons p pattern ih =>
      by_cases percent : p = '%'
      · subst percent
        simp [matches_percent_iff, ih]
      · simp [matches_cons_iff percent, percent]

/-- A `%` can absorb any characters before what it matches. -/
theorem Matches.of_suffix {suffix : List Char} (fits : Matches ('%' :: pattern) suffix)
    (isSuffix : suffix <:+ text) : Matches ('%' :: pattern) text := by
  rcases matches_percent_iff.1 fits with ⟨rest, isRest, fitsRest⟩
  exact matches_percent_iff.2 ⟨rest, isRest.trans isSuffix, fitsRest⟩

/-- A segment without `%` takes one character of the text for each of its own. -/
theorem Matches.drop_of_segment {segment : List Char} (noPercent : '%' ∉ segment)
    (fits : Matches (segment ++ pattern) text) :
    segment.length ≤ text.length ∧ Matches pattern (text.drop segment.length) := by
  induction segment generalizing text with
  | nil => simpa using fits
  | cons p segment ih =>
      rw [List.mem_cons, not_or] at noPercent
      rcases (matches_cons_iff (Ne.symm noPercent.1)).1 fits with ⟨c, rest, rfl, -, fitsRest⟩
      simpa using ih noPercent.2 fitsRest

end Matching

namespace State

variable (pattern text : Array Char) (state : State)

def patternAhead : List Char :=
  pattern.toList.drop state.patternIndex

def textAhead : List Char :=
  text.toList.drop state.textIndex

def afterPercent : State :=
  { state with
    patternIndex := state.patternIndex + 1
    backtrack := some (state.patternIndex + 1, state.textIndex) }

def afterCharacter : State :=
  { state with patternIndex := state.patternIndex + 1, textIndex := state.textIndex + 1 }

/-- The state in which the last `%` has absorbed one character more. -/
def absorbing (after absorbed : Nat) : State where
  patternIndex := after
  textIndex := absorbed + 1
  backtrack := some (after, absorbed + 1)

/-- The pattern ahead matches the text ahead. -/
def Fits : Prop :=
  Matches (state.patternAhead pattern) (state.textAhead text)

/-- The pattern after the last `%` matches what is left of the text if this `%` absorbs more. -/
def FitsLater : Prop :=
  ∃ after absorbed more, state.backtrack = some (after, absorbed) ∧ absorbed < more ∧
    more ≤ text.size ∧ Matches (pattern.toList.drop after) (text.toList.drop more)

end State

variable {pattern text : Array Char} {state : State}

/-- What a round does, by what is ahead of the state. -/
inductive Takes (pattern text : Array Char) (state : State) : Round → Prop where
  | finished (atEnd : state.textAhead text = []) :
      Takes pattern text state (.decided ((state.patternAhead pattern).all (· == '%')))
  | percent {rest : List Char} (notEnd : state.textIndex < text.size)
      (ahead : state.patternAhead pattern = '%' :: rest) :
      Takes pattern text state (.next state.afterPercent)
  | character {p c : Char} {rest textRest : List Char}
      (ahead : state.patternAhead pattern = p :: rest)
      (textAhead : state.textAhead text = c :: textRest)
      (ordinary : p ≠ '%') (fits : p = '_' ∨ p = c) :
      Takes pattern text state (.next state.afterCharacter)
  | absorb {after absorbed : Nat} (notEnd : state.textIndex < text.size)
      (stuck : ¬state.Fits pattern text) (remembered : state.backtrack = some (after, absorbed)) :
      Takes pattern text state (.next (.absorbing after absorbed))
  | refused (stuck : ¬state.Fits pattern text) (noPercent : state.backtrack = none) :
      Takes pattern text state (.decided false)

theorem drop_eq_cons {chars : Array Char} {index : Nat} {c : Char}
    (found : chars[index]? = some c) :
    chars.toList.drop index = c :: chars.toList.drop (index + 1) := by
  rcases Array.getElem?_eq_some_iff.1 found with ⟨inside, rfl⟩
  exact List.drop_eq_getElem_cons inside

theorem drop_eq_nil {chars : Array Char} {index : Nat} (found : chars[index]? = none) :
    chars.toList.drop index = [] := by
  rw [Array.getElem?_eq_none_iff] at found
  exact List.drop_eq_nil_of_le found

theorem drop_add_one_of_eq_cons {chars rest : List Char} {index : Nat} {c : Char}
    (ahead : chars.drop index = c :: rest) : chars.drop (index + 1) = rest := by
  rw [← List.tail_drop, ahead, List.tail_cons]

/-- A character that the pattern does not have next keeps it from matching. -/
theorem not_fits_of_mismatch {c : Char} (here : text[state.textIndex]? = some c)
    (noPercent : pattern[state.patternIndex]? ≠ some '%')
    (mismatch : ¬(pattern[state.patternIndex]? = some '_' ∨
      pattern[state.patternIndex]? = some c)) : ¬state.Fits pattern text := by
  unfold State.Fits State.patternAhead State.textAhead
  rw [drop_eq_cons here]
  cases ahead : pattern[state.patternIndex]? with
  | none => simp [drop_eq_nil ahead, Matches]
  | some p =>
      simp only [ahead, Option.some.injEq, ne_eq] at noPercent mismatch
      rw [drop_eq_cons ahead, matches_cons_iff noPercent]
      rintro ⟨_, _, same, fits, -⟩
      cases same
      exact mismatch fits

theorem takes_round (pattern text : Array Char) (state : State) :
    Takes pattern text state (round pattern text state) := by
  unfold round
  split
  · rename_i atEnd
    exact .finished (drop_eq_nil atEnd)
  · rename_i c here
    have notEnd := (Array.getElem?_eq_some_iff.1 here).1
    split
    · rename_i percent
      exact .percent notEnd (drop_eq_cons percent)
    · rename_i noPercent
      split
      · rename_i fits
        rcases fits with any | same
        · exact .character (drop_eq_cons any) (drop_eq_cons here) (by decide) (.inl rfl)
        · refine .character (drop_eq_cons same) (drop_eq_cons here) ?_ (.inr rfl)
          rintro rfl
          exact noPercent same
      · rename_i mismatch
        have stuck := not_fits_of_mismatch here noPercent mismatch
        split
        · rename_i noBacktrack
          exact .refused stuck noBacktrack
        · rename_i remembered
          exact .absorb notEnd stuck remembered

/-- The pattern behind the last `%` is a segment without `%` up to the state, which has taken the
text behind what this `%` absorbs; and one of the two ways to match is open exactly if the whole
pattern matches the whole text. -/
structure Tracks (pattern text : Array Char) (state : State) : Prop where
  exists_segment : ∀ after absorbed, state.backtrack = some (after, absorbed) →
    ∃ segment, '%' ∉ segment ∧
      pattern.toList.drop after = segment ++ state.patternAhead pattern ∧
      state.textIndex = absorbed + segment.length
  matches_iff : Matches pattern.toList text.toList ↔
    state.Fits pattern text ∨ state.FitsLater pattern text

theorem tracks_initial (pattern text : Array Char) : Tracks pattern text initial where
  exists_segment _ _ remembered := by cases remembered
  matches_iff := by simp [State.Fits, State.FitsLater, State.patternAhead, State.textAhead, initial]

/-- If the last `%` absorbs more, the pattern ahead is left with a shorter end of the text. -/
theorem Tracks.exists_shorter (tracks : Tracks pattern text state)
    (later : state.FitsLater pattern text) :
    ∃ rest, rest <:+ state.textAhead text ∧ rest.length < (state.textAhead text).length ∧
      Matches (state.patternAhead pattern) rest := by
  rcases later with ⟨after, absorbed, more, remembered, less, inside, fits⟩
  rcases tracks.exists_segment after absorbed remembered with
    ⟨segment, noPercent, between, taken⟩
  rw [between] at fits
  rcases fits.drop_of_segment noPercent with ⟨enough, fitsRest⟩
  rw [List.drop_drop] at fitsRest
  rw [List.length_drop] at enough
  have size_eq : text.toList.length = text.size := Array.length_toList
  refine ⟨text.toList.drop (more + segment.length), ?_, ?_, fitsRest⟩
  · have further : more + segment.length = state.textIndex + (more - absorbed) := by omega
    rw [State.textAhead, further, ← List.drop_drop]
    exact List.drop_suffix _ _
  · simp only [State.textAhead, List.length_drop]
    omega

theorem suffix_drop_iff {chars : List Char} {index : Nat} (inside : index ≤ chars.length)
    {suffix : List Char} :
    suffix <:+ chars.drop index ↔
      ∃ more, index ≤ more ∧ more ≤ chars.length ∧ suffix = chars.drop more := by
  constructor
  · intro isSuffix
    have shown := List.suffix_iff_eq_drop.1 isSuffix
    rw [List.drop_drop, List.length_drop] at shown
    exact ⟨_, by omega, by omega, shown⟩
  · rintro ⟨more, le, -, rfl⟩
    rw [show more = index + (more - index) by omega, ← List.drop_drop]
    exact List.drop_suffix _ _

/-- A new `%` takes over from the last one. -/
theorem Tracks.percent {rest : List Char} (tracks : Tracks pattern text state)
    (notEnd : state.textIndex < text.size) (ahead : state.patternAhead pattern = '%' :: rest) :
    Tracks pattern text state.afterPercent := by
  have rest_eq : pattern.toList.drop (state.patternIndex + 1) = rest :=
    drop_add_one_of_eq_cons ahead
  constructor
  · rintro _ _ ⟨⟩
    exact ⟨[], by simp, rfl, rfl⟩
  · have merged : Matches pattern.toList text.toList ↔ state.Fits pattern text := by
      rw [tracks.matches_iff, or_iff_left_of_imp]
      intro later
      rcases tracks.exists_shorter later with ⟨shorter, isSuffix, -, fits⟩
      unfold State.Fits
      rw [ahead] at fits ⊢
      exact fits.of_suffix isSuffix
    have inText : state.textIndex ≤ text.toList.length := notEnd.le
    rw [merged, State.Fits, ahead, matches_percent_iff, ← rest_eq]
    simp only [State.textAhead, suffix_drop_iff inText]
    constructor
    · rintro ⟨suffix, ⟨more, le, inside, rfl⟩, fits⟩
      rcases le.eq_or_lt with rfl | less
      · exact .inl fits
      · exact .inr ⟨_, _, more, rfl, less, inside, fits⟩
    · rintro (fits | ⟨_, _, more, ⟨⟩, less, inside, fits⟩)
      · exact ⟨_, ⟨state.textIndex, le_rfl, inText, rfl⟩, fits⟩
      · exact ⟨_, ⟨more, less.le, inside, rfl⟩, fits⟩

theorem Tracks.character {p c : Char} {rest textRest : List Char}
    (tracks : Tracks pattern text state) (ahead : state.patternAhead pattern = p :: rest)
    (textAhead : state.textAhead text = c :: textRest) (ordinary : p ≠ '%')
    (fits : p = '_' ∨ p = c) : Tracks pattern text state.afterCharacter := by
  have rest_eq : state.afterCharacter.patternAhead pattern = rest :=
    drop_add_one_of_eq_cons ahead
  have textRest_eq : state.afterCharacter.textAhead text = textRest :=
    drop_add_one_of_eq_cons textAhead
  constructor
  · intro after absorbed remembered
    rcases tracks.exists_segment after absorbed remembered with
      ⟨segment, noPercent, between, taken⟩
    refine ⟨segment ++ [p], by simp [noPercent, Ne.symm ordinary], ?_, ?_⟩
    · rw [between, ahead, rest_eq, List.append_assoc, List.singleton_append]
    · simp only [State.afterCharacter, taken, List.length_append, List.length_singleton]
      omega
  · rw [tracks.matches_iff]
    refine or_congr ?_ Iff.rfl
    rw [State.Fits, State.Fits, ahead, textAhead, rest_eq, textRest_eq, matches_cons_iff ordinary]
    constructor
    · rintro ⟨_, _, ⟨⟩, -, fitsRest⟩
      exact fitsRest
    · intro fitsRest
      exact ⟨c, textRest, rfl, fits, fitsRest⟩

theorem Tracks.absorb {after absorbed : Nat} (tracks : Tracks pattern text state)
    (notEnd : state.textIndex < text.size) (stuck : ¬state.Fits pattern text)
    (remembered : state.backtrack = some (after, absorbed)) :
    Tracks pattern text (.absorbing after absorbed) := by
  constructor
  · rintro _ _ ⟨⟩
    exact ⟨[], by simp, rfl, rfl⟩
  · rw [tracks.matches_iff, or_iff_right stuck]
    simp only [State.Fits, State.FitsLater, State.patternAhead, State.textAhead, remembered]
    constructor
    · rintro ⟨_, _, more, ⟨⟩, less, inside, fits⟩
      rcases (Nat.succ_le_of_lt less).eq_or_lt with rfl | further
      · exact .inl fits
      · exact .inr ⟨_, _, more, rfl, further, inside, fits⟩
    · rcases tracks.exists_segment after absorbed remembered with ⟨segment, -, -, taken⟩
      rintro (fits | ⟨_, _, more, ⟨⟩, less, inside, fits⟩)
      · exact ⟨after, absorbed, absorbed + 1, rfl, by omega, by omega, fits⟩
      · exact ⟨after, absorbed, more, rfl, by omega, inside, fits⟩

/-- A round that goes on keeps track of the match. -/
theorem Tracks.next {after : State} (tracks : Tracks pattern text state)
    (step : round pattern text state = .next after) : Tracks pattern text after := by
  have takes := takes_round pattern text state
  rw [step] at takes
  cases takes with
  | percent notEnd ahead => exact tracks.percent notEnd ahead
  | character ahead textAhead ordinary fits =>
      exact tracks.character ahead textAhead ordinary fits
  | absorb notEnd stuck remembered => exact tracks.absorb notEnd stuck remembered

/-- A round that decides answers whether the pattern matches. -/
theorem Tracks.decided {answer : Bool} (tracks : Tracks pattern text state)
    (step : round pattern text state = .decided answer) :
    answer = true ↔ Matches pattern.toList text.toList := by
  have takes := takes_round pattern text state
  rw [step] at takes
  rw [tracks.matches_iff]
  cases takes with
  | finished atEnd =>
      have notLater : ¬state.FitsLater pattern text := by
        intro later
        rcases tracks.exists_shorter later with ⟨rest, -, shorter, -⟩
        simp [atEnd] at shorter
      rw [or_iff_left notLater, State.Fits, atEnd, matches_nil_right_iff]
      simp
  | refused stuck noPercent =>
      simp [stuck, State.FitsLater, noPercent]

theorem search_eq_true_iff (sound : Sound pattern text state) (tracks : Tracks pattern text state) :
    search state sound = true ↔ Matches pattern.toList text.toList := by
  fun_induction search state sound with
  | case1 state sound answer step => exact tracks.decided step
  | case2 state sound after step ih => exact ih (tracks.next step)

/-- The search accepts exactly the texts that the pattern matches. -/
theorem accepts_eq_true_iff_matches (pattern text : List Char) :
    accepts pattern text = true ↔ Matches pattern text :=
  search_eq_true_iff _ (tracks_initial pattern.toArray text.toArray)

example : accepts ['%', '_', '%', 'b'] ['a', '%', 'a', 'b'] = true := by
  cbv

end FileQuery.Like
