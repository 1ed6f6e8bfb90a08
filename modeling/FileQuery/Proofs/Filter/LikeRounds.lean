import FileQuery.Filter.Like
import Mathlib.Data.Prod.Basic

/-!
# Rounds of the search

How long the search for a pattern takes, and what it reads. Every state that its rounds lead to is
sound, so that a round reads pattern and text in range, also where it cuts the pattern off at the
end of the text. Although the text index can move back, `State.rank` falls with every round: what
the last `%` can still absorb counts more than all that is ahead of the pattern index. It starts
below the product of the two lengths, each a little enlarged, which bounds the number of rounds.
-/

namespace FileQuery.Like

variable {pattern text : Array Char} {state after : State}

section Reading

variable (pattern text : Array Char)

/-- The pattern from an index on, which must be one of its own or the one behind the last. -/
def from? (index : Nat) : Option (List Char) :=
  if index ≤ pattern.size then some (pattern.toList.drop index) else none

/-- Whether a `%` is next in the pattern, which is only looked at before its end. -/
def isPercent? (index : Nat) : Option Bool :=
  if index < pattern.size then pattern[index]?.map (· == '%') else some false

/-- Whether the next character of the pattern stands for that of the text. The text is only looked
at for a character that does not stand for all. -/
def fits? (patternIndex textIndex : Nat) : Option Bool :=
  if patternIndex < pattern.size then
    pattern[patternIndex]?.bind fun p =>
      if p = '_' then some true else text[textIndex]?.map (p == ·)
  else
    some false

/-- A round that has no outcome when it reads the pattern or the text out of range. -/
def round? (state : State) : Option Round :=
  if state.textIndex < text.size then do
    if ← isPercent? pattern state.patternIndex then
      some (.next { state with
        patternIndex := state.patternIndex + 1
        backtrack := some (state.patternIndex + 1, state.textIndex) })
    else if ← fits? pattern text state.patternIndex state.textIndex then
      some (.next { state with
        patternIndex := state.patternIndex + 1
        textIndex := state.textIndex + 1 })
    else
      match state.backtrack with
      | none => some (.decided false)
      | some (after, absorbed) =>
          some (.next { patternIndex := after, textIndex := absorbed + 1,
                        backtrack := some (after, absorbed + 1) })
  else do
    let rest ← from? pattern state.patternIndex
    some (.decided (rest.all (· == '%')))

theorem isPercent?_eq (index : Nat) :
    isPercent? pattern index = some (decide (pattern[index]? = some '%')) := by
  unfold isPercent?
  split
  · rename_i inside
    simp [Array.getElem?_eq_getElem inside, beq_eq_decide]
  · rename_i outside
    simp [Array.getElem?_eq_none (Nat.le_of_not_lt outside)]

variable {text}

theorem fits?_eq (patternIndex : Nat) {textIndex : Nat} {c : Char}
    (here : text[textIndex]? = some c) :
    fits? pattern text patternIndex textIndex =
      some (decide (pattern[patternIndex]? = some '_' ∨ pattern[patternIndex]? = some c)) := by
  unfold fits?
  split
  · rename_i inside
    by_cases any : pattern[patternIndex] = '_'
    · simp [Array.getElem?_eq_getElem inside, any]
    · simp [Array.getElem?_eq_getElem inside, here, any, beq_eq_decide]
  · rename_i outside
    simp [Array.getElem?_eq_none (Nat.le_of_not_lt outside)]

end Reading

/-- From a sound state, a round reads nothing out of range. -/
theorem Sound.round?_eq (sound : Sound pattern text state) :
    round? pattern text state = some (round pattern text state) := by
  cases here : text[state.textIndex]? with
  | none =>
      have atEnd : ¬state.textIndex < text.size :=
        Nat.not_lt.2 (Array.getElem?_eq_none_iff.1 here)
      simp [round?, round, atEnd, from?, sound.patternIndex_le]
  | some c =>
      have notEnd := (Array.getElem?_eq_some_iff.1 here).1
      simp only [round?, round, here, notEnd, if_true, isPercent?_eq,
        fits?_eq pattern state.patternIndex here, Option.bind_eq_bind, Option.bind_some,
        decide_eq_true_eq]
      split
      · rfl
      · split
        · rfl
        · cases state.backtrack <;> rfl

/-- What is left to do, as a number: what the last `%` can absorb, and then what is ahead in the
pattern. -/
def State.rank (pattern text : Array Char) (state : State) : Nat :=
  state.absorbable text * (pattern.size + 1) + state.ahead pattern

theorem State.ahead_le (pattern : Array Char) (state : State) :
    state.ahead pattern ≤ pattern.size :=
  Nat.sub_le _ _

theorem Sound.rank_lt (sound : Sound pattern text state)
    (step : round pattern text state = .next after) :
    after.rank pattern text < state.rank pattern text := by
  have ahead_le := after.ahead_le pattern
  unfold State.rank
  rcases Prod.lex_iff.1 (sound.decreases step) with absorbs | ⟨same, shorter⟩
  · have absorbs : after.absorbable text + 1 ≤ state.absorbable text := absorbs
    have product := Nat.mul_le_mul_right (pattern.size + 1) absorbs
    rw [Nat.succ_mul] at product
    omega
  · have same : after.absorbable text = state.absorbable text := same
    rw [same]
    exact Nat.add_lt_add_left shorter _

/-- The states that rounds lead to from the start, with the number of rounds. -/
inductive Reached (pattern text : Array Char) : Nat → State → Prop where
  | start : Reached pattern text 0 initial
  | next {count : Nat} {state after : State} (reached : Reached pattern text count state)
      (step : round pattern text state = .next after) : Reached pattern text (count + 1) after

theorem Reached.sound {count : Nat} (reached : Reached pattern text count state) :
    Sound pattern text state := by
  induction reached with
  | start => exact sound_initial pattern text
  | next reached step ih => exact ih.next step

/-- With each round behind, one less can be ahead. -/
theorem Reached.add_rank_le {count : Nat} (reached : Reached pattern text count state) :
    count + state.rank pattern text ≤ initial.rank pattern text := by
  induction reached with
  | start => exact Nat.le_of_eq (Nat.zero_add _)
  | next reached step ih =>
      have less := reached.sound.rank_lt step
      omega

theorem rank_initial_lt (pattern text : Array Char) :
    initial.rank pattern text < (text.size + 2) * (pattern.size + 1) := by
  have absorbable_eq : initial.absorbable text = text.size + 1 := rfl
  have ahead_le := initial.ahead_le pattern
  rw [State.rank, absorbable_eq, Nat.succ_mul (text.size + 1)]
  omega

/-- The rounds from a state on lead to the decision that the search answers with. -/
theorem Reached.exists_decided {count : Nat} (reached : Reached pattern text count state)
    (sound : Sound pattern text state) :
    ∃ last final, Reached pattern text last final ∧
      round pattern text final = .decided (search state sound) := by
  fun_induction search state sound generalizing count with
  | case1 state sound answer step => exact ⟨count, state, reached, step⟩
  | case2 state sound after step ih => exact ih (reached.next step)

/-- Every state that the rounds of a search lead to is sound: its indices are in range, and its
remembered place is behind a `%` that was passed. Its round reads pattern and text in range, lowers
the rank unless it decides, and is one of a bounded number; and some round decides, with the answer
of the search. -/
theorem rounds_in_bounds (pattern text : List Char) :
    (∀ count state, Reached pattern.toArray text.toArray count state →
      Sound pattern.toArray text.toArray state ∧
      round? pattern.toArray text.toArray state =
        some (round pattern.toArray text.toArray state) ∧
      (∀ after, round pattern.toArray text.toArray state = .next after →
        after.rank pattern.toArray text.toArray < state.rank pattern.toArray text.toArray) ∧
      count < (text.length + 2) * (pattern.length + 1)) ∧
    ∃ count state, Reached pattern.toArray text.toArray count state ∧
      round pattern.toArray text.toArray state = .decided (accepts pattern text) := by
  constructor
  · intro count state reached
    have sound := reached.sound
    refine ⟨sound, sound.round?_eq, fun after step => sound.rank_lt step, ?_⟩
    calc count ≤ initial.rank pattern.toArray text.toArray :=
          Nat.le_of_add_right_le reached.add_rank_le
      _ < (text.length + 2) * (pattern.length + 1) := rank_initial_lt pattern.toArray text.toArray
  · exact Reached.start.exists_decided (sound_initial pattern.toArray text.toArray)

/-- The text index can move back, here from 2 to 1. -/
example :
    round #['%', 'a', 'a', 'b'] #['a', 'a', 'a', 'b']
        { patternIndex := 3, textIndex := 2, backtrack := some (1, 0) } =
      .next { patternIndex := 1, textIndex := 1, backtrack := some (1, 1) } := by
  decide

end FileQuery.Like
