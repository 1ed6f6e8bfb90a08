/-!
# Patterns

In a pattern `%` stands for any run of characters, `_` for exactly one, and every other character
for itself. `Like.Matches` states this by recursion on the pattern.

`Like.accepts` decides it with two indices and one remembered place. When a `%` is passed it is
remembered together with the place in the text; when a character does not fit, the last `%`
absorbs one character more and matching goes on after it. The text index can move back, but the
remembered place only moves forward, and while it stays the pattern index grows; both are bounded
as long as the state is sound, so the search ends. As it goes back and forth in them, it sees
pattern and text as arrays.
-/

namespace FileQuery.Like

def Matches : (pattern text : List Char) → Prop
  | [], text => text = []
  | p :: pattern, text =>
      if p = '%' then ∃ suffix, suffix <:+ text ∧ Matches pattern suffix
      else ∃ c rest, text = c :: rest ∧ (p = '_' ∨ p = c) ∧ Matches pattern rest

/-- A state of the search: where it stands in pattern and text, and the index after the last `%`
with the index of the first text character that this `%` does not absorb. -/
structure State where
  patternIndex : Nat
  textIndex : Nat
  backtrack : Option (Nat × Nat)
  deriving DecidableEq, Repr

def initial : State where
  patternIndex := 0
  textIndex := 0
  backtrack := none

inductive Round where
  | next (state : State)
  | decided (answer : Bool)
  deriving DecidableEq, Repr

variable (pattern text : Array Char)

/-- One round: at the end of the text only `%` may be left; otherwise a `%` is passed, or one
character is matched, or the last `%` absorbs one character more. -/
def round (state : State) : Round :=
  match text[state.textIndex]? with
  | none => .decided ((pattern.toList.drop state.patternIndex).all (· == '%'))
  | some c =>
      if pattern[state.patternIndex]? = some '%' then
        .next { state with
          patternIndex := state.patternIndex + 1
          backtrack := some (state.patternIndex + 1, state.textIndex) }
      else if pattern[state.patternIndex]? = some '_' ∨ pattern[state.patternIndex]? = some c then
        .next { state with
          patternIndex := state.patternIndex + 1
          textIndex := state.textIndex + 1 }
      else
        match state.backtrack with
        | none => .decided false
        | some (after, absorbed) =>
            .next { patternIndex := after, textIndex := absorbed + 1,
                    backtrack := some (after, absorbed + 1) }

/-- The indices are in range, and the remembered place is after a `%` that was passed. -/
structure Sound (state : State) : Prop where
  patternIndex_le : state.patternIndex ≤ pattern.size
  textIndex_le : state.textIndex ≤ text.size
  backtrack_le : ∀ after absorbed, state.backtrack = some (after, absorbed) →
    1 ≤ after ∧ after ≤ state.patternIndex ∧ pattern[after - 1]? = some '%' ∧
      absorbed ≤ state.textIndex

theorem sound_initial : Sound pattern text initial :=
  ⟨Nat.zero_le _, Nat.zero_le _, fun _ _ remembered => by cases remembered⟩

/-- How much of the text the last `%` can still absorb; one more than all of it before any `%`. -/
def State.absorbable (state : State) : Nat :=
  match state.backtrack with
  | none => text.size + 1
  | some (_, absorbed) => text.size - absorbed

def State.ahead (state : State) : Nat :=
  pattern.size - state.patternIndex

variable {pattern text}

theorem Sound.next {state after : State} (sound : Sound pattern text state)
    (step : round pattern text state = .next after) : Sound pattern text after := by
  unfold round at step
  split at step
  · cases step
  · rename_i c atText
    have textIndex_lt := (Array.getElem?_eq_some_iff.1 atText).1
    split at step
    · rename_i percent
      have patternIndex_lt := (Array.getElem?_eq_some_iff.1 percent).1
      cases step
      refine ⟨patternIndex_lt, sound.textIndex_le, fun after absorbed remembered => ?_⟩
      cases remembered
      exact ⟨by omega, Nat.le_refl _, by simpa using percent, Nat.le_refl _⟩
    · split at step
      · rename_i fits
        have patternIndex_lt : state.patternIndex < pattern.size := by
          rcases fits with fits | fits <;> exact (Array.getElem?_eq_some_iff.1 fits).1
        cases step
        refine ⟨patternIndex_lt, textIndex_lt, fun after absorbed remembered => ?_⟩
        obtain ⟨positive, le, percent, absorbed_le⟩ := sound.backtrack_le after absorbed remembered
        exact ⟨positive, Nat.le_succ_of_le le, percent, Nat.le_succ_of_le absorbed_le⟩
      · split at step
        · cases step
        · rename_i after absorbed remembered
          obtain ⟨positive, le, percent, absorbed_le⟩ :=
            sound.backtrack_le after absorbed remembered
          cases step
          refine ⟨Nat.le_trans le sound.patternIndex_le, by simp only; omega, ?_⟩
          intro after' absorbed' remembered'
          cases remembered'
          exact ⟨positive, Nat.le_refl _, percent, Nat.le_refl _⟩

/-- A round that goes on makes progress: the last `%` can absorb less, or else it can absorb no
more than before and less of the pattern is ahead. -/
theorem Sound.decreases {state after : State} (sound : Sound pattern text state)
    (step : round pattern text state = .next after) :
    Prod.Lex (· < ·) (· < ·) (after.absorbable text, after.ahead pattern)
      (state.absorbable text, state.ahead pattern) := by
  unfold round at step
  split at step
  · cases step
  · rename_i c atText
    have textIndex_lt := (Array.getElem?_eq_some_iff.1 atText).1
    split at step
    · rename_i percent
      have patternIndex_lt := (Array.getElem?_eq_some_iff.1 percent).1
      cases step
      have less : state.absorbable text = text.size - state.textIndex ∨
          text.size - state.textIndex < state.absorbable text := by
        unfold State.absorbable
        split
        · right; omega
        · rename_i after absorbed remembered
          have := (sound.backtrack_le after absorbed remembered).2.2.2
          omega
      rcases less with same | less
      · rw [same]
        exact .right _ (by simp only [State.ahead]; omega)
      · exact .left _ _ less
    · split at step
      · rename_i fits
        have patternIndex_lt : state.patternIndex < pattern.size := by
          rcases fits with fits | fits <;> exact (Array.getElem?_eq_some_iff.1 fits).1
        cases step
        exact .right _ (by simp only [State.ahead]; omega)
      · split at step
        · cases step
        · rename_i after absorbed remembered
          have absorbed_le := (sound.backtrack_le after absorbed remembered).2.2.2
          cases step
          refine .left _ _ ?_
          simp only [State.absorbable, remembered]
          omega

def search (state : State) (sound : Sound pattern text state) : Bool :=
  match step : round pattern text state with
  | .decided answer => answer
  | .next after => search after (sound.next step)
termination_by (state.absorbable text, state.ahead pattern)
decreasing_by exact sound.decreases step

def accepts (pattern text : List Char) : Bool :=
  search initial (sound_initial pattern.toArray text.toArray)

end FileQuery.Like
