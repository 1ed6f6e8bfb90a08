import FileQuery.Run.Event

/-!
# Computations that record events

A traced computation has an outcome, which may be an error, and the events that happened up to
it. Events of steps before an error are kept. `outcome_bind` says that recording events does not
change what is computed.
-/

namespace FileQuery

/-- An outcome together with the events on the way to it, in order. -/
structure Traced (ε α : Type) where
  events : List Event
  outcome : Except ε α

namespace Traced

variable {ε ε' α β : Type}

protected def pure (value : α) : Traced ε α where
  events := []
  outcome := .ok value

/-- A computation followed by another one that depends on its result. -/
protected def bind (first : Traced ε α) (next : α → Traced ε β) : Traced ε β :=
  match first.outcome with
  | .error error => { events := first.events, outcome := .error error }
  | .ok value =>
      { events := first.events ++ (next value).events, outcome := (next value).outcome }

instance : Monad (Traced ε) where
  pure := Traced.pure
  bind := Traced.bind

def emit (event : Event) : Traced ε Unit where
  events := [event]
  outcome := .ok ()

def emitAll (events : List Event) : Traced ε Unit where
  events
  outcome := .ok ()

def ofExcept (outcome : Except ε α) : Traced ε α where
  events := []
  outcome

def mapError (convert : ε → ε') (traced : Traced ε α) : Traced ε' α where
  events := traced.events
  outcome := traced.outcome.mapError convert

@[simp]
theorem outcome_pure (value : α) : (pure value : Traced ε α).outcome = .ok value := rfl

@[simp]
theorem outcome_ofExcept (outcome : Except ε α) : (ofExcept outcome).outcome = outcome := rfl

@[simp]
theorem outcome_mapError (convert : ε → ε') (traced : Traced ε α) :
    (traced.mapError convert).outcome = traced.outcome.mapError convert := rfl

@[simp]
theorem outcome_emit (event : Event) : (emit event : Traced ε Unit).outcome = .ok () := rfl

@[simp]
theorem outcome_emitAll (events : List Event) :
    (emitAll events : Traced ε Unit).outcome = .ok () := rfl

@[simp]
theorem outcome_bind (first : Traced ε α) (next : α → Traced ε β) :
    (first >>= next).outcome = first.outcome >>= fun value => (next value).outcome := by
  obtain ⟨events, outcome⟩ := first
  cases outcome <;> rfl

end Traced

end FileQuery
