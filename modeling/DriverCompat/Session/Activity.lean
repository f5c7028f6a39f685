/-! # Activities on a virtual clock

An activity works on a state, takes time only where it waits, and comes to an end by returning a
value or by panicking, or does not come to an end at all. It is run with the time that it is
allowed: if that runs out first, the activity is cut short where it waits, in the state it has
reached. An end exactly at the limit is in time.
-/

namespace DriverCompat

/-- What a panic carries: mostly a text. -/
inductive Payload where
  | text (message : String)
  | number (value : Nat)
deriving DecidableEq, Repr

namespace Payload

/-- The text of a payload that is one. -/
def message? : Payload → Option String
  | .text message => some message
  | .number _ => none

end Payload

/-- How something came to its end. -/
inductive Ending (α : Type) where
  | returned (value : α)
  | panicked (payload : Payload)
deriving DecidableEq, Repr

/-- An end with another value in it. -/
def Ending.map {α β : Type} (f : α → β) : Ending α → Ending β
  | .returned value => .returned (f value)
  | .panicked payload => .panicked payload

/-- How far an activity came. -/
inductive Course (σ α : Type) where
  /-- It ended after a time, in a state. -/
  | ended (elapsed : Nat) (ending : Ending α) (state : σ)
  /-- It was still waiting when the time it was allowed had passed. -/
  | unfinished (state : σ)

namespace Course

variable {σ α : Type}

/-- The time that something took which ended. -/
def elapsed : Course σ α → Nat
  | .ended elapsed _ _ => elapsed
  | .unfinished _ => 0

/-- How something ended, if it did. -/
def ending? : Course σ α → Option (Ending α)
  | .ended _ ending _ => some ending
  | .unfinished _ => none

/-- The state that was reached. -/
def state : Course σ α → σ
  | .ended _ _ state => state
  | .unfinished state => state

end Course

/-- The answer to a request: when it comes, what it is, and the state it leaves. -/
structure Answer (σ α : Type) where
  delay : Nat
  ending : Ending α
  state : σ

/-- What follows a request: the state while it is waited for, and the answer, if one ever comes. -/
structure Reaction (σ α : Type) where
  pending : σ
  answer : Option (Answer σ α)

namespace Reaction

variable {σ α β : Type}

/-- An immediate answer. -/
def now (ending : Ending α) (state : σ) : Reaction σ α := ⟨state, some ⟨0, ending, state⟩⟩

/-- An immediate answer that is a value. -/
def value (a : α) (state : σ) : Reaction σ α := now (.returned a) state

/-- No answer ever. -/
def never (state : σ) : Reaction σ α := ⟨state, none⟩

end Reaction

/-- An activity, by its course for each time that it may be allowed; without a limit it may take
any time. -/
def Activity (σ α : Type) : Type := Option Nat → σ → Course σ α

namespace Activity

variable {σ α β : Type}

/-- Ends at once with a value. -/
def done (value : α) : Activity σ α := fun _ state => .ended 0 (.returned value) state

/-- Ends at once with a panic. -/
def raise (payload : Payload) : Activity σ α := fun _ state => .ended 0 (.panicked payload) state

/-- Changes the state at once, and may panic. -/
def act (f : σ → Ending α × σ) : Activity σ α := fun _ state =>
  let (ending, state) := f state
  .ended 0 ending state

/-- What is left of an allowance. -/
def remaining (allowed : Option Nat) (elapsed : Nat) : Option Nat := allowed.map (· - elapsed)

/-- Whether a time is within an allowance. -/
def fits (allowed : Option Nat) (elapsed : Nat) : Bool :=
  match allowed with
  | none => true
  | some limit => elapsed ≤ limit

/-- The course of something that began after some time had passed. -/
def delayed (elapsed : Nat) : Course σ α → Course σ α
  | .ended more ending state => .ended (elapsed + more) ending state
  | .unfinished state => .unfinished state

/-- One activity after another; a panic skips the second. -/
def andThen (first : Activity σ α) (second : α → Activity σ β) : Activity σ β :=
  fun allowed state =>
  match first allowed state with
  | .unfinished state => .unfinished state
  | .ended elapsed (.panicked payload) state => .ended elapsed (.panicked payload) state
  | .ended elapsed (.returned value) state =>
    delayed elapsed (second value (remaining allowed elapsed) state)

instance : Monad (Activity σ) where
  pure := done
  bind := andThen

/-- Makes a request and waits for its answer. -/
def await (request : σ → Reaction σ α) : Activity σ α := fun allowed state =>
  let reaction := request state
  match reaction.answer with
  | none => .unfinished reaction.pending
  | some answer =>
    if fits allowed answer.delay then .ended answer.delay answer.ending answer.state
    else .unfinished reaction.pending

/-- Gives an activity at most `limit` of time, and goes on without it when that has passed. -/
def within (limit : Nat) (activity : Activity σ α) : Activity σ (Option α) := fun allowed state =>
  let limited := match allowed with
    | none => limit
    | some outer => min limit outer
  match activity (some limited) state with
  | .ended elapsed (.returned value) state => .ended elapsed (.returned (some value)) state
  | .ended elapsed (.panicked payload) state => .ended elapsed (.panicked payload) state
  | .unfinished state =>
    if fits allowed limit then .ended limit (.returned none) state else .unfinished state

/-- Runs an activity to its end and keeps a panic as a value. -/
def guarded (activity : Activity σ α) : Activity σ (Ending α) := fun allowed state =>
  match activity allowed state with
  | .ended elapsed ending state => .ended elapsed (.returned ending) state
  | .unfinished state => .unfinished state

/-- The value of an activity with the time that it took. -/
def timed (activity : Activity σ α) : Activity σ (α × Nat) := fun allowed state =>
  match activity allowed state with
  | .ended elapsed (.returned value) state => .ended elapsed (.returned (value, elapsed)) state
  | .ended elapsed (.panicked payload) state => .ended elapsed (.panicked payload) state
  | .unfinished state => .unfinished state

/-- Ends as a guarded activity ended. -/
def resume (ending : Ending α) : Activity σ α :=
  match ending with
  | .returned value => done value
  | .panicked payload => raise payload

/-- Runs an activity without a limit. -/
def run (activity : Activity σ α) (state : σ) : Course σ α := activity none state

end Activity

end DriverCompat
