import DriverCompat.Check.Execute
import DriverCompat.Proofs.Session.Simulation

/-! # Journals

A driver can be made to keep a journal of what it is asked and of what it answers. The journal
changes nothing about the answers, and every request adds one exchange to its end. A request is
entered with its whole response, also where nobody waits for that to the end.
-/

namespace DriverCompat

variable {σ κ α β : Type}

namespace Ending

theorem map_map {γ : Type} (f : α → β) (g : β → γ) (ending : Ending α) :
    (ending.map f).map g = ending.map (g ∘ f) := by
  cases ending <;> rfl

theorem map_eq_returned_iff {f : α → β} {ending : Ending α} {value : β} :
    ending.map f = .returned value ↔ ∃ before, ending = .returned before ∧ f before = value := by
  cases ending <;> simp [map]

theorem map_eq_panicked_iff {f : α → β} {ending : Ending α} {payload : Payload} :
    ending.map f = .panicked payload ↔ ending = .panicked payload := by
  cases ending <;> simp [map]

end Ending

/-- What comes of a request: it ends after a delay, or never. -/
inductive Response (α : Type) where
  | after (delay : Nat) (ending : Ending (Except Failure α))
  | never

namespace Response

/-- The response with another value for an answer that is no failure. -/
def map (f : α → β) : Response α → Response β
  | .after delay ending => .after delay (ending.map (Except.map f))
  | .never => .never

/-- The request panics, sooner or later. -/
def Panics (response : Response α) : Prop :=
  ∃ delay payload, response = .after delay (.panicked payload)

/-- The request is answered, be it with a failure. -/
def Returns (response : Response α) : Prop :=
  ∃ delay answer, response = .after delay (.returned answer)

instance (response : Response α) : Decidable response.Panics :=
  match response with
  | .after delay (.panicked payload) => isTrue ⟨delay, payload, rfl⟩
  | .after _ (.returned _) => isFalse (by rintro ⟨_, _, same⟩; cases same)
  | .never => isFalse (by rintro ⟨_, _, same⟩; cases same)

instance (response : Response α) : Decidable response.Returns :=
  match response with
  | .after delay (.returned answer) => isTrue ⟨delay, answer, rfl⟩
  | .after _ (.panicked _) => isFalse (by rintro ⟨_, _, same⟩; cases same)
  | .never => isFalse (by rintro ⟨_, _, same⟩; cases same)

/-- The request does not end within a limit. -/
def Late (limit : Nat) : Response α → Prop
  | .after delay _ => limit < delay
  | .never => True

/-- The course of waiting for a response. -/
def course (response : Response α) (allowed : Option Nat) (state : σ) :
    Course σ (Except Failure α) :=
  match response with
  | .after delay ending =>
    if Activity.fits allowed delay then .ended delay ending state else .unfinished state
  | .never => .unfinished state

@[simp] theorem late_map {f : α → β} (response : Response α) (limit : Nat) :
    (response.map f).Late limit ↔ response.Late limit := by
  cases response <;> rfl

theorem late_or_after (response : Response α) (limit : Nat) :
    response.Late limit ∨ ∃ delay ending, response = .after delay ending ∧ delay ≤ limit := by
  cases response with
  | after delay ending =>
    rcases Nat.lt_or_ge limit delay with late | inTime
    · exact .inl late
    · exact .inr ⟨delay, ending, rfl, inTime⟩
  | never => exact .inl trivial

theorem course_of_late {response : Response α} {limit : Nat} (late : response.Late limit)
    (state : σ) : response.course (some limit) state = .unfinished state := by
  cases response with
  | after delay ending =>
    have overdue : ¬ delay ≤ limit := Nat.not_le_of_lt late
    simp only [course, Activity.fits_some, overdue, decide_false, Bool.false_eq_true, if_false]
  | never => rfl

theorem course_after {limit delay : Nat} (inTime : delay ≤ limit)
    (ending : Ending (Except Failure α)) (state : σ) :
    (after delay ending).course (some limit) state = .ended delay ending state := by
  simp only [course, Activity.fits_some, inTime, decide_true, if_true]

@[simp] theorem course_after_none (delay : Nat) (ending : Ending (Except Failure α)) (state : σ) :
    (after delay ending).course none state = .ended delay ending state := rfl

end Response

/-- What is observed in the answer to a call. -/
def Call.observation (call : Call) (reply : call.Reply) : Observation :=
  match call, reply with
  | .ping, _ => .acknowledged
  | .createCollection _, _ => .acknowledged
  | .dropCollection _, _ => .acknowledged
  | .listCollections, names => .collectionNames names
  | .insertOne .., id => .insertedOne id
  | .insertMany .., ids => .insertedMany ids
  | .findOne .., document => .foundOne document
  | .find .., documents => .found documents
  | .updateOne .., count => .updated count
  | .deleteOne .., count => .deleted count
  | .close, _ => .acknowledged

/-- A request to a driver with what came of it. -/
inductive Exchange (κ : Type) where
  | connect (config : Config) (response : Response κ)
  | call (session : κ) (call : Call) (response : Response Observation)

/-- The request of an exchange. -/
def Exchange.request : Exchange κ → Request κ
  | .connect config _ => .connect config.url config.database
  | .call session asked _ => .call session asked

namespace Exchange

/-- The request of an exchange panics, sooner or later. -/
def Panics : Exchange κ → Prop
  | .connect _ response => response.Panics
  | .call _ _ response => response.Panics

/-- The request of an exchange is answered, be it with a failure. -/
def Returns : Exchange κ → Prop
  | .connect _ response => response.Returns
  | .call _ _ response => response.Returns

/-- A session is asked to close. -/
def IsClose : Exchange κ → Prop
  | .call _ .close _ => True
  | _ => False

instance : (exchange : Exchange κ) → Decidable exchange.Panics
  | .connect _ response => inferInstanceAs (Decidable response.Panics)
  | .call _ _ response => inferInstanceAs (Decidable response.Panics)

instance : (exchange : Exchange κ) → Decidable exchange.Returns
  | .connect _ response => inferInstanceAs (Decidable response.Returns)
  | .call _ _ response => inferInstanceAs (Decidable response.Returns)

instance (exchange : Exchange κ) : Decidable exchange.IsClose := by
  unfold IsClose
  split <;> infer_instance

end Exchange

namespace Reaction

/-- The response that a reaction gives in the end. -/
def response (reaction : Reaction σ (Except Failure α)) : Response α :=
  match reaction.answer with
  | some answer => .after answer.delay answer.ending
  | none => .never

/-- The state that is reached by waiting for a reaction as long as is allowed. -/
def reached (reaction : Reaction σ α) (allowed : Option Nat) : σ :=
  match reaction.answer with
  | some answer => if Activity.fits allowed answer.delay then answer.state else reaction.pending
  | none => reaction.pending

theorem response_eq_after_iff {reaction : Reaction σ (Except Failure α)} {delay : Nat}
    {ending : Ending (Except Failure α)} : reaction.response = .after delay ending ↔
      ∃ state, reaction.answer = some ⟨delay, ending, state⟩ := by
  unfold response
  constructor
  · intro same
    split at same
    · rename_i answered
      cases same
      exact ⟨_, answered⟩
    · cases same
  · rintro ⟨state, answered⟩
    rw [answered]

theorem reached_of_answer {reaction : Reaction σ α} {answer : Answer σ α} {limit : Nat}
    (answered : reaction.answer = some answer) (inTime : answer.delay ≤ limit) :
    reaction.reached (some limit) = answer.state := by
  rw [reached, answered]
  exact if_pos (decide_eq_true inTime)

@[simp] theorem response_mapState {τ : Type} (reaction : Reaction σ (Except Failure α))
    (f : σ → τ) :
    (reaction.mapState f).response = reaction.response := by
  rcases reaction with ⟨pending, _ | answer⟩ <;> rfl

@[simp] theorem reached_mapState {τ : Type} (reaction : Reaction σ α) (f : σ → τ)
    (allowed : Option Nat) :
    (reaction.mapState f).reached allowed = f (reaction.reached allowed) := by
  rcases reaction with ⟨pending, _ | answer⟩
  · rfl
  · exact (apply_ite f _ _ _).symm

end Reaction

/-- Waiting for a reaction is waiting for its response, in the state that is reached then. -/
theorem Activity.await_apply (request : σ → Reaction σ (Except Failure α)) (allowed : Option Nat)
    (state : σ) : Activity.await request allowed state =
      (request state).response.course allowed ((request state).reached allowed) := by
  rw [Activity.await, Reaction.response, Reaction.reached]
  cases (request state).answer with
  | none => rfl
  | some answer => cases inTime : fits allowed answer.delay <;> simp [Response.course, inTime]

namespace Driver

/-- The driver with a journal of all exchanges, in order. -/
def journaled (driver : Driver σ κ) : Driver (σ × List (Exchange κ)) κ where
  name := driver.name
  displayName := driver.displayName
  connect config state :=
    let reaction := driver.connect config state.1
    reaction.mapState fun after => (after, state.2 ++ [.connect config reaction.response])
  call session call state :=
    let reaction := driver.call session call state.1
    reaction.mapState fun after =>
      (after, state.2 ++ [.call session call (reaction.response.map call.observation)])

theorem journaled_connect (driver : Driver σ κ) (config : Config) (state : σ)
    (journal : List (Exchange κ)) :
    driver.journaled.connect config (state, journal) = (driver.connect config state).mapState
      fun after => (after, journal ++ [.connect config (driver.connect config state).response]) :=
  rfl

theorem journaled_call (driver : Driver σ κ) (session : κ) (call : Call) (state : σ)
    (journal : List (Exchange κ)) :
    driver.journaled.call session call (state, journal) = (driver.call session call state).mapState
      fun after => (after, journal ++
        [.call session call ((driver.call session call state).response.map call.observation)]) :=
  rfl

/-- The journal changes nothing about the answers. -/
theorem journaled_simulates (driver : Driver σ κ) :
    driver.journaled.Simulates (fun state plain => state.1 = plain) driver where
  name := rfl
  connect := by
    rintro config ⟨state, journal⟩ _ rfl
    rw [journaled_connect]
    apply Reaction.mapState_alike
    exact fun _ => rfl
  call := by
    rintro session call ⟨state, journal⟩ _ rfl
    rw [journaled_call]
    apply Reaction.mapState_alike
    exact fun _ => rfl

theorem logged_connect (driver : Driver σ κ) (config : Config) (state : σ)
    (log : List (Request κ)) :
    driver.logged.connect config (state, log) = (driver.connect config state).mapState
      fun after => (after, log ++ [.connect config.url config.database]) :=
  rfl

theorem logged_call (driver : Driver σ κ) (session : κ) (call : Call) (state : σ)
    (log : List (Request κ)) :
    driver.logged.call session call (state, log) = (driver.call session call state).mapState
      fun after => (after, log ++ [.call session call]) :=
  rfl

/-- The requests of the journal are those that a log of requests holds. -/
theorem journaled_simulates_logged (driver : Driver σ κ) :
    driver.journaled.Simulates
      (fun state log => state.1 = log.1 ∧ state.2.map Exchange.request = log.2) driver.logged where
  name := rfl
  connect := by
    rintro config ⟨state, journal⟩ ⟨_, _⟩ ⟨rfl, rfl⟩
    rw [journaled_connect, logged_connect]
    apply (Reaction.alike_refl _).mapState
    rintro after _ rfl
    exact ⟨rfl, by simp [Exchange.request]⟩
  call := by
    rintro session call ⟨state, journal⟩ ⟨_, _⟩ ⟨rfl, rfl⟩
    rw [journaled_call, logged_call]
    apply (Reaction.alike_refl _).mapState
    rintro after _ rfl
    exact ⟨rfl, by simp [Exchange.request]⟩

/-- A request is entered into the journal, and what follows is the course of its response. -/
theorem opening_journaled (driver : Driver σ κ) (config : Config) (allowed : Option Nat) (state : σ)
    (journal : List (Exchange κ)) :
    driver.journaled.opening config allowed (state, journal) =
      (driver.connect config state).response.course allowed
        ((driver.connect config state).reached allowed,
          journal ++ [.connect config (driver.connect config state).response]) := by
  rw [opening, Activity.await_apply, journaled_connect, Reaction.response_mapState,
    Reaction.reached_mapState]

theorem calling_journaled_eq (driver : Driver σ κ) (session : κ) (call : Call)
    (allowed : Option Nat) (state : σ) (journal : List (Exchange κ)) :
    driver.journaled.calling session call allowed (state, journal) =
      (driver.call session call state).response.course allowed
        ((driver.call session call state).reached allowed,
          journal ++
            [.call session call
              ((driver.call session call state).response.map call.observation)]) := by
  rw [calling, Activity.await_apply, journaled_call, Reaction.response_mapState,
    Reaction.reached_mapState]

theorem calling_journaled (driver : Driver σ κ) (session : κ) (call : Call) (allowed : Option Nat)
    (state : σ) (journal : List (Exchange κ)) :
    ∃ (response : Response call.Reply) (after : σ),
      driver.journaled.calling session call allowed (state, journal) =
        response.course allowed
          (after, journal ++ [.call session call (response.map call.observation)]) :=
  ⟨_, _, driver.calling_journaled_eq session call allowed state journal⟩

/-- A call that has ended enters one exchange, and ends as it does without a journal. -/
theorem calling_journaled_of_ended {driver : Driver σ κ} {session : κ} {call : Call}
    {state after : σ} {delay : Nat} {ending : Ending (Except Failure call.Reply)}
    (course : driver.calling session call none state = .ended delay ending after)
    (journal : List (Exchange κ)) :
    driver.journaled.calling session call none (state, journal) = .ended delay ending
      (after, journal ++
        [.call session call (.after delay (ending.map (Except.map call.observation)))]) := by
  rw [calling, Activity.await_apply] at course
  rw [calling_journaled_eq]
  generalize (driver.call session call state).reached none = reached at course ⊢
  generalize (driver.call session call state).response = response at course ⊢
  cases response with
  | never => cases course
  | after => cases course; rfl

end Driver

end DriverCompat
