import DriverCompat.Session.Driver

/-! # Runs on related states

An activity without a limit of its own is computed step by step. Two activities that differ in
nothing but the states they work on take the same time and end alike, if each step keeps the states
related; so it is enough to relate the reactions of two drivers to relate all that is built from
them.
-/

namespace DriverCompat

variable {σ τ κ ω α β : Type}

namespace Activity

@[simp] theorem pure_apply (value : α) (allowed : Option Nat) (state : σ) :
    (pure value : Activity σ α) allowed state = .ended 0 (.returned value) state := rfl

@[simp] theorem remaining_none (elapsed : Nat) : remaining none elapsed = none := rfl

@[simp] theorem fits_none (elapsed : Nat) : fits none elapsed = true := rfl

@[simp] theorem fits_some (limit elapsed : Nat) :
    fits (some limit) elapsed = decide (elapsed ≤ limit) := rfl

@[simp] theorem remaining_some (limit elapsed : Nat) :
    remaining (some limit) elapsed = some (limit - elapsed) := rfl

theorem delayed_zero (course : Course σ α) : delayed 0 course = course := by
  cases course <;> simp [delayed]

@[simp] theorem delayed_unfinished (elapsed : Nat) (state : σ) :
    delayed elapsed (.unfinished state : Course σ α) = .unfinished state := rfl

@[simp] theorem delayed_ended (elapsed more : Nat) (ending : Ending α) (state : σ) :
    delayed elapsed (.ended more ending state) = .ended (elapsed + more) ending state := rfl

theorem delayed_delayed (elapsed more : Nat) (course : Course σ α) :
    delayed elapsed (delayed more course) = delayed (elapsed + more) course := by
  cases course <;> simp [Nat.add_assoc]

theorem exists_of_delayed {elapsed total : Nat} {course : Course σ α} {ending : Ending α}
    {state : σ}
    (later : delayed elapsed course = .ended total ending state) :
    ∃ spent, course = .ended spent ending state ∧ total = elapsed + spent := by
  cases course with
  | unfinished waiting => cases later
  | ended spent answer after =>
    cases later
    exact ⟨spent, rfl, rfl⟩

section Sequence

variable {first : Activity σ α} {second : α → Activity σ β} {allowed : Option Nat} {state after : σ}

theorem bind_returned {elapsed : Nat} {value : α}
    (course : first allowed state = .ended elapsed (.returned value) after) :
    (first >>= second) allowed state =
      delayed elapsed (second value (remaining allowed elapsed) after) := by
  change andThen first second allowed state = _
  simp only [andThen, course]

/-- A first activity that is followed by something done at once. -/
theorem bind_done {elapsed : Nat} {value : α} {ending : Ending β} {last : σ}
    (course : first allowed state = .ended elapsed (.returned value) after)
    (atOnce : second value (remaining allowed elapsed) after = .ended 0 ending last) :
    (first >>= second) allowed state = .ended elapsed ending last := by
  rw [bind_returned course, atOnce, delayed_ended, Nat.add_zero]

theorem bind_panicked {elapsed : Nat} {payload : Payload}
    (course : first allowed state = .ended elapsed (.panicked payload) after) :
    (first >>= second) allowed state = .ended elapsed (.panicked payload) after := by
  change andThen first second allowed state = _
  simp only [andThen, course]

theorem bind_unfinished (course : first allowed state = .unfinished after) :
    (first >>= second) allowed state = .unfinished after := by
  change andThen first second allowed state = _
  simp only [andThen, course]

/-- Of two activities one after the other that have ended, the first has returned and the second has
ended, or the first has panicked. -/
theorem ended_of_bind {elapsed : Nat} {ending : Ending β} {last : σ}
    (course : (first >>= second) none state = .ended elapsed ending last) :
    (∃ spent value between more, first none state = .ended spent (.returned value) between ∧
        second value none between = .ended more ending last ∧ elapsed = spent + more) ∨
      ∃ payload, first none state = .ended elapsed (.panicked payload) last ∧
        ending = .panicked payload := by
  cases began : first none state with
  | unfinished between =>
    rw [bind_unfinished began] at course
    cases course
  | ended spent answer between =>
    cases answer with
    | panicked payload =>
      rw [bind_panicked began] at course
      cases course
      exact .inr ⟨payload, rfl, rfl⟩
    | returned value =>
      rw [bind_returned began, remaining_none] at course
      obtain ⟨more, further, total⟩ := exists_of_delayed course
      exact .inl ⟨spent, value, between, more, rfl, further, total⟩

end Sequence

/-- What an activity is allowed that has a limit of its own. -/
def capped (limit : Nat) : Option Nat → Option Nat
  | none => some limit
  | some outer => some (min limit outer)

section Limit

variable {activity : Activity σ α} {limit : Nat} {allowed : Option Nat} {state after : σ}

theorem within_returned {elapsed : Nat} {value : α}
    (course : activity (capped limit allowed) state = .ended elapsed (.returned value) after) :
    activity.within limit allowed state = .ended elapsed (.returned (some value)) after := by
  cases allowed <;> (simp only [capped] at course; simp only [within, course])

theorem within_panicked {elapsed : Nat} {payload : Payload}
    (course : activity (capped limit allowed) state = .ended elapsed (.panicked payload) after) :
    activity.within limit allowed state = .ended elapsed (.panicked payload) after := by
  cases allowed <;> (simp only [capped] at course; simp only [within, course])

theorem within_unfinished (course : activity (capped limit allowed) state = .unfinished after) :
    activity.within limit allowed state =
      if fits allowed limit then .ended limit (.returned none) after else .unfinished after := by
  cases allowed <;> (simp only [capped] at course; simp only [within, course])

/-! Nothing but the limit itself can cut an activity short that is allowed any time. -/

theorem within_none_returned {elapsed : Nat} {value : α}
    (course : activity (some limit) state = .ended elapsed (.returned value) after) :
    activity.within limit none state = .ended elapsed (.returned (some value)) after :=
  within_returned course

theorem within_none_panicked {elapsed : Nat} {payload : Payload}
    (course : activity (some limit) state = .ended elapsed (.panicked payload) after) :
    activity.within limit none state = .ended elapsed (.panicked payload) after :=
  within_panicked course

theorem within_none_unfinished (course : activity (some limit) state = .unfinished after) :
    activity.within limit none state = .ended limit (.returned none) after := by
  simp only [within, course, fits_none, if_true]

theorem guarded_ended {elapsed : Nat} {ending : Ending α}
    (course : activity allowed state = .ended elapsed ending after) :
    activity.guarded allowed state = .ended elapsed (.returned ending) after := by
  simp only [guarded, course]

theorem guarded_unfinished (course : activity allowed state = .unfinished after) :
    activity.guarded allowed state = .unfinished after := by
  simp only [guarded, course]

theorem timed_returned {elapsed : Nat} {value : α}
    (course : activity allowed state = .ended elapsed (.returned value) after) :
    activity.timed allowed state = .ended elapsed (.returned (value, elapsed)) after := by
  simp only [timed, course]

theorem timed_panicked {elapsed : Nat} {payload : Payload}
    (course : activity allowed state = .ended elapsed (.panicked payload) after) :
    activity.timed allowed state = .ended elapsed (.panicked payload) after := by
  simp only [timed, course]

theorem timed_unfinished (course : activity allowed state = .unfinished after) :
    activity.timed allowed state = .unfinished after := by
  simp only [timed, course]

end Limit

end Activity

theorem Course.exists_of_ending? {course : Course σ α} {ending : Ending α}
    (ended : course.ending? = some ending) :
    ∃ elapsed state, course = .ended elapsed ending state := by
  cases course <;> cases ended
  exact ⟨_, _, rfl⟩

/-- Courses that take the same time and end alike, in related states. -/
inductive Course.Alike (Rel : σ → τ → Prop) : Course σ α → Course τ α → Prop
  | ended {elapsed : Nat} {ending : Ending α} {state : σ} {other : τ} (related : Rel state other) :
      Course.Alike Rel (.ended elapsed ending state) (.ended elapsed ending other)
  | unfinished {state : σ} {other : τ} (related : Rel state other) :
      Course.Alike Rel (.unfinished state) (.unfinished other)

/-- The course with every state embedded into a larger one. -/
def Course.mapState (embed : σ → τ) : Course σ α → Course τ α
  | .ended elapsed ending state => .ended elapsed ending (embed state)
  | .unfinished state => .unfinished (embed state)

namespace Course.Alike

variable {Rel : σ → τ → Prop}

theorem eq_mapState {embed : τ → σ} {course : Course σ α} {other : Course τ α}
    (alike : course.Alike (fun state alone => state = embed alone) other) :
    course = other.mapState embed := by
  cases alike with
  | ended related => subst related; rfl
  | unfinished related => subst related; rfl

theorem delayed {course : Course σ α} {other : Course τ α} (alike : course.Alike Rel other)
    (elapsed : Nat) :
    (Activity.delayed elapsed course).Alike Rel (Activity.delayed elapsed other) := by
  cases alike with
  | ended related => exact .ended related
  | unfinished related => exact .unfinished related

theorem of_ended {course : Course σ α} {elapsed : Nat} {ending : Ending α} {other : τ}
    (alike : course.Alike Rel (.ended elapsed ending other)) :
    ∃ state, course = .ended elapsed ending state ∧ Rel state other := by
  cases alike with
  | ended related => exact ⟨_, rfl, related⟩

theorem ended_of {course : Course τ α} {elapsed : Nat} {ending : Ending α} {state : σ}
    (alike : Course.Alike Rel (.ended elapsed ending state) course) :
    ∃ other, course = .ended elapsed ending other ∧ Rel state other := by
  cases alike with
  | ended related => exact ⟨_, rfl, related⟩

theorem state {course : Course σ α} {other : Course τ α} (alike : course.Alike Rel other) :
    Rel course.state other.state := by
  cases alike with
  | ended related => exact related
  | unfinished related => exact related

theorem ending?_eq {course : Course σ α} {other : Course τ α} (alike : course.Alike Rel other) :
    course.ending? = other.ending? := by
  cases alike with
  | ended related => rfl
  | unfinished related => rfl

theorem cases {course : Course σ α} {other : Course τ α} (alike : course.Alike Rel other) :
    (∃ elapsed ending state state', Rel state state' ∧
      course = .ended elapsed ending state ∧ other = .ended elapsed ending state') ∨
    ∃ state state', Rel state state' ∧ course = .unfinished state ∧ other = .unfinished state' := by
  cases alike with
  | ended related => exact .inl ⟨_, _, _, _, related, rfl, rfl⟩
  | unfinished related => exact .inr ⟨_, _, related, rfl, rfl⟩

end Course.Alike

/-- Reactions with the same answer, in related states. -/
inductive Reaction.Alike (Rel : σ → τ → Prop) : Reaction σ α → Reaction τ α → Prop
  | answered {pending after : σ} {pending' after' : τ} {delay : Nat} {ending : Ending α}
      (waiting : Rel pending pending') (related : Rel after after') :
      Reaction.Alike Rel ⟨pending, some ⟨delay, ending, after⟩⟩
        ⟨pending', some ⟨delay, ending, after'⟩⟩
  | silent {pending : σ} {pending' : τ} (waiting : Rel pending pending') :
      Reaction.Alike Rel ⟨pending, none⟩ ⟨pending', none⟩

/-- Reactions stay alike in embeddings that keep related states related. -/
theorem Reaction.Alike.mapState {υ ν : Type} {Rel : σ → τ → Prop} {Rel' : υ → ν → Prop}
    {reaction : Reaction σ α} {other : Reaction τ α} {embed : σ → υ} {embed' : τ → ν}
    (alike : reaction.Alike Rel other)
    (related : ∀ {state state'}, Rel state state' → Rel' (embed state) (embed' state')) :
    (reaction.mapState embed).Alike Rel' (other.mapState embed') := by
  cases alike with
  | answered waiting after => exact .answered (related waiting) (related after)
  | silent waiting => exact .silent (related waiting)

theorem Reaction.alike_refl (reaction : Reaction σ α) : reaction.Alike Eq reaction := by
  rcases reaction with ⟨pending, _ | answer⟩
  · exact .silent rfl
  · exact .answered rfl rfl

/-- A reaction whose states are embedded into larger ones answers as it did. -/
theorem Reaction.mapState_alike {Rel : τ → σ → Prop} {embed : σ → τ}
    (related : ∀ state, Rel (embed state) state) (reaction : Reaction σ α) :
    (reaction.mapState embed).Alike Rel reaction := by
  rcases reaction with ⟨pending, _ | answer⟩
  · exact .silent (related pending)
  · exact .answered (related pending) (related answer.state)

namespace Activity

/-- Activities whose courses are alike from all related states, whatever they are allowed. -/
def Simulates (Rel : σ → τ → Prop) (activity : Activity σ α) (other : Activity τ α) : Prop :=
  ∀ allowed state state', Rel state state' →
    (activity allowed state).Alike Rel (other allowed state')

namespace Simulates

variable {Rel : σ → τ → Prop} {activity : Activity σ α} {activity' : Activity τ α}

theorem pure (value : α) : Simulates Rel (Pure.pure value) (Pure.pure value) :=
  fun _ _ _ related => .ended related

theorem raise (payload : Payload) :
    Simulates Rel (Activity.raise payload : Activity σ α) (Activity.raise payload) :=
  fun _ _ _ related => .ended related

theorem bind {second : α → Activity σ β} {second' : α → Activity τ β}
    (head : Simulates Rel activity activity')
    (tail : ∀ value, Simulates Rel (second value) (second' value)) :
    Simulates Rel (activity >>= second) (activity' >>= second') := by
  intro allowed state state' related
  rcases (head allowed state state' related).cases with
    ⟨elapsed, ending, _, _, related, course, course'⟩ | ⟨_, _, related, course, course'⟩
  · cases ending with
    | returned value =>
      rw [bind_returned course, bind_returned course']
      exact (tail value _ _ _ related).delayed elapsed
    | panicked payload =>
      rw [bind_panicked course, bind_panicked course']
      exact .ended related
  · rw [bind_unfinished course, bind_unfinished course']
    exact .unfinished related

theorem await {request : σ → Reaction σ α} {request' : τ → Reaction τ α}
    (alike : ∀ state state', Rel state state' → (request state).Alike Rel (request' state')) :
    Simulates Rel (Activity.await request) (Activity.await request') := by
  intro allowed state state' related
  have reaction := alike state state' related
  simp only [Activity.await]
  generalize request state = answered at reaction
  generalize request' state' = answered' at reaction
  cases reaction with
  | answered waiting after =>
    simp only
    split
    · exact .ended after
    · exact .unfinished waiting
  | silent waiting => exact .unfinished waiting

theorem within (alike : Simulates Rel activity activity') (limit : Nat) :
    Simulates Rel (activity.within limit) (activity'.within limit) := by
  intro allowed state state' related
  rcases (alike (capped limit allowed) state state' related).cases with
    ⟨elapsed, ending, _, _, related, course, course'⟩ | ⟨_, _, related, course, course'⟩
  · cases ending with
    | returned value =>
      rw [within_returned course, within_returned course']
      exact .ended related
    | panicked payload =>
      rw [within_panicked course, within_panicked course']
      exact .ended related
  · rw [within_unfinished course, within_unfinished course']
    split
    · exact .ended related
    · exact .unfinished related

theorem guarded (alike : Simulates Rel activity activity') :
    Simulates Rel activity.guarded activity'.guarded := by
  intro allowed state state' related
  rcases (alike allowed state state' related).cases with
    ⟨elapsed, ending, _, _, related, course, course'⟩ | ⟨_, _, related, course, course'⟩
  · rw [guarded_ended course, guarded_ended course']
    exact .ended related
  · rw [guarded_unfinished course, guarded_unfinished course']
    exact .unfinished related

theorem timed (alike : Simulates Rel activity activity') :
    Simulates Rel activity.timed activity'.timed := by
  intro allowed state state' related
  rcases (alike allowed state state' related).cases with
    ⟨elapsed, ending, _, _, related, course, course'⟩ | ⟨_, _, related, course, course'⟩
  · cases ending with
    | returned value =>
      rw [timed_returned course, timed_returned course']
      exact .ended related
    | panicked payload =>
      rw [timed_panicked course, timed_panicked course']
      exact .ended related
  · rw [timed_unfinished course, timed_unfinished course']
    exact .unfinished related

theorem resume (ending : Ending α) :
    Simulates Rel (Activity.resume ending : Activity σ α) (Activity.resume ending) := by
  cases ending with
  | returned value => exact pure value
  | panicked payload => exact raise payload

end Simulates

end Activity

/-- Drivers with the same name whose reactions are alike. -/
structure Driver.Simulates (Rel : σ → τ → Prop) (driver : Driver σ κ) (other : Driver τ κ) :
    Prop where
  name : driver.name = other.name
  connect : ∀ config state state', Rel state state' →
    (driver.connect config state).Alike Rel (other.connect config state')
  call : ∀ session call state state', Rel state state' →
    (driver.call session call state).Alike Rel (other.call session call state')

/-- States that are related beside equal states. -/
def Beside (Rel : σ → τ → Prop) (state : σ × ω) (other : τ × ω) : Prop :=
  Rel state.1 other.1 ∧ state.2 = other.2

namespace Driver.Simulates

variable {Rel : σ → τ → Prop} {driver : Driver σ κ} {other : Driver τ κ}

theorem opening (alike : driver.Simulates Rel other) (config : Config) :
    Activity.Simulates Rel (driver.opening config) (other.opening config) :=
  .await fun _ _ related => alike.connect config _ _ related

theorem calling (alike : driver.Simulates Rel other) (session : κ) (call : Call) :
    Activity.Simulates Rel (driver.calling session call) (other.calling session call) :=
  .await fun _ _ related => alike.call session call _ _ related

end Driver.Simulates

theorem Driver.beside_connect (driver : Driver σ κ) (config : Config) (state : σ) (aside : ω) :
    (driver.beside ω).connect config (state, aside) =
      (driver.connect config state).mapState fun after => (after, aside) := rfl

theorem Driver.beside_call (driver : Driver σ κ) (session : κ) (call : Call) (state : σ)
    (aside : ω) :
    (driver.beside ω).call session call (state, aside) =
      (driver.call session call state).mapState fun after => (after, aside) := rfl

theorem Driver.simulates_self (driver : Driver σ κ) : driver.Simulates (· = ·) driver where
  name := rfl
  connect := by
    rintro config state _ rfl
    exact Reaction.alike_refl _
  call := by
    rintro session call state _ rfl
    exact Reaction.alike_refl _

/-- A driver beside a certain state answers as it does alone and leaves that state as it is. -/
theorem Driver.beside_simulates (driver : Driver σ κ) (aside : ω) :
    (driver.beside ω).Simulates (fun state alone => state = (alone, aside)) driver where
  name := rfl
  connect := by
    rintro config _ alone rfl
    rw [beside_connect]
    apply Reaction.mapState_alike
    exact fun _ => rfl
  call := by
    rintro session call _ alone rfl
    rw [beside_call]
    apply Reaction.mapState_alike
    exact fun _ => rfl

end DriverCompat
