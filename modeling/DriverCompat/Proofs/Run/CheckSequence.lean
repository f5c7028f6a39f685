import DriverCompat.Memory.Driver
import DriverCompat.Proofs.Report.Counts
import DriverCompat.Proofs.Run.Hearing
import DriverCompat.Proofs.Run.Simulation
import Mathlib.Data.List.Forall2

/-! # What a sequence of checks records

Each check makes its calls in turn within its own limit. What is entered for it is settled by the
responses to these calls and by nothing else: not by the outcome of another check, nor by what the
report holds already. A whole sequence leaves one stretch of exchanges in the journal for each
check, and enters and announces one entry for each stretch, in order.
-/

namespace DriverCompat

variable {σ κ ω : Type}

/-- The response of an exchange, as a check observes it. -/
def Exchange.response : Exchange κ → Response Observation
  | .connect _ response => response.map fun _ => .acknowledged
  | .call _ _ response => response

/-- Calls made one after another within a limit, some of which has passed: a further call is made
when the one before it has been answered in time, even if with a failure. -/
inductive InTurn (limit : Nat) (session : κ) : Nat → List Call → List (Exchange κ) → Prop
  | last {elapsed : Nat} {call : Call} {response : Response Observation} :
      InTurn limit session elapsed [call] [.call session call response]
  | stopped {elapsed : Nat} {call next : Call} {rest : List Call} {response : Response Observation}
      (stop : response.Late (limit - elapsed) ∨ response.Panics) :
      InTurn limit session elapsed (call :: next :: rest) [.call session call response]
  | answered {elapsed delay : Nat} {call next : Call} {rest : List Call}
      {answer : Except Failure Observation} {segment : List (Exchange κ)}
      (inTime : elapsed + delay ≤ limit)
      (further : InTurn limit session (elapsed + delay) (next :: rest) segment) :
      InTurn limit session elapsed (call :: next :: rest)
        (.call session call (.after delay (.returned answer)) :: segment)

/-- What comes of calls made in turn within a limit, by their responses: the delays add up, a panic
ends them at once, and the last answer is theirs. -/
def settle (limit : Nat) : Nat → List (Response Observation) → Response Observation
  | _, [] => .never
  | _, .never :: _ => .never
  | elapsed, .after delay ending :: rest =>
    if limit < elapsed + delay then .never
    else
      match ending, rest with
      | .panicked payload, _ => .after (elapsed + delay) (.panicked payload)
      | .returned answer, [] => .after (elapsed + delay) (.returned answer)
      | .returned _, response :: rest => settle limit (elapsed + delay) (response :: rest)

section Settle

variable {limit elapsed delay : Nat} {response : Response Observation}
  {rest : List (Response Observation)}

theorem settle_late (bound : elapsed ≤ limit) (late : response.Late (limit - elapsed)) :
    settle limit elapsed (response :: rest) = .never := by
  cases response with
  | never => rfl
  | after delay ending =>
    have overdue : limit < elapsed + delay := by simp only [Response.Late] at late; omega
    cases ending with
    | panicked payload => simp only [settle, overdue, if_true]
    | returned answer => cases rest <;> simp only [settle, overdue, if_true]

theorem settle_panicked (inTime : elapsed + delay ≤ limit) (payload : Payload) :
    settle limit elapsed (.after delay (.panicked payload) :: rest) =
      .after (elapsed + delay) (.panicked payload) := by
  simp only [settle, Nat.not_lt_of_le inTime, if_false]

theorem settle_last (inTime : elapsed + delay ≤ limit) (answer : Except Failure Observation) :
    settle limit elapsed [.after delay (.returned answer)] =
      .after (elapsed + delay) (.returned answer) := by
  simp only [settle, Nat.not_lt_of_le inTime, if_false]

theorem settle_answered (inTime : elapsed + delay ≤ limit) (answer : Except Failure Observation) :
    settle limit elapsed (.after delay (.returned answer) :: response :: rest) =
      settle limit (elapsed + delay) (response :: rest) := by
  simp only [settle, Nat.not_lt_of_le inTime, if_false]

/-- What is settled is settled within the limit, and no earlier than the calls began. -/
theorem settle_bounds {responses : List (Response Observation)} {total : Nat}
    {ending : Ending (Except Failure Observation)} (bound : elapsed ≤ limit)
    (settled : settle limit elapsed responses = .after total ending) :
    elapsed ≤ total ∧ total ≤ limit := by
  induction responses generalizing elapsed with
  | nil => simp [settle] at settled
  | cons response rest ih =>
    cases response with
    | never => simp [settle] at settled
    | after delay ended =>
      rcases Nat.lt_or_ge limit (elapsed + delay) with overdue | inTime
      · have late : (Response.after delay ended).Late (limit - elapsed) := by
          simp only [Response.Late]; omega
        rw [settle_late bound late] at settled
        cases settled
      · cases ended with
        | panicked payload =>
          rw [settle_panicked inTime] at settled
          cases settled
          omega
        | returned answer =>
          cases rest with
          | nil =>
            rw [settle_last inTime] at settled
            cases settled
            omega
          | cons next rest =>
            rw [settle_answered inTime] at settled
            have := ih inTime settled
            omega

end Settle

theorem InTurn.exists_cons {limit elapsed : Nat} {session : κ} {calls : List Call}
    {segment : List (Exchange κ)} (inTurn : InTurn limit session elapsed calls segment) :
    ∃ call response rest, segment = .call session call response :: rest := by
  cases inTurn <;> exact ⟨_, _, _, rfl⟩

namespace Check

/-- The calls of a check, in the order in which it makes them. -/
def calls (collection : String) : Check → List Call
  | .ping => [.ping]
  | .createCollection => [.dropCollection collection, .createCollection collection]
  | .insertOne => [.insertOne collection alice]
  | .findOne => [.findOne collection (named "Alice")]
  | .insertMany => [.insertMany collection [bob, charlie]]
  | .findWithLimit => [.find collection [] (some findLimit)]
  | .updateOne => [.updateOne collection (named "Alice") setAge]
  | .deleteOne => [.deleteOne collection (named "Bob")]
  | .listCollections => [.listCollections]
  | .dropCollection => [.dropCollection collection]

/-- Makes calls one after another and observes the answer to the last one. -/
def makeInTurn (driver : Driver σ κ) (session : κ) (call : Call) :
    List Call → Activity σ (Except Failure Observation)
  | [] => observe driver session call call.observation
  | next :: rest => do
    let _ ← driver.calling session call
    makeInTurn driver session next rest

theorem execute_eq_makeInTurn (check : Check) (driver : Driver σ κ) (session : κ)
    (collection : String) :
    ∃ call rest, check.calls collection = call :: rest ∧
      check.execute driver session collection = makeInTurn driver session call rest := by
  cases check <;> exact ⟨_, _, rfl, rfl⟩

/-- The course of calls that are settled, from some time after they began. -/
def settledCourse (elapsed : Nat) (settled : Response Observation) (state : σ) :
    Course σ (Except Failure Observation) :=
  match settled with
  | .after total ending => .ended (total - elapsed) ending state
  | .never => .unfinished state

/-- Calls in turn leave their exchanges in the journal, and these settle what comes of them. -/
theorem makeInTurn_journaled (driver : Driver σ κ) (session : κ) {limit elapsed : Nat}
    (bound : elapsed ≤ limit) (call : Call) (rest : List Call) (state : σ)
    (journal : List (Exchange κ)) :
    ∃ segment after, InTurn limit session elapsed (call :: rest) segment ∧
      makeInTurn driver.journaled session call rest (some (limit - elapsed)) (state, journal) =
        settledCourse elapsed (settle limit elapsed (segment.map Exchange.response))
          (after, journal ++ segment) := by
  induction rest generalizing call elapsed state journal with
  | nil =>
    obtain ⟨response, after, course⟩ :=
      driver.calling_journaled session call (some (limit - elapsed)) state journal
    refine ⟨[.call session call (response.map call.observation)], after, .last, ?_⟩
    simp only [makeInTurn, observe, List.map_cons, List.map_nil, Exchange.response]
    rcases response.late_or_after (limit - elapsed) with late | ⟨delay, ending, rfl, inTime⟩
    · rw [Response.course_of_late late] at course
      rw [Activity.bind_unfinished course, settle_late bound ((response.late_map _).mpr late)]
      rfl
    · rw [Response.course_after inTime] at course
      cases ending with
      | panicked payload =>
        rw [Activity.bind_panicked course, Response.map, Ending.map, settle_panicked (by omega)]
        simp [settledCourse]
      | returned answer =>
        rw [Activity.bind_returned course, Response.map, Ending.map, settle_last (by omega)]
        simp [settledCourse]
  | cons next rest ih =>
    obtain ⟨response, after, course⟩ :=
      driver.calling_journaled session call (some (limit - elapsed)) state journal
    simp only [makeInTurn]
    rcases response.late_or_after (limit - elapsed) with late | ⟨delay, ending, rfl, inTime⟩
    · rw [Response.course_of_late late] at course
      refine ⟨[.call session call (response.map call.observation)], after,
        .stopped (.inl ((response.late_map _).mpr late)), ?_⟩
      rw [Activity.bind_unfinished course, List.map_singleton, Exchange.response,
        settle_late bound ((response.late_map _).mpr late)]
      rfl
    · rw [Response.course_after inTime] at course
      cases ending with
      | panicked payload =>
        refine ⟨[.call session call (.after delay (.panicked payload))], after,
          .stopped (.inr ⟨delay, payload, rfl⟩), ?_⟩
        rw [Activity.bind_panicked course, List.map_singleton, Exchange.response,
          settle_panicked (by omega)]
        simp [settledCourse, Response.map, Ending.map]
      | returned answer =>
        have spent : elapsed + delay ≤ limit := by omega
        let answered : Exchange κ :=
          .call session call (.after delay (.returned (answer.map call.observation)))
        obtain ⟨segment, last, inTurn, further⟩ := ih spent next after (journal ++ [answered])
        refine ⟨answered :: segment, last, .answered spent inTurn, ?_⟩
        obtain ⟨_, _, _, rfl⟩ := inTurn.exists_cons
        have left :
            Activity.remaining (some (limit - elapsed)) delay =
              some (limit - (elapsed + delay)) := by
          rw [Activity.remaining_some, Nat.sub_sub]
        rw [Activity.bind_returned course, left]
        simp only [Response.map, Ending.map]
        rw [further]
        simp only [answered, List.map_cons, Exchange.response, settle_answered spent,
          List.append_assoc, List.singleton_append]
        cases settled : settle limit (elapsed + delay) _ with
        | never => rfl
        | after total ending =>
          have bounds := settle_bounds spent settled
          simp only [settledCourse, Activity.delayed_ended]
          congr 1
          omega

end Check

/-- What an observer is told about entries, the first of which has the given number. -/
def announcements (index : Nat) (entries : List Entry) : List Notification :=
  (entries.zipIdx index).map fun numbered => .check numbered.2 numbered.1

theorem announcements_cons (index : Nat) (entry : Entry) (entries : List Entry) :
    announcements index (entry :: entries) =
      .check index entry :: announcements (index + 1) entries := rfl

namespace Checks

/-- The outcome of a check, by the responses to its calls. -/
def verdict (checks : Checks) (check : Check) (responses : List (Response Observation)) : Outcome :=
  match settle checks.timeoutMs.toNat 0 responses with
  | .never =>
    .fail s!"Timeout: {check.name} did not complete within {checks.timeoutMs.toNat} ms"
  | .after _ (.panicked payload) =>
    .fail ("check panicked: " ++ payload.message?.getD "unknown panic payload")
  | .after _ (.returned observed) => check.evaluate checks.collection observed

/-- The time that a check takes, by the responses to its calls. -/
def duration (checks : Checks) (responses : List (Response Observation)) : Nat :=
  match settle checks.timeoutMs.toNat 0 responses with
  | .never => checks.timeoutMs.toNat
  | .after total _ => total

/-- What is entered for some checks, each of which has left a stretch of exchanges. -/
def results (checks : Checks) (list : List Check) (segments : List (List (Exchange κ))) :
    List (String × Outcome) :=
  List.zipWith
    (fun check segment => (check.name, checks.verdict check (segment.map Exchange.response)))
    list segments

/-- The time that checks take which have left these stretches of exchanges. -/
def time (checks : Checks) : List (List (Exchange κ)) → Nat
  | [] => 0
  | segment :: rest => checks.duration (segment.map Exchange.response) + checks.time rest

/-- The stretch of exchanges is one of the calls of a check, made in turn. -/
def Made (checks : Checks) (session : κ) (check : Check) (segment : List (Exchange κ)) : Prop :=
  InTurn checks.timeoutMs.toNat session 0 (check.calls checks.collection) segment

theorem notCompleted_message (check : Check) (ms : Nat) :
    (notCompleted check ms).message =
      s!"Timeout: {check.name} did not complete within {ms} ms" := by
  change "Timeout: " ++ (check.name ++ " did not complete within " ++ toString ms ++ " ms") =
    "Timeout: " ++ check.name ++ " did not complete within " ++ toString ms ++ " ms"
  simp only [String.append_assoc]

/-- One check leaves its exchanges in the journal, and these decide its outcome. -/
theorem runCheck_journaled (checks : Checks) (driver : Driver σ κ) (session : κ) (check : Check)
    (state : σ) (journal : List (Exchange κ)) :
    ∃ segment after, checks.Made session check segment ∧
      checks.runCheck driver.journaled session check none (state, journal) =
        .ended (checks.duration (segment.map Exchange.response))
          (.returned (checks.verdict check (segment.map Exchange.response)))
          (after, journal ++ segment) := by
  obtain ⟨call, rest, calls, program⟩ :=
    check.execute_eq_makeInTurn driver.journaled session checks.collection
  obtain ⟨segment, after, inTurn, course⟩ :=
    Check.makeInTurn_journaled driver session (Nat.zero_le checks.timeoutMs.toNat) call rest state
      journal
  refine ⟨segment, after, by rw [Made, calls]; exact inTurn, ?_⟩
  rw [← program, Nat.sub_zero] at course
  generalize program' : check.execute driver.journaled session checks.collection = execute at course
  simp only [runCheck, verdict, duration, program']
  generalize settle checks.timeoutMs.toNat 0 (segment.map Exchange.response) = settled at course ⊢
  cases settled with
  | never =>
    have ended : execute.guarded.within checks.timeoutMs.toNat none (state, journal) =
        .ended checks.timeoutMs.toNat (.returned none) (after, journal ++ segment) :=
      Activity.within_none_unfinished (Activity.guarded_unfinished course)
    rw [Activity.bind_returned ended, Activity.pure_apply, Activity.delayed_ended, Nat.add_zero,
      outcome, notCompleted_message]
  | after total ending =>
    have ended : execute.guarded.within checks.timeoutMs.toNat none (state, journal) =
        .ended total (.returned (some ending)) (after, journal ++ segment) :=
      Activity.within_none_returned (Activity.guarded_ended course)
    rw [Activity.bind_returned ended, Activity.pure_apply, Activity.delayed_ended, Nat.add_zero]
    cases ending <;> rfl

/-- One check beside an observer, which it leaves alone. -/
theorem runCheck_journaled_beside (checks : Checks) (driver : Driver σ κ) (session : κ)
    (check : Check) (state : σ) (journal : List (Exchange κ)) (seen : ω) :
    ∃ segment after, checks.Made session check segment ∧
      checks.runCheck (driver.journaled.beside ω) session check none ((state, journal), seen) =
        .ended (checks.duration (segment.map Exchange.response))
          (.returned (checks.verdict check (segment.map Exchange.response)))
          ((after, journal ++ segment), seen) := by
  obtain ⟨segment, after, made, course⟩ :=
    checks.runCheck_journaled driver session check state journal
  have alike := checks.runCheck_simulates (driver.journaled.beside_simulates seen) session check
    none ((state, journal), seen) (state, journal) rfl
  rw [course] at alike
  obtain ⟨_, beside, rfl⟩ := alike.of_ended
  exact ⟨segment, after, made, beside⟩

/-- What an observer is told about checks, the first of which has the given number. -/
def announced (checks : Checks) (index : Nat) (list : List Check)
    (segments : List (List (Exchange κ))) : List Notification :=
  announcements index (Report.entriesOf (checks.results list segments))

theorem announced_cons (checks : Checks) (index : Nat) (check : Check) (list : List Check)
    (segment : List (Exchange κ)) (segments : List (List (Exchange κ))) :
    checks.announced index (check :: list) (segment :: segments) =
      .check index (.ofOutcome check.name (checks.verdict check (segment.map Exchange.response))) ::
        checks.announced (index + 1) list segments := rfl

/-- By induction on the checks: each leaves a stretch of exchanges, and enters and announces what
these decide, whatever the report and the journal hold already. When the observer panics over a
check, those that would follow it are not made. -/
theorem runFrom_heard (checks : Checks) (driver : Driver σ κ) (observer : Observer ω) (session : κ)
    (index : Nat) (rest : List Check) (report : Report) (state : σ) (journal : List (Exchange κ))
    (seen : ω) :
    ∃ segments made after, List.Forall₂ (checks.Made session) rest segments ∧
      made = segments.take (checksIn (observer.heard (checks.announced index rest segments) seen)) ∧
      checks.runFrom driver.journaled observer session index rest report none
          ((state, journal), seen) =
        .ended (checks.time made)
          (observer.ending (checks.announced index rest segments) seen
            (report.recordAll (checks.results rest segments)))
          ((after, journal ++ made.flatten),
            observer.hear (checks.announced index rest segments) seen) := by
  induction rest generalizing index report state journal seen with
  | nil =>
    refine ⟨[], [], state, .nil, rfl, ?_⟩
    rw [List.flatten_nil, List.append_nil]
    rfl
  | cons check rest ih =>
    obtain ⟨segment, between, made, course⟩ :=
      checks.runCheck_journaled_beside driver session check state journal seen
    let outcome := checks.verdict check (segment.map Exchange.response)
    let told : Notification := .check index (.ofOutcome check.name outcome)
    obtain ⟨segments, further, after, others, same, later⟩ := ih (index + 1)
      (report.record check.name outcome) between (journal ++ segment) (observer.follow [told] seen)
    have telling := observer.telling_apply told none (between, journal ++ segment) seen
    rcases observer.returned_or_panicked told seen with took | ⟨payload, panicked⟩
    · rw [took] at telling
      refine ⟨segment :: segments, segment :: further, after, .cons made others, ?_, ?_⟩
      · rw [announced_cons, Observer.heard_cons_returned took, checksIn_check, List.take_succ_cons,
          same]
      · rw [runFrom, Activity.bind_returned course, Activity.remaining_none,
          Activity.bind_returned telling, Activity.remaining_none, later, announced_cons,
          Observer.ending_cons_returned took, Observer.hear_cons_returned took]
        simp only [Activity.delayed_ended, Nat.zero_add, List.flatten_cons, List.append_assoc]
        rfl
    · rw [panicked] at telling
      refine ⟨segment :: segments, [segment], between, .cons made others, ?_, ?_⟩
      · rw [announced_cons, Observer.heard_cons_panicked panicked]
        rfl
      · rw [runFrom, Activity.bind_returned course, Activity.remaining_none,
          Activity.bind_panicked telling, announced_cons, Observer.ending_cons_panicked panicked,
          Observer.hear_cons_panicked panicked, Activity.delayed_ended, List.flatten_singleton]
        rfl

theorem checksIn_announced (checks : Checks) (index : Nat) {list : List Check}
    {segments : List (List (Exchange κ))} (same : list.length = segments.length) :
    checksIn (checks.announced index list segments) = segments.length := by
  induction list generalizing index segments with
  | nil => exact same
  | cons check list ih =>
    cases segments with
    | nil => simp at same
    | cons segment segments =>
      rw [announced_cons, checksIn_check, ih (index + 1) (Nat.succ.inj same), List.length_cons]

/-- Before a calm observer all checks are made. -/
theorem runFrom_journaled (checks : Checks) (driver : Driver σ κ) {observer : Observer ω}
    (calm : observer.NeverPanics) (session : κ) (index : Nat) (rest : List Check) (report : Report)
    (state : σ) (journal : List (Exchange κ)) (seen : ω) :
    ∃ segments after, List.Forall₂ (checks.Made session) rest segments ∧
      checks.runFrom driver.journaled observer session index rest report none
          ((state, journal), seen) =
        .ended (checks.time segments) (.returned (report.recordAll (checks.results rest segments)))
          ((after, journal ++ segments.flatten), observer.follow
            (announcements index (Report.entriesOf (checks.results rest segments))) seen) := by
  obtain ⟨segments, _, after, made, rfl, course⟩ :=
    checks.runFrom_heard driver observer session index rest report state journal seen
  have taken := calm.panic?_eq_none (checks.announced index rest segments) seen
  rw [Observer.heard_of_taken taken, checks.checksIn_announced index made.length_eq,
    List.take_length, Observer.ending_of_taken taken, Observer.hear_of_taken taken] at course
  exact ⟨segments, after, made, course⟩

theorem names_entriesOf_results (checks : Checks) {list : List Check}
    {segments : List (List (Exchange κ))} (same : list.length = segments.length) :
    (Report.entriesOf (checks.results list segments)).map Entry.name = list.map Check.name := by
  induction list generalizing segments with
  | nil => rfl
  | cons check list ih =>
    cases segments with
    | nil => simp at same
    | cons segment segments =>
      have tail := ih (Nat.succ.inj same)
      simp only [results, Report.entriesOf, List.zipWith_cons_cons, List.map_cons,
        Entry.name_ofOutcome] at tail ⊢
      rw [tail]

/-- What is entered for a check, by what its calls are settled to: that it ran out of time, that it
panicked, or what its observation is judged to be. -/
inductive Entered (checks : Checks) (check : Check) : Response Observation → Entry → Prop
  | late :
      Entered checks check .never ⟨check.name, .fail,
        some s!"Timeout: {check.name} did not complete within {checks.timeoutMs.toNat} ms"⟩
  | panicked {delay : Nat} {payload : Payload} :
      Entered checks check (.after delay (.panicked payload)) ⟨check.name, .fail,
        some ("check panicked: " ++ payload.message?.getD "unknown panic payload")⟩
  | passed {delay : Nat} {observed : Except Failure Observation}
      (passes : check.evaluate checks.collection observed = .pass) :
      Entered checks check (.after delay (.returned observed)) ⟨check.name, .pass, none⟩
  | failed {delay : Nat} {observed : Except Failure Observation} {detail : String}
      (fails : check.evaluate checks.collection observed = .fail detail) :
      Entered checks check (.after delay (.returned observed)) ⟨check.name, .fail, some detail⟩

theorem entered_verdict (checks : Checks) (check : Check)
    (responses : List (Response Observation)) :
    checks.Entered check (settle checks.timeoutMs.toNat 0 responses)
      (.ofOutcome check.name (checks.verdict check responses)) := by
  rw [verdict]
  generalize settle checks.timeoutMs.toNat 0 responses = settled
  cases settled with
  | never => exact .late
  | after delay ending =>
    cases ending with
    | panicked payload => exact .panicked
    | returned observed =>
      dsimp only
      cases judged : check.evaluate checks.collection observed with
      | pass => exact .passed judged
      | fail detail => exact .failed judged

theorem entered_results (checks : Checks) (list : List Check)
    (segments : List (List (Exchange κ))) :
    List.Forall₂
      (fun made entry => checks.Entered made.1
        (settle checks.timeoutMs.toNat 0 (made.2.map Exchange.response)) entry)
      (list.zip segments) (Report.entriesOf (checks.results list segments)) := by
  rw [results, Report.entriesOf, ← List.map_uncurry_zip_eq_zipWith, List.map_map,
    List.forall₂_map_right_iff, List.forall₂_same]
  intro made _
  exact checks.entered_verdict made.1 _

/-- All checks are run, whatever comes of their calls: one entry for each, in order, is added to the
report and announced under its number, and it depends on nothing but the responses to the calls of
its own check, which a journal of the run shows one stretch after another. The numbers of the report
grow by the entries that they count. -/
theorem run_entries (checks : Checks) (driver : Driver σ κ) {observer : Observer ω}
    (calm : observer.NeverPanics) (session : κ) (report : Report) (state : σ) (seen : ω) :
    ∃ (segments : List (List (Exchange κ))) (entries : List Entry) (finished : Report) (after : σ),
      List.Forall₂ (checks.Made session) Check.all segments ∧
      entries = List.zipWith
        (fun check segment =>
          .ofOutcome check.name (checks.verdict check (segment.map Exchange.response)))
        Check.all segments ∧
      List.Forall₂
        (fun made entry => checks.Entered made.1
          (settle checks.timeoutMs.toNat 0 (made.2.map Exchange.response)) entry)
        (Check.all.zip segments) entries ∧
      entries.map Entry.name = Check.all.map Check.name ∧
      finished.entries = report.entries ++ entries ∧
      finished.passed = report.passed + UInt64.ofNat ((entries.map Entry.status).count .pass) ∧
      finished.failed = report.failed + UInt64.ofNat ((entries.map Entry.status).count .fail) ∧
      (checks.run driver observer session report).run (state, seen) =
        .ended (checks.time segments) (.returned finished)
          (after, observer.follow (announcements 1 entries) seen) ∧
      (checks.run driver.journaled observer session report).run ((state, []), seen) =
        .ended (checks.time segments) (.returned finished)
          ((after, segments.flatten), observer.follow (announcements 1 entries) seen) := by
  obtain ⟨segments, after, made, journaled⟩ :=
    checks.runFrom_journaled driver calm session 1 Check.all report state [] seen
  have plain := checks.runFrom_simulates driver.journaled_simulates observer session 1 Check.all
    report none ((state, []), seen) (state, seen) ⟨rfl, rfl⟩
  rw [journaled] at plain
  obtain ⟨⟨_, _⟩, course, rfl, rfl⟩ := plain.ended_of
  have recorded := report.recordAll_eq (checks.results Check.all segments)
  refine ⟨segments, Report.entriesOf (checks.results Check.all segments), _, after, made, ?_,
    checks.entered_results Check.all segments, checks.names_entriesOf_results made.length_eq,
    congrArg Report.entries recorded, congrArg Report.passed recorded,
    congrArg Report.failed recorded, course, journaled⟩
  rw [Report.entriesOf, results, List.map_zipWith]

/-- A session whose find fails, whose delete panics and whose update is never answered. -/
def faultySession : Memory.Session :=
  .open_ "shop" { Memory.Faults.none with
    failing := [.find], panicking := [.deleteOne], hanging := [.updateOne] }

/-- What is entered for the checks on this session within 100 ms. -/
def faultyEntries : List Entry := [
  ⟨"ping", .pass, none⟩,
  ⟨"create-collection", .pass, none⟩,
  ⟨"insert-one", .pass, none⟩,
  ⟨"find-one", .pass, none⟩,
  ⟨"insert-many", .pass, none⟩,
  ⟨"find-with-limit", .fail, some "Driver error: injected failure in Find"⟩,
  ⟨"update-one", .fail, some "Timeout: update-one did not complete within 100 ms"⟩,
  ⟨"delete-one", .fail, some "check panicked: injected panic in DeleteOne"⟩,
  ⟨"list-collections", .pass, none⟩,
  ⟨"drop-collection", .pass, none⟩]

/-- The checks on a session that was opened, after an earlier entry, watched by a recorder. -/
theorem run_entries_recorder :
    ∃ after, ((Checks.mk "people" 100).run (Memory.driver .plain) .recorder 0
        (Report.empty.record "seed" .pass)).run (⟨[faultySession], .none⟩, []) =
      .ended 100 (.returned ⟨8, 3, ⟨"seed", .pass, none⟩ :: faultyEntries⟩)
        (after, announcements 1 faultyEntries) := by
  obtain ⟨segments, entries, finished, after, -, -, -, -, appended, -, -, course, -⟩ :=
    (Checks.mk "people" 100).run_entries (Memory.driver .plain) Observer.recorder_neverPanics 0
      (Report.empty.record "seed" .pass) ⟨[faultySession], .none⟩ []
  have elapsed : (((Checks.mk "people" 100).run (Memory.driver .plain) .recorder 0
      (Report.empty.record "seed" .pass)).run (⟨[faultySession], .none⟩, [])).elapsed = 100 := by
    decide +kernel
  have ending : (((Checks.mk "people" 100).run (Memory.driver .plain) .recorder 0
      (Report.empty.record "seed" .pass)).run (⟨[faultySession], .none⟩, [])).ending? =
        some (.returned ⟨8, 3, ⟨"seed", .pass, none⟩ :: faultyEntries⟩) := by
    decide +kernel
  rw [course] at elapsed ending
  obtain rfl : finished = ⟨8, 3, ⟨"seed", .pass, none⟩ :: faultyEntries⟩ :=
    Ending.returned.inj (Option.some.inj ending)
  obtain rfl : faultyEntries = entries := (List.cons.inj appended).2
  rw [Observer.follow_recorder] at course
  change (Checks.mk "people" 100).time segments = 100 at elapsed
  rw [elapsed] at course
  exact ⟨after, course⟩

end Checks

end DriverCompat
