import DriverCompat.Proofs.Console.Transcript

/-! # What a sink is asked

A transcript offers its text to a sink in fragments and flushes the sink at the end. Offers are made
one after another as long as something is taken. The first one that fails is the last thing that the
sink is asked: nothing that is said later is offered, and the sink is not flushed. So a sink that
stops somewhere holds the front of the text up to there, and the transcript ends with the fault of
the offer that failed.
-/

namespace DriverCompat.Console

variable {σ : Type}

/-- Something that a sink was asked, with its answer. -/
inductive Attempt where
  | offer (bytes : List UInt8) (answer : Except IoFault Nat)
  | flush (answer : Except IoFault Unit)

namespace Attempt

/-- What was taken of what was offered. -/
def taken : Attempt → List UInt8
  | .offer bytes (.ok count) => bytes.take count
  | _ => []

/-- An offer of which something was taken. -/
def Succeeds (attempt : Attempt) : Prop := ∃ bytes count, attempt = .offer bytes (.ok (count + 1))

/-- An offer that failed with a fault. An offer of which nothing was taken is one of these. -/
inductive Fails : IoFault → Attempt → Prop
  | refused (bytes : List UInt8) (fault : IoFault) : Fails fault (.offer bytes (.error fault))
  | ignored (bytes : List UInt8) : Fails .writeZero (.offer bytes (.ok 0))

/-- Offers that all succeed, or of which only the last one fails with the fault that there is. -/
def EndIn : Option IoFault → List Attempt → Prop
  | none, attempts => ∀ attempt ∈ attempts, attempt.Succeeds
  | some fault, attempts => ∃ offers last, attempts = offers ++ [last] ∧
      (∀ attempt ∈ offers, attempt.Succeeds) ∧ last.Fails fault

theorem EndIn.append {first second : List Attempt} {fault? : Option IoFault}
    (sound : EndIn none first) (ends : EndIn fault? second) : EndIn fault? (first ++ second) := by
  cases fault? with
  | none =>
    intro attempt member
    rcases List.mem_append.mp member with before | behind
    · exact sound attempt before
    · exact ends attempt behind
  | some fault =>
    obtain ⟨offers, last, rfl, succeed, fails⟩ := ends
    refine ⟨first ++ offers, last, (List.append_assoc ..).symm, ?_, fails⟩
    intro attempt member
    rcases List.mem_append.mp member with before | behind
    · exact sound attempt before
    · exact succeed attempt behind

theorem endIn_of_fails {last : Attempt} {fault : IoFault} (fails : last.Fails fault) :
    EndIn (some fault) [last] :=
  ⟨[], last, rfl, nofun, fails⟩

theorem endIn_of_succeeds {attempt : Attempt} (succeeds : attempt.Succeeds) :
    EndIn none [attempt] := by
  intro other member
  rwa [List.mem_singleton.mp member]

end Attempt

namespace Sink

/-- The sink with a list of what it has been asked. -/
def recorded (sink : Sink σ) : Sink (σ × List Attempt) where
  offer bytes state :=
    let (answer, after) := sink.offer bytes state.1
    (answer, (after, state.2 ++ [.offer bytes answer]))
  flush state :=
    let (answer, after) := sink.flush state.1
    (answer, (after, state.2 ++ [.flush answer]))

/-- The sink to which no more than a fragment of what is left is offered at a time. How many bytes
follow the first one in a fragment may depend on anything. -/
def fragmented (sink : Sink σ) (size : List UInt8 → σ → Nat) : Sink σ where
  offer bytes state := sink.offer (bytes.take (size bytes state + 1)) state
  flush := sink.flush

/-- A sink never says that it has taken more than it was offered. -/
def Honest (sink : Sink σ) : Prop :=
  ∀ bytes state count, (sink.offer bytes state).1 = .ok count → count ≤ bytes.length

variable {sink : Sink σ} {taken : σ → List UInt8} {capacity : Option Nat}

theorem Honest.recorded (honest : sink.Honest) : sink.recorded.Honest :=
  fun bytes state => honest bytes state.1

theorem Bounded.recorded (bounded : sink.Bounded taken capacity) :
    sink.recorded.Bounded (fun state => taken state.1) capacity where
  takes first rest state fits free := by
    obtain ⟨count, after, offered, kept⟩ := bounded.takes first rest state.1 fits free
    refine ⟨count, (after, state.2 ++ [.offer (first :: rest) (.ok (count + 1))]), ?_, kept⟩
    simp only [Sink.recorded, offered]
  refuses first rest state full := by
    obtain ⟨answer, after, offered, kept⟩ := bounded.refuses first rest state.1 full
    refine ⟨answer, (after, state.2 ++ [.offer (first :: rest) answer]), ?_, kept⟩
    simp only [Sink.recorded, offered]

/-- Fragments make no difference to where a sink stops. -/
theorem Bounded.fragmented (bounded : sink.Bounded taken capacity) (honest : sink.Honest)
    (size : List UInt8 → σ → Nat) : (sink.fragmented size).Bounded taken capacity where
  takes first rest state fits free := by
    obtain ⟨count, after, offered, kept, within⟩ :=
      bounded.takes first (rest.take (size (first :: rest) state)) state fits free
    have most : count ≤ size (first :: rest) state := by
      have := honest _ state (count + 1) (congrArg Prod.fst offered)
      simp only [List.length_cons, List.length_take] at this
      omega
    refine ⟨count, after, offered, ?_, within⟩
    rw [kept, List.take_succ_cons, List.take_succ_cons, List.take_take, Nat.min_eq_left most]
  refuses first rest state full :=
    bounded.refuses first (rest.take (size (first :: rest) state)) state full

/-- The fault in an answer, if there is one. -/
def faultOf : Except IoFault Unit → Option IoFault
  | .ok () => none
  | .error fault => some fault

/-- By induction on what is left to offer: offers succeed until one fails or nothing is left, and
what they took is the front of what there was to write. -/
theorem write_recorded (honest : sink.Honest) (size : List UInt8 → σ × List Attempt → Nat)
    (bytes : List UInt8) (state : σ × List Attempt) :
    ∃ answer after attempts rest,
      (sink.recorded.fragmented size).write bytes state = (answer, (after, state.2 ++ attempts)) ∧
      Attempt.EndIn (faultOf answer) attempts ∧
      bytes = attempts.flatMap Attempt.taken ++ rest ∧ (answer = .ok () ↔ rest = []) := by
  induction length : bytes.length using Nat.strongRecOn generalizing bytes state with
  | ind n ih =>
    cases bytes with
    | nil =>
      refine ⟨.ok (), state.1, [], [], ?_, List.forall_mem_nil _, rfl, iff_of_true rfl rfl⟩
      rw [write, List.append_nil]
    | cons first rest =>
      obtain ⟨piece, cut⟩ :
          ∃ piece, (first :: rest).take (size (first :: rest) state + 1) = piece := ⟨_, rfl⟩
      rcases offered : sink.offer piece state.1 with ⟨answer, between⟩
      have asked : (sink.recorded.fragmented size).offer (first :: rest) state =
          (answer, (between, state.2 ++ [.offer piece answer])) := by
        simp only [fragmented, recorded, cut, offered]
      rw [write, asked]
      rcases answer with fault | _ | count
      · refine ⟨_, between, _, first :: rest, rfl, Attempt.endIn_of_fails (.refused _ fault), rfl,
          ?_⟩
        constructor <;> rintro ⟨⟩
      · refine ⟨_, between, _, first :: rest, rfl, Attempt.endIn_of_fails (.ignored _), rfl, ?_⟩
        constructor <;> rintro ⟨⟩
      · obtain ⟨answer, after, attempts, left, written, ends, front, whole⟩ :=
          ih (rest.drop count).length
            (by simp only [List.length_drop, List.length_cons] at length ⊢; omega)
            (rest.drop count) (between, state.2 ++ [.offer piece (.ok (count + 1))]) rfl
        refine ⟨answer, after, _, left, written.trans (by rw [List.append_assoc]), ?_, ?_, whole⟩
        · exact (Attempt.endIn_of_succeeds ⟨_, count, rfl⟩).append ends
        · have most : count + 1 ≤ piece.length := by
            apply honest piece state.1
            rw [offered]
          have took : piece.take (count + 1) = first :: rest.take count := by
            rw [← cut, List.length_take] at most
            rw [← cut, List.take_take, Nat.min_eq_left (by omega), List.take_succ_cons]
          calc first :: rest
            _ = first :: (rest.take count ++ rest.drop count) := by rw [List.take_append_drop]
            _ = piece.take (count + 1) ++ (attempts.flatMap Attempt.taken ++ left) := by
              rw [took, front, List.cons_append]
            _ = _ := (List.append_assoc ..).symm

end Sink

/-- A sink with limits takes no more than there is room for, and no more than it is offered. -/
theorem Limits.honest (limits : Limits) : limits.sink.Honest := by
  obtain ⟨_ | capacity, whenFull, flushFails⟩ := limits
  · rintro bytes state count answered
    exact Nat.le_of_eq (Except.ok.inj answered).symm
  · intro bytes state count answered
    simp only [sink] at answered
    split at answered
    · cases whenFull with
      | fails => cases answered
      | takesNothing =>
        obtain rfl := Except.ok.inj answered
        exact Nat.zero_le _
    · obtain rfl := Except.ok.inj answered
      exact Nat.min_le_left _ _

namespace Transcript

/-- The transcript of some notifications, written to a sink. -/
def written (sink : Sink σ) (notifications : List Notification) (start : σ) : Transcript σ :=
  (observer sink).follow notifications (.begin_ start)

section Recorded

variable {sink : Sink σ} (honest : sink.Honest) (size : List UInt8 → σ × List Attempt → Nat)
  {transcript : Transcript (σ × List Attempt)}
include honest

theorem endIn_line (ends : Attempt.EndIn transcript.fault transcript.sink.2) (text : String) :
    let after := transcript.line (sink.recorded.fragmented size) text
    Attempt.EndIn after.fault after.sink.2 := by
  intro after
  cases known : transcript.fault with
  | some fault =>
    have same : after = transcript := by
      simp only [after, line, known]
    rwa [same]
  | none =>
    rw [known] at ends
    obtain ⟨answer, state, attempts, -, wrote, further, -⟩ := Sink.write_recorded honest size
      (Text.encode (text ++ "\n").toList) transcript.sink
    have put : (sink.recorded.fragmented size).writeText (text ++ "\n") transcript.sink =
        (answer, (state, transcript.sink.2 ++ attempts)) := wrote
    rcases answer with fault | _
    · have stopped : after = { transcript with
          fault := some fault, sink := (state, transcript.sink.2 ++ attempts) } := by
        simp only [after, line, known, put]
      rw [stopped]
      exact ends.append further
    · have going : after = { transcript with sink := (state, transcript.sink.2 ++ attempts) } := by
        simp only [after, line, known, put]
      rw [going, known]
      exact ends.append further

theorem endIn_lines (ends : Attempt.EndIn transcript.fault transcript.sink.2)
    (texts : List String) :
    let after := texts.foldl (line (sink.recorded.fragmented size)) transcript
    Attempt.EndIn after.fault after.sink.2 := by
  induction texts generalizing transcript with
  | nil => exact ends
  | cons text texts ih => exact ih (endIn_line honest size ends text)

/-- By induction on the notifications: a transcript keeps the first fault, and nothing is offered
to its sink after that. -/
theorem endIn_follow (ends : Attempt.EndIn transcript.fault transcript.sink.2)
    (notifications : List Notification) :
    let after := (observer (sink.recorded.fragmented size)).follow notifications transcript
    Attempt.EndIn after.fault after.sink.2 := by
  induction notifications generalizing transcript with
  | nil => exact ends
  | cons notification rest ih =>
    apply ih
    exact endIn_lines honest size ends (lines transcript.width notification)

end Recorded

/-- The lines for some notifications are kept by a sink as far as they fit. -/
theorem keeps_written {sink : Sink σ} {taken : σ → List UInt8} {capacity : Option Nat}
    (bounded : sink.Bounded taken capacity) {start : σ} (fresh : taken start = [])
    (notifications : List Notification) :
    (written sink notifications start).Keeps taken capacity
      (Text.encode (textOf (linesFrom defaultWidth notifications))) := by
  have empty : (begin_ start).Keeps taken capacity [] := by
    refine ⟨fresh.trans (upTo_of_fits ?_).symm, iff_of_true rfl ?_⟩
    · exact fun _ _ => Nat.zero_le _
    · exact fun _ _ => Nat.zero_le _
  exact empty.follow bounded notifications

/-- What is left of a transcript when its sink stops somewhere: `text` is what a sink without
limits would hold, and the sink holds the front of it. If all of it fits, every offer has succeeded,
and the transcript ends as the flush does that follows. Otherwise the last thing that the sink has
been asked is the only offer that failed, and the transcript ends with its fault. -/
theorem finish_written {sink : Sink σ} {taken : σ → List UInt8} {capacity : Option Nat}
    (honest : sink.Honest) (bounded : sink.Bounded taken capacity)
    (size : List UInt8 → σ × List Attempt → Nat) {start : σ} (fresh : taken start = [])
    (notifications : List Notification) :
    let device := sink.recorded.fragmented size
    let last := written device notifications (start, [])
    let text := (written Limits.none.sink notifications []).sink
    text = Text.encode (textOf (linesFrom defaultWidth notifications)) ∧
      taken last.sink.1 = upTo capacity text ∧
      ((last.finish device).1 = .ok () ↔
        Fits capacity text ∧ (sink.flush last.sink.1).1 = .ok ()) ∧
      (Fits capacity text → (∀ attempt ∈ last.sink.2, attempt.Succeeds) ∧
        last.finish device = sink.recorded.flush last.sink) ∧
      (¬ Fits capacity text → ∃ fault offers failed, last.sink.2 = offers ++ [failed] ∧
        (∀ attempt ∈ offers, attempt.Succeeds) ∧ failed.Fails fault ∧
        last.finish device = (.error fault, last.sink)) := by
  intro device last text
  have whole : text = Text.encode (textOf (linesFrom defaultWidth notifications)) :=
    (keeps_written Limits.none.bounded rfl notifications).sink
  have keeps : last.Keeps (fun state => taken state.1) capacity text := by
    rw [whole]
    exact keeps_written (bounded.recorded.fragmented honest.recorded size) fresh notifications
  have ends : Attempt.EndIn last.fault last.sink.2 :=
    @endIn_follow σ sink honest size (.begin_ (start, [])) nofun notifications
  refine ⟨whole, keeps.sink, ?_, ?_, ?_⟩
  · cases known : last.fault with
    | none =>
      have flushed : (last.finish device).1 = (sink.flush last.sink.1).1 := by
        simp only [finish, known]
        rfl
      rw [flushed]
      exact (and_iff_right (keeps.fault.mp known)).symm
    | some fault =>
      have failed : (last.finish device).1 = .error fault := by
        simp only [finish, known]
      rw [failed]
      refine iff_of_false nofun fun both => ?_
      rw [keeps.fault.mpr both.1] at known
      cases known
  · intro fits
    have sound := keeps.fault.mpr fits
    rw [sound] at ends
    refine ⟨ends, ?_⟩
    simp only [finish, sound]
    rfl
  · intro tooLong
    obtain ⟨fault, known⟩ := Option.ne_none_iff_exists'.mp (mt keeps.fault.mp tooLong)
    rw [known] at ends
    obtain ⟨offers, failed, log, succeed, fails⟩ := ends
    refine ⟨fault, offers, failed, log, succeed, fails, ?_⟩
    simp only [finish, known]

/-- A sink with room for forty bytes, which end in the third line. It is offered seven bytes at a
time, and says that it has taken nothing once it is full. -/
theorem finish_written_full :
    let device := (Limits.mk (some 40) .takesNothing false).sink.recorded.fragmented fun _ _ => 6
    let last := written device [.connected, .check 1 (.ofOutcome "ping" .pass), .connected] ([], [])
    last.sink.1 = Text.encode "✓ Connected successfully\n\n✓ Test 1: ".toList ∧
      last.finish device = (.error .writeZero, last.sink) ∧
      ∃ offers failed, last.sink.2 = offers ++ [failed] ∧ offers.length = 7 ∧
        failed.Fails .writeZero := by
  intro device last
  obtain ⟨whole, kept, -, -, stops⟩ := finish_written
    (Limits.honest ⟨some 40, .takesNothing, false⟩) (Limits.bounded _) (fun _ _ => 6)
      (rfl : id ([] : List UInt8) = [])
    [.connected, .check 1 (.ofOutcome "ping" .pass), .connected]
  rw [whole] at kept stops
  have tooLong : ¬ Fits (some 40) (Text.encode (textOf (linesFrom defaultWidth
      [.connected, .check 1 (.ofOutcome "ping" .pass), .connected]))) := by
    intro fits
    exact absurd (fits 40 rfl) (by decide +kernel)
  obtain ⟨fault, offers, failed, log, -, fails, ended⟩ := stops tooLong
  have known : last.fault = some .writeZero := by decide +kernel
  have answered : last.finish device = (.error .writeZero, last.sink) := by
    simp only [finish, known]
  obtain rfl : .writeZero = fault :=
    Except.error.inj (congrArg Prod.fst (answered.symm.trans ended))
  have count : last.sink.2.length = 8 := by decide +kernel
  rw [log, List.length_append] at count
  refine ⟨kept.trans (by decide +kernel), ended, offers, failed, log, ?_, fails⟩
  exact Nat.succ.inj count

end Transcript

end DriverCompat.Console
