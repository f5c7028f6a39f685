import DriverCompat.Console.Transcript
import DriverCompat.Proofs.Run.CheckSequence
import DriverCompat.Proofs.Text.Utf8

/-! # The text of a transcript

The lines of all notifications, one after another, are the text of a transcript. A sink that takes
what it is offered in pieces of any size ends up with that text, as far as it fits into the sink.
-/

namespace DriverCompat.Console

variable {σ : Type}

/-- The text of some lines. -/
def textOf (lines : List String) : List Char := lines.flatMap fun line => line.toList ++ ['\n']

@[simp] theorem textOf_nil : textOf [] = [] := rfl

theorem textOf_cons (line : String) (lines : List String) :
    textOf (line :: lines) = line.toList ++ '\n' :: textOf lines := by
  simp [textOf]

theorem textOf_append (first second : List String) :
    textOf (first ++ second) = textOf first ++ textOf second :=
  List.flatMap_append

/-- The lines for some notifications, the first of them below rules of a width. -/
def linesFrom : Nat → List Notification → List String
  | _, [] => []
  | width, notification :: rest =>
    lines width notification ++ linesFrom (widthAfter width notification) rest

theorem linesFrom_cons (width : Nat) (notification : Notification) (rest : List Notification) :
    linesFrom width (notification :: rest) =
      lines width notification ++ linesFrom (widthAfter width notification) rest := rfl

/-- A sink that takes some bytes of every offer and keeps them in order, by what it has taken. -/
def Sink.Accepts (sink : Sink σ) (taken : σ → List UInt8) : Prop :=
  ∀ first rest state, ∃ count after, sink.offer (first :: rest) state = (.ok (count + 1), after) ∧
    taken after = taken state ++ (first :: rest).take (count + 1)

/-- The sink without limits takes everything. -/
theorem Limits.none_accepts : Limits.none.sink.Accepts id := by
  intro first rest taken
  exact ⟨rest.length, taken ++ first :: rest, rfl, by simp⟩

/-- The bytes that fit into a capacity. -/
def upTo : Option Nat → List UInt8 → List UInt8
  | none, bytes => bytes
  | some capacity, bytes => bytes.take capacity

/-- Whether all of some bytes fit into a capacity. -/
def Fits (capacity : Option Nat) (bytes : List UInt8) : Prop :=
  ∀ limit ∈ capacity, bytes.length ≤ limit

theorem upTo_of_fits {capacity : Option Nat} {bytes : List UInt8} (fits : Fits capacity bytes) :
    upTo capacity bytes = bytes := by
  cases capacity with
  | none => rfl
  | some limit => exact List.take_of_length_le (fits limit rfl)

theorem Fits.of_append {capacity : Option Nat} {first second : List UInt8}
    (fits : Fits capacity (first ++ second)) : Fits capacity first := by
  intro limit known
  have whole := fits limit known
  rw [List.length_append] at whole
  omega

theorem upTo_append_of_not_fits {capacity : Option Nat} {first : List UInt8}
    (tooLong : ¬ Fits capacity first) (second : List UInt8) :
    upTo capacity (first ++ second) = upTo capacity first := by
  cases capacity with
  | none => exact absurd nofun tooLong
  | some limit =>
    apply List.take_append_of_le_length
    by_contra short
    exact tooLong fun | _, rfl => by omega

/-- A sink that keeps bytes in order up to its capacity. Below that it takes some bytes of every
offer. From there on it takes none: it fails, or it answers that it took none. -/
structure Sink.Bounded (sink : Sink σ) (taken : σ → List UInt8) (capacity : Option Nat) : Prop where
  takes : ∀ first rest state, Fits capacity (taken state) → (taken state).length ∉ capacity →
    ∃ count after, sink.offer (first :: rest) state = (.ok (count + 1), after) ∧
      taken after = taken state ++ (first :: rest).take (count + 1) ∧ Fits capacity (taken after)
  refuses : ∀ first rest state, (taken state).length ∈ capacity →
    ∃ answer after, sink.offer (first :: rest) state = (answer, after) ∧
      taken after = taken state ∧ ∀ count, answer ≠ .ok (count + 1)

/-- A sink that accepts everything is bounded by nothing. -/
theorem Sink.Accepts.bounded {sink : Sink σ} {taken : σ → List UInt8}
    (accepts : sink.Accepts taken) : sink.Bounded taken none where
  takes first rest state _ _ := by
    obtain ⟨count, after, offered, kept⟩ := accepts first rest state
    exact ⟨count, after, offered, kept, nofun⟩
  refuses _ _ _ full := absurd full (Option.not_mem_none _)

/-- A sink with limits is bounded by its capacity. -/
theorem Limits.bounded (limits : Limits) : limits.sink.Bounded id limits.capacity := by
  obtain ⟨_ | capacity, whenFull, flushFails⟩ := limits
  · exact Sink.Accepts.bounded fun first rest taken =>
      ⟨rest.length, taken ++ first :: rest, rfl, by simp⟩
  constructor
  · intro first rest taken fits free
    have short : taken.length < capacity :=
      Nat.lt_of_le_of_ne (fits capacity rfl) fun same => free (congrArg some same.symm)
    obtain ⟨count, room⟩ : ∃ count,
        min (first :: rest).length (capacity - taken.length) = count + 1 :=
      Nat.exists_eq_succ_of_ne_zero (by rw [List.length_cons]; omega)
    refine ⟨count, taken ++ (first :: rest).take (count + 1), ?_, rfl, fun limit known => ?_⟩
    · simp only [sink, room]
      rfl
    · obtain rfl : capacity = limit := Option.some.inj known
      simp only [id, List.length_append, List.length_take]
      omega
  · intro first rest taken full
    obtain rfl : capacity = taken.length := Option.some.inj full
    have room : min (first :: rest).length (taken.length - taken.length) = 0 := by
      rw [Nat.sub_self, Nat.min_zero]
    cases whenFull with
    | fails =>
      refine ⟨.error (.brokenPipe "closed"), taken, ?_, rfl, fun _ => nofun⟩
      simp only [sink, room]
      rfl
    | takesNothing =>
      refine ⟨.ok 0, taken, ?_, rfl, fun _ => nofun⟩
      simp only [sink, room]
      rfl

section Bounded

variable {sink : Sink σ} {taken : σ → List UInt8} {capacity : Option Nat}
  (bounded : sink.Bounded taken capacity)
include bounded

/-- As much is written as fits, and all of it exactly if there has been no failure. -/
theorem Sink.write_of_bounded (bytes : List UInt8) (state : σ)
    (fits : Fits capacity (taken state)) :
    ∃ answer after, sink.write bytes state = (answer, after) ∧
      taken after = upTo capacity (taken state ++ bytes) ∧
      (answer = .ok () ↔ Fits capacity (taken state ++ bytes)) := by
  induction length : bytes.length using Nat.strongRecOn generalizing bytes state with
  | ind n ih =>
    cases bytes with
    | nil =>
      refine ⟨.ok (), state, by rw [write], ?_⟩
      rw [List.append_nil, upTo_of_fits fits]
      exact ⟨rfl, iff_of_true rfl fits⟩
    | cons first rest =>
      by_cases full : (taken state).length ∈ capacity
      · obtain ⟨answer, after, offered, kept, nothing⟩ := bounded.refuses first rest state full
        obtain rfl : capacity = some (taken state).length := full
        have tooLong : ¬ Fits (some (taken state).length) (taken state ++ first :: rest) := by
          intro fits
          have := fits _ rfl
          rw [List.length_append, List.length_cons] at this
          omega
        have cut : upTo (some (taken state).length) (taken state ++ first :: rest) = taken state :=
          List.take_left
        rw [cut, write, offered]
        rcases answer with fault | _ | count
        · exact ⟨_, after, rfl, kept, iff_of_false (by simp) tooLong⟩
        · exact ⟨_, after, rfl, kept, iff_of_false (by simp) tooLong⟩
        · exact absurd rfl (nothing count)
      · obtain ⟨count, between, offered, kept, within⟩ := bounded.takes first rest state fits full
        obtain ⟨answer, after, written, all⟩ := ih (rest.drop count).length
          (by simp only [List.length_drop, List.length_cons] at length ⊢; omega)
          (rest.drop count) between within rfl
        refine ⟨answer, after, by rw [write, offered]; exact written, ?_⟩
        rwa [kept, List.append_assoc, List.take_succ_cons, List.cons_append,
          List.take_append_drop] at all

namespace Transcript

/-- What stands in the sink when some bytes were to be written: those that fit. There has been a
fault exactly if they are not all. -/
structure Keeps (taken : σ → List UInt8) (capacity : Option Nat) (transcript : Transcript σ)
    (bytes : List UInt8) : Prop where
  sink : taken transcript.sink = upTo capacity bytes
  fault : transcript.fault = none ↔ Fits capacity bytes

omit bounded in
/-- Nothing more is kept after a fault. -/
theorem Keeps.append_of_fault {transcript : Transcript σ} {bytes : List UInt8}
    (keeps : transcript.Keeps taken capacity bytes) (fault : transcript.fault ≠ none)
    (more : List UInt8) : transcript.Keeps taken capacity (bytes ++ more) := by
  have tooLong : ¬ Fits capacity bytes := fun fits => fault (keeps.fault.mpr fits)
  refine ⟨?_, iff_of_false fault fun fits => tooLong fits.of_append⟩
  rw [upTo_append_of_not_fits tooLong, keeps.sink]

theorem Keeps.line {transcript : Transcript σ} {bytes : List UInt8}
    (keeps : transcript.Keeps taken capacity bytes) (text : String) :
    (transcript.line sink text).Keeps taken capacity
      (bytes ++ Text.encode (text.toList ++ ['\n'])) := by
  unfold Transcript.line
  split
  · rename_i known
    exact keeps.append_of_fault (by rw [known]; exact nofun) _
  · rename_i sound
    have fits := keeps.fault.mp sound
    have before : taken transcript.sink = bytes := keeps.sink.trans (upTo_of_fits fits)
    obtain ⟨answer, after, written, kept, whole⟩ := Sink.write_of_bounded bounded
      (Text.encode (text.toList ++ ['\n'])) transcript.sink (before ▸ fits)
    have answered : sink.writeText (text ++ "\n") transcript.sink = (answer, after) := by
      rw [Sink.writeText, String.toList_append]
      exact written
    rw [before] at kept whole
    rw [answered]
    rcases answer with fault | _
    · exact ⟨kept, iff_of_false nofun fun fits => nomatch whole.mpr fits⟩
    · exact ⟨kept, iff_of_true sound (whole.mp rfl)⟩

theorem Keeps.lines {transcript : Transcript σ} {bytes : List UInt8}
    (keeps : transcript.Keeps taken capacity bytes) (texts : List String) :
    (texts.foldl (Transcript.line sink) transcript).Keeps taken capacity
      (bytes ++ Text.encode (textOf texts)) := by
  induction texts generalizing transcript bytes with
  | nil => rwa [textOf_nil, Text.encode, List.flatMap_nil, List.append_nil]
  | cons text texts ih =>
    have rest := ih (keeps.line bounded text)
    rwa [List.append_assoc, ← Text.encode_append] at rest

/-- The lines of all notifications are kept as far as they fit. -/
theorem Keeps.follow {transcript : Transcript σ} {bytes : List UInt8}
    (keeps : transcript.Keeps taken capacity bytes) (notifications : List Notification) :
    ((observer sink).follow notifications transcript).Keeps taken capacity
      (bytes ++ Text.encode (textOf (linesFrom transcript.width notifications))) := by
  induction notifications generalizing transcript bytes with
  | nil => rwa [linesFrom, textOf_nil, Text.encode, List.flatMap_nil, List.append_nil]
  | cons notification rest ih =>
    have written := keeps.lines bounded (Console.lines transcript.width notification)
    have notified : (transcript.notify sink notification).Keeps taken capacity _ :=
      ⟨written.sink, written.fault⟩
    have further := ih notified
    rwa [List.append_assoc, ← Text.encode_append, ← textOf_append] at further

end Transcript

end Bounded

end DriverCompat.Console
