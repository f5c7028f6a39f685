import DriverCompat.Proofs.Session.Journal
import DriverCompat.Run.Observer

/-! # What an observer hears

An observer is told of a run until it panics, and the panic is the end of what it was told in. So
the notifications that it hears, and how it leaves whoever tells it, are determined by what there is
to tell and by the observer alone. A calm observer hears everything.
-/

namespace DriverCompat

variable {σ ω α β : Type}

/-- The notification is about a check. -/
def Notification.isCheck : Notification → Bool
  | .check _ _ => true
  | _ => false

/-- The number of checks that notifications are about. -/
def checksIn (notifications : List Notification) : Nat := notifications.countP Notification.isCheck

theorem checksIn_check (index : Nat) (entry : Entry) (rest : List Notification) :
    checksIn (.check index entry :: rest) = checksIn rest + 1 :=
  List.countP_cons_of_pos rfl

theorem checksIn_of_not_check (notification : Notification) (other : ¬ notification.isCheck)
    (rest : List Notification) : checksIn (notification :: rest) = checksIn rest :=
  List.countP_cons_of_neg other

namespace Observer

/-- What an observer has seen after some notifications. -/
def follow (observer : Observer ω) (notifications : List Notification) (seen : ω) : ω :=
  notifications.foldl (fun seen notification => (observer.notify notification seen).2) seen

theorem follow_append (observer : Observer ω) (first second : List Notification) (seen : ω) :
    observer.follow (first ++ second) seen = observer.follow second (observer.follow first seen) :=
  List.foldl_append

/-- What an observer hears of some notifications: all up to the first one at which it panics. -/
def heard (observer : Observer ω) : List Notification → ω → List Notification
  | [], _ => []
  | notification :: rest, seen =>
    match observer.notify notification seen with
    | (.returned (), after) => notification :: observer.heard rest after
    | (.panicked _, _) => [notification]

/-- The payload of the first panic over some notifications, if there is one. -/
def panic? (observer : Observer ω) : List Notification → ω → Option Payload
  | [], _ => none
  | notification :: rest, seen =>
    match observer.notify notification seen with
    | (.returned (), after) => observer.panic? rest after
    | (.panicked payload, _) => some payload

/-- What an observer has seen after it was told some notifications as far as it took them. -/
def hear (observer : Observer ω) (notifications : List Notification) (seen : ω) : ω :=
  observer.follow (observer.heard notifications seen) seen

/-- How something ends that returns a value once an observer has taken some notifications. -/
def ending (observer : Observer ω) (notifications : List Notification) (seen : ω) (value : α) :
    Ending α :=
  match observer.panic? notifications seen with
  | none => .returned value
  | some payload => .panicked payload

section One

variable {observer : Observer ω} {notification : Notification} {seen : ω} {payload : Payload}

theorem returned_or_panicked (observer : Observer ω) (notification : Notification) (seen : ω) :
    (observer.notify notification seen).1 = .returned () ∨
      ∃ payload, (observer.notify notification seen).1 = .panicked payload := by
  cases (observer.notify notification seen).1 with
  | returned => exact .inl rfl
  | panicked payload => exact .inr ⟨payload, rfl⟩

theorem heard_cons_returned (took : (observer.notify notification seen).1 = .returned ())
    (rest : List Notification) :
    observer.heard (notification :: rest) seen =
      notification :: observer.heard rest (observer.follow [notification] seen) := by
  simp only [heard, follow, List.foldl_cons, List.foldl_nil]
  rw [show observer.notify notification seen = (.returned (), _) from Prod.ext took rfl]

theorem panic?_cons_returned (took : (observer.notify notification seen).1 = .returned ())
    (rest : List Notification) :
    observer.panic? (notification :: rest) seen =
      observer.panic? rest (observer.follow [notification] seen) := by
  simp only [panic?, follow, List.foldl_cons, List.foldl_nil]
  rw [show observer.notify notification seen = (.returned (), _) from Prod.ext took rfl]

theorem heard_cons_panicked (panicked : (observer.notify notification seen).1 = .panicked payload)
    (rest : List Notification) : observer.heard (notification :: rest) seen = [notification] := by
  simp only [heard]
  rw [show observer.notify notification seen = (.panicked payload, _) from Prod.ext panicked rfl]

theorem panic?_cons_panicked (panicked : (observer.notify notification seen).1 = .panicked payload)
    (rest : List Notification) : observer.panic? (notification :: rest) seen = some payload := by
  simp only [panic?]
  rw [show observer.notify notification seen = (.panicked payload, _) from Prod.ext panicked rfl]

theorem hear_cons_returned (took : (observer.notify notification seen).1 = .returned ())
    (rest : List Notification) :
    observer.hear (notification :: rest) seen =
      observer.hear rest (observer.follow [notification] seen) := by
  rw [hear, heard_cons_returned took]
  rfl

theorem hear_cons_panicked (panicked : (observer.notify notification seen).1 = .panicked payload)
    (rest : List Notification) :
    observer.hear (notification :: rest) seen = observer.follow [notification] seen := by
  rw [hear, heard_cons_panicked panicked]

theorem ending_cons_returned (took : (observer.notify notification seen).1 = .returned ())
    (rest : List Notification) (value : α) :
    observer.ending (notification :: rest) seen value =
      observer.ending rest (observer.follow [notification] seen) value := by
  rw [ending, panic?_cons_returned took, ending]

theorem ending_cons_panicked (panicked : (observer.notify notification seen).1 = .panicked payload)
    (rest : List Notification) (value : α) :
    observer.ending (notification :: rest) seen value = .panicked payload := by
  rw [ending, panic?_cons_panicked panicked]

/-- Telling takes no time. -/
theorem telling_apply (observer : Observer ω) (notification : Notification) (allowed : Option Nat)
    (state : σ) (seen : ω) :
    observer.telling notification allowed (state, seen) =
      .ended 0 (observer.notify notification seen).1 (state, observer.follow [notification] seen) :=
  rfl

/-- An observer is told something, and what follows at once is not done if it panics. -/
theorem bind_telling {rest : List Notification} {next : Activity (σ × ω) α} {state : σ} {value : α}
    (further : next none (state, observer.follow [notification] seen) =
      .ended 0 (observer.ending rest (observer.follow [notification] seen) value)
        (state, observer.hear rest (observer.follow [notification] seen))) :
    (observer.telling notification >>= fun _ => next) none (state, seen) =
      .ended 0 (observer.ending (notification :: rest) seen value)
        (state, observer.hear (notification :: rest) seen) := by
  have telling := observer.telling_apply notification none state seen
  rcases observer.returned_or_panicked notification seen with took | ⟨payload, panicked⟩
  · rw [took] at telling
    rw [Activity.bind_done telling further, ending_cons_returned took, hear_cons_returned took]
  · rw [panicked] at telling
    rw [Activity.bind_panicked telling, ending_cons_panicked panicked, hear_cons_panicked panicked]

end One

section Many

variable {observer : Observer ω} {notifications first second : List Notification} {seen : ω}
  {payload : Payload}

theorem heard_append_of_taken (taken : observer.panic? first seen = none) :
    observer.heard (first ++ second) seen =
      first ++ observer.heard second (observer.follow first seen) := by
  induction first generalizing seen with
  | nil => rfl
  | cons notification rest ih =>
    rcases observer.returned_or_panicked notification seen with took | ⟨payload, panicked⟩
    · rw [panic?_cons_returned took] at taken
      rw [List.cons_append, heard_cons_returned took, ih taken]
      rfl
    · rw [panic?_cons_panicked panicked] at taken
      cases taken

theorem heard_append_of_panicked (panicked : observer.panic? first seen = some payload) :
    observer.heard (first ++ second) seen = observer.heard first seen := by
  induction first generalizing seen with
  | nil => cases panicked
  | cons notification rest ih =>
    rcases observer.returned_or_panicked notification seen with took | ⟨payload', panicked'⟩
    · rw [panic?_cons_returned took] at panicked
      rw [List.cons_append, heard_cons_returned took, heard_cons_returned took, ih panicked]
    · rw [List.cons_append, heard_cons_panicked panicked', heard_cons_panicked panicked']

theorem panic?_append (observer : Observer ω) (first second : List Notification) (seen : ω) :
    observer.panic? (first ++ second) seen =
      (observer.panic? first seen).or (observer.panic? second (observer.follow first seen)) := by
  induction first generalizing seen with
  | nil => rfl
  | cons notification rest ih =>
    rcases observer.returned_or_panicked notification seen with took | ⟨payload, panicked⟩
    · rw [List.cons_append, panic?_cons_returned took, panic?_cons_returned took, ih]
      rfl
    · rw [List.cons_append, panic?_cons_panicked panicked, panic?_cons_panicked panicked]
      rfl

/-- Notifications that an observer takes are all heard. -/
theorem heard_of_taken (taken : observer.panic? notifications seen = none) :
    observer.heard notifications seen = notifications := by
  have whole : observer.heard (notifications ++ []) seen = _ := heard_append_of_taken taken
  rwa [List.append_nil, heard, List.append_nil] at whole

theorem heard_prefix (observer : Observer ω) (notifications : List Notification) (seen : ω) :
    observer.heard notifications seen <+: notifications := by
  induction notifications generalizing seen with
  | nil => exact List.prefix_refl []
  | cons notification rest ih =>
    rcases observer.returned_or_panicked notification seen with took | ⟨payload, panicked⟩
    · rw [heard_cons_returned took]
      exact List.prefix_cons_inj _ |>.mpr (ih _)
    · rw [heard_cons_panicked panicked]
      exact List.prefix_append [notification] rest

/-- Nothing is heard after a notification at which the observer panics. -/
theorem heard_ends_in_panic {before after : List Notification} {notification : Notification}
    (split : observer.heard notifications seen = before ++ notification :: after)
    (panicked : (observer.notify notification (observer.follow before seen)).1 =
      .panicked payload) :
    after = [] ∧ observer.panic? notifications seen = some payload := by
  induction notifications generalizing before seen with
  | nil => simp [heard] at split
  | cons first rest ih =>
    rcases observer.returned_or_panicked first seen with took | ⟨payload', panicked'⟩
    · rw [heard_cons_returned took] at split
      rw [panic?_cons_returned took]
      cases before with
      | nil =>
        obtain ⟨rfl, -⟩ := List.cons.inj split
        cases took.symm.trans panicked
      | cons other before =>
        obtain ⟨rfl, later⟩ := List.cons.inj split
        exact ih later panicked
    · rw [heard_cons_panicked panicked'] at split
      rw [panic?_cons_panicked panicked']
      cases before with
      | nil =>
        obtain ⟨rfl, rfl⟩ := List.cons.inj split
        cases panicked'.symm.trans panicked
        exact ⟨rfl, rfl⟩
      | cons other before => simp at split

/-- The last notification that is heard is the one at which the observer panics, if it does. -/
theorem exists_of_panic? (panicked : observer.panic? notifications seen = some payload) :
    ∃ before notification, observer.heard notifications seen = before ++ [notification] ∧
      (observer.notify notification (observer.follow before seen)).1 = .panicked payload := by
  induction notifications generalizing seen with
  | nil => cases panicked
  | cons first rest ih =>
    rcases observer.returned_or_panicked first seen with took | ⟨payload', panicked'⟩
    · rw [panic?_cons_returned took] at panicked
      obtain ⟨before, notification, heard, panics⟩ := ih panicked
      refine ⟨first :: before, notification, ?_, panics⟩
      rw [heard_cons_returned took, heard, List.cons_append]
    · rw [panic?_cons_panicked panicked'] at panicked
      cases panicked
      exact ⟨[], first, heard_cons_panicked panicked' rest, panicked'⟩

/-! An observer that takes the first notifications is told the second ones; one that panics is
not. -/

theorem hear_append_of_taken (taken : observer.panic? first seen = none) :
    observer.hear (first ++ second) seen = observer.hear second (observer.follow first seen) := by
  rw [hear, heard_append_of_taken taken, follow_append, hear]

theorem hear_append_of_panicked (panicked : observer.panic? first seen = some payload) :
    observer.hear (first ++ second) seen = observer.hear first seen := by
  rw [hear, heard_append_of_panicked panicked, hear]

theorem hear_of_taken (taken : observer.panic? notifications seen = none) :
    observer.hear notifications seen = observer.follow notifications seen := by
  rw [hear, heard_of_taken taken]

theorem ending_of_taken (taken : observer.panic? notifications seen = none) (value : α) :
    observer.ending notifications seen value = .returned value := by
  rw [ending, taken]

theorem ending_of_panicked (panicked : observer.panic? notifications seen = some payload)
    (value : α) : observer.ending notifications seen value = .panicked payload := by
  rw [ending, panicked]

theorem ending_append_of_taken (taken : observer.panic? first seen = none) (value : α) :
    observer.ending (first ++ second) seen value =
      observer.ending second (observer.follow first seen) value := by
  rw [ending, panic?_append, taken, Option.none_or, ending]

theorem ending_append_of_panicked (panicked : observer.panic? first seen = some payload)
    (value : α) : observer.ending (first ++ second) seen value = .panicked payload := by
  rw [ending, panic?_append, panicked, Option.some_or]

theorem map_ending (observer : Observer ω) (notifications : List Notification) (seen : ω)
    (f : α → β)
    (value : α) : (observer.ending notifications seen value).map f =
      observer.ending notifications seen (f value) := by
  rw [ending, ending]
  cases observer.panic? notifications seen <;> rfl

theorem ending_eq_returned_iff {value returned : α} :
    observer.ending notifications seen value = .returned returned ↔
      observer.panic? notifications seen = none ∧ value = returned := by
  rw [ending]
  cases observer.panic? notifications seen <;> simp

theorem ending_eq_panicked_iff {value : α} :
    observer.ending notifications seen value = .panicked payload ↔
      observer.panic? notifications seen = some payload := by
  rw [ending]
  cases observer.panic? notifications seen <;> simp

end Many

/-- The observer takes every notification without a panic. -/
def NeverPanics (observer : Observer ω) : Prop :=
  ∀ notification seen, (observer.notify notification seen).1 = .returned ()

theorem NeverPanics.panic?_eq_none {observer : Observer ω} (calm : observer.NeverPanics)
    (notifications : List Notification) (seen : ω) : observer.panic? notifications seen = none := by
  induction notifications generalizing seen with
  | nil => rfl
  | cons notification rest ih => rw [panic?_cons_returned (calm _ _), ih]

theorem telling_returned {observer : Observer ω} (calm : observer.NeverPanics)
    (notification : Notification) (allowed : Option Nat) (state : σ) (seen : ω) :
    observer.telling notification allowed (state, seen) =
      .ended 0 (.returned ()) (state, observer.follow [notification] seen) := by
  rw [telling_apply, calm]

theorem silent_neverPanics : silent.NeverPanics := fun _ _ => rfl

theorem recorder_neverPanics : recorder.NeverPanics := fun _ _ => rfl

/-- A recorder has all notifications in order. -/
theorem follow_recorder (notifications seen : List Notification) :
    recorder.follow notifications seen = seen ++ notifications := by
  induction notifications generalizing seen with
  | nil => rw [List.append_nil]; rfl
  | cons notification rest ih =>
    change recorder.follow rest (seen ++ [notification]) = _
    rw [ih, List.append_assoc, List.singleton_append]

end Observer

end DriverCompat
