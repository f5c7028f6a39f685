import DriverCompat.Proofs.Session.Journal
import DriverCompat.Run.Compatibility

/-! # Whole runs of drivers that answer alike

A compatibility run is built from nothing but the requests to its driver and the notifications of
its observer. So two drivers whose reactions are alike have runs that are alike: they take the same
time, end with the same report and leave the observer in the same state. The same holds of two
observers that panic at the same notifications.
-/

namespace DriverCompat

variable {σ τ κ ω χ α β : Type}

namespace Activity

/-- An activity that is returned at once and then done is just done. -/
theorem pure_bind (value : α) (next : α → Activity σ β) :
    (pure value >>= next : Activity σ β) = next value := by
  funext allowed state
  rw [bind_returned (pure_apply value allowed state), delayed_zero]
  cases allowed <;> rfl

end Activity

/-- States that are related, beside other states that are related. -/
def Paired (Rel : σ → τ → Prop) (Seen : ω → χ → Prop) (state : σ × ω) (other : τ × χ) : Prop :=
  Rel state.1 other.1 ∧ Seen state.2 other.2

/-- Drivers that answer alike, with related states aside. -/
theorem Driver.Simulates.paired {Rel : σ → τ → Prop} {driver : Driver σ κ} {other : Driver τ κ}
    (alike : driver.Simulates Rel other) (Seen : ω → χ → Prop) :
    (driver.beside ω).Simulates (Paired Rel Seen) (other.beside χ) where
  name := alike.name
  connect := by
    rintro config ⟨state, aside⟩ ⟨state', aside'⟩ ⟨related, seen⟩
    rw [beside_connect, beside_connect]
    exact (alike.connect config state state' related).mapState fun related => ⟨related, seen⟩
  call := by
    rintro session call ⟨state, aside⟩ ⟨state', aside'⟩ ⟨related, seen⟩
    rw [beside_call, beside_call]
    exact (alike.call session call state state' related).mapState fun related => ⟨related, seen⟩

namespace Observer

/-- Observers that panic alike from related states. -/
def Simulates (Seen : ω → χ → Prop) (observer : Observer ω) (other : Observer χ) : Prop :=
  ∀ notification seen seen', Seen seen seen' →
    (observer.notify notification seen).1 = (other.notify notification seen').1 ∧
      Seen (observer.notify notification seen).2 (other.notify notification seen').2

theorem simulates_self (observer : Observer ω) : observer.Simulates (· = ·) observer := by
  rintro notification seen _ rfl
  exact ⟨rfl, rfl⟩

theorem Simulates.telling {Rel : σ → τ → Prop} {Seen : ω → χ → Prop} {observer : Observer ω}
    {other : Observer χ} (alike : observer.Simulates Seen other) (notification : Notification) :
    Activity.Simulates (Paired Rel Seen) (observer.telling notification)
      (other.telling notification) := by
  rintro allowed ⟨state, seen⟩ ⟨state', seen'⟩ ⟨related, same⟩
  obtain ⟨ending, after⟩ := alike notification seen seen' same
  simp only [Observer.telling, Activity.act, ending]
  exact .ended ⟨related, after⟩

end Observer

section Parts

variable {Rel : σ → τ → Prop} {driver : Driver σ κ} {other : Driver τ κ} {Seen : ω → χ → Prop}
  {observer : Observer ω} {watcher : Observer χ}

theorem Check.observe_simulates (alike : driver.Simulates Rel other) (session : κ) (call : Call)
    (f : call.Reply → Observation) :
    Activity.Simulates Rel (observe driver session call f) (observe other session call f) :=
  (alike.calling session call).bind fun _ => .pure _

theorem Check.execute_simulates (alike : driver.Simulates Rel other) (check : Check) (session : κ)
    (collection : String) :
    Activity.Simulates Rel (check.execute driver session collection)
      (check.execute other session collection) := by
  cases check with
  | createCollection =>
    exact (alike.calling session _).bind fun _ => observe_simulates alike session _ _
  | _ => exact observe_simulates alike session _ _

theorem Checks.runCheck_simulates (checks : Checks) (alike : driver.Simulates Rel other)
    (session : κ) (check : Check) :
    Activity.Simulates Rel (checks.runCheck driver session check)
      (checks.runCheck other session check) :=
  ((check.execute_simulates alike session _).guarded.within _).bind fun _ => .pure _

theorem Checks.runFrom_paired (checks : Checks) (alike : driver.Simulates Rel other)
    (watched : observer.Simulates Seen watcher) (session : κ) (index : Nat) (rest : List Check)
    (report : Report) :
    Activity.Simulates (Paired Rel Seen) (checks.runFrom driver observer session index rest report)
      (checks.runFrom other watcher session index rest report) := by
  induction rest generalizing index report with
  | nil => exact .pure _
  | cons check rest ih =>
    refine (checks.runCheck_simulates (alike.paired Seen) session check).bind fun outcome => ?_
    exact (watched.telling _).bind fun _ => ih _ _

theorem Checks.runFrom_simulates (checks : Checks) (alike : driver.Simulates Rel other)
    (observer : Observer ω) (session : κ) (index : Nat) (rest : List Check) (report : Report) :
    Activity.Simulates (Beside Rel) (checks.runFrom driver observer session index rest report)
      (checks.runFrom other observer session index rest report) :=
  checks.runFrom_paired alike observer.simulates_self session index rest report

namespace Connection

theorem release_simulates (alike : driver.Simulates Rel other) (session : κ) :
    Activity.Simulates Rel (release driver session) (release other session) :=
  (alike.calling session .close).bind fun _ => .pure _

theorem probe_simulates (alike : driver.Simulates Rel other) (config : Config) (session : κ)
    (elapsed : Nat) :
    Activity.Simulates Rel (probe driver config session elapsed)
      (probe other config session elapsed) := by
  refine ((alike.calling session .ping).within _).bind fun answer => ?_
  rcases answer with _ | failure | _
  · exact (release_simulates alike session).bind fun _ => .pure _
  · exact (release_simulates alike session).bind fun _ => .pure _
  · exact .pure _

theorem acquire_simulates (alike : driver.Simulates Rel other) (config : Config) :
    Activity.Simulates Rel (acquire driver config) (acquire other config) := by
  refine ((alike.opening config).within _).timed.bind fun answer => ?_
  rcases answer with ⟨_ | failure | session, elapsed⟩
  · exact .pure _
  · exact .pure _
  · exact probe_simulates alike config session elapsed

/-- A session that is lent to a body which is an activity right away. -/
theorem lending_pure (driver : Driver σ κ) (config : Config) (body : κ → Activity σ α) :
    lending driver config (fun session => pure (body session)) = do
      match ← acquire driver config with
      | .error failure => pure (.error failure)
      | .ok session =>
        let ending ← (body session).guarded
        release driver session
        return .ok (← Activity.resume ending) := by
  unfold lending
  congr 1
  funext acquired
  cases acquired with
  | error failure => rfl
  | ok session => exact Activity.pure_bind _ _

theorem lending_simulates (alike : driver.Simulates Rel other) (config : Config)
    {body : κ → Activity σ α} {body' : κ → Activity τ α}
    (bodies : ∀ session, Activity.Simulates Rel (body session) (body' session)) :
    Activity.Simulates Rel (lending driver config fun session => pure (body session))
      (lending other config fun session => pure (body' session)) := by
  rw [lending_pure, lending_pure]
  refine (acquire_simulates alike config).bind fun acquired => ?_
  cases acquired with
  | error failure => exact .pure _
  | ok session =>
    refine (bodies session).guarded.bind fun ending => ?_
    refine (release_simulates alike session).bind fun _ => ?_
    exact (Activity.Simulates.resume ending).bind fun _ => .pure _

end Connection

/-- Runs of drivers that answer alike, watched by observers that panic alike, are alike. -/
theorem compatibilityRun_paired (alike : driver.Simulates Rel other) (config : Config)
    (watched : observer.Simulates Seen watcher) :
    Activity.Simulates (Paired Rel Seen) (compatibilityRun driver config observer)
      (compatibilityRun other config watcher) := by
  unfold compatibilityRun
  rw [alike.name]
  refine (watched.telling _).bind fun _ => ?_
  have bodies (session : κ) : Activity.Simulates (Paired Rel Seen)
      (runChecks driver config observer session) (runChecks other config watcher session) :=
    (watched.telling _).bind fun _ => Checks.runFrom_paired _ alike watched session _ _ _
  have closing (report : Report) : Activity.Simulates (Paired Rel Seen)
      (observer.telling (.finish report) >>= fun _ => pure report)
      (watcher.telling (.finish report) >>= fun _ => pure report) :=
    (watched.telling _).bind fun _ => .pure _
  refine (Connection.lending_simulates (alike.paired Seen) config bodies).bind fun lent => ?_
  cases lent with
  | ok report => exact (Activity.Simulates.pure report).bind closing
  | error failure =>
    refine (watched.telling _).bind fun _ => ?_
    exact (Activity.Simulates.pure _).bind closing

theorem compatibilityRun_simulates (alike : driver.Simulates Rel other) (config : Config)
    (observer : Observer ω) :
    Activity.Simulates (Beside Rel) (compatibilityRun driver config observer)
      (compatibilityRun other config observer) :=
  compatibilityRun_paired alike config observer.simulates_self

end Parts

end DriverCompat
