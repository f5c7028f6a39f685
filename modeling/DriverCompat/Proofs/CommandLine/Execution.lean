import DriverCompat.CommandLine.Command
import DriverCompat.Proofs.Console.Delivery
import DriverCompat.Proofs.Files
import DriverCompat.Proofs.Registry

/-! # How the command ends

The command runs the driver that its settings name, once, and ends with the report of that run. What
becomes of the transcript does not matter to it. There are two ways to fail: there is no driver with
that name, and then nothing has been done at all; or the file of the report cannot be written, and
then the run has been made and its transcript delivered.
-/

namespace DriverCompat

variable {σ κ τ ω φ : Type}

namespace Report

/-- A report is read back from a file, where a newline follows it. -/
theorem ofText_render_newline (report : Report) : ofText (report.render ++ "\n") = .ok report := by
  have read : reader.read (report.render ++ "\n").toList = .ok (report, ['\n']) := by
    rw [String.toList_append, render, Json.indentedText, String.toList_ofList]
    exact read_append (read_indented report) ['\n']
  unfold ofText parse Json.readWhole
  simp only [read]
  rfl

theorem exitCode_eq_zero_or_one (report : Report) : report.exitCode = 0 ∨ report.exitCode = 1 := by
  unfold exitCode
  split
  · exact .inl rfl
  · exact .inr rfl

theorem Balanced.exitCode_eq_one_iff {report : Report} (balanced : report.Balanced) :
    report.exitCode = 1 ↔ ∃ entry ∈ report.entries, entry.status = .fail := by
  have other : report.exitCode = 1 ↔ ¬ report.exitCode = 0 := by
    rcases report.exitCode_eq_zero_or_one with code | code <;> simp [code]
  rw [other, balanced.exitCode_eq_zero_iff]
  push Not
  refine exists_congr fun entry => and_congr_right fun _ => ?_
  cases entry.status <;> decide

end Report

/-- Watched by nobody, a settled run returns a balanced report. -/
theorem compatibilityRun_silent (driver : Driver σ κ) (config : Config) (state : σ)
    (settled : Settled (runTrace driver config .silent state ())) :
    ∃ report elapsed last, report.Balanced ∧
      (compatibilityRun driver config .silent).run (state, ()) =
        .ended elapsed (.returned report) (last, ()) := by
  obtain ⟨_, report, elapsed, -, course, -, balanced, -⟩ :=
    (compatibilityRun_exits Observer.silent_neverPanics driver config state ()).report settled
  have alike := compatibilityRun_simulates driver.journaled_simulates config .silent none
    ((state, []), ()) (state, ()) ⟨rfl, rfl⟩
  change Course.Alike _ ((compatibilityRun driver.journaled config .silent).run _) _ at alike
  rw [course] at alike
  obtain ⟨⟨last, _⟩, alone, -⟩ := alike.ended_of
  exact ⟨report, elapsed, last, balanced, alone⟩

/-- Watched by any calm observer, a run takes the same time and comes to the same. -/
theorem compatibilityRun_watched_of_silent {driver : Driver σ κ} {config : Config}
    (observer : Observer ω) (calm : observer.NeverPanics) {state last : σ} {elapsed : Nat}
    {report : Report} (alone : (compatibilityRun driver config .silent).run (state, ()) =
      .ended elapsed (.returned report) (last, ())) (seen : ω) :
    ∃ after, (compatibilityRun driver config observer).run (state, seen) =
      .ended elapsed (.returned report) (last, after) := by
  have quiet : Observer.silent.Simulates (fun _ _ => True) observer := by
    intro notification _ seen _
    exact ⟨(calm notification seen).symm, trivial⟩
  have both := compatibilityRun_paired driver.simulates_self config quiet none (state, ())
    (state, seen) ⟨rfl, trivial⟩
  change Course.Alike _ ((compatibilityRun driver config .silent).run _) _ at both
  rw [alone] at both
  obtain ⟨⟨_, after⟩, watched, same, -⟩ := both.ended_of
  obtain rfl : last = _ := same
  exact ⟨after, watched⟩

namespace CommandLine

open Console (Sink Transcript allLines fullText)

variable {host : Host (StateM φ)} {registry : Registry σ κ} {config : Config}
  {reportFile : Option String} {sink : Sink τ} {state : τ} {files : φ}

/-- The driver that the settings name has been run, once, which has left it in a state, and the
lines of the transcript have been delivered. Nothing else about the run is different from one that
nobody watches. -/
structure Ran (registry : Registry σ κ) (config : Config) (sink : Sink τ) (state : τ)
    (report : Report) (reached : σ) (after : τ) : Prop where
  balanced : report.Balanced
  run : ∃ backend elapsed transcript, registry.get? config.driver = some backend ∧
    (compatibilityRun backend.driver config .silent).run (backend.start, ()) =
      .ended elapsed (.returned report) (reached, ()) ∧
    (compatibilityRun backend.driver config (Transcript.observer sink)).run
        (backend.start, .begin_ state) = .ended elapsed (.returned report) (reached, transcript) ∧
    after = sink.deliver (allLines backend.driver.name config report) state ∧
    ∀ taken capacity, sink.Bounded taken capacity → sink.FlushKeeps taken →
      Console.Fits capacity (taken state) → taken after = Console.upTo capacity
        (taken state ++ Text.encode (fullText backend.driver.name config report))

/-- The ways in which a run step ends, with what becomes of the driver, of the sink and of the
files. A driver that was not asked for anything has reached no state. -/
inductive Executed (host : Host (StateM φ)) (registry : Registry σ κ) (config : Config)
    (reportFile : Option String) (sink : Sink τ) (state : τ) (files : φ) :
    Conclusion Report → Option σ → τ → φ → Prop
  | unregistered (absent : registry.get? config.driver = none) :
      Executed host registry config reportFile sink state files
        (.fault (.failure (registry.unknown config.driver))) none state files
  | unwritable {path : String} {report : Report} {fault : IoFault} {reached : σ} {after : τ}
      {left : φ} (ran : Ran registry config sink state report reached after)
      (requested : reportFile = some path)
      (refused : (host.writeText path (report.render ++ "\n")).run files = (.error fault, left)) :
      Executed host registry config reportFile sink state files
        (.fault (.reportFile path fault)) (some reached) after left
  | unfiled {report : Report} {reached : σ} {after : τ}
      (ran : Ran registry config sink state report reached after)
      (unrequested : reportFile = none) :
      Executed host registry config reportFile sink state files (.value report) (some reached) after
        files
  | filed {path : String} {report : Report} {reached : σ} {after : τ} {left : φ}
      (ran : Ran registry config sink state report reached after)
      (requested : reportFile = some path)
      (written : (host.writeText path (report.render ++ "\n")).run files = (.ok (), left)) :
      Executed host registry config reportFile sink state files (.value report) (some reached) after
        left

theorem conduct_of_unregistered (absent : registry.get? config.driver = none) (sink : Sink τ)
    (state : τ) :
    conduct registry config sink state =
      (.fault (.failure (registry.unknown config.driver)), none, state) := by
  unfold conduct Registry.resolve
  rw [absent]

/-- A run that returns when nobody watches it is conducted over every sink, and comes to the
same. -/
theorem exists_ran {backend : Backend σ κ} {elapsed : Nat} {report : Report} {last : σ}
    (registered : registry.get? config.driver = some backend) (balanced : report.Balanced)
    (alone : (compatibilityRun backend.driver config .silent).run (backend.start, ()) =
      .ended elapsed (.returned report) (last, ())) (sink : Sink τ) (state : τ) :
    ∃ after, Ran registry config sink state report last after ∧
      conduct registry config sink state = (.value report, some last, after) := by
  obtain ⟨transcript, watched⟩ := compatibilityRun_watched_of_silent (Transcript.observer sink)
    (fun _ _ => rfl) alone (.begin_ state)
  have delivered := Console.finish_of_run watched
  refine ⟨(transcript.finish sink).2, ⟨balanced, backend, elapsed, transcript, registered, alone,
    watched, delivered, ?_⟩, ?_⟩
  · intro taken capacity bounded flushing fits
    rw [delivered, Sink.taken_deliver bounded flushing _ _ fits, Console.textOf_allLines]
  · unfold conduct Registry.resolve
    rw [registered]
    simp only
    rw [watched]

theorem Ran.registered {report : Report} {reached : σ} {after : τ}
    (ran : Ran registry config sink state report reached after) :
    ∃ backend, registry.get? config.driver = some backend := by
  obtain ⟨-, backend, _, _, registered, -⟩ := ran
  exact ⟨backend, registered⟩

/-- Over another sink the run comes to the same. -/
theorem Ran.conduct_other {report : Report} {reached : σ} {after : τ}
    (ran : Ran registry config sink state report reached after) {τ' : Type} (other : Sink τ')
    (start : τ') :
    ∃ after, conduct registry config other start = (.value report, some reached, after) := by
  obtain ⟨balanced, backend, _, _, registered, alone, -⟩ := ran
  obtain ⟨after, -, conducted⟩ := exists_ran registered balanced alone other start
  exact ⟨after, conducted⟩

section Execute

variable {after : Option σ × τ}

theorem execute_of_fault {fault : SetupFault}
    (conducted : conduct registry config sink state = (.fault fault, after)) :
    (execute host registry config reportFile sink state).run files =
      ((.fault fault, after), files) := by
  unfold execute
  rw [conducted]
  rfl

theorem execute_unfiled {report : Report}
    (conducted : conduct registry config sink state = (.value report, after)) :
    (execute host registry config none sink state).run files =
      ((.value report, after), files) := by
  unfold execute
  rw [conducted]
  rfl

theorem execute_unwritable {report : Report} {path : String} {fault : IoFault} {left : φ}
    (conducted : conduct registry config sink state = (.value report, after))
    (refused : (host.writeText path (report.render ++ "\n")).run files = (.error fault, left)) :
    (execute host registry config (some path) sink state).run files =
      ((.fault (.reportFile path fault), after), left) := by
  unfold execute
  rw [conducted]
  simp only [StateT.run_bind, refused]
  rfl

theorem execute_filed {report : Report} {path : String} {left : φ}
    (conducted : conduct registry config sink state = (.value report, after))
    (written : (host.writeText path (report.render ++ "\n")).run files = (.ok (), left)) :
    (execute host registry config (some path) sink state).run files =
      ((.value report, after), left) := by
  unfold execute
  rw [conducted]
  simp only [StateT.run_bind, written]
  rfl

end Execute

/-- A run step of a settled driver ends in one of these ways. -/
theorem exists_executed (host : Host (StateM φ)) (reportFile : Option String) (sink : Sink τ)
    (state : τ) (files : φ)
    (settled : ∀ backend, registry.get? config.driver = some backend →
      Settled (runTrace backend.driver config .silent backend.start ())) :
    ∃ concluded reached after left,
      (execute host registry config reportFile sink state).run files =
        ((concluded, reached, after), left) ∧
      Executed host registry config reportFile sink state files concluded reached after left := by
  cases registered : registry.get? config.driver with
  | none =>
    have conducted := conduct_of_unregistered registered sink state
    exact ⟨_, _, _, _, execute_of_fault conducted, .unregistered registered⟩
  | some backend =>
    obtain ⟨report, elapsed, last, balanced, alone⟩ :=
      compatibilityRun_silent backend.driver config backend.start (settled backend registered)
    obtain ⟨after, ran, conducted⟩ := exists_ran registered balanced alone sink state
    cases reportFile with
    | none => exact ⟨_, _, _, _, execute_unfiled conducted, .unfiled ran rfl⟩
    | some path =>
      rcases written : (host.writeText path (report.render ++ "\n")).run files with
        ⟨fault | _, left⟩
      · exact ⟨_, _, _, _, execute_unwritable conducted written, .unwritable ran rfl written⟩
      · exact ⟨_, _, _, _, execute_filed conducted written, .filed ran rfl written⟩

/-- A status tells how a command has ended: with a report in which all checks passed, with one in
which a check failed, or without any. -/
structure Tells (status : Nat) (concluded : Conclusion Report) : Prop where
  passed : status = 0 ↔
    ∃ report, concluded = .value report ∧ ∀ entry ∈ report.entries, entry.status = .pass
  failed : status = 1 ↔
    ∃ report, concluded = .value report ∧ ∃ entry ∈ report.entries, entry.status = .fail
  fault : status = 2 ↔ ∃ fault, concluded = .fault fault

theorem tells_fault (fault : SetupFault) : Tells Finished.setupStatus (.fault fault) where
  passed := by simp [Finished.setupStatus]
  failed := by simp [Finished.setupStatus]
  fault := by simp [Finished.setupStatus]

theorem tells_value {report : Report} (balanced : report.Balanced) :
    Tells report.exitCode (.value report) where
  passed := by simpa using balanced.exitCode_eq_zero_iff
  failed := by simpa using balanced.exitCode_eq_one_iff
  fault := by
    rcases report.exitCode_eq_zero_or_one with code | code <;> simp [code]

namespace Executed

variable {concluded : Conclusion Report} {reached : Option σ} {after : τ} {left : φ}

/-- Over another sink a run step comes to the same, and leaves the same driver and the same
files. -/
theorem execute_other
    (executed : Executed host registry config reportFile sink state files concluded reached after
      left) {τ' : Type} (other : Sink τ') (start : τ') :
    ∃ after, (execute host registry config reportFile other start).run files =
      ((concluded, reached, after), left) := by
  cases executed with
  | unregistered absent =>
    have conducted := conduct_of_unregistered absent other start
    exact ⟨_, execute_of_fault conducted⟩
  | unwritable ran requested refused =>
    obtain ⟨after, conducted⟩ := ran.conduct_other other start
    subst requested
    exact ⟨after, execute_unwritable conducted refused⟩
  | unfiled ran unrequested =>
    obtain ⟨after, conducted⟩ := ran.conduct_other other start
    subst unrequested
    exact ⟨after, execute_unfiled conducted⟩
  | filed ran requested written =>
    obtain ⟨after, conducted⟩ := ran.conduct_other other start
    subst requested
    exact ⟨after, execute_filed conducted written⟩

/-- With drivers that have other names, it does not matter what they do: none of them is asked for
anything. -/
theorem execute_unregistered
    (executed : Executed host registry config reportFile sink state files concluded reached after
      left) (absent : registry.get? config.driver = none) {σ' κ' : Type} (other : Registry σ' κ')
    (same : other.list = registry.list) :
    (execute host other config reportFile sink state).run files =
      ((concluded, none, after), left) := by
  have missing : other.get? config.driver = none := by
    rw [← Option.not_isSome_iff_eq_none, ← other.mem_list, same, registry.mem_list, absent]
    exact Bool.false_ne_true
  have unknown : other.unknown config.driver = registry.unknown config.driver := by
    rw [Registry.unknown, Registry.unknown, same]
  have conducted := conduct_of_unregistered missing sink state
  rw [unknown] at conducted
  cases executed with
  | unregistered => exact execute_of_fault conducted
  | unwritable ran | unfiled ran | filed ran =>
    obtain ⟨backend, registered⟩ := ran.registered
    cases absent.symm.trans registered

/-- The report that was asked for stands in its file, and is read back from there. -/
theorem report_kept {report : Report} {path : String}
    (executed : Executed host registry config (some path) sink state files (.value report) reached
      after left) (keeps : host.Keeps) :
    (host.readText path).run left = (.ok (report.render ++ "\n"), left) := by
  cases executed with
  | unfiled _ unrequested => cases unrequested
  | filed _ requested written =>
    cases requested
    exact keeps _ _ _ _ written

/-- The command that was to make a run with these settings ends with a status that tells of it. -/
theorem perform_finished
    (executed : Executed host registry config reportFile sink state files concluded reached after
      left) {remarks : Toml.Remarks} {args : Args} {before : φ} (runs : args.listDrivers = false)
    (requested : args.reportFile = reportFile)
    (chosen : (settings host remarks args).run before = (.ok config, files)) :
    ∃ finished, (perform host remarks registry args).run before = (some finished, left) ∧
      Tells finished.status concluded := by
  obtain ⟨output, course⟩ := executed.execute_other Console.Limits.none.sink []
  obtain ⟨finished, ends, tells⟩ : ∃ finished,
      Finished.ofConclusion? Report.exitCode output concluded = some finished ∧
        Tells finished.status concluded := by
    cases executed with
    | unregistered => exact ⟨_, rfl, tells_fault _⟩
    | unwritable => exact ⟨_, rfl, tells_fault _⟩
    | unfiled ran => exact ⟨_, rfl, tells_value ran.balanced⟩
    | filed ran => exact ⟨_, rfl, tells_value ran.balanced⟩
  refine ⟨finished, ?_, tells⟩
  unfold perform
  rw [runs, if_neg Bool.false_ne_true]
  rw [StateT.run_bind, chosen, requested]
  change (execute host registry config reportFile Console.Limits.none.sink [] >>= fun done =>
    pure (Finished.ofConclusion? Report.exitCode done.2.2 done.1)).run files = (some finished, left)
  rw [StateT.run_bind, course, ← ends]
  rfl

end Executed

/-- The run step over any files and any sink, with a driver whose connection, probe and closing come
to an end without a panic. If no driver has the name, nothing has been written and no driver been
asked. Otherwise the driver has been run once, and the lines of its transcript have been delivered;
the step ends with the report, or with a fault if its file could not be written. What the sink does
has no influence on the end or on the files. A report in its file is read back from there. The
status is zero exactly if there is a report without a failed entry, one if there is one with a
failed entry, and two if there was a fault. -/
theorem execute_outcome (host : Host (StateM φ)) (registry : Registry σ κ) (config : Config)
    (reportFile : Option String) (sink : Sink τ) (state : τ) (files : φ)
    (settled : ∀ backend, registry.get? config.driver = some backend →
      Settled (runTrace backend.driver config .silent backend.start ())) :
    ∃ concluded reached after left,
      (execute host registry config reportFile sink state).run files =
        ((concluded, reached, after), left) ∧
      Executed host registry config reportFile sink state files concluded reached after left ∧
      (registry.get? config.driver = none → ∀ {σ' κ' : Type} (other : Registry σ' κ'),
        other.list = registry.list →
          (execute host other config reportFile sink state).run files =
            ((concluded, none, after), left)) ∧
      (∀ {τ' : Type} (other : Sink τ') (start : τ'), ∃ after,
        (execute host registry config reportFile other start).run files =
          ((concluded, reached, after), left)) ∧
      (∀ path report, reportFile = some path → concluded = .value report →
        Report.ofText (report.render ++ "\n") = .ok report ∧
          (host.Keeps → (host.readText path).run left = (.ok (report.render ++ "\n"), left))) ∧
      ∀ remarks args before, args.listDrivers = false → args.reportFile = reportFile →
        (settings host remarks args).run before = (.ok config, files) →
          ∃ finished, (perform host remarks registry args).run before = (some finished, left) ∧
            Tells finished.status concluded := by
  obtain ⟨concluded, reached, after, left, course, executed⟩ :=
    exists_executed host reportFile sink state files settled
  refine ⟨concluded, reached, after, left, course, executed, executed.execute_unregistered,
    executed.execute_other, ?_, fun _ _ _ => executed.perform_finished⟩
  rintro path report rfl rfl
  exact ⟨report.ofText_render_newline, executed.report_kept⟩

/-- A driver under the name "memory" that fails every find. -/
def flakyBackend : Backend Memory.Stage Nat where
  driver := Memory.driver
    { Memory.Profile.plain with faults := { Memory.Faults.none with failing := [.find] } }
  start := .ofScript .none

/-- A run of it over a sink that takes ten bytes of the transcript, with its report in a file. -/
theorem execute_outcome_flaky :
    ∃ report reached after left,
      (execute (Host.ofFiles []) (Registry.empty.register flakyBackend)
          { Config.default with driver := "memory" } (some "report.json")
          (Console.Limits.mk (some 10) .fails true).sink []).run .empty =
        ((.value report, some reached, after), left) ∧
      after = (Text.encode (fullText "memory" { Config.default with driver := "memory" }
        report)).take 10 ∧
      left.readText [] "report.json" = .ok (report.render ++ "\n") := by
  have registered : (Registry.empty.register flakyBackend).get? "memory" = some flakyBackend := rfl
  have settled : Settled (runTrace flakyBackend.driver { Config.default with driver := "memory" }
      .silent flakyBackend.start ()) := ⟨by decide +kernel, by decide +kernel, by decide +kernel⟩
  have writable : Files.empty.writable [] "report.json" = .ok ["report.json"] := by decide +kernel
  obtain ⟨concluded, reached, after, left, course, executed, -, -, kept, -⟩ :=
    execute_outcome (Host.ofFiles []) (Registry.empty.register flakyBackend)
      { Config.default with driver := "memory" } (some "report.json")
      (Console.Limits.mk (some 10) .fails true).sink [] .empty (by
        intro backend found
        cases registered.symm.trans found
        exact settled)
  cases executed with
  | unregistered absent => cases registered.symm.trans absent
  | unfiled _ unrequested => cases unrequested
  | @unwritable path report fault _ after left _ requested refused =>
    cases requested
    have failed : Files.empty.writeText [] "report.json" (report.render ++ "\n") =
        (.error fault, left) := refused
    rw [Files.writeText, writable] at failed
    cases failed
  | filed ran requested written =>
    obtain ⟨-, read⟩ := kept _ _ rfl rfl
    obtain ⟨_, backend, _, _, found, _, _, _, taken⟩ := ran
    cases registered.symm.trans found
    have cut := taken id (some 10) (Console.Limits.bounded _) (Console.Limits.flushKeeps _)
      (fun _ _ => Nat.zero_le _)
    exact ⟨_, _, _, _, course, cut, congrArg Prod.fst (read (Host.keeps_ofFiles []))⟩

end CommandLine

end DriverCompat
