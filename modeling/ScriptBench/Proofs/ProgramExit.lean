import ScriptBench.Proofs.JsonLines
import ScriptBench.Proofs.LayeredSettings
import ScriptBench.Proofs.WatchedRun

namespace ScriptBench.Run

/-- The wait status of a process that ended by itself with exit status 0. -/
def EndedWithZero (status : Int) : Prop := status % 128 = 0 ∧ status / 256 % 256 = 0

instance (status : Int) : Decidable (EndedWithZero status) :=
  inferInstanceAs (Decidable (_ ∧ _))

theorem Ending.ofStatus_eq_exited_zero_iff {status : Int} :
    Ending.ofStatus status = .exited 0 ↔ EndedWithZero status := by
  simp only [ofStatus, EndedWithZero]
  split
  · rw [Ending.exited.injEq]
    omega
  · have hlow : status % 128 ≠ 0 := by omega
    split <;> simp [hlow]

theorem Ending.exitCode_eq_zero_iff {e : Ending} : e.exitCode = 0 ↔ e = .exited 0 := by
  cases e with
  | exited code => simp [exitCode]
  | killed signal =>
      simp only [exitCode, reduceCtorEq, iff_false]
      omega
  | stopped => simp [exitCode, launchFailedCode]

theorem Ending.exitCode_ofStatus_eq_zero_iff {status : Int} :
    (Ending.ofStatus status).exitCode = 0 ↔ EndedWithZero status :=
  Ending.exitCode_eq_zero_iff.trans Ending.ofStatus_eq_exited_zero_iff

theorem processExitCode_bounds (code : Int) :
    0 ≤ processExitCode code ∧ processExitCode code ≤ 255 := by
  rw [processExitCode]
  split <;> omega

theorem processExitCode_eq_zero_iff {code : Int} : processExitCode code = 0 ↔ code = 0 := by
  rw [processExitCode]
  split <;> omega

end ScriptBench.Run

namespace ScriptBench.Command

open Config (Runner Settings)
open Editor (Session Workbench)
open Run (Ending Event Host LaunchError Launched Outcome Started)

namespace Watch

structure Tells (launched : Except LaunchError Launched) (w : Watch) (o : Outcome) : Prop where
  found : w.outcome = some o
  verdict : Verdict launched o
  bounds : 0 ≤ w.exitCode ∧ w.exitCode ≤ 255
  zero_iff : w.exitCode = 0 ↔ o.exitCode = 0
  clean : w.exitCode = 0 → o.cancelled = false ∧
    ∃ l, launched = .ok l ∧ Run.EndedWithZero l.transcript.status

theorem Verdict.clean {launched : Except LaunchError Launched} {o : Outcome}
    (h : Verdict launched o) (hzero : o.exitCode = 0) : o.cancelled = false ∧
      ∃ l, launched = .ok l ∧ Run.EndedWithZero l.transcript.status := by
  cases h with
  | unlaunched _ => cases hzero
  | abandoned => cases hzero
  | killed _ _ hcode =>
      rw [hzero] at hcode
      exact absurd (Ending.exitCode_ofStatus_eq_zero_iff.mp hcode.symm) (by decide)
  | ended hl hspared hcode =>
      rw [hzero] at hcode
      exact ⟨hspared, _, hl, Ending.exitCode_ofStatus_eq_zero_iff.mp hcode.symm⟩

theorem Sound.exists_tells {launched : Except LaunchError Launched} {w : Watch}
    (h : w.Sound launched) (hover : w.isOver = true) : ∃ o, w.Tells launched o := by
  obtain ⟨o, ho, hverdict⟩ := h.exists_verdict hover
  have hcode : w.exitCode = Run.processExitCode o.exitCode := by
    rw [exitCode, ho]
    rfl
  refine ⟨o, ho, hverdict, ?_, ?_, fun hzero => hverdict.clean ?_⟩
  · rw [hcode]
    exact Run.processExitCode_bounds _
  · rw [hcode, Run.processExitCode_eq_zero_iff]
  · rwa [hcode, Run.processExitCode_eq_zero_iff] at hzero

-- A line that cannot be shown kills a script that would have ended with 0. Workers that go away
-- leave no exit code at all.
example :
    let p := Run.Job.ofLaunched 7 ⟨["tmp", "a.kts"], ⟨[97, 10], [], 0, true, .empty⟩⟩
    let w := start (.running (.new 1 "kts" p .new)) Session.new
    (w.after [.turn .readsOutput, .looks false, .turn .readsOutput, .turn .readsErrors,
        .turn .awaits, .turn .awaits, .looks true]).exitCode = 137 ∧
      (w.after [.turn .readsOutput, .leaves, .looks true, .looks true]).exitCode = 1 ∧
      (w.after [.turn .readsOutput, .looks true, .turn .readsOutput, .turn .readsErrors,
        .turn .childEnds, .turn .awaits, .turn .awaits, .looks true]).exitCode = 0 := by
  decide +kernel

end Watch

structure Accepts (host : Host) (argv : List String) (args : Args) (s : Settings)
    (source : String) : Prop where
  parsed : parse argv = .ok args
  named : args.script ≠ ""
  settled : settings host.environment args = .ok s
  read : host.environment.readText args.script = .ok source

inductive Refused (host : Host) (argv : List String) : Int → Prop
  | commandLine {e} : parse argv = .error e → Refused host argv 2
  | unnamed {args} : parse argv = .ok args → args.script = "" → Refused host argv 2
  | flagValue {args e} : parse argv = .ok args → args.script ≠ "" →
      settings host.environment args = .error (.usage e) → Refused host argv 2
  | configuration {args e} : parse argv = .ok args → args.script ≠ "" →
      settings host.environment args = .error (.load e) → Refused host argv 1
  | source {args s reason} : parse argv = .ok args → args.script ≠ "" →
      settings host.environment args = .ok s →
      host.environment.readText args.script = .error reason → Refused host argv 1

/-- Nothing comes of what starting a program or writing a file does, and nothing is logged. -/
def StartsNothing (host : Host) (noColorSet : Bool) (argv : List String) : Prop :=
  (run host noColorSet argv).log = [] ∧ ∀ start breaksOff,
    run { host with start, breaksOff } noColorSet argv = run host noColorSet argv

def EndsCleanly (host : Host) (s : Settings) (source : String) : Prop :=
  ∃ l, (Run.launch s.runner host source).1 = .ok l ∧ Run.EndedWithZero l.transcript.status

def watched (host : Host) (s : Settings) (source : String) : Watch :=
  .start (.start 1 s.runner host source .new) (Session.new.setText source)

section Exit

variable {host : Host} {argv : List String} {args : Args} {s : Settings} {source : String}
  {noColorSet : Bool}

theorem refused_or_accepts (host : Host) (argv : List String) :
    (∃ code, Refused host argv code) ∨ ∃ args s source, Accepts host argv args s source := by
  cases hparse : parse argv with
  | error e => exact .inl ⟨2, .commandLine hparse⟩
  | ok args =>
      by_cases hnamed : args.script = ""
      · exact .inl ⟨2, .unnamed hparse hnamed⟩
      · cases hsettings : settings host.environment args with
        | error e =>
            cases e with
            | usage e => exact .inl ⟨2, .flagValue hparse hnamed hsettings⟩
            | load e => exact .inl ⟨1, .configuration hparse hnamed hsettings⟩
        | ok s =>
            cases hread : host.environment.readText args.script with
            | error reason => exact .inl ⟨1, .source hparse hnamed hsettings hread⟩
            | ok source => exact .inr ⟨args, s, source, hparse, hnamed, hsettings, hread⟩

theorem Refused.exists_report {code : Int} (h : Refused host argv code) :
    ∃ r : Report, r.exitCode = code ∧ r.log = [] ∧
      ∀ other : Host, other.environment = host.environment → ∀ c, run other c argv = r := by
  cases h with
  | @commandLine e hparse =>
      refine ⟨.usage e, rfl, rfl, fun other henv c => ?_⟩
      rw [run, hparse]
  | unnamed hparse hnamed =>
      refine ⟨.usage .scriptMissing, rfl, rfl, fun other henv c => ?_⟩
      rw [run, hparse]
      simp [hnamed]
  | @flagValue args e hparse hnamed hsettings =>
      refine ⟨.usage e, rfl, rfl, fun other henv c => ?_⟩
      rw [run, hparse]
      simp [hnamed, henv, hsettings]
  | @configuration args e hparse hnamed hsettings =>
      refine ⟨.refused e.message, rfl, rfl, fun other henv c => ?_⟩
      rw [run, hparse]
      simp [hnamed, henv, hsettings]
  | @source args s reason hparse hnamed hsettings hread =>
      refine ⟨.refused ("read " ++ args.script ++ ": " ++ reason.message), rfl, rfl,
        fun other henv c => ?_⟩
      rw [run, hparse]
      simp [hnamed, henv, hsettings, runWith, hread]

theorem validate_of_settings {e : Machine.Environment} (h : settings e args = .ok s) :
    s.validate = .ok s := by
  simp only [settings, bind_eq_ok_iff, mapError_eq_ok_iff] at h
  obtain ⟨_, _, _, _, _, _, hvalid⟩ := h
  exact (validate_eq_ok_iff.mp hvalid).2

def bench (host : Host) (s : Settings) (source : String) : Workbench :=
  ⟨s, Session.new.setText source, host, []⟩

theorem Accepts.opened (h : Accepts host argv args s source) :
    (Workbench.new s host).map (·.setText source) = .ok (bench host s source) := by
  rw [Workbench.new, validate_of_settings h.settled]
  rfl

theorem Accepts.submits (h : Accepts host argv args s source) (hruns : args.highlightOnly = false) :
    Submits host argv args s (bench host s source) where
  parsed := h.parsed
  named := h.named
  settled := h.settled
  opened := ⟨source, h.read, h.opened⟩
  runs := hruns

theorem Accepts.started_otherwise (h : Accepts host argv args s source) (start breaksOff) :
    Accepts { host with start, breaksOff } argv args s source :=
  ⟨h.parsed, h.named, h.settled, h.read⟩

theorem Accepts.run_highlightOnly (h : Accepts host argv args s source)
    (hshow : args.highlightOnly = true) (noColorSet : Bool) : run host noColorSet argv =
      ⟨showSource source (Highlight.keywordSpans s.keywords source)
        (useColor noColorSet args.noColor), "", 0, [], .console⟩ := by
  have hnamed : args.script.isEmpty = false := by simpa [String.isEmpty_iff] using h.named
  obtain ⟨empty, hnew, hbench⟩ := map_eq_ok_iff.mp h.opened
  rw [run, h.parsed]
  simp only [hnamed, h.settled, runWith, h.read, hnew, hbench, hshow, Bool.false_eq_true, if_false,
    if_true]
  rfl

theorem exitCode_runSource (w : Workbench) (json color : Bool) (logger : Log.Logger)
    (path : String) : (runSource w json color logger path).exitCode =
      ((Run.outcomes w.submit.2.finish.1).getLast?.map
        fun o => Run.processExitCode o.exitCode).getD 1 := by
  unfold runSource
  generalize w.submit.2.finish = taken
  obtain ⟨events, w'⟩ := taken
  cases hlast : (Run.outcomes events).getLast? <;> simp [hlast]

theorem session_submit_bench (host : Host) (s : Settings) (source : String) :
    let run : Started Run.Channel := (Started.start 1 s.runner host source .new).complete
    (bench host s source).submit.2.session =
      ((Session.new.setText source).submit run.sink.dropSender run.job).2 := by
  intro run
  have hidle : (bench host s source).cancelNoting .cancellingPrevious = bench host s source := rfl
  rw [Workbench.submit, hidle]
  rfl

theorem sound_watched (host : Host) (s : Settings) (source : String) :
    (watched host s source).Sound (Run.launch s.runner host source).1 :=
  Watch.sound_start (Started.sound_start ..) (Watch.fresh_start ..) _

theorem exists_course_of_accepts (h : Accepts host argv args s source)
    (hruns : args.highlightOnly = false) (noColorSet : Bool) :
    let started : Started Run.Channel := .start 1 s.runner host source .new
    ∃ moments, let w := (watched host s source).after moments
      w.isOver = true ∧ (run host noColorSet argv).exitCode = w.exitCode ∧
        w.run.outcome? = started.complete.outcome? := by
  obtain ⟨moments, hover, hreported, houtcome⟩ :=
    Watch.exists_course (Watch.fresh_start 1 s.runner host source) (Session.new.setText source)
  refine ⟨moments, hover, ?_, hreported⟩
  rw [run_of_submits (h.submits hruns), exitCode_runSource, Workbench.fst_finish,
    session_submit_bench, ← houtcome]
  rfl

theorem exitCode_of_ends_cleanly (h : Accepts host argv args s source)
    (hruns : args.highlightOnly = false) (hclean : EndsCleanly host s source) (noColorSet : Bool) :
    (run host noColorSet argv).exitCode = 0 := by
  obtain ⟨l, hl, hstatus⟩ := hclean
  have hending := Ending.ofStatus_eq_exited_zero_iff.mpr hstatus
  obtain ⟨moments, hover, hcode, hreported⟩ := exists_course_of_accepts h hruns noColorSet
  have hsound := Watch.sound_after (sound_watched host s source) moments
  obtain ⟨o, htells⟩ := hsound.exists_tells hover
  rw [Run.start_of_ok 1 Run.Channel.new hl] at hreported
  replace hreported := hreported.trans (Run.Execution.outcome_complete ..)
  rw [hcode, htells.zero_iff]
  rcases hsound.taken o htells.found with hsome | ⟨hnone, -, -⟩
  · obtain rfl := Option.some.inj (hsome.symm.trans hreported)
    rw [Run.outcomeOf, hending]
    rfl
  · cases hnone.symm.trans hreported

theorem Refused.ne_zero {code : Int} (h : Refused host argv code) : code ≠ 0 := by
  cases h <;> decide

theorem Refused.starts_nothing {code : Int} (h : Refused host argv code) (noColorSet : Bool) :
    (run host noColorSet argv).exitCode = code ∧ StartsNothing host noColorSet argv := by
  obtain ⟨r, hcode, hlog, hrun⟩ := h.exists_report
  have hhost := hrun host rfl noColorSet
  refine ⟨by rw [hhost, hcode], by rw [hhost, hlog], fun start breaksOff => ?_⟩
  rw [hhost]
  exact hrun { host with start, breaksOff } rfl noColorSet

theorem Accepts.shown_starts_nothing (h : Accepts host argv args s source)
    (hshow : args.highlightOnly = true) (noColorSet : Bool) :
    (run host noColorSet argv).exitCode = 0 ∧ StartsNothing host noColorSet argv := by
  have hhost := h.run_highlightOnly hshow noColorSet
  refine ⟨by rw [hhost], by rw [hhost], fun start breaksOff => ?_⟩
  rw [hhost]
  exact (h.started_otherwise start breaksOff).run_highlightOnly hshow noColorSet

theorem Accepts.exists_told (h : Accepts host argv args s source)
    (hruns : args.highlightOnly = false) (noColorSet : Bool) : ∃ moments o,
      let w := (watched host s source).after moments
      w.isOver = true ∧ (run host noColorSet argv).exitCode = w.exitCode ∧
        w.Tells (Run.launch s.runner host source).1 o := by
  obtain ⟨moments, hover, hcode, -⟩ := exists_course_of_accepts h hruns noColorSet
  obtain ⟨o, htells⟩ :=
    (Watch.sound_after (sound_watched host s source) moments).exists_tells hover
  exact ⟨moments, o, hover, hcode, htells⟩

theorem exitCode_run_bounds (host : Host) (noColorSet : Bool) (argv : List String) :
    0 ≤ (run host noColorSet argv).exitCode ∧ (run host noColorSet argv).exitCode ≤ 255 := by
  rcases refused_or_accepts host argv with ⟨code, hrefused⟩ | ⟨args, s, source, h⟩
  · rw [(hrefused.starts_nothing noColorSet).1]
    cases hrefused <;> decide
  · cases hshow : args.highlightOnly with
    | true =>
        rw [(h.shown_starts_nothing hshow noColorSet).1]
        decide
    | false =>
        obtain ⟨moments, o, -, hcode, htells⟩ := h.exists_told hshow noColorSet
        rw [hcode]
        exact htells.bounds

theorem exitCode_run_eq_zero_iff (host : Host) (noColorSet : Bool) (argv : List String) :
    (run host noColorSet argv).exitCode = 0 ↔ ∃ args s source, Accepts host argv args s source ∧
      (args.highlightOnly = true ∨ EndsCleanly host s source) := by
  constructor
  · intro hzero
    rcases refused_or_accepts host argv with ⟨code, hrefused⟩ | ⟨args, s, source, h⟩
    · rw [(hrefused.starts_nothing noColorSet).1] at hzero
      exact absurd hzero hrefused.ne_zero
    · refine ⟨args, s, source, h, ?_⟩
      cases hshow : args.highlightOnly with
      | true => exact .inl rfl
      | false =>
          obtain ⟨moments, o, -, hcode, htells⟩ := h.exists_told hshow noColorSet
          exact .inr (htells.clean (hcode.symm.trans hzero)).2
  · rintro ⟨args, s, source, h, hshown | hclean⟩
    · exact (h.shown_starts_nothing hshown noColorSet).1
    · cases hshow : args.highlightOnly with
      | true => exact (h.shown_starts_nothing hshow noColorSet).1
      | false => exact exitCode_of_ends_cleanly h hshow hclean noColorSet

end Exit

theorem exit_status_zero_iff_shown_or_ended_cleanly (host : Host) (noColorSet : Bool)
    (argv : List String) :
    let code := (run host noColorSet argv).exitCode
    (0 ≤ code ∧ code ≤ 255) ∧
    (code = 0 ↔ ∃ args s source, Accepts host argv args s source ∧
      (args.highlightOnly = true ∨ EndsCleanly host s source)) ∧
    (∀ c, Refused host argv c → c ≠ 0 ∧ code = c ∧ StartsNothing host noColorSet argv) ∧
    (∀ args s source, Accepts host argv args s source → args.highlightOnly = true →
      StartsNothing host noColorSet argv) ∧
    (∀ args s source, Accepts host argv args s source → args.highlightOnly = false →
      (∃ moments, ((watched host s source).after moments).isOver = true ∧
        code = ((watched host s source).after moments).exitCode) ∧
      ∀ moments, let w := (watched host s source).after moments
        (∃ more, (w.after more).isOver = true) ∧
        (w.isOver = true → ∃ o, w.Tells (Run.launch s.runner host source).1 o)) ∧
    ∀ c : Int, (0 ≤ Run.processExitCode c ∧ Run.processExitCode c ≤ 255) ∧
      (Run.processExitCode c = 0 ↔ c = 0) := by
  intro code
  refine ⟨exitCode_run_bounds .., exitCode_run_eq_zero_iff .., ?_, ?_, ?_, ?_⟩
  · intro c hrefused
    obtain ⟨hcode, hstarts⟩ := hrefused.starts_nothing noColorSet
    exact ⟨hrefused.ne_zero, hcode, hstarts⟩
  · intro args s source h hshow
    exact (h.shown_starts_nothing hshow noColorSet).2
  · intro args s source h hruns
    obtain ⟨moments, -, hover, hcode, -⟩ := h.exists_told hruns noColorSet
    refine ⟨⟨moments, hover, hcode⟩, fun moments => ?_⟩
    have hsound := Watch.sound_after (sound_watched host s source) moments
    exact ⟨hsound.exists_over, hsound.exists_tells⟩
  · exact fun c => ⟨Run.processExitCode_bounds c, Run.processExitCode_eq_zero_iff⟩

def endingHost (status : Int) : Host where
  environment := ⟨[], Machine.Files.ofSystem.put ["w", "a.kts"] (.file (Text.bytes "val x")), "/w"⟩
  fresh := "1"
  pid := 7
  start e _ _ _ := .ok ⟨[], [], status, false, e.files⟩

theorem failed_scripts_fail_run :
    (run (endingHost 256) false ["a.kts"]).exitCode = 1 ∧
    (run (endingHost 65280) false ["a.kts"]).exitCode = 255 ∧
    (run (endingHost 9) false ["a.kts"]).exitCode = 137 ∧
    (run (endingHost 0) false ["a.kts"]).exitCode = 0 ∧
    Accepts (endingHost 256) ["a.kts"] { Args.empty with script := "a.kts" } .default "val x" ∧
    ¬ EndsCleanly (endingHost 256) .default "val x" := by
  have hcode : (run (endingHost 256) false ["a.kts"]).exitCode = 1 := by decide +kernel
  have haccepts : Accepts (endingHost 256) ["a.kts"] { Args.empty with script := "a.kts" } .default
      "val x" := {
    parsed := ok_of_toOption (by decide +kernel)
    named := by decide
    settled := ok_of_toOption (by decide +kernel)
    read := ok_of_toOption (by decide +kernel) }
  refine ⟨hcode, by decide +kernel, by decide +kernel, by decide +kernel, haccepts, ?_⟩
  intro hclean
  have hzero := (exit_status_zero_iff_shown_or_ended_cleanly (endingHost 256) false ["a.kts"]).2.1
  rw [hcode] at hzero
  exact absurd (hzero.mpr ⟨_, _, _, haccepts, .inr hclean⟩) (by decide)

end ScriptBench.Command
