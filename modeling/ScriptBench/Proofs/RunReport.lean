import ScriptBench.Proofs.LinePieces
import ScriptBench.Run.Execution

/-!
A run is followed on a recording; what any other sink is offered are the events of that recording.
Records of the output are told from those of the errors by their flag.
-/

namespace ScriptBench.Run

open Config (Runner)
open Diagnostic (PositionSet Record classify)
open Machine (Transcript)

def errorRecords (ext : String) (lines : List String) : List Record :=
  lines.filterMap fun line => (classify ext line).record? line

def errorPositions (ext : String) (lines : List String) : PositionSet :=
  .ofList (lines.filterMap fun line => (classify ext line).position?)

def outcomeOf (ext : String) (t : Transcript) : Outcome :=
  ⟨(Ending.ofStatus t.status).exitCode, errorPositions ext (linesOf t.errors), false⟩

def Reports (ext : String) (t : Transcript) (events : List Event) : Prop :=
  ∃ records : List Record,
    events = records.map .output ++ [.finished (outcomeOf ext t)] ∧
    records.filter (fun r => !r.isError) = (linesOf t.output).map .plain ∧
    records.filter (fun r => r.isError) = errorRecords ext (linesOf t.errors)

theorem offer_recording (r : Recording) (e : Event) : offer r e = ⟨r.events ++ [e]⟩ := rfl

theorem errorPositions_concat (ext : String) (lines : List String) (line : String) :
    errorPositions ext (lines ++ [line]) =
      ((classify ext line).position?.map (errorPositions ext lines).insert).getD
        (errorPositions ext lines) := by
  simp only [errorPositions, PositionSet.ofList, List.filterMap_append, List.foldl_append]
  cases h : (classify ext line).position? <;> simp [h]

theorem errorRecords_concat (ext : String) (lines : List String) (line : String) :
    errorRecords ext (lines ++ [line]) =
      errorRecords ext lines ++ ((classify ext line).record? line).toList := by
  simp only [errorRecords, List.filterMap_append]
  cases h : (classify ext line).record? line <;> simp [h]

namespace Execution

section HandOn

variable {σ : Type} [Sink σ]

def handOn (e : Execution Recording) (sink : σ) : Execution σ :=
  ⟨e.id, e.job, e.extractor, e.outputDone, e.errorsDone, e.outcome, e.sink.events.foldl offer sink⟩

theorem step_handOn (e : Execution Recording) (sink : σ) (t : Turn) :
    (e.handOn sink).step t = (e.step t).handOn sink := by
  obtain ⟨id, job, x, outputDone, errorsDone, outcome, r⟩ := e
  cases t with
  | childEnds => rfl
  | readsOutput =>
      cases outputDone with
      | true => rfl
      | false =>
          simp only [step, readOutput, handOn, Bool.false_eq_true, if_false]
          obtain ⟨line, job'⟩ := job.nextLine .output
          cases line with
          | none => rfl
          | some line =>
              cases h : job'.cancelled <;> simp [h, offer_recording]
  | readsErrors =>
      cases errorsDone with
      | true => rfl
      | false =>
          simp only [step, readErrors, handOn, Bool.false_eq_true, if_false]
          obtain ⟨line, job'⟩ := job.nextLine .errors
          cases line with
          | none => rfl
          | some line =>
              cases h : job'.cancelled <;> cases hread : (x.read line).1 <;>
                simp [h, hread, offer_recording]
  | awaits =>
      cases outcome with
      | some o => rfl
      | none =>
          cases hcode : job.exitCode with
          | none => cases h : job.child.isGone <;> simp [step, await, handOn, hcode, h]
          | some code =>
              cases outputDone <;> cases errorsDone <;>
                simp [step, await, handOn, hcode, offer_recording]

theorem run_handOn (e : Execution Recording) (sink : σ) (turns : List Turn) :
    (e.handOn sink).run turns = (e.run turns).handOn sink := by
  induction turns generalizing e with
  | nil => rfl
  | cons t turns ih =>
      have hcons (e' : Execution σ) : e'.run (t :: turns) = (e'.step t).run turns := rfl
      rw [hcons, step_handOn, ih]
      rfl

end HandOn

def Reading (done : Bool) (s : LineStream) (left : List String) : Prop :=
  if done then left = [] else s.Yields left

-- What both readers have seen and what is left to them make up the lines of their streams; the
-- records are those of what was seen, in the order of the turns.
structure Midway (ext : String) (t : Transcript) (e : Execution Recording)
    (outSeen outLeft errSeen errLeft : List String) (records : List Record) : Prop where
  spared : e.job.cancelled = false
  status : e.job.child.status = t.status
  code : ∀ c, e.job.exitCode = some c → c = (Ending.ofStatus t.status).exitCode
  output : linesOf t.output = outSeen ++ outLeft
  errors : linesOf t.errors = errSeen ++ errLeft
  outputReader : Reading e.outputDone e.job.output outLeft
  errorsReader : Reading e.errorsDone e.job.errors errLeft
  extractor : e.extractor = ⟨ext, errorPositions ext errSeen⟩
  plain : records.filter (fun r => !r.isError) = outSeen.map .plain
  flagged : records.filter (fun r => r.isError) = errorRecords ext errSeen
  events : e.sink.events = records.map .output ++ e.outcome.toList.map .finished
  outcome : ∀ o, e.outcome = some o →
    e.outputDone = true ∧ e.errorsDone = true ∧ o = outcomeOf ext t

theorem midway_new (id : Nat) (ext : String) (pid : Nat) (l : Launched) :
    Midway ext l.transcript (new id ext (.ofLaunched pid l) Recording.empty)
      [] (linesOf l.transcript.output) [] (linesOf l.transcript.errors) [] where
  spared := rfl
  status := by
    simp only [new, Job.ofLaunched]
    split <;> rfl
  code := by simp [new, Job.ofLaunched]
  output := rfl
  errors := rfl
  outputReader := LineStream.yields_ofBytes _
  errorsReader := LineStream.yields_ofBytes _
  extractor := rfl
  plain := rfl
  flagged := rfl
  events := rfl
  outcome := by simp [new]

section Midway

variable {ext : String} {t : Transcript} {e : Execution Recording}
  {outSeen outLeft errSeen errLeft : List String} {records : List Record}

theorem midway_childEnds (h : Midway ext t e outSeen outLeft errSeen errLeft records) :
    Midway ext t (e.step .childEnds) outSeen outLeft errSeen errLeft records :=
  { h with }

theorem midway_output_end (h : Midway ext t e outSeen [] errSeen errLeft records) :
    Midway ext t (e.step .readsOutput) outSeen [] errSeen errLeft records ∧
      (e.step .readsOutput).outputDone = true := by
  cases hdone : e.outputDone with
  | true =>
      have hstep : e.step .readsOutput = e := by simp [step, readOutput, hdone]
      rw [hstep]
      exact ⟨h, hdone⟩
  | false =>
      have hreader := h.outputReader
      simp only [Reading, hdone, Bool.false_eq_true, if_false] at hreader
      have hnone := LineStream.next_of_yields_nil hreader
      have hstep : e.step .readsOutput =
          { e with
            job := { e.job with output := (e.job.output.next false).2 }
            outputDone := true } := by
        simp [step, readOutput, hdone, Job.nextLine, Job.stream, Job.withStream, h.spared, hnone]
      rw [hstep]
      exact ⟨{ h with
        outputReader := rfl
        outcome := fun o ho => ⟨rfl, (h.outcome o ho).2⟩ }, rfl⟩

theorem midway_output_line {line : String}
    (h : Midway ext t e outSeen (line :: outLeft) errSeen errLeft records) :
    Midway ext t (e.step .readsOutput) (outSeen ++ [line]) outLeft errSeen errLeft
      (records ++ [.plain line]) := by
  have hreader := h.outputReader
  cases hdone : e.outputDone with
  | true => simp [Reading, hdone] at hreader
  | false =>
      simp only [Reading, hdone, Bool.false_eq_true, if_false] at hreader
      obtain ⟨s, hnext, hs⟩ := LineStream.next_of_yields_cons hreader
      have hopen : e.outcome = none := by
        cases ho : e.outcome with
        | none => rfl
        | some o => simp [(h.outcome o ho).1] at hdone
      have hstep : e.step .readsOutput =
          { e with
            job := { e.job with output := s }
            sink := ⟨e.sink.events ++ [.output (.plain line)]⟩ } := by
        simp [step, readOutput, hdone, Job.nextLine, Job.stream, Job.withStream, h.spared, hnext,
          offer_recording]
      rw [hstep]
      exact { h with
        output := by rw [h.output, List.append_assoc, List.singleton_append]
        outputReader := by simpa [Reading, hdone] using hs
        plain := by simp [h.plain, Record.plain]
        flagged := by simp [h.flagged, Record.plain]
        events := by simp [h.events, hopen]
        outcome := fun o ho => absurd ho (by simp [hopen]) }

theorem midway_errors_end (h : Midway ext t e outSeen outLeft errSeen [] records) :
    Midway ext t (e.step .readsErrors) outSeen outLeft errSeen [] records ∧
      (e.step .readsErrors).outputDone = e.outputDone ∧
      (e.step .readsErrors).errorsDone = true := by
  cases hdone : e.errorsDone with
  | true =>
      have hstep : e.step .readsErrors = e := by simp [step, readErrors, hdone]
      rw [hstep]
      exact ⟨h, rfl, hdone⟩
  | false =>
      have hreader := h.errorsReader
      simp only [Reading, hdone, Bool.false_eq_true, if_false] at hreader
      have hnone := LineStream.next_of_yields_nil hreader
      have hstep : e.step .readsErrors =
          { e with
            job := { e.job with errors := (e.job.errors.next false).2 }
            errorsDone := true } := by
        simp [step, readErrors, hdone, Job.nextLine, Job.stream, Job.withStream, h.spared, hnone]
      rw [hstep]
      exact ⟨{ h with
        errorsReader := rfl
        outcome := fun o ho => ⟨(h.outcome o ho).1, rfl, (h.outcome o ho).2.2⟩ }, rfl, rfl⟩

theorem midway_errors_line {line : String}
    (h : Midway ext t e outSeen outLeft errSeen (line :: errLeft) records) :
    Midway ext t (e.step .readsErrors) outSeen outLeft (errSeen ++ [line]) errLeft
        (records ++ ((classify ext line).record? line).toList) ∧
      (e.step .readsErrors).outputDone = e.outputDone := by
  have hreader := h.errorsReader
  cases hdone : e.errorsDone with
  | true => simp [Reading, hdone] at hreader
  | false =>
      simp only [Reading, hdone, Bool.false_eq_true, if_false] at hreader
      obtain ⟨s, hnext, hs⟩ := LineStream.next_of_yields_cons hreader
      have hopen : e.outcome = none := by
        cases ho : e.outcome with
        | none => rfl
        | some o => simp [(h.outcome o ho).2.1] at hdone
      have hstep : e.step .readsErrors =
          { e with
            job := { e.job with errors := s }
            extractor := ⟨ext, errorPositions ext (errSeen ++ [line])⟩
            sink := ⟨e.sink.events ++
              ((classify ext line).record? line).toList.map .output⟩ } := by
        have hread : e.extractor.read line =
            ((classify ext line).record? line, ⟨ext, errorPositions ext (errSeen ++ [line])⟩) := by
          rw [h.extractor, errorPositions_concat]
          rfl
        cases hrecord : (classify ext line).record? line <;>
          simp [step, readErrors, hdone, Job.nextLine, Job.stream, Job.withStream, h.spared, hnext,
            hread, hrecord, offer_recording]
      have hflag : ∀ r ∈ ((classify ext line).record? line).toList, r.isError = true := by
        intro r hr
        exact Diagnostic.isError_of_record (by simpa using hr)
      rw [hstep]
      refine ⟨{ h with
        errors := by rw [h.errors, List.append_assoc, List.singleton_append]
        errorsReader := by simpa [Reading, hdone] using hs
        extractor := rfl
        plain := ?_
        flagged := ?_
        events := by simp [h.events, hopen]
        outcome := fun o ho => absurd ho (by simp [hopen]) }, rfl⟩
      · rw [List.filter_append, h.plain, List.filter_eq_nil_iff.mpr, List.append_nil]
        intro r hr
        simp [hflag r hr]
      · rw [List.filter_append, h.flagged, errorRecords_concat,
          List.filter_eq_self.mpr fun r hr => hflag r hr]

theorem midway_awaits (h : Midway ext t e outSeen outLeft errSeen errLeft records) :
    Midway ext t (e.step .awaits) outSeen outLeft errSeen errLeft records := by
  cases ho : e.outcome with
  | some o =>
      have hstep : e.step .awaits = e := by simp [step, await, ho]
      rw [hstep]
      exact h
  | none =>
      cases hcode : e.job.exitCode with
      | none =>
          cases hgone : e.job.child.isGone with
          | false =>
              have hstep : e.step .awaits = e := by simp [step, await, ho, hcode, hgone]
              rw [hstep]
              exact h
          | true =>
              have hstep : e.step .awaits = { e with job := e.job.wait.2 } := by
                simp [step, await, ho, hcode, hgone]
              have hwait : e.job.wait.2 = { e.job.ends.removeScript with
                  exitCode := some (Ending.ofStatus e.job.child.status).exitCode } := by
                simp [Job.wait, hcode]
              rw [hstep, hwait]
              exact { h with
                status := h.status
                code := by
                  intro c hc
                  simpa [h.status] using hc.symm }
      | some code =>
          by_cases hboth : (e.errorsDone && e.outputDone) = true
          · have hdone : e.errorsDone = true ∧ e.outputDone = true := by simpa using hboth
            have hleft : errLeft = [] := by simpa [Reading, hdone.1] using h.errorsReader
            have hall : linesOf t.errors = errSeen := by rw [h.errors, hleft, List.append_nil]
            have hout : outcomeOf ext t = ⟨code, e.extractor.positions, e.job.cancelled⟩ := by
              rw [outcomeOf, hall, h.extractor, h.spared, h.code code hcode]
            have hstep : e.step .awaits =
                { e with
                  outcome := some (outcomeOf ext t)
                  sink := ⟨e.sink.events ++ [.finished (outcomeOf ext t)]⟩ } := by
              simp [step, await, ho, hcode, hboth, hout, offer_recording]
            rw [hstep]
            exact { h with
              events := by simp [h.events, ho]
              outcome := by
                intro o' ho'
                exact ⟨hdone.2, hdone.1, (Option.some.inj ho').symm⟩ }
          · have hstep : e.step .awaits = e := by simp [step, await, ho, hcode, hboth]
            rw [hstep]
            exact h

end Midway

def Underway (ext : String) (t : Transcript) (e : Execution Recording) : Prop :=
  ∃ outSeen outLeft errSeen errLeft records,
    Midway ext t e outSeen outLeft errSeen errLeft records

theorem underway_step {ext : String} {t : Transcript} {e : Execution Recording}
    (h : Underway ext t e) (turn : Turn) : Underway ext t (e.step turn) := by
  obtain ⟨outSeen, outLeft, errSeen, errLeft, records, h⟩ := h
  cases turn with
  | childEnds => exact ⟨_, _, _, _, _, midway_childEnds h⟩
  | readsOutput =>
      cases outLeft with
      | nil => exact ⟨_, _, _, _, _, (midway_output_end h).1⟩
      | cons line more => exact ⟨_, _, _, _, _, midway_output_line h⟩
  | readsErrors =>
      cases errLeft with
      | nil => exact ⟨_, _, _, _, _, (midway_errors_end h).1⟩
      | cons line more => exact ⟨_, _, _, _, _, (midway_errors_line h).1⟩
  | awaits => exact ⟨_, _, _, _, _, midway_awaits h⟩

theorem underway_run {ext : String} {t : Transcript} {e : Execution Recording}
    (h : Underway ext t e) (turns : List Turn) : Underway ext t (e.run turns) := by
  induction turns generalizing e with
  | nil => exact h
  | cons turn turns ih => exact ih (underway_step h turn)

theorem underway_new (id : Nat) (ext : String) (pid : Nat) (l : Launched) :
    Underway ext l.transcript (new id ext (.ofLaunched pid l) Recording.empty) :=
  ⟨_, _, _, _, _, midway_new id ext pid l⟩

theorem reports_of_isOver {ext : String} {t : Transcript} {e : Execution Recording}
    (h : Underway ext t e) (hover : e.isOver = true) :
    e.outputDone = true ∧ e.errorsDone = true ∧ e.outcome = some (outcomeOf ext t) ∧
      Reports ext t e.sink.events := by
  obtain ⟨outSeen, outLeft, errSeen, errLeft, records, h⟩ := h
  obtain ⟨o, ho⟩ := Option.isSome_iff_exists.mp hover
  obtain ⟨hout, herr, rfl⟩ := h.outcome o ho
  have houtLeft : outLeft = [] := by simpa [Reading, hout] using h.outputReader
  have herrLeft : errLeft = [] := by simpa [Reading, herr] using h.errorsReader
  refine ⟨hout, herr, ho, records, ?_, ?_, ?_⟩
  · simp [h.events, ho]
  · rw [h.plain, h.output, houtLeft, List.append_nil]
  · rw [h.flagged, h.errors, herrLeft, List.append_nil]

theorem run_append {σ : Type} [Sink σ] (e : Execution σ) (turns more : List Turn) :
    e.run (turns ++ more) = (e.run turns).run more := List.foldl_append

theorem isOver_of_done {σ : Type} [Sink σ] {e : Execution σ} (hout : e.outputDone = true)
    (herr : e.errorsDone = true) : (e.run [.childEnds, .awaits, .awaits]).isOver = true := by
  cases ho : e.outcome with
  | some o => simp [run, step, await, isOver, ho]
  | none =>
      cases hcode : e.job.exitCode <;>
        simp [run, step, await, isOver, ho, hout, herr, hcode, Job.ends, Job.wait,
          Job.removeScript, Child.isGone]

end Execution

section Start

variable {σ : Type} [Sink σ] (id : Nat) {r : Runner} {h : Host} {text : String} (sink : σ)

-- The launch is made a variable before the match on it is reduced: reducing it where it stands
-- would run the launch.
theorem start_of_error {reason : LaunchError} (hl : (launch r h text).1 = .error reason) :
    Started.start id r h text sink = .failed id reason (reportFailure sink reason) := by
  unfold Started.start
  generalize (launch r h text).1 = launched at hl
  subst hl
  rfl

theorem start_of_ok {l : Launched} (hl : (launch r h text).1 = .ok l) :
    Started.start id r h text sink =
      .running (.new id r.extension (.ofLaunched h.pid l) sink) := by
  unfold Started.start
  generalize (launch r h text).1 = launched at hl
  subst hl
  rfl

end Start

end ScriptBench.Run
