import ScriptBench.Command.Run
import ScriptBench.Proofs.FileLayer
import ScriptBench.Proofs.JsonReader
import ScriptBench.Proofs.SessionDrain
import ScriptBench.Proofs.WorkbenchHistory

namespace ScriptBench.Json

/-- What an object has under a key. Under a repeated key it has nothing that could be relied on. -/
def field? (fields : List (String × Value)) (key : String) : Option (Option Value) :=
  match fields.filter (·.1 == key) with
  | [] => some none
  | [(_, v)] => some (some v)
  | _ => none

end ScriptBench.Json

namespace ScriptBench.Run

open Diagnostic (Increasing Position Record)
open Json (Value field?)

def countOf? : Option Value → Option (Option Nat)
  | none => some none
  | some (.number n) => n.toNat?.map some
  | some _ => none

def recordOf? : Value → Option Record
  | .object fields => do
    let some (.string text) ← field? fields "text" | none
    let some (.bool isError) ← field? fields "is_error" | none
    let line ← countOf? (← field? fields "line")
    let column ← countOf? (← field? fields "column")
    some ⟨text, isError, line, column⟩
  | _ => none

def positionOf? : Value → Option Position
  | .object fields => do
    let some line ← countOf? (← field? fields "line") | none
    match ← field? fields "column" with
    | some .null => some ⟨line, none⟩
    | some column => do
      let some column ← countOf? (some column) | none
      some ⟨line, some column⟩
    | none => none
  | _ => none

structure Status where
  text : String
  exitCode : Int
  cancelled : Bool
  positions : List Position

def statusOf? : Value → Option Status
  | .object fields => do
    let some (.string text) ← field? fields "status" | none
    let some (.number exitCode) ← field? fields "exit_code" | none
    let some (.bool cancelled) ← field? fields "cancelled" | none
    let some (.array items) ← field? fields "diagnostics" | none
    some ⟨text, exitCode, cancelled, ← items.mapM positionOf?⟩
  | _ => none

theorem recordOf?_recordValue (r : Record) : recordOf? (recordValue r) = some r := by
  obtain ⟨text, isError, line, column⟩ := r
  cases line <;> cases column <;> rfl

theorem positionOf?_positionValue (p : Position) : positionOf? (positionValue p) = some p := by
  obtain ⟨line, column⟩ := p
  cases column <;> rfl

theorem mapM_positionOf? (ps : List Position) :
    (ps.map positionValue).mapM positionOf? = some ps := by
  induction ps with
  | nil => rfl
  | cons p ps ih => simp [positionOf?_positionValue, ih]

theorem statusOf?_outcomeValue (o : Outcome) : statusOf? (outcomeValue o) =
    some ⟨o.statusLine, o.exitCode, o.cancelled, o.positions.toList⟩ := by
  have hread := mapM_positionOf? o.positions.toList
  show ((o.positions.toList.map positionValue).mapM positionOf? >>= fun positions =>
    some (Status.mk o.statusLine o.exitCode o.cancelled positions)) = _
  rw [hread]
  rfl

end ScriptBench.Run

namespace ScriptBench.Editor

open Diagnostic (Record)
open Run (Event Outcome)

theorem reported_none (outputs : List Record) :
    reported outputs none = outputs.map .output := List.append_nil _

theorem records_reported (outputs : List Record) (o : Outcome) :
    Run.records (reported outputs (some o)) = outputs := by
  rw [reported, records_append, records_outputs]
  exact List.append_nil _

theorem reported_inj {outputs outputs' : List Record} {o o' : Outcome}
    (h : reported outputs (some o) = reported outputs' (some o')) :
    outputs = outputs' ∧ o = o' := by
  have hrecords := congrArg Run.records h
  have houtcomes := congrArg Run.outcomes h
  rw [records_reported, records_reported] at hrecords
  rw [outcomes_reported, outcomes_reported] at houtcomes
  exact ⟨hrecords, List.singleton_inj.mp houtcomes⟩

theorem eq_outputs_of_unfinished {front : List Event} (h : Run.outcomes front = []) :
    front = (Run.records front).map .output := by
  induction front with
  | nil => rfl
  | cons e front ih =>
      cases e with
      | output r => exact congrArg (.output r :: ·) (ih h)
      | finished o =>
          rw [outcomes_finished_cons] at h
          cases h

theorem History.OverRun.handed_eq_reported {r : RunLog} {s : Session} {front : List Event}
    {o : Outcome} (h : History.OverRun r s front o) :
    r.handed = reported (Run.records front) (some o) := by
  rw [h.handed, reported, ← eq_outputs_of_unfinished h.unfinished]
  rfl

theorem Workbench.fst_finish (w : Workbench) : w.finish.1 = w.session.poll.1 := by
  rw [← Session.finish_eq_poll]
  rfl

theorem Workbench.exists_reported_of_submit (w : Workbench) :
    ∃ outputs o, w.submit.2.finish.1 = reported outputs (some o) := by
  obtain ⟨sent, job, hsession⟩ := w.session_submit
  have hlive : (w.session.submit ⟨sent, false, true⟩ job).2.live =
      some ⟨w.session.nextId, ⟨sent, false, true⟩, job⟩ := rfl
  rw [fst_finish, hsession, Session.poll, Session.waiting, hlive]
  exact Session.exists_reported_of_pollUpTo hlive rfl

end ScriptBench.Editor

namespace ScriptBench.Text

theorem splitOn_cons_line {l : List Char} (hfree : '\n' ∉ l) (rest : List Char) :
    (l ++ '\n' :: rest).splitOn '\n' = l :: rest.splitOn '\n' := by
  rw [List.splitOn_eq_splitOnP, List.splitOn_eq_splitOnP]
  refine List.splitOnP_append_cons_of_forall_mem ?_ '\n' rfl rest
  intro c hc
  rw [beq_eq_false_iff_ne]
  rintro rfl
  exact hfree hc

theorem splitOn_lines {lines : List (List Char)} (hfree : ∀ l ∈ lines, '\n' ∉ l)
    (rest : List Char) :
    (lines.flatMap (· ++ ['\n']) ++ rest).splitOn '\n' = lines ++ rest.splitOn '\n' := by
  induction lines with
  | nil => rfl
  | cons l lines ih =>
      obtain ⟨hl, hlines⟩ := List.forall_mem_cons.mp hfree
      rw [List.flatMap_cons, List.append_assoc, List.append_assoc, List.singleton_append,
        splitOn_cons_line hl, ih hlines, List.cons_append]

end ScriptBench.Text

namespace ScriptBench.Command

open Diagnostic (Increasing Record)
open Editor (History Workbench reported)
open Json (Printable Value)
open Run (Event Host Outcome Status outcomeValue recordOf? recordValue statusOf?)

structure Printed (output : String) (rs : List Record) (o : Outcome) (lines : List (List Char))
    (status : List Char) : Prop where
  cut : output.toList.splitOn '\n' = lines ++ [status, []]
  printable : ∀ l ∈ lines ++ [status], Printable l
  records : lines.map (fun l => Json.parse l >>= recordOf?) = rs.map some
  status : Json.parse status >>= statusOf? =
    some ⟨o.statusLine, o.exitCode, o.cancelled, o.positions.toList⟩
  ascending : Increasing o.positions.toList

def ReadsBack (output : String) (rs : List Record) (o : Outcome) : Prop :=
  ∃ lines status, Printed output rs o lines status

theorem not_mem_of_printable {l : List Char} (h : Printable l) : '\n' ∉ l :=
  fun hmem => absurd (h _ hmem) (by decide)

theorem toList_showEvents (source : String) (events : List Event) :
    (showEvents true source events).toList =
      ((Run.records events).map fun r => Json.chars (recordValue r)).flatMap (· ++ ['\n']) := by
  induction events with
  | nil => rfl
  | cons e events ih =>
      rw [showEvents, List.map_cons, String.join_cons, String.toList_append]
      cases e with
      | output r =>
          have hline : (showEvent true source (.output r)).toList =
              Json.chars (recordValue r) ++ ['\n'] := by
            simp [showEvent, Value.render]
          rw [hline]
          exact congrArg ((Json.chars (recordValue r) ++ ['\n']) ++ ·) ih
      | finished o => exact ih

theorem readsBack_shown (source : String) (events : List Event) (color : Bool) (w : Workbench)
    (o : Outcome) : ReadsBack (showEvents true source events ++ showOutcome true color w o)
      (Run.records events) o := by
  have hlines : ∀ l ∈ (Run.records events).map fun r => Json.chars (recordValue r),
      Printable l := by
    intro l hl
    obtain ⟨r, -, rfl⟩ := List.mem_map.mp hl
    exact Json.printable_chars _
  have hstatus : (showOutcome true color w o).toList =
      Json.chars (outcomeValue o) ++ ['\n'] := by
    simp [showOutcome, Value.render]
  refine ⟨(Run.records events).map fun r => Json.chars (recordValue r),
    Json.chars (outcomeValue o), ?_, ?_, ?_, ?_, o.positions.increasing⟩
  · rw [String.toList_append, toList_showEvents, hstatus,
      Text.splitOn_lines fun l hl => not_mem_of_printable (hlines l hl),
      Text.splitOn_cons_line (not_mem_of_printable (Json.printable_chars _))]
    rfl
  · rw [List.forall_mem_append, List.forall_mem_singleton]
    exact ⟨hlines, Json.printable_chars _⟩
  · rw [List.map_map]
    refine List.map_congr_left fun r _ => ?_
    rw [Function.comp_apply, Json.parse_chars]
    exact Run.recordOf?_recordValue r
  · rw [Json.parse_chars]
    exact Run.statusOf?_outcomeValue o

structure Submits (host : Host) (argv : List String) (args : Args) (s : Config.Settings)
    (w : Workbench) : Prop where
  parsed : parse argv = .ok args
  named : args.script ≠ ""
  settled : settings host.environment args = .ok s
  opened : ∃ source, host.environment.readText args.script = .ok source ∧
    (Workbench.new s host).map (·.setText source) = .ok w
  runs : args.highlightOnly = false

theorem run_of_submits {host : Host} {argv : List String} {args : Args} {s : Config.Settings}
    {w : Workbench} (h : Submits host argv args s w) (noColorSet : Bool) :
    run host noColorSet argv = runSource w args.json (useColor noColorSet args.noColor)
      ((Log.Logger.new s.logLevel s.logFormat).component "cli") args.script := by
  obtain ⟨source, hsource, hw⟩ := h.opened
  obtain ⟨empty, hnew, rfl⟩ := map_eq_ok_iff.mp hw
  have hnamed : args.script.isEmpty = false := by
    simpa [String.isEmpty_iff] using h.named
  rw [run, h.parsed]
  simp only [hnamed, h.settled, runWith, hsource, hnew, h.runs, Bool.false_eq_true, if_false]

theorem runSource_output {w : Workbench} {rs : List Record} {o : Outcome}
    (h : w.submit.2.finish.1 = reported rs (some o)) (json color : Bool) (logger : Log.Logger)
    (path : String) : ∃ w' : Workbench, (runSource w json color logger path).output =
      showEvents json w'.session.text (reported rs (some o)) ++ showOutcome json color w' o := by
  have hlast : (Run.outcomes (reported rs (some o))).getLast? = some o := by
    rw [Editor.outcomes_reported]
    rfl
  unfold runSource
  generalize w.submit.2.finish = taken at h ⊢
  obtain ⟨events, w'⟩ := taken
  obtain rfl : events = reported rs (some o) := h
  refine ⟨w', ?_⟩
  simp only [hlast]

theorem json_lines_read_back {host : Host} {argv : List String} {args : Args}
    {s : Config.Settings} {w : Workbench} (h : Submits host argv args s w)
    (hjson : args.json = true) :
    (∃ rs o, w.submit.2.finish.1 = reported rs (some o) ∧
      ∀ noColorSet, ReadsBack (run host noColorSet argv).output rs o) ∧
    ∀ acts, ∀ r ∈ (History.new.run acts).runs.head?,
      (History.new.run acts).session.isRunning = false →
      ∃ rs o, r.handed = reported rs (some o) ∧
        (r.handed <+: r.sent ∨ r.sent = reported rs none ∧ o = .notRun) ∧
        ∀ source color w',
          ReadsBack (showEvents true source r.handed ++ showOutcome true color w' o) rs o := by
  constructor
  · obtain ⟨rs, o, hevents⟩ := w.exists_reported_of_submit
    refine ⟨rs, o, hevents, fun noColorSet => ?_⟩
    rw [run_of_submits h, hjson]
    obtain ⟨w', houtput⟩ := runSource_output hevents true (useColor noColorSet args.noColor)
      ((Log.Logger.new s.logLevel s.logFormat).component "cli") args.script
    rw [houtput]
    have hread := readsBack_shown w'.session.text (reported rs (some o))
      (useColor noColorSet args.noColor) w' o
    rwa [Editor.records_reported] at hread
  · intro acts r hr hover
    have hidle : (History.new.run acts).session.live = none := by
      simpa [Editor.Session.isRunning] using hover
    obtain ⟨front, o, hrun⟩ := ((History.consistent_run acts).stage r hr).of_over hidle
    refine ⟨Run.records front, o, hrun.handed_eq_reported, ?_, fun source color w' => ?_⟩
    · rcases hrun.sent with hsent | ⟨hsent, -, hlost⟩
      · exact .inl hsent
      · refine .inr ⟨?_, hlost⟩
        rw [hsent, Editor.reported_none, ← Editor.eq_outputs_of_unfinished hrun.unfinished]
    · have hread := readsBack_shown source r.handed color w' o
      rw [hrun.handed_eq_reported, Editor.records_reported] at hread
      rw [hrun.handed_eq_reported]
      exact hread

def quotingHost : Host where
  environment := ⟨[], Machine.Files.ofSystem.put ["w", "a.kts"] (.file (Text.bytes "val x")), "/w"⟩
  fresh := "1"
  pid := 7
  start e _ _ _ := .ok ⟨Text.bytes "\"\\ \x07\n", Text.bytes "a.kts:2:9: error: yes\n", 256, false,
    e.files⟩

def quotingArgs : Args := { Args.empty with json := true, script := "a.kts" }

def quotingBench : Workbench :=
  ⟨.default, Editor.Session.new.setText "val x", quotingHost, []⟩

def quotedRecords : List Record :=
  [⟨"\"\\ \x07", false, none, none⟩, ⟨"error: yes at 2:9", true, some 2, some 9⟩]

def quotedOutcome : Outcome := ⟨1, .ofList [⟨2, some 9⟩], false⟩

theorem quoted_output_reads_back :
    Submits quotingHost ["--json", "a.kts"] quotingArgs .default quotingBench ∧
    quotingArgs.json = true ∧
    quotingBench.submit.2.finish.1 = reported quotedRecords (some quotedOutcome) ∧
    ∀ noColorSet, ReadsBack (run quotingHost noColorSet ["--json", "a.kts"]).output
      quotedRecords quotedOutcome := by
  have hsubmits : Submits quotingHost ["--json", "a.kts"] quotingArgs .default quotingBench := {
    parsed := ok_of_toOption (by decide +kernel)
    named := by decide
    settled := ok_of_toOption (by decide +kernel)
    opened := by
      refine ⟨"val x", ok_of_toOption (by decide +kernel), ?_⟩
      rw [Workbench.new, Config.validate_default]
      rfl
    runs := rfl }
  have hfinish : quotingBench.submit.2.finish.1 = reported quotedRecords (some quotedOutcome) := by
    decide +kernel
  obtain ⟨rs, o, hevents, hread⟩ := (json_lines_read_back hsubmits rfl).1
  obtain ⟨rfl, rfl⟩ := Editor.reported_inj (hfinish.symm.trans hevents)
  exact ⟨hsubmits, rfl, hfinish, hread⟩

end ScriptBench.Command
