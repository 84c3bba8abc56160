import ScriptBench.Proofs.JobHandle
import ScriptBench.Proofs.RunReport

namespace ScriptBench.Run

open Diagnostic (Record)

theorem length_cutLine? {bs front rest : List UInt8} (h : cutLine? bs = some (front, rest)) :
    front.length + rest.length = bs.length := by
  induction bs generalizing front with
  | nil => cases h
  | cons b bs ih =>
      by_cases hb : b = lineFeed
      · simp only [cutLine?, hb, if_true, Option.some.injEq, Prod.mk.injEq] at h
        obtain ⟨rfl, rfl⟩ := h
        exact Nat.add_comm 1 _
      · simp only [cutLine?, hb, if_false, Option.map_eq_some_iff, Prod.exists, Prod.mk.injEq] at h
        obtain ⟨front, rest, hcut, rfl, rfl⟩ := h
        have hlength := ih hcut
        rw [List.length_cons, List.length_cons]
        omega

def Fetched.bytes : Fetched → List UInt8
  | .complete bs | .broken bs => bs

theorem length_fetch (line : List UInt8) (supply : List Supply) :
    (fetch line supply).1.bytes.length +
        ((fetch line supply).2.1.length + Supply.bytesIn (fetch line supply).2.2) =
      line.length + Supply.bytesIn supply := by
  induction supply generalizing line with
  | nil => rfl
  | cons s more ih =>
      cases s with
      | ended => simp [fetch, Fetched.bytes, Supply.bytesIn]
      | failed => simp [fetch, Fetched.bytes, Supply.bytesIn]
      | interrupted => exact ih line
      | bytes bs =>
          rw [Supply.bytesIn]
          cases bs with
          | nil => simp [fetch, Fetched.bytes]
          | cons b bs =>
              cases hcut : cutLine? (b :: bs) with
              | some cut =>
                  obtain ⟨front, rest⟩ := cut
                  have hlength := length_cutLine? hcut
                  simp only [fetch, List.isEmpty_cons, Bool.false_eq_true, if_false, hcut,
                    Fetched.bytes, List.length_append]
                  omega
              | none =>
                  have hmore := ih (line ++ b :: bs)
                  rw [List.length_append] at hmore
                  simp only [fetch, List.isEmpty_cons, Bool.false_eq_true, if_false, hcut]
                  omega

namespace LineStream

theorem length_advance (s : LineStream) :
    s.advance.1.bytes.length + (s.advance.2.1.length + Supply.bytesIn s.advance.2.2) =
      s.bound := by
  rw [advance, bound]
  cases hcut : cutLine? s.buffered with
  | some cut =>
      obtain ⟨front, rest⟩ := cut
      have hlength := length_cutLine? hcut
      simp only [Fetched.bytes]
      omega
  | none => exact length_fetch s.buffered s.supply

theorem bound_nextRaw_lt {s s' : LineStream} {cancelled : Bool} {raw : List UInt8}
    (h : s.nextRaw cancelled = (some raw, s')) : s'.bound < s.bound := by
  have hlength := s.length_advance
  rw [nextRaw] at h
  generalize s.advance = advanced at h hlength
  obtain ⟨fetched, buffered, supply⟩ := advanced
  cases hended : s.done || cancelled with
  | true => simp [hended] at h
  | false =>
      simp only [hended, Bool.false_eq_true, if_false] at h
      cases fetched with
      | complete bs =>
          cases bs with
          | nil => cases h
          | cons b bs =>
              obtain rfl : ⟨buffered, supply, false⟩ = s' := congrArg Prod.snd h
              simp only [Fetched.bytes, List.length_cons] at hlength
              show buffered.length + Supply.bytesIn supply < s.bound
              omega
      | broken bs =>
          cases bs with
          | nil => cases h
          | cons b bs =>
              obtain rfl : ⟨buffered, supply, true⟩ = s' := congrArg Prod.snd h
              simp only [Fetched.bytes, List.length_cons] at hlength
              show buffered.length + Supply.bytesIn supply < s.bound
              omega

theorem bound_next_lt {s s' : LineStream} {cancelled : Bool} {line : String}
    (h : s.next cancelled = (some line, s')) : s'.bound < s.bound := by
  rw [next] at h
  cases hnext : s.nextRaw cancelled with
  | mk raw s₁ =>
      rw [hnext] at h
      obtain ⟨hraw, rfl⟩ := Prod.mk.inj h
      obtain ⟨bs, rfl, -⟩ := Option.map_eq_some_iff.mp hraw
      exact bound_nextRaw_lt hnext

end LineStream

namespace Job

theorem isGone_act {p : Job} (h : p.child.isGone = true) (d : Deed) :
    (p.act d).child.isGone = true := by
  cases d with
  | waits =>
      cases hcode : p.exitCode with
      | none =>
          rw [act, wait, hcode]
          rfl
      | some code =>
          rw [act, wait, hcode]
          exact h
  | cancels =>
      rw [act, cancel_of_gone h]
      exact h
  | asksCode => exact h
  | asksFlag => exact h
  | reads name => cases name <;> exact h
  | childEnds => rfl

end Job

def StreamName.turn : StreamName → Turn
  | .output => .readsOutput
  | .errors => .readsErrors

namespace Execution

section Turns

variable {σ : Type} [Sink σ]

theorem run_cons (e : Execution σ) (t : Turn) (turns : List Turn) :
    e.run (t :: turns) = (e.step t).run turns := rfl

def readerDone (e : Execution σ) : StreamName → Bool
  | .output => e.outputDone
  | .errors => e.errorsDone

def stopped (e : Execution σ) (name : StreamName) (job : Job) : Execution σ :=
  match name with
  | .output => { e with job, outputDone := true }
  | .errors => { e with job, errorsDone := true }

def taken (e : Execution σ) : StreamName → String → Option Record × Diagnostic.Extractor
  | .output, line => (some (.plain line), e.extractor)
  | .errors, line => e.extractor.read line

theorem step_reads_eq (e : Execution σ) (name : StreamName) : e.step name.turn =
    if e.readerDone name then e
    else match e.job.nextLine name with
      | (none, job) => e.stopped name job
      | (some line, job) =>
        if job.cancelled then e.stopped name job
        else { e with
          job
          extractor := (e.taken name line).2
          sink := ((e.taken name line).1.toList.map .output).foldl offer e.sink } := by
  cases name with
  | output =>
      show e.readOutput = _
      rw [readOutput]
      generalize e.job.nextLine .output = next
      obtain ⟨line, job⟩ := next
      cases line <;> rfl
  | errors =>
      show e.readErrors = _
      rw [readErrors]
      generalize e.job.nextLine .errors = next
      obtain ⟨line, job⟩ := next
      cases line with
      | none => rfl
      | some line =>
          simp only [taken, readerDone, stopped]
          cases (e.extractor.read line).1 <;> rfl

inductive Reads (e : Execution σ) (name : StreamName) : Execution σ → Prop
  | rests : e.readerDone name = true → Reads e name e
  | stops {e'} : e'.job = e.job.act (.reads name) →
      (∀ other, other = name ∨ e.readerDone other = true → e'.readerDone other = true) →
      e'.outcome = e.outcome → e'.sink = e.sink → Reads e name e'
  | reads {e'} (line : String) (records : List Record) : e'.job = e.job.act (.reads name) →
      (e.job.nextLine name).1 = some line → (∀ other, e'.readerDone other = e.readerDone other) →
      e'.outcome = e.outcome → e'.sink = (records.map .output).foldl offer e.sink →
      Reads e name e'

theorem reads_stopped {e : Execution σ} {name : StreamName} {job : Job}
    (hjob : job = e.job.act (.reads name)) : e.Reads name (e.stopped name job) := by
  refine .stops ?_ ?_ ?_ ?_
  · cases name <;> exact hjob
  · rintro other (rfl | hdone)
    · cases other <;> rfl
    · cases name <;> cases other <;> first | rfl | exact hdone
  · cases name <;> rfl
  · cases name <;> rfl

theorem reads (e : Execution σ) (name : StreamName) : e.Reads name (e.step name.turn) := by
  rw [step_reads_eq]
  cases hdone : e.readerDone name with
  | true => exact .rests hdone
  | false =>
      cases hnext : e.job.nextLine name with
      | mk line job =>
          have hjob : job = e.job.act (.reads name) := (congrArg Prod.snd hnext).symm
          cases line with
          | none => exact reads_stopped hjob
          | some line =>
              cases hcancelled : job.cancelled with
              | true =>
                  simp only [hcancelled, Bool.false_eq_true, if_false, if_true]
                  exact reads_stopped hjob
              | false =>
                  simp only [hcancelled, Bool.false_eq_true, if_false]
                  refine .reads line (e.taken name line).1.toList hjob (congrArg Prod.fst hnext)
                    (fun other => ?_) rfl rfl
                  cases other <;> rfl

/-- What a turn does: nothing, a deed on the job that brings records at most, or the report of the
outcome, which waits for the exit code and for both readers. -/
inductive Turning (e : Execution σ) : Execution σ → Prop
  | rests : Turning e e
  | acts {e'} (d : Deed) (records : List Record) : e'.job = e.job.act d →
      (∀ name, e.readerDone name = true → e'.readerDone name = true) → e'.outcome = e.outcome →
      e'.sink = (records.map .output).foldl offer e.sink → Turning e e'
  | reports {o} : e.outcome = none → e.job.exitCode = some o.exitCode →
      e.job.cancelled = o.cancelled → (∀ name, e.readerDone name = true) →
      Turning e { e with outcome := some o, sink := offer e.sink (.finished o) }

theorem Reads.turning {e e' : Execution σ} {name : StreamName} (h : e.Reads name e') :
    e.Turning e' := by
  cases h with
  | rests _ => exact .rests
  | stops hjob hdone houtcome hsink =>
      exact .acts (.reads name) [] hjob (fun other h => hdone other (.inr h)) houtcome hsink
  | reads line records hjob _ hdone houtcome hsink =>
      exact .acts (.reads name) records hjob (fun other => (hdone other).trans) houtcome hsink

theorem turning_await (e : Execution σ) : e.Turning e.await := by
  rw [await]
  cases houtcome : e.outcome with
  | some o => exact .rests
  | none =>
      cases hcode : e.job.exitCode with
      | none =>
          cases hgone : e.job.child.isGone with
          | false => exact .rests
          | true => exact .acts .waits [] rfl (fun _ h => h) houtcome.symm rfl
      | some code =>
          cases hdone : e.errorsDone && e.outputDone with
          | false => exact .rests
          | true =>
              rw [Bool.and_eq_true] at hdone
              refine .reports houtcome hcode rfl fun name => ?_
              cases name with
              | output => exact hdone.2
              | errors => exact hdone.1

theorem turning (e : Execution σ) (t : Turn) : e.Turning (e.step t) := by
  cases t with
  | childEnds => exact .acts .childEnds [] rfl (fun _ h => h) rfl rfl
  | readsOutput => exact (e.reads .output).turning
  | readsErrors => exact (e.reads .errors).turning
  | awaits => exact turning_await e

structure Further (e e' : Execution σ) : Prop where
  readers : ∀ name, e.readerDone name = true → e'.readerDone name = true
  gone : e.job.child.isGone = true → e'.job.child.isGone = true

theorem Turning.further {e e' : Execution σ} (h : e.Turning e') : e.Further e' := by
  cases h with
  | rests => exact ⟨fun _ h => h, fun h => h⟩
  | acts d _ hjob hdone _ _ =>
      refine ⟨hdone, fun hgone => ?_⟩
      rw [hjob]
      exact Job.isGone_act hgone d
  | reports _ _ _ _ => exact ⟨fun _ h => h, fun h => h⟩

theorem further_run (e : Execution σ) (turns : List Turn) : e.Further (e.run turns) := by
  induction turns generalizing e with
  | nil => exact ⟨fun _ h => h, fun h => h⟩
  | cons t turns ih =>
      have hone := (e.turning t).further
      have hrest := ih (e.step t)
      exact ⟨fun name h => hrest.readers name (hone.readers name h), hrest.gone ∘ hone.gone⟩

theorem stream_act_reads {p : Job} {name other : StreamName} (h : other ≠ name) :
    (p.act (.reads name)).stream other = p.stream other := by
  cases name <;> cases other <;> first | exact absurd rfl h | rfl

theorem stream_step_reads (e : Execution σ) {name other : StreamName} (h : other ≠ name) :
    (e.step name.turn).job.stream other = e.job.stream other := by
  have hreads := e.reads name
  generalize e.step name.turn = e' at hreads ⊢
  cases hreads with
  | rests _ => rfl
  | stops hjob _ _ _ => rw [hjob, stream_act_reads h]
  | reads _ _ hjob _ _ _ _ => rw [hjob, stream_act_reads h]

theorem done_or_bound_lt (e : Execution σ) (name : StreamName) :
    (e.step name.turn).readerDone name = true ∨
      ((e.step name.turn).job.stream name).bound < (e.job.stream name).bound := by
  have hreads := e.reads name
  generalize e.step name.turn = e' at hreads ⊢
  cases hreads with
  | rests hdone => exact .inl hdone
  | stops _ hdone _ _ => exact .inl (hdone name (.inl rfl))
  | reads line _ hjob hline _ _ _ =>
      refine .inr ?_
      have hnext : (e.job.stream name).next e.job.cancelled =
          (some line, ((e.job.stream name).next e.job.cancelled).2) := Prod.ext hline rfl
      have hstream : (e.job.act (.reads name)).stream name =
          ((e.job.stream name).next e.job.cancelled).2 := by
        cases name <;> rfl
      rw [hjob, hstream]
      exact LineStream.bound_next_lt hnext

theorem stream_run_reads (e : Execution σ) (name : StreamName) (n : Nat) {other : StreamName}
    (h : other ≠ name) :
    (e.run (List.replicate n name.turn)).job.stream other = e.job.stream other := by
  induction n generalizing e with
  | zero => rfl
  | succ n ih =>
      rw [List.replicate_succ, run_cons, ih, stream_step_reads e h]

-- Induction on the turns that are left: each one finds the reader done or takes a line away.
theorem readerDone_run_reads (e : Execution σ) (name : StreamName) {n : Nat}
    (h : (e.job.stream name).bound < n) :
    (e.run (List.replicate n name.turn)).readerDone name = true := by
  induction n generalizing e with
  | zero => exact absurd h (Nat.not_lt_zero _)
  | succ n ih =>
      rw [List.replicate_succ, run_cons]
      rcases e.done_or_bound_lt name with hdone | hless
      · exact (further_run _ _).readers name hdone
      · exact ih _ (by omega)

theorem step_childEnds_of_gone {e : Execution σ} (h : e.job.child.isGone = true) :
    e.step .childEnds = e := by
  obtain ⟨id, ⟨pid, child, cancelled, exitCode, output, errors, script, files⟩, more⟩ := e
  cases child with
  | running => cases h
  | gone => rfl

theorem isOver_complete (e : Execution σ) : e.complete.isOver = true := by
  let ended := e.step .childEnds
  let read := ended.run (List.replicate (e.job.output.bound + 1) .readsOutput)
  let both := read.run (List.replicate (e.job.errors.bound + 1) .readsErrors)
  have hcomplete : e.complete = both.run [.awaits, .awaits] := by
    rw [complete, turnsToEnd, run_cons, run_append, run_append]
  have houtput : both.outputDone = true :=
    (further_run read _).readers .output
      (ended.readerDone_run_reads .output (Nat.lt_succ_self _))
  have herrors : both.errorsDone = true := by
    have hstream : read.job.stream .errors = e.job.errors :=
      ended.stream_run_reads .output _ nofun
    refine read.readerDone_run_reads .errors ?_
    rw [hstream]
    exact Nat.lt_succ_self _
  have hgone : both.job.child.isGone = true :=
    (further_run read _).gone ((further_run ended _).gone rfl)
  have hover := isOver_of_done houtput herrors
  rwa [run_cons, step_childEnds_of_gone hgone, ← hcomplete] at hover

end Turns

section Sound

variable {σ : Type} {own : Int} {e e' : Execution σ}

theorem outcome_complete [Sink σ] (id : Nat) (ext : String) (pid : Nat) (l : Launched) (sink : σ) :
    (new id ext (.ofLaunched pid l) sink).complete.outcome =
      some (outcomeOf ext l.transcript) := by
  let log : Execution Recording := new id ext (.ofLaunched pid l) .empty
  have hsame : (new id ext (.ofLaunched pid l) sink).complete = log.complete.handOn sink :=
    run_handOn log sink log.turnsToEnd
  have hunder := underway_run (underway_new id ext pid l) log.turnsToEnd
  rw [hsame]
  exact (reports_of_isOver hunder log.isOver_complete).2.2.1

structure Sound (own : Int) (e : Execution σ) : Prop where
  job : e.job.Sound own
  outcome : ∀ o ∈ e.outcome, e.job.exitCode = some o.exitCode ∧ e.job.cancelled = o.cancelled

theorem sound_new (id : Nat) (extension : String) (pid : Nat) (l : Launched) (sink : σ) :
    (new id extension (.ofLaunched pid l) sink).Sound l.transcript.status where
  job := by
    have hstatus : (Job.ofLaunched pid l).child.status = l.transcript.status := by
      rw [Job.ofLaunched]
      split <;> rfl
    rw [← hstatus]
    exact Job.sound_of_fresh (Job.fresh_ofLaunched pid l)
  outcome := nofun

theorem Sound.of_deed (h : e.Sound own) {d : Deed} (hjob : e'.job = e.job.act d)
    (houtcome : e'.outcome = e.outcome) : e'.Sound own := by
  refine ⟨?_, fun o ho => ?_⟩
  · rw [hjob]
    exact (h.job.acting d).sound h.job
  · rw [houtcome] at ho
    obtain ⟨hcode, hcancelled⟩ := h.outcome o ho
    have hgone := (h.job.known _ hcode).1
    rw [hjob, ← hcancelled]
    exact ⟨Job.exitCode_after_of_known h.job hcode [d],
      Job.cancelled_after_of_gone h.job hgone [d]⟩

theorem Sound.turning [Sink σ] (h : e.Sound own) (ht : e.Turning e') : e'.Sound own := by
  cases ht with
  | rests => exact h
  | acts d _ hjob _ houtcome _ => exact h.of_deed hjob houtcome
  | reports _ hcode hcancelled _ =>
      refine ⟨h.job, fun o ho => ?_⟩
      obtain rfl := Option.some.inj ho
      exact ⟨hcode, hcancelled⟩

theorem Sound.exitCode (h : e.Sound own) {o : Outcome} (ho : e.outcome = some o) :
    o.exitCode =
      (Ending.ofStatus (if o.cancelled then Job.killedStatus else own)).exitCode := by
  obtain ⟨hcode, hcancelled⟩ := h.outcome o ho
  rw [← hcancelled, ← h.job.status]
  exact (h.job.known _ hcode).2

end Sound

end Execution

namespace Started

variable {σ : Type}

def outcome? : Started σ → Option Outcome
  | .running e => e.outcome
  | .failed .. => some .notRun

def onSink (f : σ → σ) : Started σ → Started σ
  | .running e => .running { e with sink := f e.sink }
  | .failed id reason sink => .failed id reason (f sink)

def cancel : Started σ → Started σ
  | .running e => .running e.cancel
  | s => s

def step [Sink σ] : Started σ → Turn → Started σ
  | .running e, t => .running (e.step t)
  | s, _ => s

@[simp] theorem sink_onSink (s : Started σ) (f : σ → σ) : (s.onSink f).sink = f s.sink := by
  cases s <;> rfl

@[simp] theorem job_onSink (s : Started σ) (f : σ → σ) : (s.onSink f).job = s.job := by
  cases s <;> rfl

@[simp] theorem outcome?_onSink (s : Started σ) (f : σ → σ) :
    (s.onSink f).outcome? = s.outcome? := by
  cases s <;> rfl

@[simp] theorem sink_cancel (s : Started σ) : s.cancel.sink = s.sink := by
  cases s <;> rfl

@[simp] theorem outcome?_cancel (s : Started σ) : s.cancel.outcome? = s.outcome? := by
  cases s <;> rfl

def turns : Started σ → List Turn
  | .running e => e.turnsToEnd
  | .failed .. => []

theorem foldl_step_running [Sink σ] (e : Execution σ) (turns : List Turn) :
    turns.foldl step (.running e) = .running (e.run turns) := by
  induction turns generalizing e with
  | nil => rfl
  | cons t turns ih => exact ih (e.step t)

theorem foldl_step_turns [Sink σ] (s : Started σ) : s.turns.foldl step s = s.complete := by
  cases s with
  | running e => exact foldl_step_running e e.turnsToEnd
  | failed => rfl

theorem outcome?_complete [Sink σ] (s : Started σ) : s.complete.outcome? ≠ none := by
  cases s with
  | running e => exact Option.isSome_iff_ne_none.mp (Execution.isOver_complete e)
  | failed => exact Option.some_ne_none _

inductive Sound (launched : Except LaunchError Launched) : Started σ → Prop
  | running {e l} : launched = .ok l → e.Sound l.transcript.status → Sound launched (.running e)
  | failed {id reason sink} : launched = .error reason → Sound launched (.failed id reason sink)

section Sound

variable {launched : Except LaunchError Launched} {s : Started σ}

theorem sound_start [Sink σ] (id : Nat) (r : Config.Runner) (h : Host) (text : String) (sink : σ) :
    (start id r h text sink).Sound (launch r h text).1 := by
  cases hl : (launch r h text).1 with
  | error reason =>
      rw [start_of_error id sink hl]
      exact .failed rfl
  | ok l =>
      rw [start_of_ok id sink hl]
      exact .running rfl (Execution.sound_new id r.extension h.pid l sink)

theorem Sound.onSink (h : s.Sound launched) (f : σ → σ) : (s.onSink f).Sound launched := by
  cases h with
  | running hl he => exact .running hl ⟨he.job, he.outcome⟩
  | failed hl => exact .failed hl

theorem Sound.cancel (h : s.Sound launched) : s.cancel.Sound launched := by
  cases h with
  | running hl he => exact .running hl (he.of_deed (d := .cancels) rfl rfl)
  | failed hl => exact .failed hl

theorem Sound.step [Sink σ] (h : s.Sound launched) (t : Turn) : (s.step t).Sound launched := by
  cases h with
  | running hl he => exact .running hl (he.turning (Execution.turning _ t))
  | failed hl => exact .failed hl

theorem Sound.exitCode (h : s.Sound launched) {o : Outcome} (ho : s.outcome? = some o) :
    (∃ reason, launched = .error reason ∧ o = .notRun) ∨ ∃ l, launched = .ok l ∧
      o.exitCode = (Ending.ofStatus
        (if o.cancelled then Job.killedStatus else l.transcript.status)).exitCode := by
  cases h with
  | running hl he => exact .inr ⟨_, hl, he.exitCode ho⟩
  | failed hl => exact .inl ⟨_, hl, (Option.some.inj ho).symm⟩

end Sound

end Started

end ScriptBench.Run
