import ScriptBench.Proofs.SessionHistory

namespace ScriptBench.Editor

open Diagnostic (Record)
open Run (Channel Event Job Outcome)

def Act.setsText : Act → Bool
  | .setText _ => true
  | _ => false

def reported (outputs : List Record) (finished : Option Outcome) : List Event :=
  outputs.map .output ++ finished.toList.map .finished

theorem outcomes_output_cons (record : Record) (events : List Event) :
    Run.outcomes (.output record :: events) = Run.outcomes events := rfl

theorem outcomes_finished_cons (o : Outcome) (events : List Event) :
    Run.outcomes (.finished o :: events) = o :: Run.outcomes events := rfl

theorem reported_cons (record : Record) (outputs : List Record) (finished : Option Outcome) :
    reported (record :: outputs) finished = .output record :: reported outputs finished := rfl

theorem records_outputs (outputs : List Record) :
    Run.records (outputs.map .output) = outputs := by
  induction outputs with
  | nil => rfl
  | cons record outputs ih => exact congrArg (record :: ·) ih

theorem outcomes_reported (outputs : List Record) (finished : Option Outcome) :
    Run.outcomes (reported outputs finished) = finished.toList := by
  induction outputs with
  | nil => cases finished <;> rfl
  | cons record outputs ih => rw [reported_cons, outcomes_output_cons, ih]

-- Nothing but records comes before the first outcome, so the two lists agree up to it.
theorem eq_of_first_outcome {front rest : List Event} {o : Outcome} {outputs : List Record}
    {finished : Option Outcome} (hfront : Run.outcomes front = [])
    (hsent : front ++ .finished o :: rest = reported outputs finished) :
    front = outputs.map .output ∧ finished = some o := by
  induction front generalizing outputs with
  | nil =>
      cases outputs with
      | cons record outputs => simp [reported_cons] at hsent
      | nil =>
          cases finished with
          | none => simp [reported] at hsent
          | some o' =>
              simp only [reported, List.nil_append, List.map_nil, Option.toList_some,
                List.map_cons, List.cons.injEq, Event.finished.injEq] at hsent
              exact ⟨rfl, congrArg some hsent.1.symm⟩
  | cons e front ih =>
      cases e with
      | finished o' =>
          rw [outcomes_finished_cons] at hfront
          cases hfront
      | output record =>
          cases outputs with
          | nil => cases finished <;> simp [reported] at hsent
          | cons record' outputs =>
              rw [reported_cons, List.cons_append, List.cons.injEq, Event.output.injEq] at hsent
              obtain ⟨hrecord, hmore⟩ := hsent
              obtain ⟨hrest, hfinished⟩ := ih hfront hmore
              exact ⟨by rw [hrecord, hrest, List.map_cons], hfinished⟩

namespace Session

theorem poll_of_idle {s : Session} (hl : s.live = none) : s.poll = ([], s) := by
  rw [poll, pollUpTo_succ, nextEvent, hl]

theorem nextEvent_of_idle {s : Session} (hl : s.live = none) : s.nextEvent = (none, s) := by
  rw [nextEvent, hl]

theorem pollUpTo_of_idle (n : Nat) {s : Session} (hl : s.live = none) :
    pollUpTo n s = ([], s) := by
  cases n with
  | zero => rfl
  | succ n => rw [pollUpTo_succ, nextEvent_of_idle hl]

theorem finishWithin_eq_pollUpTo (n : Nat) (s : Session) : finishWithin n s = pollUpTo n s := by
  induction n generalizing s with
  | zero => rfl
  | succ n ih =>
      rw [finishWithin, pollUpTo_succ]
      obtain ⟨e, s'⟩ := s.nextEvent
      cases e with
      | none => rfl
      | some e => simp only [ih]

theorem finish_eq_poll (s : Session) : s.finish = s.poll := finishWithin_eq_pollUpTo _ s

theorem nextEvent_of_waiting {s : Session} {l : Live} {e : Event} {more : List Event}
    (hl : s.live = some l) (hw : l.channel.waiting = e :: more) :
    s.nextEvent = (some e, (s.withChannel { l.channel with waiting := more }).apply e) := by
  simp [nextEvent, hl, Channel.receive, hw]

theorem live_apply_output {s : Session} {l : Live} (hl : s.live = some l) (channel : Channel)
    (record : Record) :
    ((s.withChannel channel).apply (.output record)).live = some { l with channel } := by
  simp [apply, withChannel, hl]

theorem pollUpTo_ends {s : Session} {l : Live} (hl : s.live = some l)
    (hends : l.channel.hasSender = false ∨ Run.outcomes l.channel.waiting ≠ []) :
    (pollUpTo (l.channel.waiting.length + 1) s).2.live = none := by
  generalize hw : l.channel.waiting = waiting at hends ⊢
  induction waiting generalizing s l with
  | nil =>
      have hs : l.channel.hasSender = false := hends.resolve_right (fun h => h rfl)
      simp [pollUpTo, hl, Channel.receive, hw, hs, abandon, apply]
  | cons e more ih =>
      rw [pollUpTo_succ, nextEvent_of_waiting hl hw]
      cases e with
      | finished o =>
          have hidle : ((s.withChannel { l.channel with waiting := more }).apply
              (.finished o)).live = none := rfl
          have hrest := pollUpTo_of_idle (more.length + 1) hidle
          exact (congrArg (·.2.live) hrest).trans hidle
      | output record =>
          rw [outcomes_output_cons] at hends
          have hlive := live_apply_output hl { l.channel with waiting := more } record
          exact ih hlive rfl hends

theorem exists_reported_of_pollUpTo {s : Session} {l : Live} (hl : s.live = some l)
    (hs : l.channel.hasSender = false) :
    ∃ outputs o, (pollUpTo (l.channel.waiting.length + 1) s).1 = reported outputs (some o) := by
  generalize hw : l.channel.waiting = waiting
  induction waiting generalizing s l with
  | nil =>
      refine ⟨[], .notRun, ?_⟩
      simp [pollUpTo, hl, Channel.receive, hw, hs, abandon, reported]
  | cons e more ih =>
      rw [pollUpTo_succ, nextEvent_of_waiting hl hw]
      cases e with
      | finished o =>
          have hidle : ((s.withChannel { l.channel with waiting := more }).apply
              (.finished o)).live = none := rfl
          have hrest := pollUpTo_of_idle (more.length + 1) hidle
          exact ⟨[], o, congrArg (.finished o :: ·.1) hrest⟩
      | output record =>
          have hlive := live_apply_output hl { l.channel with waiting := more } record
          obtain ⟨outputs, o, hmore⟩ := ih hlive hs rfl
          exact ⟨record :: outputs, o, congrArg (.output record :: ·) hmore⟩

theorem poll_ends {s : Session} {l : Live} (hl : s.live = some l)
    (hends : l.channel.hasSender = false ∨ Run.outcomes l.channel.waiting ≠ []) :
    s.poll.2.live = none := by
  have hall := pollUpTo_ends hl hends
  rw [poll, waiting, hl]
  exact hall

end Session

namespace History

theorem step_nextEvent_of_none {h : History} (hnone : h.session.nextEvent.1 = none) :
    h.step .nextEvent = h := by
  have hkeep : h.session.nextEvent.2 = h.session := by
    have htakes := h.session.takes_nextEvent
    rw [hnone] at htakes
    generalize h.session.nextEvent.2 = s at htakes ⊢
    cases htakes <;> rfl
  rw [step, hnone, hkeep]
  exact handOut_nil h

theorem run_looks_succ (n : Nat) (h : History) :
    h.run (List.replicate (n + 1) .nextEvent) =
      (h.step .nextEvent).run (List.replicate n .nextEvent) := rfl

theorem run_looks_of_none (n : Nat) {h : History} (hnone : h.session.nextEvent.1 = none) :
    h.run (List.replicate n .nextEvent) = h := by
  induction n with
  | zero => rfl
  | succ n ih =>
      rw [run_looks_succ, step_nextEvent_of_none hnone, ih]

theorem handOut_pollUpTo (n : Nat) (h : History) :
    h.handOut (h.session.pollUpTo n).1 (h.session.pollUpTo n).2 =
      h.run (List.replicate n .nextEvent) := by
  induction n generalizing h with
  | zero => exact handOut_nil h
  | succ n ih =>
      rw [run_looks_succ, Session.pollUpTo_succ]
      cases htake : h.session.nextEvent with
      | mk e s =>
          have hone : h.step .nextEvent = h.handOut e.toList s := by rw [step, htake]
          cases e with
          | none =>
              have hnone : h.session.nextEvent.1 = none := congrArg Prod.fst htake
              rw [step_nextEvent_of_none hnone, run_looks_of_none n hnone]
              exact hone.symm.trans (step_nextEvent_of_none hnone)
          | some e =>
              have hrest := ih (h.handOut [e] s)
              rw [hone, Option.toList_some, ← hrest]
              exact handOut_cons h e _ s _

theorem step_poll (h : History) :
    h.step .poll = h.run (List.replicate (h.session.waiting + 1) .nextEvent) :=
  handOut_pollUpTo _ h

def handedBy (h : History) : Act → List Event
  | .poll => h.session.poll.1
  | .nextEvent => h.session.nextEvent.1.toList
  | _ => []

def handedOut : History → List Act → List Event
  | _, [] => []
  | h, a :: acts => h.handedBy a ++ (h.step a).handedOut acts

theorem handed_onRun {r : RunLog} {run : Nat} {f : RunLog → RunLog}
    (hf : ∀ r, (f r).handed = r.handed) :
    (if r.id = run then f r else r).handed = r.handed := by
  split
  · exact hf r
  · rfl

theorem handed_step {h : History} {a : Act} (ha : a.submits = false) {r : RunLog}
    (hr : r ∈ h.runs.head?) :
    ∃ r' ∈ (h.step a).runs.head?, r'.handed = r.handed ++ h.handedBy a := by
  cases a with
  | submit sent gone job => cases ha
  | setText text =>
      rw [step]
      split
      · exact ⟨r.edit text, by simp [List.head?_modifyHead, Option.mem_def.mp hr],
          (List.append_nil _).symm⟩
      · exact ⟨r, hr, (List.append_nil _).symm⟩
  | cancel => exact ⟨r, hr, (List.append_nil _).symm⟩
  | poll =>
      exact ⟨r.hand h.session.poll.1,
        by simp [step, handOut, List.head?_modifyHead, Option.mem_def.mp hr], rfl⟩
  | nextEvent =>
      exact ⟨r.hand h.session.nextEvent.1.toList,
        by simp [step, handOut, List.head?_modifyHead, Option.mem_def.mp hr], rfl⟩
  | arrives run e =>
      refine ⟨if r.id = run then r.send e else r,
        by simp [step, onRun, Option.mem_def.mp hr], ?_⟩
      rw [handed_onRun (handed_send e)]
      exact (List.append_nil _).symm
  | leaves run =>
      refine ⟨if r.id = run then r.leave else r,
        by simp [step, onRun, Option.mem_def.mp hr], ?_⟩
      rw [handed_onRun (f := RunLog.leave) (fun _ => rfl)]
      exact (List.append_nil _).symm

theorem handed_run {h : History} {acts : List Act} (hacts : ∀ a ∈ acts, a.submits = false)
    {r : RunLog} (hr : r ∈ h.runs.head?) :
    ∃ r' ∈ (h.run acts).runs.head?, r'.handed = r.handed ++ h.handedOut acts := by
  induction acts generalizing h r with
  | nil => exact ⟨r, hr, (List.append_nil _).symm⟩
  | cons a acts ih =>
      obtain ⟨ha, hacts⟩ := List.forall_mem_cons.mp hacts
      obtain ⟨r₁, hr₁, hone⟩ := handed_step ha hr
      obtain ⟨r₂, hr₂, hrest⟩ := ih hacts hr₁
      refine ⟨r₂, hr₂, ?_⟩
      rw [hrest, hone, handedOut, List.append_assoc]

theorem idle_step {h : History} {a : Act} (ha : a.submits = false)
    (hl : h.session.live = none) : (h.step a).session.live = none := by
  cases a with
  | submit sent gone job => cases ha
  | setText text => exact hl
  | cancel => simp [step, Session.cancel, hl]
  | poll => simp [step, handOut, Session.poll_of_idle hl, hl]
  | nextEvent => simp [step, handOut, Session.nextEvent_of_idle hl, hl]
  | arrives run e => simp [step, Session.onChannel, hl]
  | leaves run => simp [step, Session.onChannel, hl]

theorem run_induction_of {P : History → Prop} {Q : Act → Prop}
    (hstep : ∀ h a, Q a → P h → P (h.step a)) {acts : List Act} (hacts : ∀ a ∈ acts, Q a)
    {h : History} (hp : P h) : P (h.run acts) := by
  induction acts generalizing h with
  | nil => exact hp
  | cons a acts ih =>
      obtain ⟨ha, hrest⟩ := List.forall_mem_cons.mp hacts
      exact ih hrest (hstep h a ha hp)

theorem idle_run {h : History} {acts : List Act} (hacts : ∀ a ∈ acts, a.submits = false)
    (hl : h.session.live = none) : (h.run acts).session.live = none :=
  run_induction_of (P := fun h => h.session.live = none) (fun _ _ => idle_step) hacts hl

def Marked (h : History) : Prop :=
  ∀ o ∈ h.session.lastOutcome, h.session.positions = o.positions

theorem marked_nextEvent {h : History} (hm : Marked h) : Marked (h.step .nextEvent) := by
  have hfinished (o : Outcome) (s : Session) :
      Marked (h.handOut [.finished o] (s.apply (.finished o))) := by
    intro o' ho'
    obtain rfl : o = o' := Option.some.inj ho'
    rfl
  refine nextEvent_cases hm ?_ ?_
  · intro l e more hl hw
    cases e with
    | output record => exact hm
    | finished o => exact hfinished o _
  · intro l hl hw hs
    exact hfinished .notRun _

theorem marked_step {h : History} {a : Act} (ha : a.setsText = false) (hm : Marked h) :
    Marked (h.step a) := by
  cases a with
  | setText text => cases ha
  | submit sent gone job =>
      intro o ho
      cases ho
  | cancel => exact hm
  | poll => exact poll_induction (P := Marked) (fun _ => marked_nextEvent) hm
  | nextEvent => exact marked_nextEvent hm
  | arrives run e => exact hm
  | leaves run => exact hm

theorem marked_run {h : History} {acts : List Act} (hacts : ∀ a ∈ acts, a.setsText = false)
    (hm : Marked h) : Marked (h.run acts) :=
  run_induction_of (P := Marked) (fun _ _ => marked_step) hacts hm

theorem OverRun.eq_of_reported {r : RunLog} {s : Session} {front : List Event} {o : Outcome}
    (hr : OverRun r s front o) {outputs : List Record} {finished : Option Outcome}
    (hsent : r.sent = reported outputs finished) :
    front = outputs.map .output ∧ o = finished.getD .notRun := by
  rcases hr.sent with ⟨rest, hprefix⟩ | ⟨hfront, -, ho⟩
  · rw [hr.handed, hsent, List.append_assoc] at hprefix
    obtain ⟨hrecords, hfinished⟩ := eq_of_first_outcome hr.unfinished hprefix
    exact ⟨hrecords, by rw [hfinished, Option.getD_some]⟩
  · have hnone : finished.toList = [] := by
      rw [← outcomes_reported outputs finished, ← hsent, hfront]
      exact hr.unfinished
    obtain rfl : finished = none := Option.toList_eq_nil_iff.mp hnone
    refine ⟨?_, ho⟩
    rw [← hfront, hsent, reported]
    exact List.append_nil _

theorem LiveRun.poll_ends {r : RunLog} {s : Session} {l : Live} (hr : LiveRun r s l)
    (hl : s.live = some l) (hends : Run.outcomes r.sent ≠ [] ∨ r.gone = true) :
    s.poll.2.live = none := by
  refine Session.poll_ends hl ?_
  rcases hends with hout | hgone
  · refine .inr ?_
    rw [hr.sent, outcomes_append, hr.unfinished] at hout
    exact hout
  · refine .inl ?_
    rw [hr.hasSender, hgone]
    rfl

theorem drained_run_hands_out_what_was_sent (before : List Act) (early : List Event)
    (gone : Bool) (job : Option Job) (acts : List Act) (outputs : List Record)
    (finished : Option Outcome) (hacts : ∀ a ∈ acts, a.submits = false)
    (hsent : ∀ r ∈ (((new.run before).step (.submit early gone job)).run acts).runs.head?,
      r.sent = reported outputs finished) :
    let submitted := (new.run before).step (.submit early gone job)
    let h := submitted.run acts
    let outcome := finished.getD ⟨-1, .empty, false⟩
    h.step .poll = h.run (.replicate (h.session.waiting + 1) .nextEvent) ∧
    h.session.finish = h.session.poll ∧
    (∀ r ∈ h.runs.head?, finished.isSome = true ∨ r.gone = true →
      h.session.poll.2.isRunning = false) ∧
    (h.session.isRunning = false →
      submitted.handedOut acts = outputs.map .output ++ [.finished outcome] ∧
      h.session.records = outputs ∧ h.session.lastOutcome = some outcome ∧
      ((∀ a ∈ acts, a.setsText = false) → h.session.positions = outcome.positions) ∧
      ∀ later, (∀ a ∈ later, a.submits = false) →
        (h.run later).session.poll.1 = [] ∧ (h.run later).session.nextEvent.1 = none) := by
  intro submitted h outcome
  have hstart : Consistent submitted := consistent_submit (consistent_run before) early gone job
  have hc : Consistent h :=
    run_induction (P := Consistent) (fun _ a hc => consistent_step hc a) hstart acts
  obtain ⟨r, hr, hhanded⟩ := handed_run hacts (h := submitted) (Option.mem_some_self _)
  rw [List.nil_append] at hhanded
  have hstage := hc.stage r hr
  refine ⟨step_poll h, Session.finish_eq_poll _, ?_, ?_⟩
  · intro r' hr' hends
    obtain rfl : r = r' := Option.mem_unique hr hr'
    have hdone : h.session.poll.2.live = none := by
      cases hl : h.session.live with
      | none => rw [Session.poll_of_idle hl, hl]
      | some l =>
          refine (hstage.of_live hl).poll_ends hl (hends.imp_left ?_)
          intro hsome hnone
          have hlist : finished.toList = [] := by
            rw [← outcomes_reported outputs finished, ← hsent r hr, hnone]
          rw [Option.toList_eq_nil_iff.mp hlist] at hsome
          cases hsome
    rw [Session.isRunning, hdone]
    rfl
  · intro hover
    have hl : h.session.live = none := by simpa [Session.isRunning] using hover
    obtain ⟨front, o, hrun⟩ := hstage.of_over hl
    obtain ⟨hfront, ho⟩ := hrun.eq_of_reported (hsent r hr)
    have hall : r.handed = outputs.map .output ++ [.finished outcome] := by
      rw [hrun.handed, hfront, ho]
      rfl
    have hlast : h.session.lastOutcome = some outcome := by
      rw [hrun.lastOutcome, ho]
      rfl
    refine ⟨hhanded.symm.trans hall, ?_, hlast, ?_, ?_⟩
    · rw [hc.records r hr, hall, records_append, records_outputs]
      exact List.append_nil _
    · intro hedits
      have hm : Marked h := marked_run hedits (fun o ho => by cases ho)
      exact hm outcome hlast
    · intro later hlater
      have hidle := idle_run hlater hl
      rw [Session.poll_of_idle hidle, Session.nextEvent_of_idle hidle]
      exact ⟨rfl, rfl⟩

theorem drained_run_without_outcome :
    let acts : List Act := [.nextEvent, .arrives 1 (.output (.plain "b")), .poll, .nextEvent,
      .leaves 1, .arrives 1 (.output (.plain "c")), .poll, .poll]
    let submitted := (new.run [.setText "val x"]).step (.submit [.output (.plain "a")] false none)
    (∀ a ∈ acts, a.submits = false) ∧
    (∀ r ∈ (submitted.run acts).runs.head?,
      r.sent = [.output (.plain "a"), .output (.plain "b")]) ∧
    (submitted.run acts).session.isRunning = false ∧
    submitted.handedOut acts = [.output (.plain "a"), .output (.plain "b"),
      .finished ⟨-1, .empty, false⟩] := by
  intro acts submitted
  have hacts : ∀ a ∈ acts, a.submits = false := by decide
  have hsent : ∀ r ∈ (submitted.run acts).runs.head?,
      r.sent = [.output (.plain "a"), .output (.plain "b")] := by decide
  have hover : (submitted.run acts).session.isRunning = false := by decide
  have hall := drained_run_hands_out_what_was_sent [.setText "val x"] [.output (.plain "a")] false
    none acts [.plain "a", .plain "b"] none hacts hsent
  exact ⟨hacts, hsent, hover, (hall.2.2.2 hover).1⟩

end History

end ScriptBench.Editor
