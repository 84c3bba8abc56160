import ScriptBench.Editor.Session

/-!
Beside the session a history keeps a log of each run, the latest first: the text it was submitted
with and the texts set while it was live, the events its workers sent, whether they are gone, and
the events that were handed out.
-/

namespace ScriptBench.Editor

open Run (Channel Event Job Outcome offer)

structure RunLog where
  id : Nat
  text : String
  edits : List String
  sent : List Event
  gone : Bool
  handed : List Event
deriving DecidableEq

namespace RunLog

def lastText (r : RunLog) : String := r.edits.getLast?.getD r.text

def edit (text : String) (r : RunLog) : RunLog := { r with edits := r.edits ++ [text] }

def send (e : Event) (r : RunLog) : RunLog := if r.gone then r else { r with sent := r.sent ++ [e] }

def leave (r : RunLog) : RunLog := { r with gone := true }

def hand (events : List Event) (r : RunLog) : RunLog := { r with handed := r.handed ++ events }

@[simp] theorem id_edit (text : String) (r : RunLog) : (r.edit text).id = r.id := rfl

@[simp] theorem id_send (e : Event) (r : RunLog) : (r.send e).id = r.id := by
  unfold send
  split <;> rfl

@[simp] theorem id_leave (r : RunLog) : r.leave.id = r.id := rfl

@[simp] theorem id_hand (events : List Event) (r : RunLog) : (r.hand events).id = r.id := rfl

def outcome? (r : RunLog) : Option Outcome :=
  (Run.outcomes r.sent).head?.or (if r.gone then some .notRun else none)

end RunLog

/-- The workers of a run may have sent events, and may be gone, when its submission returns. -/
inductive Act where
  | setText (text : String)
  | submit (sent : List Event) (gone : Bool) (job : Option Job)
  | cancel
  | poll
  | nextEvent
  | arrives (run : Nat) (event : Event)
  | leaves (run : Nat)
deriving DecidableEq

def Act.submits : Act → Bool
  | .submit .. => true
  | _ => false

structure History where
  session : Session
  ids : List Nat
  runs : List RunLog
deriving DecidableEq

def Session.onChannel (s : Session) (run : Nat) (f : Channel → Channel) : Session :=
  { s with live := s.live.map fun l => if l.id = run then { l with channel := f l.channel } else l }

namespace History

def new : History := ⟨.new, [], []⟩

def onRun (run : Nat) (f : RunLog → RunLog) (runs : List RunLog) : List RunLog :=
  runs.map fun r => if r.id = run then f r else r

def handOut (h : History) (events : List Event) (s : Session) : History :=
  { h with session := s, runs := h.runs.modifyHead (.hand events) }

def step (h : History) : Act → History
  | .setText text =>
    { h with
      session := h.session.setText text
      runs := if h.session.isRunning then h.runs.modifyHead (.edit text) else h.runs }
  | .submit sent gone job =>
    let (id, s) := h.session.submit ⟨sent, !gone, true⟩ job
    ⟨s, h.ids ++ [id], ⟨id, h.session.text, [], sent, gone, []⟩ :: h.runs⟩
  | .cancel => { h with session := h.session.cancel }
  | .poll => h.handOut h.session.poll.1 h.session.poll.2
  | .nextEvent => h.handOut h.session.nextEvent.1.toList h.session.nextEvent.2
  | .arrives run e =>
    { h with
      session := h.session.onChannel run fun c => if c.hasSender then offer c e else c
      runs := onRun run (.send e) h.runs }
  | .leaves run =>
    { h with
      session := h.session.onChannel run Channel.dropSender
      runs := onRun run .leave h.runs }

def run (h : History) (acts : List Act) : History := acts.foldl step h

end History

theorem records_append (a b : List Event) :
    Run.records (a ++ b) = Run.records a ++ Run.records b := List.filterMap_append

theorem outcomes_append (a b : List Event) :
    Run.outcomes (a ++ b) = Run.outcomes a ++ Run.outcomes b := List.filterMap_append

namespace Session

inductive Takes (s : Session) : Option Event → Session → Prop
  | idle : s.live = none → Takes s none s
  | waits {l} : s.live = some l → l.channel.waiting = [] → l.channel.hasSender = true →
      Takes s none s
  | event {l e more} : s.live = some l → l.channel.waiting = e :: more →
      Takes s (some e) ((s.withChannel { l.channel with waiting := more }).apply e)
  | lost {l} : s.live = some l → l.channel.waiting = [] → l.channel.hasSender = false →
      Takes s (some (.finished .notRun)) (s.apply (.finished .notRun))

theorem takes_nextEvent (s : Session) : Takes s s.nextEvent.1 s.nextEvent.2 := by
  cases hl : s.live with
  | none =>
      have hnext : s.nextEvent = (none, s) := by simp [nextEvent, hl]
      rw [hnext]
      exact .idle hl
  | some l =>
      cases hw : l.channel.waiting with
      | cons e more =>
          have hnext : s.nextEvent =
              (some e, (s.withChannel { l.channel with waiting := more }).apply e) := by
            simp [nextEvent, hl, Channel.receive, hw]
          rw [hnext]
          exact .event hl hw
      | nil =>
          cases hs : l.channel.hasSender with
          | true =>
              have hnext : s.nextEvent = (none, s) := by
                simp [nextEvent, hl, Channel.receive, hw, hs]
              rw [hnext]
              exact .waits hl hw hs
          | false =>
              have hnext : s.nextEvent =
                  (some (.finished .notRun), s.apply (.finished .notRun)) := by
                simp [nextEvent, hl, Channel.receive, hw, hs, abandon]
              rw [hnext]
              exact .lost hl hw hs

theorem records_apply (s : Session) (e : Event) :
    (s.apply e).records = s.records ++ Run.records [e] := by
  cases e with
  | output r => rfl
  | finished o => exact (List.append_nil s.records).symm

theorem nextId_apply (s : Session) (e : Event) : (s.apply e).nextId = s.nextId := by
  cases e <;> rfl

theorem onChannel_of_live {s : Session} {l : Live} (hl : s.live = some l)
    (f : Channel → Channel) :
    s.onChannel l.id f = { s with live := some { l with channel := f l.channel } } := by
  simp [onChannel, hl]

theorem onChannel_of_other {s : Session} {run : Nat} (hl : ∀ l ∈ s.live, l.id ≠ run)
    (f : Channel → Channel) : s.onChannel run f = s := by
  obtain ⟨text, positions, records, lastOutcome, live, nextId⟩ := s
  cases live with
  | none => rfl
  | some l =>
      have hother := hl l rfl
      simp [onChannel, hother]

theorem pollUpTo_succ (n : Nat) (s : Session) :
    pollUpTo (n + 1) s = match s.nextEvent with
      | (none, s) => ([], s)
      | (some e, s) => (e :: (pollUpTo n s).1, (pollUpTo n s).2) := by
  cases hl : s.live with
  | none => simp [pollUpTo, nextEvent, hl]
  | some l =>
      cases hw : l.channel.waiting with
      | cons e more => simp [pollUpTo, nextEvent, hl, Channel.receive, hw]
      | nil =>
          cases hs : l.channel.hasSender <;>
            simp [pollUpTo, nextEvent, hl, Channel.receive, hw, hs]

end Session

namespace History

theorem handOut_nil (h : History) : h.handOut [] h.session = h := by
  obtain ⟨s, ids, runs⟩ := h
  cases runs <;> simp [handOut, List.modifyHead, RunLog.hand]

theorem handOut_cons (h : History) (e : Event) (more : List Event) (s s' : Session) :
    h.handOut (e :: more) s' = (h.handOut [e] s).handOut more s' := by
  obtain ⟨s₀, ids, runs⟩ := h
  cases runs <;> simp [handOut, List.modifyHead, RunLog.hand]

theorem nextEvent_cases {P : History → Prop} {h : History} (hp : P h)
    (hevent : ∀ l e more, h.session.live = some l → l.channel.waiting = e :: more →
      P (h.handOut [e] ((h.session.withChannel { l.channel with waiting := more }).apply e)))
    (hlost : ∀ l, h.session.live = some l → l.channel.waiting = [] →
      l.channel.hasSender = false →
      P (h.handOut [.finished .notRun] (h.session.apply (.finished .notRun)))) :
    P (h.step .nextEvent) := by
  have htakes := h.session.takes_nextEvent
  have hkeep : P (h.handOut [] h.session) := by
    rw [handOut_nil]
    exact hp
  rw [step]
  generalize h.session.nextEvent.1 = e at htakes ⊢
  generalize h.session.nextEvent.2 = s at htakes ⊢
  cases htakes with
  | idle hl => exact hkeep
  | waits hl hw hs => exact hkeep
  | event hl hw => exact hevent _ _ _ hl hw
  | lost hl hw hs => exact hlost _ hl hw hs

theorem poll_induction {P : History → Prop} (hnext : ∀ h, P h → P (h.step .nextEvent))
    {h : History} (hp : P h) : P (h.step .poll) := by
  have hall (n : Nat) (h : History) (hp : P h) :
      P (h.handOut (h.session.pollUpTo n).1 (h.session.pollUpTo n).2) := by
    induction n generalizing h with
    | zero =>
        have hkeep := handOut_nil h
        rw [Session.pollUpTo, hkeep]
        exact hp
    | succ n ih =>
        have hone := hnext h hp
        rw [Session.pollUpTo_succ]
        cases htake : h.session.nextEvent with
        | mk e s =>
            simp only [step, htake] at hone
            cases e with
            | none => exact hone
            | some e =>
                simp only [Option.toList_some] at hone
                have hrest := ih _ hone
                rw [handOut_cons h e _ s]
                exact hrest
  exact hall _ h hp

theorem run_induction {P : History → Prop} (hstep : ∀ h a, P h → P (h.step a))
    {h : History} (hp : P h) (acts : List Act) : P (h.run acts) := by
  induction acts generalizing h with
  | nil => exact hp
  | cons a acts ih => exact ih (hstep h a hp)

structure LiveRun (r : RunLog) (s : Session) (l : Live) : Prop where
  id : l.id = r.id
  hasSender : l.channel.hasSender = !r.gone
  hasReceiver : l.channel.hasReceiver = true
  sent : r.sent = r.handed ++ l.channel.waiting
  unfinished : Run.outcomes r.handed = []
  lastOutcome : s.lastOutcome = none
  text : s.text = r.lastText

/-- A run that is over: its outcome was handed out last, whether it was sent or made up because
the workers left without one. -/
structure OverRun (r : RunLog) (s : Session) (front : List Event) (o : Outcome) : Prop where
  lastOutcome : s.lastOutcome = some o
  handed : r.handed = front ++ [.finished o]
  unfinished : Run.outcomes front = []
  sent : r.handed <+: r.sent ∨ (r.sent = front ∧ r.gone = true ∧ o = .notRun)

inductive Stage (r : RunLog) (s : Session) : Prop
  | live (l : Live) : s.live = some l → LiveRun r s l → Stage r s
  | over (front : List Event) (o : Outcome) : s.live = none → OverRun r s front o → Stage r s

theorem Stage.of_live {r : RunLog} {s : Session} {l : Live} (hr : Stage r s)
    (hl : s.live = some l) : LiveRun r s l := by
  rcases hr with ⟨l', hl', hrun⟩ | ⟨front, o, hnone, -⟩
  · obtain rfl : l = l' := Option.some.inj (hl.symm.trans hl')
    exact hrun
  · rw [hl] at hnone
    cases hnone

theorem Stage.of_over {r : RunLog} {s : Session} (hr : Stage r s) (hl : s.live = none) :
    ∃ front o, OverRun r s front o := by
  rcases hr with ⟨l, hsome, -⟩ | ⟨front, o, -, hrun⟩
  · rw [hl] at hsome
    cases hsome
  · exact ⟨front, o, hrun⟩

structure Consistent (h : History) : Prop where
  nextId : h.session.nextId = h.runs.length + 1
  ids : h.ids = List.range' 1 h.runs.length
  runIds : h.runs.map RunLog.id = h.ids.reverse
  idle : h.runs = [] → h.session = { Session.new with text := h.session.text }
  records : ∀ r ∈ h.runs.head?, h.session.records = Run.records r.handed
  stage : ∀ r ∈ h.runs.head?, Stage r h.session

theorem consistent_new : Consistent new where
  nextId := rfl
  ids := rfl
  runIds := rfl
  idle _ := rfl
  records := by simp [new]
  stage := by simp [new]

theorem Consistent.of_latest {h : History} (hc : Consistent h) {s : Session}
    {runs : List RunLog} (f : RunLog → RunLog)
    (hids : runs.map RunLog.id = h.runs.map RunLog.id)
    (hhead : runs.head? = h.runs.head?.map f)
    (hnext : s.nextId = h.session.nextId)
    (hidle : h.runs = [] → s = { Session.new with text := s.text })
    (hrecords : ∀ r ∈ h.runs.head?, s.records = Run.records (f r).handed)
    (hstage : ∀ r ∈ h.runs.head?, Stage (f r) s) : Consistent ⟨s, h.ids, runs⟩ := by
  have hlen : runs.length = h.runs.length := by
    have hlengths := congrArg List.length hids
    simpa using hlengths
  have hlatest {P : RunLog → Prop} (hall : ∀ r ∈ h.runs.head?, P (f r)) :
      ∀ r ∈ runs.head?, P r := by
    intro r hr
    rw [hhead] at hr
    rw [Option.mem_def, Option.map_eq_some_iff] at hr
    obtain ⟨r₀, hr₀, rfl⟩ := hr
    exact hall r₀ hr₀
  refine ⟨?_, ?_, ?_, ?_, hlatest hrecords, hlatest hstage⟩
  · rw [hlen, hnext]
    exact hc.nextId
  · rw [hlen]
    exact hc.ids
  · rw [hids]
    exact hc.runIds
  · intro hempty
    have hzero : h.runs.length = 0 := by
      rw [← hlen, List.length_eq_zero_iff]
      exact hempty
    exact hidle (List.length_eq_zero_iff.mp hzero)

theorem map_id_modifyHead {f : RunLog → RunLog} (hf : ∀ r, (f r).id = r.id)
    (runs : List RunLog) : (runs.modifyHead f).map RunLog.id = runs.map RunLog.id := by
  cases runs with
  | nil => rfl
  | cons r runs => simp [hf]

theorem map_id_onRun {f : RunLog → RunLog} (hf : ∀ r, (f r).id = r.id) (run : Nat)
    (runs : List RunLog) : (onRun run f runs).map RunLog.id = runs.map RunLog.id := by
  rw [onRun, List.map_map]
  refine List.map_congr_left ?_
  intro r _
  by_cases hr : r.id = run
  · simp [hr, hf]
  · simp [hr]

theorem consistent_setText {h : History} (hc : Consistent h) (text : String) :
    Consistent (h.step (.setText text)) := by
  have hidle (hempty : h.runs = []) :
      h.session.setText text = { Session.new with text := (h.session.setText text).text } := by
    have hs := hc.idle hempty
    rw [hs]
    rfl
  cases hl : h.session.live with
  | some l =>
      have hstep : h.step (.setText text) =
          ⟨h.session.setText text, h.ids, h.runs.modifyHead (.edit text)⟩ := by
        simp [step, Session.isRunning, hl]
      rw [hstep]
      have hids := map_id_modifyHead (RunLog.id_edit text) h.runs
      refine hc.of_latest (.edit text) hids List.head?_modifyHead rfl hidle hc.records ?_
      intro r hr
      have hrun := (hc.stage r hr).of_live hl
      refine .live l hl { hrun with text := ?_ }
      simp [Session.setText, RunLog.edit, RunLog.lastText]
  | none =>
      have hstep : h.step (.setText text) = ⟨h.session.setText text, h.ids, h.runs⟩ := by
        simp [step, Session.isRunning, hl]
      rw [hstep]
      refine hc.of_latest id rfl (by simp) rfl hidle hc.records ?_
      intro r hr
      obtain ⟨front, o, hrun⟩ := (hc.stage r hr).of_over hl
      exact .over front o hl { hrun with }

theorem consistent_submit {h : History} (hc : Consistent h) (sent : List Event) (gone : Bool)
    (job : Option Job) : Consistent (h.step (.submit sent gone job)) := by
  have hid : h.session.nextId = h.runs.length + 1 := hc.nextId
  refine ⟨?_, ?_, ?_, ?_, ?_, ?_⟩
  · simp [step, Session.submit, hid]
  · simp [step, Session.submit, hid, hc.ids, List.range'_concat, Nat.add_comm]
  · simp [step, Session.submit, hc.runIds]
  · simp [step]
  · simp [step, Session.submit, Run.records]
  · intro r hr
    simp only [step, List.head?_cons, Option.mem_some_iff] at hr
    subst hr
    exact .live _ rfl ⟨rfl, rfl, rfl, rfl, rfl, rfl, rfl⟩

theorem consistent_cancel {h : History} (hc : Consistent h) : Consistent (h.step .cancel) := by
  refine hc.of_latest id rfl (by simp) rfl ?_ hc.records ?_
  · intro hempty
    have hs := hc.idle hempty
    rw [hs]
    rfl
  · intro r hr
    rcases hc.stage r hr with ⟨l, hl, hrun⟩ | ⟨front, o, hl, hrun⟩
    · refine .live { l with job := l.job.map Job.cancel } ?_ { hrun with }
      simp [Session.cancel, hl]
    · refine .over front o ?_ { hrun with }
      simp [Session.cancel, hl]

theorem Consistent.not_live {h : History} (hc : Consistent h) (hempty : h.runs = []) :
    h.session.live = none := by
  have hs := hc.idle hempty
  rw [hs]
  rfl

theorem Consistent.runs_ne_nil {h : History} (hc : Consistent h) {l : Live}
    (hl : h.session.live = some l) : h.runs ≠ [] := by
  intro hempty
  have hnone := hc.not_live hempty
  rw [hl] at hnone
  cases hnone

theorem consistent_apply {h : History} (hc : Consistent h) {l : Live} {e : Event}
    {more : List Event} (hl : h.session.live = some l) (hw : l.channel.waiting = e :: more) :
    Consistent (h.handOut [e]
      ((h.session.withChannel { l.channel with waiting := more }).apply e)) := by
  refine hc.of_latest (.hand [e]) (map_id_modifyHead (RunLog.id_hand [e]) h.runs)
    List.head?_modifyHead ?_ ?_ ?_ ?_
  · rw [Session.nextId_apply]
    rfl
  · intro hempty
    exact absurd hempty (hc.runs_ne_nil hl)
  · intro r hr
    have hrecords := hc.records r hr
    rw [Session.records_apply, RunLog.hand, records_append, ← hrecords]
    rfl
  · intro r hr
    have hrun := (hc.stage r hr).of_live hl
    have hhanded : r.sent = (r.handed ++ [e]) ++ more := by
      rw [hrun.sent, hw, List.append_assoc]
      rfl
    cases e with
    | output record =>
        refine .live { l with channel := { l.channel with waiting := more } } ?_
          { hrun with sent := hhanded, unfinished := ?_ }
        · simp [Session.apply, Session.withChannel, hl]
        · have hnone : Run.outcomes [Event.output record] = [] := rfl
          rw [RunLog.hand, outcomes_append, hrun.unfinished, hnone]
          rfl
    | finished o =>
        exact .over r.handed o rfl ⟨rfl, rfl, hrun.unfinished, .inl ⟨more, hhanded.symm⟩⟩

theorem consistent_abandon {h : History} (hc : Consistent h) {l : Live}
    (hl : h.session.live = some l) (hw : l.channel.waiting = [])
    (hs : l.channel.hasSender = false) :
    Consistent (h.handOut [.finished .notRun] (h.session.apply (.finished .notRun))) := by
  refine hc.of_latest (.hand [.finished .notRun])
    (map_id_modifyHead (RunLog.id_hand [.finished .notRun]) h.runs)
    List.head?_modifyHead rfl ?_ ?_ ?_
  · intro hempty
    exact absurd hempty (hc.runs_ne_nil hl)
  · intro r hr
    have hrecords := hc.records r hr
    rw [Session.records_apply, RunLog.hand, records_append, ← hrecords]
  · intro r hr
    have hrun := (hc.stage r hr).of_live hl
    have hsent : r.sent = r.handed := by
      rw [hrun.sent, hw, List.append_nil]
    have hgone : r.gone = true := by
      have hsender := hrun.hasSender
      rw [hs] at hsender
      simpa using hsender
    exact .over r.handed .notRun rfl ⟨rfl, rfl, hrun.unfinished, .inr ⟨hsent, hgone, rfl⟩⟩

theorem consistent_nextEvent {h : History} (hc : Consistent h) :
    Consistent (h.step .nextEvent) := by
  refine nextEvent_cases hc ?_ ?_
  · intro l e more hl hw
    exact consistent_apply hc hl hw
  · intro l hl hw hs
    exact consistent_abandon hc hl hw hs

theorem consistent_onRun {h : History} (hc : Consistent h) (run : Nat) {f : RunLog → RunLog}
    {g : Channel → Channel} (hid : ∀ r, (f r).id = r.id) (hhanded : ∀ r, (f r).handed = r.handed)
    (hstage : ∀ r s, Stage r s → Stage (f r) (s.onChannel r.id g)) :
    Consistent ⟨h.session.onChannel run g, h.ids, onRun run f h.runs⟩ := by
  refine hc.of_latest (fun r => if r.id = run then f r else r) (map_id_onRun hid run h.runs)
    List.head?_map rfl ?_ ?_ ?_
  · intro hempty
    have hnone := hc.not_live hempty
    rw [Session.onChannel_of_other (by simp [hnone]) g]
    exact hc.idle hempty
  · intro r hr
    have hrecords := hc.records r hr
    by_cases hrun : r.id = run
    · simp only [hrun, if_true, hhanded]
      exact hrecords
    · simp only [hrun, if_false]
      exact hrecords
  · intro r hr
    have hlatest := hc.stage r hr
    by_cases hrun : r.id = run
    · subst hrun
      simp only [if_true]
      exact hstage r _ hlatest
    · have hother : ∀ l ∈ h.session.live, l.id ≠ run := by
        intro l hl
        rw [(hlatest.of_live hl).id]
        exact hrun
      rw [Session.onChannel_of_other hother g]
      simp only [hrun, if_false]
      exact hlatest

theorem send_of_gone (e : Event) {r : RunLog} (hgone : r.gone = true) : r.send e = r := by
  simp [RunLog.send, hgone]

theorem send_of_not_gone (e : Event) {r : RunLog} (hgone : r.gone = false) :
    r.send e = { r with sent := r.sent ++ [e] } := by
  simp [RunLog.send, hgone]

theorem offer_of_hasReceiver {c : Channel} (hc : c.hasReceiver = true) (e : Event) :
    offer c e = { c with waiting := c.waiting ++ [e] } := by
  simp [offer, Run.Sink.emit, Channel.emit, hc]

theorem stage_send (e : Event) (r : RunLog) (s : Session) (hr : Stage r s) :
    Stage (r.send e) (s.onChannel r.id fun c => if c.hasSender then offer c e else c) := by
  rcases hr with ⟨l, hl, hrun⟩ | ⟨front, o, hl, hrun⟩
  · rw [← hrun.id, Session.onChannel_of_live hl]
    have hsender := hrun.hasSender
    cases hgone : r.gone with
    | true =>
        rw [hgone] at hsender
        rw [send_of_gone e hgone, hsender]
        exact .live l rfl { hrun with }
    | false =>
        rw [hgone] at hsender
        rw [send_of_not_gone e hgone, hsender, offer_of_hasReceiver hrun.hasReceiver e]
        refine .live { l with channel := { l.channel with waiting := l.channel.waiting ++ [e] } }
          rfl { hrun with sent := ?_ }
        rw [hrun.sent, List.append_assoc]
  · have hnone : ∀ l ∈ s.live, l.id ≠ r.id := by simp [hl]
    rw [Session.onChannel_of_other hnone]
    cases hgone : r.gone with
    | true =>
        rw [send_of_gone e hgone]
        exact .over front o hl hrun
    | false =>
        rw [send_of_not_gone e hgone]
        refine .over front o hl { hrun with sent := .inl ?_ }
        rcases hrun.sent with hsent | ⟨-, hleft, -⟩
        · exact hsent.trans (List.prefix_append r.sent [e])
        · rw [hgone] at hleft
          cases hleft

theorem stage_leave (r : RunLog) (s : Session) (hr : Stage r s) :
    Stage r.leave (s.onChannel r.id Channel.dropSender) := by
  rcases hr with ⟨l, hl, hrun⟩ | ⟨front, o, hl, hrun⟩
  · rw [← hrun.id, Session.onChannel_of_live hl]
    exact .live { l with channel := l.channel.dropSender } rfl { hrun with hasSender := rfl }
  · have hnone : ∀ l ∈ s.live, l.id ≠ r.id := by simp [hl]
    rw [Session.onChannel_of_other hnone]
    refine .over front o hl { hrun with sent := ?_ }
    rcases hrun.sent with hsent | ⟨hsent, -, ho⟩
    · exact .inl hsent
    · exact .inr ⟨hsent, rfl, ho⟩

theorem handed_send (e : Event) (r : RunLog) : (r.send e).handed = r.handed := by
  unfold RunLog.send
  split <;> rfl

theorem consistent_step {h : History} (hc : Consistent h) (a : Act) : Consistent (h.step a) := by
  cases a with
  | setText text => exact consistent_setText hc text
  | submit sent gone job => exact consistent_submit hc sent gone job
  | cancel => exact consistent_cancel hc
  | poll => exact poll_induction (fun _ => consistent_nextEvent) hc
  | nextEvent => exact consistent_nextEvent hc
  | arrives run e =>
      exact consistent_onRun hc run (RunLog.id_send e) (handed_send e) (stage_send e)
  | leaves run => exact consistent_onRun hc run RunLog.id_leave (fun _ => rfl) stage_leave

theorem consistent_run (acts : List Act) : Consistent (new.run acts) :=
  run_induction (P := Consistent) (fun _ a hc => consistent_step hc a) consistent_new acts

theorem length_runs_step (h : History) (a : Act) :
    (h.step a).runs.length = h.runs.length + if a.submits then 1 else 0 := by
  cases a with
  | setText text =>
      rw [step]
      split <;> simp [Act.submits]
  | submit sent gone job => rfl
  | cancel => rfl
  | poll => simp [step, handOut, Act.submits]
  | nextEvent => simp [step, handOut, Act.submits]
  | arrives run e => simp [step, onRun, Act.submits]
  | leaves run => simp [step, onRun, Act.submits]

theorem length_runs_run (h : History) (acts : List Act) :
    (h.run acts).runs.length = h.runs.length + acts.countP Act.submits := by
  induction acts generalizing h with
  | nil => rfl
  | cons a acts ih =>
      have hrest := ih (h.step a)
      have hone := length_runs_step h a
      rw [List.countP_cons, run, List.foldl_cons]
      rw [run] at hrest
      omega

theorem Stage.running {r : RunLog} {s : Session} (hr : Stage r s) :
    s.isRunning = !s.lastOutcome.isSome := by
  rcases hr with ⟨l, hl, hrun⟩ | ⟨front, o, hl, hrun⟩
  · rw [Session.isRunning, hl, hrun.lastOutcome]
    rfl
  · rw [Session.isRunning, hl, hrun.lastOutcome]
    rfl

theorem Stage.handed_of_sent {r : RunLog} {s : Session} (hr : Stage r s) :
    r.handed <+: r.sent ∨ (r.gone = true ∧ r.handed = r.sent ++ [.finished .notRun]) := by
  rcases hr with ⟨l, -, hrun⟩ | ⟨front, o, -, hrun⟩
  · exact .inl ⟨l.channel.waiting, hrun.sent.symm⟩
  · rcases hrun.sent with hsent | ⟨hsent, hgone, ho⟩
    · exact .inl hsent
    · refine .inr ⟨hgone, ?_⟩
      rw [hsent, ← ho]
      exact hrun.handed

theorem Stage.lastOutcome_of_over {r : RunLog} {s : Session} (hr : Stage r s)
    (hover : s.isRunning = false) : s.lastOutcome = r.outcome? := by
  have hnone : s.live = none := by simpa [Session.isRunning] using hover
  obtain ⟨front, o, hrun⟩ := hr.of_over hnone
  rw [hrun.lastOutcome]
  rcases hrun.sent with ⟨rest, hsent⟩ | ⟨hsent, hgone, rfl⟩
  · have hfirst : Run.outcomes r.sent = o :: Run.outcomes rest := by
      rw [← hsent, hrun.handed, outcomes_append, outcomes_append, hrun.unfinished]
      rfl
    rw [RunLog.outcome?, hfirst]
    rfl
  · rw [RunLog.outcome?, hsent, hrun.unfinished, hgone]
    rfl

theorem session_follows_latest_run (acts : List Act) :
    let h := new.run acts
    h.ids = List.range' 1 (acts.countP Act.submits) ∧
    h.runs.map RunLog.id = h.ids.reverse ∧
    (∀ r ∈ h.runs.head?,
      h.session.isRunning = !h.session.lastOutcome.isSome ∧
      h.session.records = Run.records r.handed ∧
      (r.handed <+: r.sent ∨ (r.gone = true ∧ r.handed = r.sent ++ [.finished .notRun])) ∧
      (h.session.isRunning = false → h.session.lastOutcome = r.outcome?)) ∧
    (h.runs = [] → h.session = { Session.new with text := h.session.text }) ∧
    let s := (h.step .cancel).session
    s.text = h.session.text ∧ s.positions = h.session.positions ∧
    s.records = h.session.records ∧ s.lastOutcome = h.session.lastOutcome ∧
    s.isRunning = h.session.isRunning := by
  intro h
  have hc : Consistent h := consistent_run acts
  refine ⟨?_, hc.runIds, ?_, hc.idle, rfl, rfl, rfl, rfl, ?_⟩
  · have hlen : h.runs.length = acts.countP Act.submits := by
      have hcount := length_runs_run new acts
      rw [hcount]
      exact Nat.zero_add _
    rw [← hlen]
    exact hc.ids
  · intro r hr
    have hstage := hc.stage r hr
    exact ⟨hstage.running, hc.records r hr, hstage.handed_of_sent, hstage.lastOutcome_of_over⟩
  · exact Option.isSome_map

end History

end ScriptBench.Editor
