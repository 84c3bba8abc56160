import ScriptBench.Editor.Workbench
import ScriptBench.Proofs.DiagnosticsOfText
import ScriptBench.Proofs.RunReport

namespace ScriptBench.Editor

open Config (Runner Settings)
open Run (Channel Event Execution Host Recording Started)

inductive Call where
  | setText (text : String)
  | submit
  | cancel
  | poll
  | nextEvent
  | finish
deriving DecidableEq

theorem offered_channel (events : List Event) :
    events.foldl Run.offer Channel.new = ⟨events, true, true⟩ := by
  have hall (waiting : List Event) :
      events.foldl Run.offer (⟨waiting, true, true⟩ : Channel) =
        ⟨waiting ++ events, true, true⟩ := by
    induction events generalizing waiting with
    | nil => simp
    | cons e events ih =>
        have hone : Run.offer (⟨waiting, true, true⟩ : Channel) e =
            ⟨waiting ++ [e], true, true⟩ := rfl
        rw [List.foldl_cons, hone, ih, List.append_assoc]
        rfl
  exact hall []

theorem exists_sent (id : Nat) (r : Runner) (h : Host) (text : String) :
    ∃ sent, (Started.start id r h text Channel.new).complete.sink.dropSender =
      ⟨sent, false, true⟩ := by
  cases hl : (Run.launch r h text).1 with
  | error reason =>
      rw [Run.start_of_error id Channel.new hl]
      exact ⟨_, rfl⟩
  | ok l =>
      rw [Run.start_of_ok id Channel.new hl]
      let log : Execution Recording := .new id r.extension (.ofLaunched h.pid l) .empty
      have hrun := Execution.run_handOn log Channel.new log.turnsToEnd
      have hsink : (log.run log.turnsToEnd).handOn Channel.new =
          (Execution.new id r.extension (.ofLaunched h.pid l) Channel.new).complete := hrun.symm
      refine ⟨(log.run log.turnsToEnd).sink.events, ?_⟩
      rw [Started.complete, ← hsink, Started.sink, Execution.handOn, offered_channel]
      rfl

namespace History

theorem run_concat (h : History) (acts more : List Act) :
    h.run (acts ++ more) = (h.run acts).run more := List.foldl_append

theorem exists_acts_of_finish (n : Nat) (h : History) :
    ∃ acts, (h.run acts).session = (h.session.finishWithin n).2 := by
  induction n generalizing h with
  | zero => exact ⟨[], rfl⟩
  | succ n ih =>
      rw [Session.finishWithin]
      cases htake : h.session.nextEvent with
      | mk e s =>
          have hone : (h.step .nextEvent).session = s := by
            rw [step, htake]
            rfl
          cases e with
          | none => exact ⟨[.nextEvent], hone⟩
          | some e =>
              obtain ⟨acts, hacts⟩ := ih (h.step .nextEvent)
              rw [hone] at hacts
              exact ⟨.nextEvent :: acts, hacts⟩

end History

namespace Workbench

def call (w : Workbench) : Call → Workbench
  | .setText text => w.setText text
  | .submit => w.submit.2
  | .cancel => w.cancel
  | .poll => w.poll.2
  | .nextEvent => w.nextEvent.2
  | .finish => w.finish.2

theorem session_cancelNoting (w : Workbench) (why : Nat → Run.Note) :
    (w.cancelNoting why).session = w.session.cancel := by
  rw [cancelNoting]
  cases hl : w.session.live with
  | none =>
      have hkeep : w.session.cancel = w.session := by
        obtain ⟨settings, ⟨text, positions, records, lastOutcome, live, nextId⟩, host, notes⟩ := w
        obtain rfl : live = none := hl
        rfl
      exact hkeep.symm
  | some l => rfl

theorem session_submit (w : Workbench) :
    ∃ sent job, w.submit.2.session = (w.session.submit ⟨sent, false, true⟩ job).2 := by
  have hcancel := session_cancelNoting w .cancellingPrevious
  rw [submit]
  generalize w.cancelNoting .cancellingPrevious = w' at hcancel ⊢
  obtain ⟨sent, hsent⟩ := exists_sent w'.session.nextId w'.settings.runner w'.host w'.session.text
  generalize (Started.start w'.session.nextId w'.settings.runner w'.host w'.session.text
    Channel.new).complete = run at hsent ⊢
  refine ⟨sent, run.job, ?_⟩
  simp only [hsent, hcancel]
  rfl

theorem exists_acts_of_call (w : Workbench) (h : History) (hs : h.session = w.session)
    (c : Call) : ∃ acts, (h.run acts).session = (w.call c).session := by
  cases c with
  | setText text => exact ⟨[.setText text], congrArg (·.setText text) hs⟩
  | submit =>
      obtain ⟨sent, job, hsubmit⟩ := session_submit w
      refine ⟨[.submit sent true job], ?_⟩
      rw [call, hsubmit, ← hs]
      rfl
  | cancel =>
      refine ⟨[.cancel], ?_⟩
      rw [call, cancel, session_cancelNoting, ← hs]
      rfl
  | poll => exact ⟨[.poll], congrArg (·.poll.2) hs⟩
  | nextEvent => exact ⟨[.nextEvent], congrArg (·.nextEvent.2) hs⟩
  | finish =>
      obtain ⟨acts, hacts⟩ := History.exists_acts_of_finish (h.session.waiting + 1) h
      refine ⟨acts, hacts.trans ?_⟩
      rw [hs]
      rfl

def run (w : Workbench) (calls : List Call) : Workbench := calls.foldl call w

theorem exists_acts_of_run {w : Workbench} {h : History} (hs : h.session = w.session)
    (calls : List Call) : ∃ acts, (h.run acts).session = (w.run calls).session := by
  induction calls generalizing w h with
  | nil => exact ⟨[], hs⟩
  | cons c calls ih =>
      obtain ⟨first, hfirst⟩ := exists_acts_of_call w h hs c
      obtain ⟨rest, hrest⟩ := ih hfirst
      refine ⟨first ++ rest, ?_⟩
      rw [History.run_concat]
      exact hrest

theorem exists_history {settings : Settings} {host : Host} {w : Workbench}
    (hw : new settings host = .ok w) (calls : List Call) :
    ∃ h : History, h.session = (w.run calls).session ∧ h.Consistent ∧ h.Attributed := by
  have hs : History.new.session = w.session := by
    rw [new] at hw
    cases hv : settings.validate with
    | error fault =>
        rw [hv] at hw
        cases hw
    | ok valid =>
        rw [hv] at hw
        cases hw
        rfl
  obtain ⟨acts, hacts⟩ := exists_acts_of_run hs calls
  exact ⟨_, hacts, History.consistent_run acts, History.attributed_run acts⟩

end Workbench

end ScriptBench.Editor
