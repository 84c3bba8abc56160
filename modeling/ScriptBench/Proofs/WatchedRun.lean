import ScriptBench.Proofs.RunEnd
import ScriptBench.Proofs.SessionDrain

namespace ScriptBench.Command

open Editor (Live Session)
open Run (Channel Ending Event Job LaunchError Launched Outcome Started Turn)

structure Watch where
  run : Started Channel
  session : Session
  outcome : Option Outcome

inductive Moment where
  | turn (t : Turn)
  | leaves
  | looks (shown : Bool)
deriving DecidableEq, Repr

namespace Watch

def start (run : Started Channel) (s : Session) : Watch :=
  ⟨run, (s.submit run.sink run.job).2, none⟩

def isOver (w : Watch) : Bool := !w.session.isRunning

/-- The session as it is now: the channel and the job of its run go on while it holds them. -/
def view (w : Watch) : Session :=
  { w.session with live := w.session.live.map fun l => ⟨l.id, w.run.sink, w.run.job⟩ }

def cancel (w : Watch) : Watch := if w.isOver then w else { w with run := w.run.cancel }

def take (w : Watch) (e : Event) (s : Session) : Watch where
  run := w.run.onSink fun c => if s.isRunning then c.receive.2 else c.dropReceiver
  session := s
  outcome := e.outcome?.or w.outcome

def look (w : Watch) (shown : Bool) : Watch :=
  match w.view.nextEvent with
  | (none, _) => w
  | (some e, s) => if shown then w.take e s else (w.take e s).cancel

def step (w : Watch) : Moment → Watch
  | .turn t => if w.run.sink.hasSender then { w with run := w.run.step t } else w
  | .leaves => { w with run := w.run.onSink Channel.dropSender }
  | .looks shown => w.look shown

def after (w : Watch) (moments : List Moment) : Watch := moments.foldl step w

def exitCode (w : Watch) : Int := (w.outcome.map fun o => Run.processExitCode o.exitCode).getD 1

theorem after_append (w : Watch) (moments more : List Moment) :
    w.after (moments ++ more) = (w.after moments).after more := List.foldl_append

theorem after_cons (w : Watch) (m : Moment) (moments : List Moment) :
    w.after (m :: moments) = (w.step m).after moments := rfl

structure Sound (launched : Except LaunchError Launched) (w : Watch) : Prop where
  run : w.run.Sound launched
  waiting : ∀ o ∈ Run.outcomes w.run.sink.waiting, w.run.outcome? = some o
  taken : ∀ o ∈ w.outcome, w.run.outcome? = some o ∨
    w.run.outcome? = none ∧ w.run.sink.hasSender = false ∧ o = .notRun
  ended : w.isOver = w.outcome.isSome
  pending : w.isOver = false → w.run.sink.hasReceiver = true ∧
    (w.run.outcome? ≠ none → Run.outcomes w.run.sink.waiting ≠ [])

section Offers

variable {c : Channel}

theorem offer_of_no_receiver (h : c.hasReceiver = false) (e : Event) : Run.offer c e = c := by
  simp [Run.offer, Run.Sink.emit, Channel.emit, h]

structure Alike (c c' : Channel) : Prop where
  outcomes : Run.outcomes c'.waiting = Run.outcomes c.waiting
  hasSender : c'.hasSender = c.hasSender
  hasReceiver : c'.hasReceiver = c.hasReceiver

theorem alike_offer_output (c : Channel) (r : Diagnostic.Record) :
    Alike c (Run.offer c (.output r)) := by
  cases hreceiver : c.hasReceiver with
  | false =>
      rw [offer_of_no_receiver hreceiver]
      exact ⟨rfl, rfl, rfl⟩
  | true =>
      rw [Editor.History.offer_of_hasReceiver hreceiver]
      refine ⟨?_, rfl, rfl⟩
      rw [Editor.outcomes_append, Editor.outcomes_output_cons]
      exact List.append_nil _

theorem hasSender_offer (c : Channel) (e : Event) : (Run.offer c e).hasSender = c.hasSender := by
  cases hreceiver : c.hasReceiver with
  | false => rw [offer_of_no_receiver hreceiver]
  | true => rw [Editor.History.offer_of_hasReceiver hreceiver]

theorem alike_offer_outputs (c : Channel) (records : List Diagnostic.Record) :
    Alike c ((records.map .output).foldl Run.offer c) := by
  induction records generalizing c with
  | nil => exact ⟨rfl, rfl, rfl⟩
  | cons r records ih =>
      have hone := alike_offer_output c r
      have hrest := ih (Run.offer c (.output r))
      exact ⟨hrest.outcomes.trans hone.outcomes, hrest.hasSender.trans hone.hasSender,
        hrest.hasReceiver.trans hone.hasReceiver⟩

end Offers

section Sound

variable {launched : Except LaunchError Launched} {w : Watch}

structure Fresh (run : Started Channel) : Prop where
  hasSender : run.sink.hasSender = true
  hasReceiver : run.sink.hasReceiver = true
  outcomes : Run.outcomes run.sink.waiting = run.outcome?.toList

theorem fresh_start (id : Nat) (r : Config.Runner) (h : Run.Host) (text : String) :
    Fresh (.start id r h text .new) := by
  cases hl : (Run.launch r h text).1 with
  | error reason =>
      rw [Run.start_of_error id Channel.new hl]
      exact ⟨rfl, rfl, rfl⟩
  | ok l =>
      rw [Run.start_of_ok id Channel.new hl]
      exact ⟨rfl, rfl, rfl⟩

theorem sound_start {run : Started Channel} (hrun : run.Sound launched) (hfresh : Fresh run)
    (s : Session) : (start run s).Sound launched where
  run := hrun
  waiting := by
    intro o ho
    rw [start, hfresh.outcomes, Option.mem_toList] at ho
    exact ho
  taken := nofun
  ended := rfl
  pending := by
    refine fun _ => ⟨hfresh.hasReceiver, fun hsome => ?_⟩
    rw [start, hfresh.outcomes]
    exact fun hnone => hsome (Option.toList_eq_nil_iff.mp hnone)

theorem Sound.cancel (h : w.Sound launched) : w.cancel.Sound launched := by
  rw [Watch.cancel]
  split
  · exact h
  · exact {
      run := h.run.cancel
      waiting := by simpa using h.waiting
      taken := by simpa using h.taken
      ended := h.ended
      pending := by simpa [isOver] using h.pending }

theorem Sound.leaves (h : w.Sound launched) : (w.step .leaves).Sound launched where
  run := h.run.onSink _
  waiting := by simpa [step, Channel.dropSender] using h.waiting
  taken := by
    intro o ho
    rw [step, Started.outcome?_onSink, Started.sink_onSink]
    exact (h.taken o ho).imp_right fun hlost => ⟨hlost.1, rfl, hlost.2.2⟩
  ended := h.ended
  pending := by simpa [step, isOver, Channel.dropSender] using h.pending

-- A record changes no outcome that waits. The outcome itself comes once, while its receiver is
-- there it then waits, and nothing was taken in its place, as the workers are not gone.
theorem Sound.turn (h : w.Sound launched) (t : Turn) : (w.step (.turn t)).Sound launched := by
  rw [step]
  split
  · rename_i hsender
    obtain ⟨run, session, outcome⟩ := w
    have hrun := h.run.step t
    cases run with
    | failed id reason sink => exact h
    | running e =>
        have hturn := e.turning t
        show Sound launched ⟨.running (e.step t), session, outcome⟩
        replace hrun : (Started.running (e.step t)).Sound launched := hrun
        generalize e.step t = e' at hturn hrun ⊢
        cases hturn with
        | rests => exact h
        | acts d records _ _ houtcome hsink =>
            have halike := alike_offer_outputs e.sink records
            rw [← hsink] at halike
            refine ⟨hrun, ?_, ?_, h.ended, fun hlive => ?_⟩
            · intro o ho
              exact houtcome.trans (h.waiting o (halike.outcomes ▸ ho))
            · intro o ho
              refine (h.taken o ho).imp houtcome.trans ?_
              rintro ⟨hnone, hlost, hnotRun⟩
              exact ⟨houtcome.trans hnone, halike.hasSender.trans hlost, hnotRun⟩
            · obtain ⟨hreceiver, hpending⟩ := h.pending hlive
              refine ⟨halike.hasReceiver.trans hreceiver, fun hsome => ?_⟩
              show Run.outcomes e'.sink.waiting ≠ []
              rw [halike.outcomes]
              exact hpending fun hnone => hsome (houtcome.trans hnone)
        | @reports o hnone _ _ _ =>
            have hempty : Run.outcomes e.sink.waiting = [] := by
              refine List.eq_nil_iff_forall_not_mem.mpr fun o' ho' => ?_
              cases hnone.symm.trans (h.waiting o' ho')
            have huntaken : outcome = none := by
              refine Option.eq_none_iff_forall_ne_some.mpr fun o' ho' => ?_
              rcases h.taken o' ho' with hsome | ⟨-, hlost, -⟩
              · cases hnone.symm.trans hsome
              · cases hsender.symm.trans hlost
            have hlive : isOver ⟨.running e, session, outcome⟩ = false := by
              rw [h.ended, huntaken]
              rfl
            have hreceiver : e.sink.hasReceiver = true := (h.pending hlive).1
            have hwaiting : Run.outcomes (Run.offer e.sink (.finished o)).waiting = [o] := by
              rw [Editor.History.offer_of_hasReceiver hreceiver, Editor.outcomes_append, hempty]
              rfl
            refine ⟨hrun, ?_, ?_, h.ended, fun _ => ⟨?_, fun _ => ?_⟩⟩
            · intro o' ho'
              rw [Started.sink, hwaiting, List.mem_singleton] at ho'
              rw [ho']
              rfl
            · rw [huntaken]
              exact nofun
            · rw [Started.sink, Editor.History.offer_of_hasReceiver hreceiver]
              exact hreceiver
            · rw [Started.sink, hwaiting]
              exact List.cons_ne_nil _ _
  · exact h

theorem run_take (w : Watch) (e : Event) (s : Session) : (w.take e s).run =
    w.run.onSink fun c => if s.isRunning then c.receive.2 else c.dropReceiver := rfl

theorem outcome?_take (w : Watch) (e : Event) (s : Session) :
    (w.take e s).run.outcome? = w.run.outcome? := by
  rw [run_take, Started.outcome?_onSink]

theorem Sound.run_take (h : w.Sound launched) (e : Event) (s : Session) :
    (w.take e s).run.Sound launched := by
  rw [Watch.run_take]
  exact h.run.onSink _

theorem Sound.take_output (h : w.Sound launched) (hlive : w.isOver = false) {s : Session}
    (hs : s.isRunning = true) {r : Diagnostic.Record} {more : List Event}
    (hw : w.run.sink.waiting = .output r :: more) : (w.take (.output r) s).Sound launched := by
  have hsink : (w.take (.output r) s).run.sink = { w.run.sink with waiting := more } := by
    rw [take, Started.sink_onSink, if_pos hs, Channel.receive, hw]
  have hout := w.outcome?_take (.output r) s
  have hwaiting : Run.outcomes more = Run.outcomes w.run.sink.waiting := by
    rw [hw, Editor.outcomes_output_cons]
  have hrunning : (w.take (.output r) s).isOver = false := by simp [take, isOver, hs]
  refine ⟨h.run_take _ _, ?_, ?_, ?_, fun _ => ?_⟩
  · rw [hsink, hout, hwaiting]
    exact h.waiting
  · rw [hsink, hout]
    exact h.taken
  · rw [hrunning, ← hlive]
    exact h.ended
  · rw [hsink, hout, hwaiting]
    exact h.pending hlive

theorem Sound.take_finished (h : w.Sound launched) {s : Session} (hs : s.isRunning = false)
    {o : Outcome} (ho : w.run.outcome? = some o ∨
      w.run.outcome? = none ∧ w.run.sink.hasSender = false ∧ o = .notRun) :
    (w.take (.finished o) s).Sound launched := by
  have hsink : (w.take (.finished o) s).run.sink = w.run.sink.dropReceiver := by
    simp [take, hs]
  have hout := w.outcome?_take (.finished o) s
  have hover : (w.take (.finished o) s).isOver = true := by simp [take, isOver, hs]
  refine ⟨h.run_take _ _, ?_, ?_, hover, fun hlive => ?_⟩
  · rw [hsink]
    exact nofun
  · intro o' ho'
    obtain rfl := Option.some.inj ho'
    rw [hsink, hout]
    exact ho
  · rw [hover] at hlive
    cases hlive

theorem live_view_iff {l : Live} : w.view.live = some l ↔
    ∃ held, w.session.live = some held ∧ ⟨held.id, w.run.sink, w.run.job⟩ = l :=
  Option.map_eq_some_iff

theorem Sound.look (h : w.Sound launched) (shown : Bool) : (w.look shown).Sound launched := by
  have hshow (taken : Watch) (htaken : taken.Sound launched) :
      (if shown then taken else taken.cancel).Sound launched := by
    split
    · exact htaken
    · exact htaken.cancel
  rw [Watch.look]
  have htakes := w.view.takes_nextEvent
  generalize w.view.nextEvent = next at htakes ⊢
  obtain ⟨found, s⟩ := next
  cases htakes with
  | idle _ => exact h
  | waits _ _ _ => exact h
  | @event l e more hl hw =>
      obtain ⟨held, hheld, rfl⟩ := live_view_iff.mp hl
      have hlive : w.isOver = false := by simp [isOver, Session.isRunning, hheld]
      refine hshow _ ?_
      cases e with
      | output r =>
          have hrunning : ((w.view.withChannel { w.run.sink with waiting := more }).apply
              (.output r)).isRunning = true := by
            rw [Session.isRunning, Session.live_apply_output hl]
            rfl
          exact h.take_output hlive hrunning hw
      | finished o =>
          refine h.take_finished rfl (.inl (h.waiting o ?_))
          rw [show w.run.sink.waiting = _ from hw, Editor.outcomes_finished_cons]
          exact List.mem_cons_self
  | @lost l hl hw hsender =>
      obtain ⟨held, hheld, rfl⟩ := live_view_iff.mp hl
      have hlive : w.isOver = false := by simp [isOver, Session.isRunning, hheld]
      have hnone : w.run.outcome? = none := by
        by_contra hsome
        exact (h.pending hlive).2 hsome (congrArg Run.outcomes hw)
      exact hshow _ (h.take_finished rfl (.inr ⟨hnone, hsender, rfl⟩))

theorem sound_step (h : w.Sound launched) (m : Moment) : (w.step m).Sound launched := by
  cases m with
  | turn t => exact h.turn t
  | leaves => exact h.leaves
  | looks shown => exact h.look shown

theorem sound_after (h : w.Sound launched) (moments : List Moment) :
    (w.after moments).Sound launched := by
  induction moments generalizing w with
  | nil => exact h
  | cons m moments ih => exact ih (sound_step h m)

end Sound

inductive Verdict (launched : Except LaunchError Launched) : Outcome → Prop
  | unlaunched {reason} : launched = .error reason → Verdict launched .notRun
  | abandoned : Verdict launched .notRun
  | killed {l o} : launched = .ok l → o.cancelled = true →
      o.exitCode = (Ending.ofStatus Job.killedStatus).exitCode → Verdict launched o
  | ended {l o} : launched = .ok l → o.cancelled = false →
      o.exitCode = (Ending.ofStatus l.transcript.status).exitCode → Verdict launched o

section Ends

variable {launched : Except LaunchError Launched} {w : Watch}

theorem verdict_of_outcome? {run : Started Channel} (h : run.Sound launched) {o : Outcome}
    (ho : run.outcome? = some o) : Verdict launched o := by
  rcases h.exitCode ho with ⟨reason, hl, rfl⟩ | ⟨l, hl, hcode⟩
  · exact .unlaunched hl
  · cases hcancelled : o.cancelled with
    | true =>
        rw [hcancelled] at hcode
        exact .killed hl hcancelled hcode
    | false =>
        rw [hcancelled] at hcode
        exact .ended hl hcancelled hcode

theorem Sound.exists_verdict (h : w.Sound launched) (hover : w.isOver = true) :
    ∃ o, w.outcome = some o ∧ Verdict launched o := by
  rw [h.ended] at hover
  obtain ⟨o, ho⟩ := Option.isSome_iff_exists.mp hover
  refine ⟨o, ho, ?_⟩
  rcases h.taken o ho with hsome | ⟨-, -, rfl⟩
  · exact verdict_of_outcome? h.run hsome
  · exact .abandoned

theorem takes_of_nextEvent {found : Option Event} {s : Session}
    (h : w.view.nextEvent = (found, s)) : w.view.Takes found s := by
  have htakes := w.view.takes_nextEvent
  rwa [h] at htakes

theorem look_of_none {s : Session} (h : w.view.nextEvent = (none, s)) (shown : Bool) :
    w.look shown = w := by
  rw [look, h]

theorem look_of_some {e : Event} {s : Session} (h : w.view.nextEvent = (some e, s)) :
    w.look true = w.take e s := by
  rw [look, h]
  rfl

theorem after_looks_of_none {s : Session} (h : w.view.nextEvent = (none, s)) (n : Nat) :
    w.after (List.replicate n (.looks true)) = w := by
  induction n with
  | zero => rfl
  | succ n ih => rw [List.replicate_succ, after_cons, step, look_of_none h, ih]

theorem view_take {e : Event} {s : Session} (h : w.view.nextEvent = (some e, s)) :
    (w.take e s).view = s := by
  cases takes_of_nextEvent h with
  | @event l e more hl hw =>
      obtain ⟨held, hheld, rfl⟩ := live_view_iff.mp hl
      cases e with
      | output r =>
          replace hw : w.run.sink.waiting = .output r :: more := hw
          simp [view, take, Session.apply, Session.withChannel, hheld, Session.isRunning,
            Channel.receive, hw]
      | finished o => rfl
  | lost _ _ _ => rfl

theorem outcome?_look (w : Watch) (shown : Bool) :
    (w.look shown).run.outcome? = w.run.outcome? := by
  have hcancel (w : Watch) : w.cancel.run.outcome? = w.run.outcome? := by
    rw [Watch.cancel]
    split
    · rfl
    · exact Started.outcome?_cancel _
  rw [look]
  split
  · rfl
  · split
    · exact outcome?_take ..
    · rw [hcancel, outcome?_take]

theorem outcome?_after_looks (w : Watch) (n : Nat) :
    (w.after (List.replicate n (.looks true))).run.outcome? = w.run.outcome? := by
  induction n generalizing w with
  | zero => rfl
  | succ n ih => rw [List.replicate_succ, after_cons, ih, step, outcome?_look]

-- Each look takes what a poll takes there, so that the poll is a row of looks.
theorem after_looks (w : Watch) (n : Nat) :
    (w.after (List.replicate n (.looks true))).view = (w.view.pollUpTo n).2 ∧
      (w.after (List.replicate n (.looks true))).outcome =
        (Run.outcomes (w.view.pollUpTo n).1).getLast?.or w.outcome := by
  induction n generalizing w with
  | zero => exact ⟨rfl, rfl⟩
  | succ n ih =>
      rw [Session.pollUpTo_succ]
      cases hnext : w.view.nextEvent with
      | mk found s =>
          cases found with
          | none =>
              rw [after_looks_of_none hnext]
              cases takes_of_nextEvent hnext <;> exact ⟨rfl, rfl⟩
          | some e =>
              have hcons (more : List Event) : Run.outcomes (e :: more) =
                  e.outcome?.toList ++ Run.outcomes more := by
                cases e <;> rfl
              have hlast : e.outcome?.toList.getLast? = e.outcome? := by
                cases e <;> rfl
              obtain ⟨hview, houtcome⟩ := ih (w.take e s)
              rw [view_take hnext] at hview houtcome
              rw [List.replicate_succ, after_cons, step, look_of_some hnext]
              refine ⟨hview, houtcome.trans ?_⟩
              simp only [hcons, List.getLast?_append, hlast]
              exact (Option.or_assoc).symm

theorem hasSender_step (run : Started Channel) (t : Turn) :
    (run.step t).sink.hasSender = run.sink.hasSender := by
  cases run with
  | failed => rfl
  | running e =>
      have hturn := e.turning t
      show (e.step t).sink.hasSender = e.sink.hasSender
      generalize e.step t = e' at hturn ⊢
      cases hturn with
      | rests => rfl
      | acts d records _ _ _ hsink =>
          rw [hsink]
          exact (alike_offer_outputs e.sink records).hasSender
      | reports _ _ _ _ => exact hasSender_offer e.sink _

theorem after_turns (h : w.run.sink.hasSender = true) (turns : List Turn) :
    w.after (turns.map .turn) = { w with run := turns.foldl Started.step w.run } := by
  induction turns generalizing w with
  | nil => rfl
  | cons t turns ih =>
      have hone : w.step (.turn t) = { w with run := w.run.step t } := if_pos h
      rw [List.map_cons, after_cons, hone, ih ((hasSender_step w.run t).trans h)]
      rfl

theorem isOver_iff_view : w.isOver = true ↔ w.view.live = none := by
  simp [isOver, view, Session.isRunning]

theorem isOver_after_looks
    (h : w.run.sink.hasSender = false ∨ Run.outcomes w.run.sink.waiting ≠ []) :
    (w.after (List.replicate (w.run.sink.waiting.length + 1) (.looks true))).isOver = true := by
  rw [isOver_iff_view, (after_looks w _).1]
  cases hl : w.view.live with
  | none => rw [Session.pollUpTo_of_idle _ hl, hl]
  | some l =>
      obtain ⟨held, -, rfl⟩ := live_view_iff.mp hl
      exact Session.pollUpTo_ends hl h

theorem Sound.exists_over (h : w.Sound launched) : ∃ more, (w.after more).isOver = true := by
  cases hsender : w.run.sink.hasSender with
  | false => exact ⟨_, isOver_after_looks (.inl hsender)⟩
  | true =>
      have hturns := after_turns hsender w.run.turns
      rw [Started.foldl_step_turns] at hturns
      have hcomplete := sound_after h (w.run.turns.map .turn)
      cases hover : (w.after (w.run.turns.map .turn)).isOver with
      | true => exact ⟨_, hover⟩
      | false =>
          have hends := (hcomplete.pending hover).2
          rw [hturns] at hends
          have hlooks := isOver_after_looks
            (w := { w with run := w.run.complete }) (.inr (hends w.run.outcome?_complete))
          rw [← hturns, ← after_append] at hlooks
          exact ⟨_, hlooks⟩

theorem exists_course {run : Started Channel} (hfresh : Fresh run) (s : Session) :
    let left := (s.submit run.complete.sink.dropSender run.complete.job).2
    ∃ moments, ((start run s).after moments).isOver = true ∧
      ((start run s).after moments).run.outcome? = run.complete.outcome? ∧
      ((start run s).after moments).outcome = (Run.outcomes left.poll.1).getLast? := by
  intro left
  let ended : Watch :=
    ⟨run.complete.onSink Channel.dropSender, (s.submit run.sink run.job).2, none⟩
  have hended : (start run s).after (run.turns.map .turn ++ [.leaves]) = ended := by
    have hturns := after_turns (w := start run s) hfresh.hasSender run.turns
    rw [after_append, hturns, start, Started.foldl_step_turns]
    rfl
  have hsink : ended.run.sink = run.complete.sink.dropSender := Started.sink_onSink ..
  have hview : ended.view = left := by
    rw [view, hsink, Started.job_onSink]
    rfl
  refine ⟨run.turns.map .turn ++ [.leaves] ++
    List.replicate (ended.run.sink.waiting.length + 1) (.looks true), ?_⟩
  rw [after_append, hended]
  refine ⟨isOver_after_looks (.inl ?_), ?_, ?_⟩
  · rw [hsink]
    rfl
  · rw [outcome?_after_looks, Started.outcome?_onSink]
  · rw [(after_looks ended _).2, hview, hsink]
    exact Option.or_none

end Ends

end Watch

end ScriptBench.Command
