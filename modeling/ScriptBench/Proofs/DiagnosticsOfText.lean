import ScriptBench.Proofs.SessionHistory

namespace ScriptBench.Editor

open Run (Channel Event Job Outcome)

namespace RunLog

def finished (r : RunLog) : Bool := !(Run.outcomes r.handed).isEmpty

/-- The last text that was set while the run was live, if any, is the one it was submitted with. -/
def KeepsText (r : RunLog) : Prop := ∀ text ∈ r.edits.getLast?, text = r.text

theorem keepsText_iff (r : RunLog) : r.KeepsText ↔ r.lastText = r.text := by
  rw [KeepsText, lastText]
  cases r.edits.getLast? with
  | none => simp
  | some text => simp

end RunLog

namespace History

def supplier (h : History) : Option RunLog := h.runs.find? RunLog.finished

def HighlightsOwnText (h : History) : Prop :=
  h.session.positions ≠ .empty → ∃ r ∈ h.supplier, h.session.text = r.text

def Attributed (h : History) : Prop :=
  h.session.positions ≠ .empty → ∃ r ∈ h.supplier, ∃ o, Run.outcomes r.handed = [o] ∧
    h.session.positions = o.positions ∧ h.session.text = r.lastText

theorem attributed_new : Attributed new := by
  intro hp
  exact absurd rfl hp

-- Attribution reads the positions, the text and the supplier, and nothing else.
theorem Attributed.of_supplier {h h' : History} (ha : Attributed h)
    (hpositions : h'.session.positions = h.session.positions)
    (htext : h'.session.text = h.session.text)
    (hsupplier : ∀ r ∈ h.supplier, ∃ r' ∈ h'.supplier,
      Run.outcomes r'.handed = Run.outcomes r.handed ∧ r'.lastText = r.lastText) :
    Attributed h' := by
  intro hp
  rw [hpositions] at hp
  obtain ⟨r, hr, o, hout, hpos, hlast⟩ := ha hp
  obtain ⟨r', hr', hout', hlast'⟩ := hsupplier r hr
  refine ⟨r', hr', o, ?_, ?_, ?_⟩
  · rw [hout', hout]
  · rw [hpositions, hpos]
  · rw [htext, hlast, hlast']

theorem attributed_setText (h : History) (text : String) :
    Attributed (h.step (.setText text)) := by
  intro hp
  exact absurd rfl hp

theorem attributed_submit {h : History} (ha : Attributed h) (sent : List Event) (gone : Bool)
    (job : Option Job) : Attributed (h.step (.submit sent gone job)) := by
  refine ha.of_supplier rfl rfl ?_
  intro r hr
  exact ⟨r, hr, rfl, rfl⟩

theorem attributed_cancel {h : History} (ha : Attributed h) : Attributed (h.step .cancel) := by
  refine ha.of_supplier rfl rfl ?_
  intro r hr
  exact ⟨r, hr, rfl, rfl⟩

theorem attributed_onRun {h : History} (ha : Attributed h) (run : Nat) {f : RunLog → RunLog}
    {g : Channel → Channel} (hhanded : ∀ r, (f r).handed = r.handed)
    (hlast : ∀ r, (f r).lastText = r.lastText) :
    Attributed ⟨h.session.onChannel run g, h.ids, onRun run f h.runs⟩ := by
  refine ha.of_supplier rfl rfl ?_
  intro r hr
  have hfinished : RunLog.finished ∘ (fun r => if r.id = run then f r else r) =
      RunLog.finished := by
    funext r
    by_cases hrun : r.id = run
    · simp [RunLog.finished, hrun, hhanded]
    · simp [hrun]
  refine ⟨if r.id = run then f r else r, ?_, ?_, ?_⟩
  · rw [supplier] at hr
    rw [supplier, onRun, List.find?_map, hfinished, hr]
    rfl
  · split
    · rw [hhanded]
    · rfl
  · split
    · exact hlast r
    · rfl

theorem outcomes_hand_output (record : Diagnostic.Record) (r : RunLog) :
    Run.outcomes (r.hand [.output record]).handed = Run.outcomes r.handed := by
  rw [RunLog.hand, outcomes_append]
  exact List.append_nil _

theorem attributed_output {h : History} (ha : Attributed h) (record : Diagnostic.Record)
    (channel : Channel) :
    Attributed (h.handOut [.output record]
      ((h.session.withChannel channel).apply (.output record))) := by
  refine ha.of_supplier rfl rfl ?_
  intro r hr
  rw [supplier] at hr ⊢
  cases hruns : h.runs with
  | nil =>
      rw [hruns] at hr
      cases hr
  | cons r₀ runs =>
      have hkeep : (r₀.hand [.output record]).finished = r₀.finished := by
        rw [RunLog.finished, outcomes_hand_output]
        rfl
      rw [hruns, List.find?_cons] at hr
      rw [handOut, hruns, List.modifyHead_cons, List.find?_cons, hkeep]
      cases hfin : r₀.finished with
      | true =>
          rw [hfin] at hr
          obtain rfl : r₀ = r := Option.some.inj hr
          exact ⟨_, rfl, outcomes_hand_output record r₀, rfl⟩
      | false =>
          rw [hfin] at hr
          exact ⟨r, hr, rfl, rfl⟩

theorem attributed_finished {h : History} (hc : Consistent h) {l : Live}
    (hl : h.session.live = some l) (o : Outcome) {s : Session} (htext : s.text = h.session.text) :
    Attributed (h.handOut [.finished o] (s.apply (.finished o))) := by
  intro _
  cases hruns : h.runs with
  | nil => exact absurd hruns (hc.runs_ne_nil hl)
  | cons r runs =>
      have hrun := (hc.stage r (by rw [hruns]; rfl)).of_live hl
      have hone : Run.outcomes (r.hand [.finished o]).handed = [o] := by
        rw [RunLog.hand, outcomes_append, hrun.unfinished]
        rfl
      have hfin : (r.hand [.finished o]).finished = true := by
        rw [RunLog.finished, hone]
        rfl
      refine ⟨r.hand [.finished o], ?_, o, hone, rfl, htext.trans hrun.text⟩
      rw [supplier, handOut, hruns, List.modifyHead_cons, List.find?_cons, hfin]
      rfl

theorem attributed_nextEvent {h : History} (hc : Consistent h) (ha : Attributed h) :
    Attributed (h.step .nextEvent) := by
  refine nextEvent_cases ha ?_ ?_
  · intro l e more hl hw
    cases e with
    | output record => exact attributed_output ha record _
    | finished o => exact attributed_finished hc hl o rfl
  · intro l hl hw hs
    exact attributed_finished hc hl .notRun rfl

theorem lastText_send (e : Event) (r : RunLog) : (r.send e).lastText = r.lastText := by
  unfold RunLog.send
  split <;> rfl

theorem attributed_step {h : History} (hc : Consistent h) (ha : Attributed h) (a : Act) :
    Attributed (h.step a) := by
  cases a with
  | setText text => exact attributed_setText h text
  | submit sent gone job => exact attributed_submit ha sent gone job
  | cancel => exact attributed_cancel ha
  | poll =>
      have hboth : Consistent (h.step .poll) ∧ Attributed (h.step .poll) :=
        poll_induction (P := fun h => Consistent h ∧ Attributed h)
          (fun _ hp => ⟨consistent_nextEvent hp.1, attributed_nextEvent hp.1 hp.2⟩) ⟨hc, ha⟩
      exact hboth.2
  | nextEvent => exact attributed_nextEvent hc ha
  | arrives run e => exact attributed_onRun ha run (handed_send e) (lastText_send e)
  | leaves run => exact attributed_onRun ha run (fun _ => rfl) (fun _ => rfl)

theorem attributed_run (acts : List Act) : Attributed (new.run acts) := by
  have hboth : Consistent (new.run acts) ∧ Attributed (new.run acts) :=
    run_induction (P := fun h => Consistent h ∧ Attributed h)
      (fun _ a hp => ⟨consistent_step hp.1 a, attributed_step hp.1 hp.2 a⟩)
      ⟨consistent_new, attributed_new⟩ acts
  exact hboth.2

theorem highlights_own_text_iff (acts : List Act) :
    let h := new.run acts
    (h.HighlightsOwnText ↔
      (h.session.positions ≠ .empty → ∀ r ∈ h.supplier, r.KeepsText)) ∧
    (h.session.positions ≠ .empty → ∃ r ∈ h.supplier, ∃ o,
      Run.outcomes r.handed = [o] ∧ h.session.positions = o.positions) := by
  intro h
  have ha : Attributed h := attributed_run acts
  refine ⟨⟨?_, ?_⟩, ?_⟩
  · intro hown hp r hr
    obtain ⟨r₁, hr₁, htext⟩ := hown hp
    obtain ⟨r₂, hr₂, -, -, -, hlast⟩ := ha hp
    obtain rfl : r = r₁ := Option.mem_unique hr hr₁
    obtain rfl : r = r₂ := Option.mem_unique hr hr₂
    rw [RunLog.keepsText_iff, ← hlast]
    exact htext
  · intro hkeeps hp
    obtain ⟨r, hr, -, -, -, hlast⟩ := ha hp
    have hsame := hkeeps hp r hr
    rw [RunLog.keepsText_iff] at hsame
    exact ⟨r, hr, hlast.trans hsame⟩
  · intro hp
    obtain ⟨r, hr, o, hout, hpos, -⟩ := ha hp
    exact ⟨r, hr, o, hout, hpos⟩

-- The run is one of a launched script, and what it sends is what that script reports.
theorem late_edit_is_highlighted :
    let job := Run.Job.ofLaunched 7 ⟨["tmp", "a.kts"],
      ⟨[], Text.bytes "a.kts:1:1: error: no\n", 256, false, .empty⟩⟩
    ¬ (new.run [.setText "old", .submit [.output ⟨"error: no at 1:1", true, some 1, some 1⟩,
        .finished ⟨1, .ofList [⟨1, some 1⟩], false⟩] true (some job),
      .setText "new", .nextEvent, .nextEvent]).HighlightsOwnText := by
  intro job hown
  obtain ⟨r, hr, htext⟩ := hown (by decide)
  obtain rfl := Option.some.inj hr
  exact absurd htext (by decide)

end History

end ScriptBench.Editor
