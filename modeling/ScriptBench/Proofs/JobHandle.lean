import ScriptBench.Run.Job
import Mathlib.Data.List.Basic

namespace ScriptBench.Run

inductive Deed where
  | waits
  | cancels
  | asksCode
  | asksFlag
  | reads (name : StreamName)
  | childEnds
deriving DecidableEq, Repr

inductive Reply where
  | nothing
  | code (code : Int)
  | codeSoFar (code : Option Int)
  | flag (cancelled : Bool)
  | line (line : Option String)
deriving DecidableEq, Repr

def Deed.endsChild : Deed → Bool
  | .waits | .cancels | .childEnds => true
  | .asksCode | .asksFlag | .reads _ => false

namespace Job

def reply (p : Job) : Deed → Reply
  | .waits => .code p.wait.1
  | .cancels => .nothing
  | .asksCode => .codeSoFar p.exitCode
  | .asksFlag => .flag p.cancelled
  | .reads name => .line (p.nextLine name).1
  | .childEnds => .nothing

def act (p : Job) : Deed → Job
  | .waits => p.wait.2
  | .cancels => p.cancel
  | .asksCode => p
  | .asksFlag => p
  | .reads name => (p.nextLine name).2
  | .childEnds => p.ends

def after (p : Job) (deeds : List Deed) : Job := deeds.foldl act p

theorem after_append (p : Job) (before later : List Deed) :
    p.after (before ++ later) = (p.after before).after later := List.foldl_append

theorem after_cons (p : Job) (d : Deed) (deeds : List Deed) :
    p.after (d :: deeds) = (p.act d).after deeds := rfl

def Fresh (p : Job) : Prop := p.cancelled = false ∧ p.exitCode = none

theorem fresh_ofLaunched (pid : Nat) (l : Launched) : (ofLaunched pid l).Fresh := ⟨rfl, rfl⟩

structure Sound (own : Int) (p : Job) : Prop where
  status : p.child.status = if p.cancelled then killedStatus else own
  known : ∀ code ∈ p.exitCode,
    p.child.isGone = true ∧ code = (Ending.ofStatus p.child.status).exitCode

inductive Acting (p : Job) : Deed → Job → Prop
  | waits : p.exitCode = none → Acting p .waits
      { p.ends.removeScript with exitCode := some (Ending.ofStatus p.child.status).exitCode }
  | waitsAgain {code} : p.exitCode = some code → p.child.isGone = true → Acting p .waits p
  | kills : p.child.isGone = false →
      Acting p .cancels { p with cancelled := true, child := .gone killedStatus }
  | spares : p.child.isGone = true → Acting p .cancels p
  | asksCode : Acting p .asksCode p
  | asksFlag : Acting p .asksFlag p
  | reads {name s} : Acting p (.reads name) (p.withStream name s)
  | childEnds : Acting p .childEnds p.ends

section Sound

variable {own : Int} {p q : Job} {d : Deed}

theorem sound_of_fresh (h : p.Fresh) : p.Sound p.child.status where
  status := by simp [h.1]
  known := by simp [h.2]

theorem cancel_of_gone (h : p.child.isGone = true) : p.cancel = p := by
  simp [cancel, kills, h]

theorem Sound.acting (h : p.Sound own) (d : Deed) : p.Acting d (p.act d) := by
  cases d with
  | waits =>
      cases hcode : p.exitCode with
      | none =>
          rw [act, wait, hcode]
          exact .waits hcode
      | some code =>
          rw [act, wait, hcode]
          exact .waitsAgain hcode (h.known code hcode).1
  | cancels =>
      cases hchild : p.child.isGone with
      | true =>
          rw [act, cancel_of_gone hchild]
          exact .spares hchild
      | false =>
          have hunknown : p.exitCode = none := by
            refine Option.eq_none_iff_forall_ne_some.mpr fun code hcode => ?_
            rw [(h.known code hcode).1] at hchild
            cases hchild
          have hkilled : p.kills = true := by simp [kills, hchild, hunknown]
          rw [act, cancel, hkilled]
          exact .kills hchild
  | asksCode => exact .asksCode
  | asksFlag => exact .asksFlag
  | reads name => exact .reads
  | childEnds => exact .childEnds

theorem Acting.sound (ha : p.Acting d q) (h : p.Sound own) : q.Sound own := by
  cases ha with
  | waits _ =>
      refine ⟨h.status, fun code hcode => ⟨rfl, ?_⟩⟩
      exact (Option.some.inj hcode).symm
  | waitsAgain _ _ => exact h
  | kills hruns =>
      refine ⟨rfl, fun code hcode => ?_⟩
      rw [(h.known code hcode).1] at hruns
      cases hruns
  | spares _ => exact h
  | asksCode => exact h
  | asksFlag => exact h
  | @reads name s => cases name <;> exact ⟨h.status, h.known⟩
  | childEnds => exact ⟨h.status, fun code hcode => ⟨rfl, (h.known code hcode).2⟩⟩

theorem Acting.isGone (ha : p.Acting d q) :
    q.child.isGone = (p.child.isGone || d.endsChild) := by
  cases ha with
  | waits _ => exact (Bool.or_true _).symm
  | waitsAgain _ hgone => rw [hgone, Bool.true_or]
  | kills _ => exact (Bool.or_true _).symm
  | spares hgone => rw [hgone, Bool.true_or]
  | asksCode => exact (Bool.or_false _).symm
  | asksFlag => exact (Bool.or_false _).symm
  | @reads name s => cases name <;> exact (Bool.or_false _).symm
  | childEnds => exact (Bool.or_true _).symm

theorem Acting.cancelled_iff (ha : p.Acting d q) :
    q.cancelled = true ↔ p.cancelled = true ∨ d = .cancels ∧ p.child.isGone = false := by
  cases ha with
  | waits _ => simp [removeScript, ends]
  | waitsAgain _ _ => simp
  | kills hruns => simp [hruns]
  | spares hgone => simp [hgone]
  | asksCode => simp
  | asksFlag => simp
  | @reads name s => cases name <;> simp [withStream]
  | childEnds => simp [ends]

theorem Acting.exitCode_eq (ha : p.Acting d q) :
    q.exitCode = if d = .waits then some p.wait.1 else p.exitCode := by
  cases ha with
  | waits hunknown => simp [wait, hunknown]
  | waitsAgain hcode _ => simp [wait, hcode]
  | kills _ => rfl
  | spares _ => rfl
  | asksCode => rfl
  | asksFlag => rfl
  | @reads name s => cases name <;> rfl
  | childEnds => rfl

theorem sound_after (h : p.Sound own) (deeds : List Deed) : (p.after deeds).Sound own := by
  induction deeds generalizing p with
  | nil => exact h
  | cons d deeds ih => exact ih ((h.acting d).sound h)

theorem isGone_after (h : p.Sound own) (deeds : List Deed) :
    (p.after deeds).child.isGone = true ↔
      p.child.isGone = true ∨ ∃ d ∈ deeds, d.endsChild = true := by
  induction deeds generalizing p with
  | nil => simp [after]
  | cons d deeds ih =>
      have ha := h.acting d
      rw [after_cons, ih (ha.sound h), ha.isGone]
      simp [or_assoc]

-- Induction on the deeds, over any job they start from: the first one either is the killing cancel
-- or comes in front of it.
theorem cancelled_after_iff (h : p.Sound own) (deeds : List Deed) :
    (p.after deeds).cancelled = true ↔ p.cancelled = true ∨
      ∃ before later, deeds = before ++ .cancels :: later ∧
        (p.after before).child.isGone = false := by
  induction deeds generalizing p with
  | nil => simp [after]
  | cons d deeds ih =>
      have ha := h.acting d
      rw [after_cons, ih (ha.sound h), ha.cancelled_iff, or_assoc]
      refine or_congr_right ⟨?_, ?_⟩
      · rintro (⟨rfl, hruns⟩ | ⟨before, later, rfl, hruns⟩)
        · exact ⟨[], deeds, rfl, hruns⟩
        · exact ⟨d :: before, later, rfl, hruns⟩
      · rintro ⟨before, later, hdeeds, hruns⟩
        cases before with
        | nil =>
            obtain ⟨rfl, rfl⟩ := List.cons.inj hdeeds
            exact .inl ⟨rfl, hruns⟩
        | cons b before =>
            obtain ⟨rfl, rfl⟩ := List.cons.inj hdeeds
            exact .inr ⟨before, later, rfl, hruns⟩

theorem cancelled_after_of_gone (h : p.Sound own) (hgone : p.child.isGone = true)
    (deeds : List Deed) : (p.after deeds).cancelled = p.cancelled := by
  rw [Bool.eq_iff_iff, cancelled_after_iff h]
  refine or_iff_left ?_
  rintro ⟨before, later, -, hruns⟩
  rw [(isGone_after h before).mpr (.inl hgone)] at hruns
  cases hruns

theorem wait_of_sound (h : p.Sound own) :
    p.wait.1 = (Ending.ofStatus (if p.cancelled then killedStatus else own)).exitCode := by
  rw [← h.status]
  cases hcode : p.exitCode with
  | none => rw [wait, hcode]
  | some code =>
      rw [wait, hcode]
      exact (h.known code hcode).2

theorem exitCode_after_of_not_mem (h : p.Sound own) {deeds : List Deed} (hwait : .waits ∉ deeds) :
    (p.after deeds).exitCode = p.exitCode := by
  induction deeds generalizing p with
  | nil => rfl
  | cons d deeds ih =>
      rw [List.mem_cons, not_or] at hwait
      have ha := h.acting d
      rw [after_cons, ih (ha.sound h) hwait.2, ha.exitCode_eq, if_neg (Ne.symm hwait.1)]

theorem exitCode_after_of_known (h : p.Sound own) {code : Int} (hcode : p.exitCode = some code)
    (deeds : List Deed) : (p.after deeds).exitCode = some code := by
  induction deeds generalizing p with
  | nil => exact hcode
  | cons d deeds ih =>
      have ha := h.acting d
      refine ih (ha.sound h) ?_
      rw [ha.exitCode_eq, wait, hcode]
      exact ite_self _

theorem nextLine_of_cancelled (h : p.cancelled = true) (name : StreamName) :
    (p.nextLine name).1 = none := by
  simp [nextLine, LineStream.next, LineStream.nextRaw, h]

end Sound

structure Reliable (p : Job) : Prop where
  gone_iff : ∀ deeds, (p.after deeds).child.isGone = true ↔
    p.child.isGone = true ∨ ∃ d ∈ deeds, d.endsChild = true
  flag_iff : ∀ deeds, (p.after deeds).reply .asksFlag = .flag true ↔
    ∃ before later, deeds = before ++ .cancels :: later ∧ (p.after before).child.isGone = false
  flag_settled : ∀ before later, .waits ∈ before ∨ (p.after before).child.isGone = true →
    (p.after (before ++ later)).reply .asksFlag = (p.after before).reply .asksFlag
  code_unknown : ∀ deeds, .waits ∉ deeds → (p.after deeds).reply .asksCode = .codeSoFar none
  code_fixed : ∀ before, .waits ∉ before → ∃ code, (p.after before).reply .waits = .code code ∧
    ∀ later, (p.after (before ++ .waits :: later)).reply .asksCode = .codeSoFar (some code) ∧
      (p.after (before ++ .waits :: later)).reply .waits = .code code
  late_cancel : ∀ before, (p.after before).child.isGone = true →
    p.after (before ++ [.cancels]) = p.after before
  streams_end : ∀ before later name, (p.after before).child.isGone = false →
    (p.after (before ++ .cancels :: later)).reply (.reads name) = .line none
  own_code : ∀ deeds, (∀ before later, deeds = before ++ .cancels :: later →
      (p.after before).child.isGone = true) →
    (p.after deeds).reply .waits = .code (Ending.ofStatus p.child.status).exitCode

theorem reliable_of_fresh {p : Job} (hfresh : p.Fresh) : p.Reliable := by
  have hsound := sound_of_fresh hfresh
  have hgone := isGone_after hsound
  have hcancelled (deeds : List Deed) : (p.after deeds).cancelled = true ↔
      ∃ before later, deeds = before ++ .cancels :: later ∧
        (p.after before).child.isGone = false := by
    rw [cancelled_after_iff hsound, hfresh.1]
    exact or_iff_right Bool.false_ne_true
  refine ⟨hgone, ?_, ?_, ?_, ?_, ?_, ?_, ?_⟩
  · intro deeds
    rw [reply, Reply.flag.injEq, hcancelled]
  · intro before later hover
    have hchild : (p.after before).child.isGone = true := by
      rcases hover with hwaits | hchild
      · exact (hgone before).mpr (.inr ⟨_, hwaits, rfl⟩)
      · exact hchild
    rw [after_append, reply, reply, cancelled_after_of_gone (sound_after hsound before) hchild]
  · intro deeds hwait
    rw [reply, exitCode_after_of_not_mem hsound hwait, hfresh.2]
  · intro before hwait
    have hbefore := sound_after hsound before
    have ha := hbefore.acting .waits
    refine ⟨_, rfl, fun later => ?_⟩
    have hcode := ha.exitCode_eq
    rw [if_pos rfl] at hcode
    have hlater := exitCode_after_of_known (ha.sound hbefore) hcode later
    rw [after_append, after_cons]
    refine ⟨by rw [reply, hlater], ?_⟩
    rw [reply, wait, hlater]
  · intro before hchild
    rw [after_append]
    exact cancel_of_gone hchild
  · intro before later name hruns
    have hkilled := (hcancelled (before ++ .cancels :: later)).mpr ⟨before, later, rfl, hruns⟩
    rw [reply, nextLine_of_cancelled hkilled]
  · intro deeds hlate
    have hspared : (p.after deeds).cancelled = false := by
      rw [← Bool.not_eq_true, hcancelled]
      rintro ⟨before, later, hdeeds, hruns⟩
      rw [hlate before later hdeeds] at hruns
      cases hruns
    rw [reply, wait_of_sound (sound_after hsound deeds), hspared]
    rfl

-- The child ends with exit status 3 while its second line is still unread: a cancel then leaves
-- that line to be read. A cancel in front of its end takes both streams away.
theorem cancel_behind_exit_keeps_line :
    let p := ofLaunched 7 ⟨["tmp", "a.kts"], [97, 10, 98, 10], [99, 10], 768, true, .empty⟩
    p.Fresh ∧
      p.after [.reads .output, .childEnds, .cancels] = p.after [.reads .output, .childEnds] ∧
      (p.after [.reads .output, .childEnds, .cancels]).reply .waits = .code 3 ∧
      (p.after [.cancels, .childEnds, .waits]).reply (.reads .errors) = .line none := by
  intro p
  have hfresh : p.Fresh := fresh_ofLaunched ..
  have h : p.Reliable := reliable_of_fresh hfresh
  have hlate := h.late_cancel [.reads .output, .childEnds] rfl
  refine ⟨hfresh, hlate, h.own_code _ ?_, h.streams_end [] _ .errors rfl⟩
  intro before later hdeeds
  have hends : Deed.childEnds ∈ before := by
    rcases before with _ | ⟨first, _ | ⟨second, before⟩⟩
    · cases hdeeds
    · cases hdeeds
    · obtain ⟨-, rfl, -⟩ : _ ∧ .childEnds = second ∧ _ := by simpa using hdeeds
      exact List.mem_cons_of_mem _ List.mem_cons_self
  exact (h.gone_iff before).mpr (.inr ⟨_, hends, rfl⟩)

end Job

end ScriptBench.Run
