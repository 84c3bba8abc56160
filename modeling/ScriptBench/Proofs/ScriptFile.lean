import ScriptBench.Proofs.JobHandle

namespace ScriptBench.Run

open Config (Runner)
open Machine (Environment Files Place SystemError Transcript)

structure AddsFile (before after : Files) (place : Place) (bytes : List UInt8) : Prop where
  free : before.at? place = none
  added : after.at? place = some (.file bytes)
  others : ∀ p ≠ place, after.at? p = before.at? p

theorem addsFile_set {fs : Files} {place : Place} (h : fs.at? place = none) (bytes : List UInt8) :
    AddsFile fs (fs.set place (.file bytes)) place bytes := by
  have hset := fs.at?_set (Files.ne_nil_of_at?_eq_none h) (.file bytes)
  refine ⟨h, ?_, fun p hp => ?_⟩
  · rw [hset, if_pos rfl]
  · rw [hset, if_neg hp]

def startOn (r : Runner) (h : Host) (place : Place) (text : String) :
    Except SystemError Transcript :=
  h.start { h.environment with files := h.files.set place (.file (Text.bytes text)) } h.pid
    r.compiler (r.args ++ [scriptPath r h])

inductive Launching (r : Runner) (h : Host) (text : String) :
    Except LaunchError Launched → Files → Prop
  | uncreated {reason : SystemError} :
      (∀ place, h.files.locate h.environment.place (scriptPath r h) = .ok place →
        h.files.at? place ≠ none) →
      Launching r h text (.error (.scriptFile (scriptPath r h) reason)) h.files
  | unwritten {place : Place} {written : Nat} {reason : SystemError} :
      h.files.locate h.environment.place (scriptPath r h) = .ok place →
      h.files.at? place = none → h.breaksOff place (Text.bytes text) = some (written, reason) →
      Launching r h text (.error (.scriptFile (scriptPath r h) reason))
        ((h.files.set place (.file ((Text.bytes text).take written))).remove place)
  | unstarted {place : Place} {reason : SystemError} :
      h.files.locate h.environment.place (scriptPath r h) = .ok place →
      h.files.at? place = none → startOn r h place text = .error reason →
      Launching r h text (.error (.spawn reason))
        ((h.files.set place (.file (Text.bytes text))).remove place)
  | started {place : Place} {transcript : Transcript} :
      h.files.locate h.environment.place (scriptPath r h) = .ok place →
      h.files.at? place = none → h.breaksOff place (Text.bytes text) = none →
      startOn r h place text = .ok transcript →
      Launching r h text (.ok ⟨place, transcript⟩) transcript.files

section Launching

variable {r : Runner} {h : Host} {text : String}

theorem launching (r : Runner) (h : Host) (text : String) :
    Launching r h text (launch r h text).1 (launch r h text).2 := by
  unfold launch writeScript
  -- With the path and the bytes in place of their names, reducing the matches would encode the text.
  extract_lets path bytes around
  cases hlocate : h.files.locate h.environment.place path with
  | error reason => exact .uncreated fun place hplace => by cases hlocate.symm.trans hplace
  | ok place =>
      cases hplace : h.files.at? place with
      | some content =>
          simp only [hplace, Option.isSome_some, if_true]
          refine .uncreated fun other hother => ?_
          obtain rfl := Except.ok.inj (hlocate.symm.trans hother)
          rw [hplace]
          exact Option.some_ne_none content
      | none =>
          simp only [hplace, Option.isSome_none, Bool.false_eq_true, if_false]
          cases hbreaks : h.breaksOff place bytes with
          | some broken => exact .unwritten hlocate hplace hbreaks
          | none =>
              cases hstart : startOn r h place text with
              | error reason =>
                  have hended := Launching.unstarted hlocate hplace hstart
                  simp only [startOn] at hstart
                  simp only [bytes, around, hstart]
                  exact hended
              | ok transcript =>
                  have hended := Launching.started hlocate hplace hbreaks hstart
                  simp only [startOn] at hstart
                  simp only [bytes, around, hstart]
                  exact hended

theorem Launching.files_of_error {reason : LaunchError} {files : Files}
    (hl : Launching r h text (.error reason) files) : files = h.files := by
  cases hl with
  | uncreated _ => rfl
  | unwritten _ hplace _ => exact Files.remove_set hplace _
  | unstarted _ hplace _ => exact Files.remove_set hplace _

theorem Launching.files_of_ok {l : Launched} {files : Files}
    (hl : Launching r h text (.ok l) files) : files = l.transcript.files := by
  cases hl with
  | started _ _ _ _ => rfl

theorem launch_eq_ok_iff {l : Launched} : (launch r h text).1 = .ok l ↔
    h.files.locate h.environment.place (scriptPath r h) = .ok l.script ∧
      h.files.at? l.script = none ∧ h.breaksOff l.script (Text.bytes text) = none ∧
      startOn r h l.script text = .ok l.transcript := by
  have hl := launching r h text
  generalize (launch r h text).1 = result, (launch r h text).2 = files at hl ⊢
  constructor
  · rintro rfl
    cases hl with
    | started hlocate hplace hbreaks hstart => exact ⟨hlocate, hplace, hbreaks, hstart⟩
  · rintro ⟨hscript, hfree, hunbroken, hstarted⟩
    cases hl with
    | uncreated hnone => exact absurd hfree (hnone l.script hscript)
    | unwritten hlocate _ hbreaks =>
        obtain rfl := Except.ok.inj (hlocate.symm.trans hscript)
        cases hbreaks.symm.trans hunbroken
    | unstarted hlocate _ hstart =>
        obtain rfl := Except.ok.inj (hlocate.symm.trans hscript)
        cases hstart.symm.trans hstarted
    | started hlocate _ _ hstart =>
        obtain rfl := Except.ok.inj (hlocate.symm.trans hscript)
        obtain rfl := Except.ok.inj (hstart.symm.trans hstarted)
        rfl

end Launching

namespace Job

structure HoldsScript (place : Place) (files : Files) (p : Job) : Prop where
  script : p.script = if p.exitCode = none then some place else none
  files : p.files = if p.exitCode = none then files else files.remove place

section HoldsScript

variable {own : Int} {place : Place} {files : Files} {p q : Job} {d : Deed}

theorem holdsScript_ofLaunched (pid : Nat) (l : Launched) :
    HoldsScript l.script l.transcript.files (ofLaunched pid l) := ⟨rfl, rfl⟩

theorem Acting.holdsScript (ha : p.Acting d q) (h : HoldsScript place files p) :
    HoldsScript place files q := by
  cases ha with
  | waits hunknown =>
      have hscript := h.script
      have hfiles := h.files
      rw [if_pos hunknown] at hscript hfiles
      refine ⟨rfl, ?_⟩
      simp only [removeScript, ends, hscript, hfiles]
      rfl
  | waitsAgain _ _ => exact h
  | kills _ => exact ⟨h.script, h.files⟩
  | spares _ => exact h
  | asksCode => exact h
  | asksFlag => exact h
  | @reads name s => cases name <;> exact ⟨h.script, h.files⟩
  | childEnds => exact ⟨h.script, h.files⟩

theorem holdsScript_after (hs : p.Sound own) (h : HoldsScript place files p) (deeds : List Deed) :
    HoldsScript place files (p.after deeds) := by
  induction deeds generalizing p with
  | nil => exact h
  | cons d deeds ih =>
      have ha := hs.acting d
      exact ih (ha.sound hs) (ha.holdsScript h)

theorem exitCode_after_eq_none_iff (hs : p.Sound own) (deeds : List Deed) :
    (p.after deeds).exitCode = none ↔ p.exitCode = none ∧ .waits ∉ deeds := by
  induction deeds generalizing p with
  | nil => simp [after]
  | cons d deeds ih =>
      have ha := hs.acting d
      rw [after_cons, ih (ha.sound hs), ha.exitCode_eq, List.mem_cons, not_or]
      by_cases hd : d = .waits
      · simp [hd]
      · rw [if_neg hd]
        have hne := Ne.symm hd
        tauto

theorem files_after (pid : Nat) (l : Launched) (deeds : List Deed) :
    ((ofLaunched pid l).after deeds).files =
      if .waits ∈ deeds then l.transcript.files.remove l.script else l.transcript.files := by
  have hs := sound_of_fresh (fresh_ofLaunched pid l)
  have hcode := exitCode_after_eq_none_iff hs deeds
  rw [(holdsScript_after hs (holdsScript_ofLaunched pid l) deeds).files]
  by_cases hwait : .waits ∈ deeds
  · rw [if_pos hwait, if_neg fun hnone => (hcode.mp hnone).2 hwait]
  · rw [if_neg hwait, if_pos (hcode.mpr ⟨rfl, hwait⟩)]

end HoldsScript

end Job

theorem script_there_until_first_wait (r : Runner) (h : Host) (text : String) :
    (∀ reason, (launch r h text).1 = .error reason → (launch r h text).2 = h.files) ∧
    ∀ l, ((launch r h text).1 = .ok l ↔
        h.files.locate h.environment.place (scriptPath r h) = .ok l.script ∧
          h.files.at? l.script = none ∧ h.breaksOff l.script (Text.bytes text) = none ∧
          startOn r h l.script text = .ok l.transcript) ∧
      ((launch r h text).1 = .ok l →
        ∃ held, AddsFile h.files held l.script (Text.bytes text) ∧
          h.start { h.environment with files := held } h.pid r.compiler
            (r.args ++ [scriptPath r h]) = .ok l.transcript ∧
          (launch r h text).2 = l.transcript.files ∧
          (l.transcript.files.at? l.script = held.at? l.script → ∀ deeds : List Deed,
            let p := (Job.ofLaunched h.pid l).after deeds
            p.files.at? l.script =
              (if .waits ∈ deeds then none else some (.file (Text.bytes text))) ∧
            ∀ q ≠ l.script, p.files.at? q = l.transcript.files.at? q)) := by
  have hl := launching r h text
  refine ⟨fun reason heq => ?_, fun l => ⟨launch_eq_ok_iff, fun heq => ?_⟩⟩
  · rw [heq] at hl
    exact hl.files_of_error
  · have hfiles : (launch r h text).2 = l.transcript.files := by
      rw [heq] at hl
      exact hl.files_of_ok
    obtain ⟨-, hfree, -, hstart⟩ := launch_eq_ok_iff.mp heq
    have hadds := addsFile_set hfree (Text.bytes text)
    refine ⟨_, hadds, hstart, hfiles, fun hkept deeds => ?_⟩
    have hremove := l.transcript.files.at?_remove (Files.ne_nil_of_at?_eq_none hfree)
    simp only [Job.files_after]
    split
    · refine ⟨by rw [hremove, if_pos rfl], fun q hq => ?_⟩
      rw [hremove, if_neg hq]
    · exact ⟨hkept.trans hadds.added, fun q _ => rfl⟩

def smallDisk : Host where
  environment := ⟨[], Files.empty.put ["tmp"] .directory, "/"⟩
  fresh := "1"
  pid := 7
  start e _ program _ :=
    if program = "sh" then .ok ⟨[], [], 0, true, e.files⟩ else .error .notFound
  breaksOff _ bytes := if 4 < bytes.length then some (4, .full) else none

theorem script_on_small_disk :
    let sh : Runner := ⟨"sh", [], "kts", "s", none⟩
    let l : Launched := ⟨["tmp", "s1.kts"],
      ⟨[], [], 0, true, smallDisk.files.set ["tmp", "s1.kts"] (.file [108, 115])⟩⟩
    let p := Job.ofLaunched 7 l
    (launch sh smallDisk "ls").1 = .ok l ∧
      (p.after [.cancels, .asksCode, .reads .output]).files.at? ["tmp", "s1.kts"] =
        some (.file [108, 115]) ∧
      (p.after [.cancels, .waits, .reads .errors]).files.at? ["tmp", "s1.kts"] = none ∧
      (launch sh smallDisk "ls -l").1 = .error (.scriptFile "/tmp/s1.kts" .full) ∧
      (launch sh smallDisk "ls -l").2 = smallDisk.files ∧
      (launch { sh with compiler := "kotlinc" } smallDisk "ls").1 = .error (.spawn .notFound) ∧
      (launch { sh with compiler := "kotlinc" } smallDisk "ls").2 = smallDisk.files := by
  intro sh l p
  have hok : (launch sh smallDisk "ls").1 = .ok l := by decide +kernel
  have hfull : (launch sh smallDisk "ls -l").1 = .error (.scriptFile "/tmp/s1.kts" .full) := by
    decide +kernel
  have hmissing : (launch { sh with compiler := "kotlinc" } smallDisk "ls").1 =
      .error (.spawn .notFound) := by decide +kernel
  obtain ⟨held, hadds, -, -, hscript⟩ :=
    ((script_there_until_first_wait sh smallDisk "ls").2 l).2 hok
  have hkept : l.transcript.files.at? l.script = held.at? l.script := hadds.added.symm
  exact ⟨hok, (hscript hkept [.cancels, .asksCode, .reads .output]).1,
    (hscript hkept [.cancels, .waits, .reads .errors]).1,
    hfull, (script_there_until_first_wait _ _ _).1 _ hfull,
    hmissing, (script_there_until_first_wait _ _ _).1 _ hmissing⟩

end ScriptBench.Run
