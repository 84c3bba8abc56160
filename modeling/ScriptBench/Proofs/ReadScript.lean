import ScriptBench.Proofs.LineCollection

namespace ScriptBench.Run

def isPending (bs : List UInt8) : Bool := bs.getLast?.any (· != lineFeed)

theorem isPending_of_not_mem {bs : List UInt8} (h : lineFeed ∉ bs) :
    isPending bs = !bs.isEmpty := by
  cases hlast : bs.getLast? with
  | none => simp [isPending, List.getLast?_eq_none_iff.mp hlast]
  | some b =>
      have hmem : b ∈ bs := List.mem_of_getLast? hlast
      have hb : (b != lineFeed) = true := bne_iff_ne.mpr fun e => h (e ▸ hmem)
      have hne : bs.isEmpty = false := List.isEmpty_eq_false_iff.mpr (List.ne_nil_of_mem hmem)
      rw [isPending, hlast, Option.any_some, hb, hne, Bool.not_false]

theorem isPending_behind_feed (line rest : List UInt8) :
    isPending (line ++ lineFeed :: rest) = isPending rest := by
  cases hlast : rest.getLast? with
  | none => simp [isPending, List.getLast?_eq_none_iff.mp hlast]
  | some b => simp [isPending, List.getLast?_append, List.getLast?_cons, hlast]

/-- The bytes that come before the source stops: at a failure, or at an end that is met while no
line is pending. An end within a line only ends the line, and the reads go on behind it. -/
def beforeStop : Bool → List Supply → List UInt8
  | _, [] => []
  | _, .failed :: _ => []
  | pending, .interrupted :: more => beforeStop pending more
  | pending, .ended :: more => if pending then beforeStop false more else []
  | pending, .bytes bs :: more =>
    if bs.isEmpty then if pending then beforeStop false more else []
    else bs ++ beforeStop (isPending bs) more

theorem beforeStop_at_end (line : List UInt8) (more : List Supply) :
    line ++ (if !line.isEmpty then beforeStop false more else []) =
      if line.isEmpty then [] else line ++ ([] ++ beforeStop (isPending []) more) := by
  cases line <;> rfl

-- The line so far has no line feed, so that a line is pending exactly when it is not empty.
theorem beforeStop_of_fetch {line : List UInt8} (hline : lineFeed ∉ line) (supply : List Supply) :
    match fetch line supply with
    | (.complete raw, buffered, more) =>
      line ++ beforeStop (!line.isEmpty) supply =
        if raw.isEmpty then [] else raw ++ (buffered ++ beforeStop (isPending buffered) more)
    | (.broken raw, _, _) => line ++ beforeStop (!line.isEmpty) supply = raw := by
  fun_induction fetch line supply with
  | case1 line =>
      rw [beforeStop]
      cases line <;> simp [beforeStop]
  | case2 line more => exact beforeStop_at_end line more
  | case3 line more => simp [beforeStop]
  | case4 line more ih => exact ih hline
  | case5 line bs more hempty =>
      rw [beforeStop, if_pos hempty]
      exact beforeStop_at_end line more
  | case6 line bs more hempty front rest hcut =>
      obtain ⟨init, hinit, rfl, rfl⟩ := cutLine?_eq_some_iff.mp hcut
      simp [beforeStop, isPending_behind_feed]
  | case7 line bs more hempty hcut ih =>
      have hbs : lineFeed ∉ bs := cutLine?_eq_none_iff.mp hcut
      have hlong : lineFeed ∉ line ++ bs := by simp [hline, hbs]
      have hpending : isPending bs = !(line ++ bs).isEmpty := by
        rw [isPending_of_not_mem hbs]
        cases bs with
        | nil => exact absurd rfl hempty
        | cons b bs => cases line <;> rfl
      have hbytes : line ++ beforeStop (!line.isEmpty) (.bytes bs :: more) =
          line ++ bs ++ beforeStop (!(line ++ bs).isEmpty) more := by
        rw [beforeStop, if_neg hempty, hpending, List.append_assoc]
      rw [hbytes]
      exact ih hlong

theorem raw_of_fetch {line : List UInt8} (hline : lineFeed ∉ line) (supply : List Supply) :
    match (fetch line supply).1 with
    | .complete raw => lineFeed ∉ raw.dropLast
    | .broken raw => lineFeed ∉ raw := by
  fun_induction fetch line supply with
  | case1 line => exact fun h => hline (List.dropLast_subset _ h)
  | case2 line more => exact fun h => hline (List.dropLast_subset _ h)
  | case3 line more => exact hline
  | case4 line more ih => exact ih hline
  | case5 line bs more hempty => exact fun h => hline (List.dropLast_subset _ h)
  | case6 line bs more hempty front rest hcut =>
      obtain ⟨init, hinit, rfl, rfl⟩ := cutLine?_eq_some_iff.mp hcut
      simp [← List.append_assoc, hline, hinit]
  | case7 line bs more hempty hcut ih =>
      have hbs : lineFeed ∉ bs := cutLine?_eq_none_iff.mp hcut
      exact ih (by simp [hline, hbs])

theorem exists_taken_of_fetch (line : List UInt8) (supply : List Supply) :
    ∃ taken, supply = taken ++ (fetch line supply).2.2 ∧
      (.failed ∈ taken → ∃ raw, (fetch line supply).1 = .broken raw) := by
  fun_induction fetch line supply with
  | case1 line => exact ⟨[], rfl, by simp⟩
  | case2 line more => exact ⟨[.ended], rfl, by simp⟩
  | case3 line more => exact ⟨[.failed], rfl, fun _ => ⟨line, rfl⟩⟩
  | case4 line more ih =>
      obtain ⟨taken, htaken, hbroken⟩ := ih
      exact ⟨.interrupted :: taken, congrArg _ htaken, by simpa using hbroken⟩
  | case5 line bs more hempty => exact ⟨[.bytes bs], rfl, by simp⟩
  | case6 line bs more hempty front rest hcut => exact ⟨[.bytes bs], rfl, by simp⟩
  | case7 line bs more hempty hcut ih =>
      obtain ⟨taken, htaken, hbroken⟩ := ih
      exact ⟨.bytes bs :: taken, congrArg _ htaken, by simpa using hbroken⟩

namespace LineStream

def left (s : LineStream) : List UInt8 :=
  if s.done then [] else s.buffered ++ beforeStop (isPending s.buffered) s.supply

theorem left_of_advance (s : LineStream) :
    match s.advance with
    | (.complete raw, buffered, more) =>
      s.buffered ++ beforeStop (isPending s.buffered) s.supply =
        if raw.isEmpty then [] else raw ++ (buffered ++ beforeStop (isPending buffered) more)
    | (.broken raw, _, _) => s.buffered ++ beforeStop (isPending s.buffered) s.supply = raw := by
  rw [advance]
  cases hcut : cutLine? s.buffered with
  | none =>
      have hline := cutLine?_eq_none_iff.mp hcut
      rw [isPending_of_not_mem hline]
      exact beforeStop_of_fetch hline s.supply
  | some cut =>
      obtain ⟨front, rest⟩ := cut
      obtain ⟨line, hline, rfl, hbuffered⟩ := cutLine?_eq_some_iff.mp hcut
      simp [hbuffered, isPending_behind_feed]

theorem raw_of_advance (s : LineStream) :
    match s.advance.1 with
    | .complete raw => lineFeed ∉ raw.dropLast
    | .broken raw => lineFeed ∉ raw := by
  rw [advance]
  cases hcut : cutLine? s.buffered with
  | none => exact raw_of_fetch (cutLine?_eq_none_iff.mp hcut) s.supply
  | some cut =>
      obtain ⟨front, rest⟩ := cut
      obtain ⟨line, hline, rfl, -⟩ := cutLine?_eq_some_iff.mp hcut
      simpa using hline

theorem exists_taken_of_advance (s : LineStream) :
    ∃ taken, s.supply = taken ++ s.advance.2.2 ∧
      (.failed ∈ taken → ∃ raw, s.advance.1 = .broken raw) := by
  rw [advance]
  cases hcut : cutLine? s.buffered with
  | none => exact exists_taken_of_fetch s.buffered s.supply
  | some cut => exact ⟨[], rfl, by simp⟩

inductive Asking (s : LineStream) : Bool → Option (List UInt8) → LineStream → Prop
  | refused {cancelled} : (s.done || cancelled) = true →
      Asking s cancelled none { s with done := true }
  | line {raw buffered more} : s.done = false → raw ≠ [] →
      s.advance = (.complete raw, buffered, more) →
      Asking s false (some raw) ⟨buffered, more, false⟩
  | nothing {buffered more} : s.done = false → s.advance = (.complete [], buffered, more) →
      Asking s false none ⟨buffered, more, true⟩
  | brokenLine {raw buffered more} : s.done = false → raw ≠ [] →
      s.advance = (.broken raw, buffered, more) →
      Asking s false (some raw) ⟨buffered, more, true⟩
  | broken {buffered more} : s.done = false → s.advance = (.broken [], buffered, more) →
      Asking s false none ⟨buffered, more, true⟩

theorem asking_nextRaw (s : LineStream) (cancelled : Bool) :
    Asking s cancelled (s.nextRaw cancelled).1 (s.nextRaw cancelled).2 := by
  rw [nextRaw]
  split
  · rename_i h
    exact .refused h
  · rename_i h
    obtain ⟨hdone, rfl⟩ : s.done = false ∧ cancelled = false := by simpa using h
    split
    · rename_i raw buffered more hadv
      cases raw with
      | nil => exact .nothing hdone hadv
      | cons b raw => exact .line hdone (List.cons_ne_nil b raw) hadv
    · rename_i raw buffered more hadv
      cases raw with
      | nil => exact .broken hdone hadv
      | cons b raw => exact .brokenLine hdone (List.cons_ne_nil b raw) hadv

section Asking

variable {s s' : LineStream} {cancelled : Bool} {answer : Option (List UInt8)}

theorem Asking.raw_shape (h : Asking s cancelled answer s') :
    ∀ raw ∈ answer, raw ≠ [] ∧ lineFeed ∉ raw.dropLast := by
  have hraw := raw_of_advance s
  cases h with
  | refused _ => simp
  | line _ hne hadv =>
      rw [hadv] at hraw
      simpa using ⟨hne, hraw⟩
  | nothing _ _ => simp
  | brokenLine _ hne hadv =>
      rw [hadv] at hraw
      simpa using ⟨hne, fun h => hraw (List.dropLast_subset _ h)⟩
  | broken _ _ => simp

-- A line takes the front of what is left and is never empty; without a line nothing is left.
theorem Asking.left_eq (h : Asking s false answer s') :
    s.left = answer.getD [] ++ s'.left ∧ (answer = none ↔ s.left = []) := by
  have hleft := left_of_advance s
  cases h with
  | refused hdone =>
      rw [Bool.or_false] at hdone
      simp [left, hdone]
  | line hdone hne hadv =>
      rw [hadv] at hleft
      simp [left, hdone, hleft, hne]
  | nothing hdone hadv =>
      rw [hadv] at hleft
      simp [left, hdone, hleft]
  | brokenLine hdone hne hadv =>
      rw [hadv] at hleft
      simp [left, hdone, hleft, hne]
  | broken hdone hadv =>
      rw [hadv] at hleft
      simp [left, hdone, hleft]

theorem Asking.answer_of_cancelled (h : Asking s true answer s') : answer = none := by
  cases h with
  | refused _ => rfl

theorem Asking.of_done (h : Asking s cancelled answer s') (hdone : s.done = true) :
    answer = none ∧ s'.done = true := by
  cases h with
  | refused _ => exact ⟨rfl, rfl⟩
  | line hgoes _ _ => exact absurd hdone (by simp [hgoes])
  | nothing hgoes _ => exact absurd hdone (by simp [hgoes])
  | brokenLine hgoes _ _ => exact absurd hdone (by simp [hgoes])
  | broken hgoes _ => exact absurd hdone (by simp [hgoes])

theorem Asking.done_of_none (h : Asking s cancelled none s') : s'.done = true := by
  cases h with
  | refused _ => rfl
  | nothing _ _ => rfl
  | broken _ _ => rfl

theorem Asking.done_of_failed (h : Asking s cancelled answer s') {taken : List Supply}
    (htaken : s.supply = taken ++ s'.supply) (hfailed : .failed ∈ taken) : s'.done = true := by
  obtain ⟨taken', htaken', hbroken⟩ := exists_taken_of_advance s
  cases h with
  | refused _ => rfl
  | line _ _ hadv =>
      rw [hadv] at htaken' hbroken
      have hsame : taken = taken' := List.append_cancel_right (htaken.symm.trans htaken')
      obtain ⟨raw, hraw⟩ := hbroken (hsame ▸ hfailed)
      cases hraw
  | nothing _ _ => rfl
  | brokenLine _ _ _ => rfl
  | broken _ _ => rfl

end Asking

end LineStream

inductive Handling where
  | asks | cancels | uncancels
deriving DecidableEq, Repr

structure Asked where
  stream : LineStream
  cancelled : Bool
deriving DecidableEq, Repr

namespace Asked

def answer (q : Asked) : Option (List UInt8) := (q.stream.nextRaw q.cancelled).1

def after (q : Asked) : LineStream := (q.stream.nextRaw q.cancelled).2

def fails (q : Asked) : Prop :=
  ∃ taken, q.stream.supply = taken ++ q.after.supply ∧ .failed ∈ taken

theorem asking (q : Asked) : q.stream.Asking q.cancelled q.answer q.after :=
  LineStream.asking_nextRaw q.stream q.cancelled

theorem done_after {q : Asked} (h : q.answer = none ∨ q.fails) : q.after.done = true := by
  have hasking := q.asking
  rcases h with hnone | ⟨taken, htaken, hfailed⟩
  · rw [hnone] at hasking
    exact hasking.done_of_none
  · exact hasking.done_of_failed htaken hfailed

end Asked

def asked (cancelled : Bool) (s : LineStream) : List Handling → List Asked
  | [] => []
  | .cancels :: more => asked true s more
  | .uncancels :: more => asked false s more
  | .asks :: more => ⟨s, cancelled⟩ :: asked cancelled (Asked.after ⟨s, cancelled⟩) more

theorem answer_of_asked_done {cancelled : Bool} {s : LineStream} (h : s.done = true)
    (handlings : List Handling) : ∀ q ∈ asked cancelled s handlings, q.answer = none := by
  induction handlings generalizing cancelled s with
  | nil => simp [asked]
  | cons a more ih =>
      cases a with
      | cancels => exact ih h
      | uncancels => exact ih h
      | asks =>
          have hdone := (Asked.asking ⟨s, cancelled⟩).of_done h
          exact List.forall_mem_cons.mpr ⟨hdone.1, ih hdone.2⟩

theorem exists_asked_after {cancelled : Bool} {s : LineStream} {handlings : List Handling}
    {pre post : List Asked} {q : Asked} (h : asked cancelled s handlings = pre ++ q :: post) :
    ∃ cancelled' more, post = asked cancelled' q.after more := by
  induction handlings generalizing cancelled s pre with
  | nil => simp [asked] at h
  | cons a more ih =>
      cases a with
      | cancels => exact ih h
      | uncancels => exact ih h
      | asks =>
          cases pre with
          | nil =>
              obtain ⟨rfl, rfl⟩ := List.cons.inj h
              exact ⟨cancelled, more, rfl⟩
          | cons p pre => exact ih (List.cons.inj h).2

def raws (asks : List Asked) : List (List UInt8) := asks.filterMap Asked.answer

theorem flatten_raws_cons (q : Asked) (asks : List Asked) :
    (raws (q :: asks)).flatten = q.answer.getD [] ++ (raws asks).flatten := by
  cases h : q.answer <;> simp [raws, h]

theorem left_of_asked {cancelled : Bool} {s : LineStream} {handlings : List Handling}
    {pre post : List Asked} {q : Asked} (h : asked cancelled s handlings = pre ++ q :: post)
    (hpre : ∀ p ∈ pre, p.cancelled = false) :
    s.left = (raws pre).flatten ++ q.stream.left := by
  induction handlings generalizing cancelled s pre with
  | nil => simp [asked] at h
  | cons a more ih =>
      cases a with
      | cancels => exact ih h hpre
      | uncancels => exact ih h hpre
      | asks =>
          cases pre with
          | nil =>
              obtain ⟨rfl, -⟩ := List.cons.inj h
              rfl
          | cons p pre =>
              obtain ⟨rfl, hmore⟩ := List.cons.inj h
              obtain ⟨rfl, hrest⟩ := List.forall_mem_cons.mp hpre
              calc s.left
                  = (Asked.answer ⟨s, false⟩).getD [] ++ (Asked.after ⟨s, false⟩).left :=
                    (Asked.asking ⟨s, false⟩).left_eq.1
                _ = (raws (⟨s, false⟩ :: pre)).flatten ++ q.stream.left := by
                    rw [ih hmore hrest, flatten_raws_cons, List.append_assoc]

theorem left_new (reads : List Supply) : (LineStream.new reads).left = beforeStop false reads := rfl

theorem stream_gives_each_byte_once (reads : List Supply) (cancelled : Bool)
    (handlings : List Handling) :
    (∀ q ∈ asked cancelled (.new reads) handlings,
      ∀ raw ∈ q.answer, raw ≠ [] ∧ lineFeed ∉ raw.dropLast) ∧
    (∀ pre q post, asked cancelled (.new reads) handlings = pre ++ q :: post →
      (∀ p ∈ pre ++ [q], p.cancelled = false) →
        (raws pre).flatten <+: beforeStop false reads ∧
        (q.answer = none ↔ (raws pre).flatten = beforeStop false reads)) ∧
    (∀ q ∈ asked cancelled (.new reads) handlings, q.cancelled = true → q.answer = none) ∧
    (∀ pre q post, asked cancelled (.new reads) handlings = pre ++ q :: post →
      q.answer = none ∨ q.fails → ∀ p ∈ post, p.answer = none) := by
  refine ⟨fun q _ => q.asking.raw_shape, fun pre q post h hflags => ?_,
    fun q _ hq => ?_, fun pre q post h hq => ?_⟩
  · have hpre : ∀ p ∈ pre, p.cancelled = false := fun p hp => hflags p (by simp [hp])
    have hleft := left_of_asked h hpre
    rw [left_new] at hleft
    have hasking := q.asking
    rw [hflags q (by simp)] at hasking
    refine ⟨hleft ▸ List.prefix_append _ _, ?_⟩
    rw [hasking.left_eq.2, hleft, List.self_eq_append_right]
  · have hasking := q.asking
    rw [hq] at hasking
    exact hasking.answer_of_cancelled
  · obtain ⟨cancelled', more, rfl⟩ := exists_asked_after h
    exact answer_of_asked_done (Asked.done_after hq) more

example : (asked false (.new [.bytes [97], .ended, .bytes [98, 10, 99], .failed, .bytes [100]])
    [.asks, .asks, .asks, .asks]).map Asked.answer =
      [some [97], some [98, 10], some [99], none] := by decide

end ScriptBench.Run
