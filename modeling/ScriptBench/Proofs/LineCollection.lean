import ScriptBench.Proofs.LinePieces

namespace ScriptBench.Run

theorem cutLine?_eq_none_iff {bs : List UInt8} : cutLine? bs = none ↔ lineFeed ∉ bs := by
  induction bs with
  | nil => simp [cutLine?]
  | cons b bs ih =>
      by_cases hb : b = lineFeed
      · simp [cutLine?, hb]
      · simp [cutLine?, hb, ih, Ne.symm hb]

theorem cutLine?_eq_some_iff {bs front rest : List UInt8} :
    cutLine? bs = some (front, rest) ↔
      ∃ line, lineFeed ∉ line ∧ front = line ++ [lineFeed] ∧ bs = line ++ lineFeed :: rest := by
  constructor
  · intro h
    induction bs generalizing front with
    | nil => cases h
    | cons b bs ih =>
        by_cases hb : b = lineFeed
        · simp only [cutLine?, hb, if_true, Option.some.injEq, Prod.mk.injEq] at h
          obtain ⟨rfl, rfl⟩ := h
          exact ⟨[], List.not_mem_nil, rfl, by rw [hb, List.nil_append]⟩
        · simp only [cutLine?, hb, if_false, Option.map_eq_some_iff, Prod.exists,
            Prod.mk.injEq] at h
          obtain ⟨front', rest', hcut, rfl, rfl⟩ := h
          obtain ⟨line, hline, rfl, rfl⟩ := ih hcut
          exact ⟨b :: line, by simp [hline, Ne.symm hb], rfl, rfl⟩
  · rintro ⟨line, hline, rfl, rfl⟩
    rw [cutLine?_append, cutLine?_eq_none_iff.mpr hline]
    simp [cutLine?]

inductive CutBehindFeeds : List UInt8 → List (List UInt8) → Prop
  | nil : CutBehindFeeds [] []
  | remainder {bs} : bs ≠ [] → lineFeed ∉ bs → CutBehindFeeds bs [bs]
  | line {line rest ps} : lineFeed ∉ line → CutBehindFeeds rest ps →
      CutBehindFeeds (line ++ lineFeed :: rest) ((line ++ [lineFeed]) :: ps)

theorem CutBehindFeeds.eq_pieces {bs : List UInt8} {ps : List (List UInt8)}
    (h : CutBehindFeeds bs ps) : ps = pieces bs := by
  induction h with
  | nil => rfl
  | @remainder bs hne hno => rw [pieces_of_not_cut (cutLine?_eq_none_iff.mpr hno), if_neg hne]
  | @line line rest ps hno _ ih =>
      have hcut : cutLine? (line ++ lineFeed :: rest) = some (line ++ [lineFeed], rest) :=
        cutLine?_eq_some_iff.mpr ⟨line, hno, rfl, rfl⟩
      rw [pieces_of_cut hcut, ih]

theorem cutBehindFeeds_pieces (bs : List UInt8) : CutBehindFeeds bs (pieces bs) := by
  induction hn : bs.length using Nat.strongRecOn generalizing bs with
  | ind n ih =>
      cases hcut : cutLine? bs with
      | none =>
          rw [pieces_of_not_cut hcut]
          split
          · rename_i hnil
            rw [hnil]
            exact .nil
          · rename_i hne
            exact .remainder hne (cutLine?_eq_none_iff.mp hcut)
      | some cut =>
          obtain ⟨front, rest⟩ := cut
          obtain ⟨line, hline, rfl, rfl⟩ := cutLine?_eq_some_iff.mp hcut
          rw [pieces_of_cut hcut]
          have hshort : rest.length < n := by
            rw [← hn, List.length_append, List.length_cons]
            omega
          exact .line hline (ih rest.length hshort rest rfl)

theorem length_pieces_le (bs : List UInt8) : (pieces bs).length ≤ bs.length := by
  induction bs with
  | nil => exact Nat.le_refl _
  | cons b bs ih =>
      rw [pieces]
      split
      · exact Nat.succ_le_succ ih
      · cases hp : pieces bs with
        | nil => exact Nat.succ_le_succ (Nat.zero_le _)
        | cons p ps =>
            rw [hp] at ih
            exact Nat.le_succ_of_le ih

def Supply.Gives : Supply → Prop
  | .bytes bs => bs ≠ []
  | .interrupted => True
  | .failed => False
  | .ended => False

theorem steady_of_gives {reads : List Supply} (h : ∀ r ∈ reads, r.Gives) : Steady reads := by
  induction reads with
  | nil => exact .nil
  | cons r reads ih =>
      obtain ⟨hr, hreads⟩ := List.forall_mem_cons.mp h
      cases r with
      | bytes bs =>
          cases bs with
          | nil => exact absurd rfl hr
          | cons b bs => exact .bytes (ih hreads)
      | interrupted => exact .interrupted (ih hreads)
      | failed => exact hr.elim
      | ended => exact hr.elim

/-- The bytes of one read as a buffer takes them up; a capacity of 0 stands for no bound. -/
def parts (capacity : Nat) (bs : List UInt8) : List (List UInt8) :=
  if capacity = 0 ∨ bs.length ≤ capacity then [bs]
  else bs.take capacity :: parts capacity (bs.drop capacity)
termination_by bs.length
decreasing_by simp only [List.length_drop]; omega

theorem flatten_parts (capacity : Nat) (bs : List UInt8) : (parts capacity bs).flatten = bs := by
  fun_induction parts capacity bs with
  | case1 bs h => simp
  | case2 bs h ih => rw [List.flatten_cons, ih, List.take_append_drop]

theorem ne_nil_of_mem_parts {capacity : Nat} {bs p : List UInt8} (hbs : bs ≠ [])
    (hp : p ∈ parts capacity bs) : p ≠ [] := by
  fun_induction parts capacity bs with
  | case1 bs h =>
      obtain rfl : p = bs := List.mem_singleton.mp hp
      exact hbs
  | case2 bs h ih =>
      rw [not_or] at h
      rcases List.mem_cons.mp hp with rfl | hp
      · simp [h.1, hbs]
      · refine ih ?_ hp
        rw [ne_eq, List.drop_eq_nil_iff]
        omega

def Supply.handOut (capacity : Nat) : Supply → List Supply
  | .bytes bs => (parts capacity bs).map .bytes
  | r => [r]

def handedOut (capacity : Nat) (reads : List Supply) : List Supply :=
  reads.flatMap (Supply.handOut capacity)

theorem contents_bytes (ps : List (List UInt8)) : contents (ps.map .bytes) = ps.flatten := by
  induction ps with
  | nil => rfl
  | cons p ps ih => exact congrArg (p ++ ·) ih

theorem contents_handOut (capacity : Nat) (r : Supply) :
    contents (r.handOut capacity) = r.content := by
  cases r with
  | bytes bs => exact (contents_bytes _).trans (flatten_parts capacity bs)
  | interrupted => rfl
  | failed => rfl
  | ended => rfl

theorem contents_handedOut (capacity : Nat) (reads : List Supply) :
    contents (handedOut capacity reads) = contents reads := by
  induction reads with
  | nil => rfl
  | cons r reads ih =>
      calc contents (handedOut capacity (r :: reads))
          = contents (r.handOut capacity) ++ contents (handedOut capacity reads) := by
            rw [handedOut, List.flatMap_cons, contents, List.flatMap_append]
            rfl
        _ = contents (r :: reads) := by
            rw [contents_handOut, ih]
            rfl

theorem gives_of_mem_handOut {capacity : Nat} {r part : Supply} (h : r.Gives)
    (hpart : part ∈ r.handOut capacity) : part.Gives := by
  cases r with
  | bytes bs =>
      obtain ⟨p, hp, rfl⟩ := List.mem_map.mp hpart
      exact ne_nil_of_mem_parts h hp
  | interrupted =>
      obtain rfl := List.mem_singleton.mp hpart
      exact h
  | failed => exact h.elim
  | ended => exact h.elim

theorem gives_of_mem_handedOut {capacity : Nat} {reads : List Supply}
    (h : ∀ r ∈ reads, r.Gives) : ∀ r ∈ handedOut capacity reads, r.Gives := by
  intro part hpart
  obtain ⟨r, hr, hpart⟩ := List.mem_flatMap.mp hpart
  exact gives_of_mem_handOut (h r hr) hpart

namespace LineStream

inductive Collects : LineStream → List String → Prop
  | ended {s s'} : s.next false = (none, s') → Collects s []
  | line {s s' l ls} : s.next false = (some l, s') → Collects s' ls → Collects s (l :: ls)

theorem Collects.unique {s : LineStream} {ls ls' : List String} (h : s.Collects ls)
    (h' : s.Collects ls') : ls = ls' := by
  induction h generalizing ls' with
  | ended hnext =>
      cases h' with
      | ended _ => rfl
      | line hnext' _ => exact absurd (congrArg Prod.fst (hnext.symm.trans hnext')) (by simp)
  | line hnext _ ih =>
      cases h' with
      | ended hnext' => exact absurd (congrArg Prod.fst (hnext.symm.trans hnext')) (by simp)
      | line hnext' hmore =>
          obtain ⟨hl, rfl⟩ := Prod.mk.inj (hnext.symm.trans hnext')
          rw [Option.some.inj hl, ih hmore]

theorem collects_of_yields {s : LineStream} {ls : List String} (h : s.Yields ls) :
    s.Collects ls := by
  induction ls generalizing s with
  | nil => exact .ended (Prod.ext (next_of_yields_nil h) rfl)
  | cons l ls ih =>
      obtain ⟨s', hnext, hs'⟩ := next_of_yields_cons h
      exact .line hnext (ih hs')

theorem collect_of_collects {s : LineStream} {ls : List String} (h : s.Collects ls) {n : Nat}
    (hn : ls.length < n) : (rest.collect false n s).1 = ls := by
  induction h generalizing n with
  | ended hnext =>
      obtain ⟨n, rfl⟩ := Nat.exists_eq_add_of_lt hn
      simp [rest.collect, hnext]
  | line hnext _ ih =>
      cases n with
      | zero => cases hn
      | succ n => simp [rest.collect, hnext, ih (Nat.lt_of_succ_lt_succ hn)]

theorem bytesIn_eq (supply : List Supply) : Supply.bytesIn supply = (contents supply).length := by
  induction supply with
  | nil => rfl
  | cons r supply ih => cases r <;> simp [Supply.bytesIn, contents, Supply.content, ih]

theorem yields_new {reads : List Supply} (h : ∀ r ∈ reads, r.Gives) :
    (new reads).Yields (linesOf (contents reads)) := ⟨rfl, steady_of_gives h, rfl⟩

theorem collects_rest {reads : List Supply} (h : ∀ r ∈ reads, r.Gives) :
    (new reads).Collects ((new reads).rest false).1 := by
  have hcollects := collects_of_yields (yields_new h)
  have hbound : (linesOf (contents reads)).length < (new reads).bound + 1 := by
    have hle := length_pieces_le (contents reads)
    simp only [linesOf, List.length_map, bound, new, bytesIn_eq, List.length_nil]
    omega
  rw [rest, collect_of_collects hcollects hbound]
  exact hcollects

theorem collects_iff_cut_behind_feeds (capacity : Nat) {reads : List Supply}
    (h : ∀ r ∈ reads, r.Gives) :
    (new (handedOut capacity reads)).Collects ((new (handedOut capacity reads)).rest false).1 ∧
    ∀ lines, (new (handedOut capacity reads)).Collects lines ↔
      ∃ ps, CutBehindFeeds (contents reads) ps ∧ lines = ps.map decodeLine := by
  have hgives := @gives_of_mem_handedOut capacity reads h
  have hcollects := collects_of_yields (yields_new hgives)
  rw [contents_handedOut] at hcollects
  refine ⟨collects_rest hgives, fun lines => ⟨fun hlines => ?_, ?_⟩⟩
  · exact ⟨pieces (contents reads), cutBehindFeeds_pieces _, hlines.unique hcollects⟩
  · rintro ⟨ps, hps, rfl⟩
    rw [hps.eq_pieces]
    exact hcollects

-- A character of three bytes comes in two reads and through a buffer of one byte, and the carriage
-- return comes in another read than its line feed.
theorem collects_character_cut_by_reads :
    (∀ r ∈ [Supply.interrupted, .bytes [0xe2, 0x82], .bytes [0xac, 13], .interrupted,
        .bytes [10, 10, 98]], r.Gives) ∧
      (new (handedOut 1 [.interrupted, .bytes [0xe2, 0x82], .bytes [0xac, 13], .interrupted,
        .bytes [10, 10, 98]])).Collects ["€", "", "b"] := by
  have hgives : ∀ r ∈ [Supply.interrupted, .bytes [0xe2, 0x82], .bytes [0xac, 13], .interrupted,
      .bytes [10, 10, 98]], r.Gives := by simp [Supply.Gives]
  refine ⟨hgives, ((collects_iff_cut_behind_feeds 1 hgives).2 _).mpr ?_⟩
  exact ⟨_, cutBehindFeeds_pieces _, by decide +kernel⟩

end LineStream

end ScriptBench.Run
