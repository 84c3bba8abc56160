import ScriptBench.Highlight.Overlay

namespace ScriptBench.Highlight

theorem tagsAt_cons (s : Span) (rest : List Span) (i : Nat) :
    tagsAt (s :: rest) i = if i < s.length then s.tags else tagsAt rest (i - s.length) := rfl

def expand (spans : List Span) : List Tags :=
  spans.flatMap fun s => List.replicate s.length s.tags

theorem expand_cons (s : Span) (rest : List Span) :
    expand (s :: rest) = List.replicate s.length s.tags ++ expand rest := rfl

theorem length_expand (spans : List Span) : (expand spans).length = totalLength spans := by
  induction spans with
  | nil => rfl
  | cons s rest ih =>
      rw [expand_cons, List.length_append, List.length_replicate, ih, totalLength]

theorem getD_expand (spans : List Span) (i : Nat) :
    (expand spans)[i]?.getD .plain = tagsAt spans i := by
  induction spans generalizing i with
  | nil => rfl
  | cons s rest ih =>
      rw [expand_cons, tagsAt]
      split
      · rename_i h
        rw [List.getElem?_append_left (by simpa using h)]
        simp [h]
      · rename_i h
        rw [List.getElem?_append_right (by simpa using h), List.length_replicate]
        exact ih (i - s.length)

theorem grow_succ (n : Nat) (tags : Tags) (spans : List Span) :
    grow (n + 1) tags spans = grow 1 tags (grow n tags spans) := by
  cases n with
  | zero => simp [grow]
  | succ n =>
      cases spans with
      | nil => simp [grow]; omega
      | cons s rest =>
          by_cases h : s.tags = tags
          · simp [grow, h]; omega
          · simp [grow, h]; omega

theorem runs_replicate_append (n : Nat) (t : Tags) (ts : List Tags) :
    runs (List.replicate n t ++ ts) = grow n t (runs ts) := by
  induction n with
  | zero => simp [grow]
  | succ n ih =>
      rw [List.replicate_succ, List.cons_append, runs, ih]
      exact (grow_succ n t (runs ts)).symm

theorem runs_expand (spans : List Span) : runs (expand spans) = joined spans := by
  induction spans with
  | nil => rfl
  | cons s rest ih =>
      rw [expand_cons, runs_replicate_append, ih, joined]

theorem joined_of_canonical {spans : List Span} (h : Canonical spans) : joined spans = spans := by
  induction h with
  | nil => rfl
  | @single s hs =>
      have hn : s.length ≠ 0 := Nat.pos_iff_ne_zero.mp hs
      simp [joined, grow, hn]
  | @cons s t rest hs hne _ ih =>
      have hn : s.length ≠ 0 := Nat.pos_iff_ne_zero.mp hs
      have ht : ¬ t.tags = s.tags := fun e => hne e.symm
      rw [joined, ih]
      simp [grow, hn, ht]

theorem eq_of_expand {a b : List Span} (ha : Canonical a) (hb : Canonical b)
    (h : expand a = expand b) : a = b :=
  calc a = joined a := (joined_of_canonical ha).symm
    _ = runs (expand a) := (runs_expand a).symm
    _ = runs (expand b) := by rw [h]
    _ = joined b := runs_expand b
    _ = b := joined_of_canonical hb

theorem eq_of_tagsAt {a b : List Span} (ha : Canonical a) (hb : Canonical b)
    (hlen : totalLength a = totalLength b) (htags : ∀ i, tagsAt a i = tagsAt b i) : a = b := by
  refine eq_of_expand ha hb (List.ext_getElem ?_ fun i h1 h2 => ?_)
  · rw [length_expand, length_expand, hlen]
  · have h := htags i
    rw [← getD_expand, ← getD_expand] at h
    simpa [List.getElem?_eq_getElem h1, List.getElem?_eq_getElem h2] using h

theorem tagsAt_of_totalLength_le {spans : List Span} {i : Nat} (hi : totalLength spans ≤ i) :
    tagsAt spans i = .plain := by
  rw [← getD_expand, List.getElem?_eq_none (by rwa [length_expand])]
  rfl

theorem eq_iff_of_canonical {a out : List Span} (ha : Canonical a) :
    out = a ↔ Canonical out ∧ totalLength out = totalLength a ∧
      ∀ i < totalLength a, tagsAt out i = tagsAt a i := by
  constructor
  · rintro rfl
    exact ⟨ha, rfl, fun _ _ => rfl⟩
  · rintro ⟨hout, hlen, htags⟩
    refine eq_of_tagsAt hout ha hlen fun i => ?_
    by_cases hi : i < totalLength a
    · exact htags i hi
    · have hle := Nat.le_of_not_lt hi
      rw [tagsAt_of_totalLength_le hle, tagsAt_of_totalLength_le (hlen ▸ hle)]

theorem canonical_joined (spans : List Span) : Canonical (joined spans) := by
  rw [← runs_expand]
  exact canonical_runs _

theorem totalLength_joined (spans : List Span) :
    totalLength (joined spans) = totalLength spans := by
  rw [← runs_expand, totalLength_runs, length_expand]

theorem tagsAt_joined (spans : List Span) (i : Nat) :
    tagsAt (joined spans) i = tagsAt spans i := by
  rw [← runs_expand, tagsAt_runs, getD_expand]

theorem canonical_overlay (base top : List Span) : Canonical (overlay base top) := by
  fun_induction overlay base top with
  | case1 top => exact canonical_joined top
  | case2 base _ => exact canonical_joined base
  | case3 b base t top _ ih => exact canonical_grow _ _ ih
  | case4 b base t top _ _ ih => exact canonical_grow _ _ ih
  | case5 b base t top _ _ ih => exact canonical_grow _ _ ih

theorem totalLength_overlay (base top : List Span) :
    totalLength (overlay base top) = max (totalLength base) (totalLength top) := by
  fun_induction overlay base top with
  | case1 top => rw [totalLength_joined]; simp [totalLength]
  | case2 base _ => rw [totalLength_joined]; simp [totalLength]
  | case3 b base t top h ih =>
      rw [totalLength_grow, ih]
      simp only [totalLength]
      omega
  | case4 b base t top h1 h2 ih =>
      rw [totalLength_grow, ih]
      simp only [totalLength]
      omega
  | case5 b base t top h1 h2 ih =>
      rw [totalLength_grow, ih]
      simp only [totalLength]
      omega

theorem plain_union (a : Tags) : Tags.plain.union a = a := by
  rw [Tags.union_comm, Tags.union_plain]

-- The spans cut off at the shorter of the two heads: what is left of the longer one goes on with
-- the same tags, so each offset behind the cut keeps them.
theorem tagsAt_cut (n : Nat) (s : Span) (rest : List Span) (i : Nat) (hn : n ≤ s.length) :
    tagsAt (s :: rest) i =
      if i < n then s.tags else tagsAt (⟨s.length - n, s.tags⟩ :: rest) (i - n) := by
  simp only [tagsAt]
  by_cases h1 : i < n
  · have h2 : i < s.length := by omega
    simp [h1, h2]
  · by_cases h2 : i < s.length
    · have h3 : i - n < s.length - n := by omega
      simp [h1, h2, h3]
    · have h3 : ¬ i - n < s.length - n := by omega
      have h4 : i - n - (s.length - n) = i - s.length := by omega
      simp [h1, h2, h3, h4]

theorem tagsAt_overlay (base top : List Span) (i : Nat) :
    tagsAt (overlay base top) i = (tagsAt base i).union (tagsAt top i) := by
  fun_induction overlay base top generalizing i with
  | case1 top =>
      rw [tagsAt_joined]
      exact (plain_union _).symm
  | case2 base _ =>
      rw [tagsAt_joined]
      exact (Tags.union_plain _).symm
  | case3 b base t top h ih =>
      rw [tagsAt_grow, tagsAt_cons b base, tagsAt_cut b.length t top i (by omega), ih]
      split <;> rfl
  | case4 b base t top h1 h2 ih =>
      rw [tagsAt_grow, tagsAt_cons t top, tagsAt_cut t.length b base i (by omega), ih]
      split <;> rfl
  | case5 b base t top h1 h2 ih =>
      have hlen : b.length = t.length := by omega
      rw [tagsAt_grow, ih, tagsAt_cons b base, tagsAt_cons t top, hlen]
      split <;> rfl

theorem canonical_errorSpansFrom (length cursor : Nat) (ranges : List ErrorRange) :
    Canonical (errorSpansFrom length cursor ranges) := by
  induction ranges generalizing cursor with
  | nil => exact canonical_grow _ _ .nil
  | cons r rest ih => exact canonical_grow _ _ (canonical_grow _ _ (ih _))

theorem totalLength_errorSpansFrom {length cursor : Nat} (ranges : List ErrorRange)
    (hc : cursor ≤ length) :
    totalLength (errorSpansFrom length cursor ranges) = length - cursor := by
  induction ranges generalizing cursor with
  | nil =>
      rw [errorSpansFrom, totalLength_grow]
      rfl
  | cons r rest ih =>
      simp only [errorSpansFrom]
      rw [totalLength_grow, totalLength_grow, ih (by omega)]
      omega

theorem keyword_errorSpansFrom (length cursor : Nat) (ranges : List ErrorRange) (i : Nat) :
    (tagsAt (errorSpansFrom length cursor ranges) i).keyword = false := by
  induction ranges generalizing cursor i with
  | nil =>
      rw [errorSpansFrom, tagsAt_grow]
      split <;> rfl
  | cons r rest ih =>
      simp only [errorSpansFrom]
      rw [tagsAt_grow, tagsAt_grow]
      split
      · rfl
      · split
        · rfl
        · exact ih _ _

def Starting (ranges : List ErrorRange) : Prop := ranges.Pairwise fun a b => a.start ≤ b.start

-- The cursor only moves forward. What lies before it is painted; a range behind it starts no
-- earlier than the ranges seen, so nothing that is still to come covers the gap before its start.
theorem error_errorSpansFrom {length cursor : Nat} {ranges : List ErrorRange}
    (hs : Starting ranges) (hc : cursor ≤ length) (i : Nat) :
    (tagsAt (errorSpansFrom length cursor ranges) i).error = true ↔
      cursor + i < length ∧ ∃ r ∈ ranges, r.covers (cursor + i) := by
  induction ranges generalizing cursor i with
  | nil =>
      rw [errorSpansFrom, tagsAt_grow]
      split <;> simp [Tags.plain, tagsAt]
  | cons r rest ih =>
      obtain ⟨hr, hrest⟩ := List.pairwise_cons.mp hs
      simp only [errorSpansFrom]
      generalize hstart : max (min r.start length) cursor = start
      generalize hstop : min r.stop length = stop
      rw [tagsAt_grow, tagsAt_grow]
      by_cases hgap : i < start - cursor
      · have hno : ∀ q ∈ r :: rest, ¬ q.covers (cursor + i) := by
          intro q hq hcov
          have hle : r.start ≤ q.start := by
            rcases List.mem_cons.mp hq with rfl | hq
            · exact Nat.le_refl _
            · exact hr q hq
          have := hcov.1
          omega
        simp only [if_pos hgap, Tags.plain, Bool.false_eq_true, false_iff, not_and, not_exists]
        exact fun _ q hq => hno q hq
      · by_cases hin : i - (start - cursor) < stop - start
        · have hcov : r.covers (cursor + i) := ⟨by omega, by omega⟩
          simp only [if_neg hgap, if_pos hin, Tags.onlyError, true_iff]
          exact ⟨by omega, r, List.mem_cons_self, hcov⟩
        · have hpos : max start stop + (i - (start - cursor) - (stop - start)) = cursor + i := by
            omega
          rw [if_neg hgap, if_neg hin, ih hrest (by omega), hpos]
          have hnot : cursor + i < length → ¬ r.covers (cursor + i) := by
            intro hl hcov
            have := hcov.2
            omega
          constructor
          · rintro ⟨hl, q, hq, hcov⟩
            exact ⟨hl, q, List.mem_cons_of_mem _ hq, hcov⟩
          · rintro ⟨hl, q, hq, hcov⟩
            rcases List.mem_cons.mp hq with rfl | hq
            · exact absurd hcov (hnot hl)
            · exact ⟨hl, q, hq, hcov⟩

theorem starting_mergeSort (ranges : List ErrorRange) :
    Starting (ranges.mergeSort fun a b => a.start ≤ b.start) := by
  have htrans (a b c : ErrorRange) (hab : decide (a.start ≤ b.start) = true)
      (hbc : decide (b.start ≤ c.start) = true) : decide (a.start ≤ c.start) = true := by
    simp only [decide_eq_true_eq] at hab hbc ⊢
    exact Nat.le_trans hab hbc
  have htotal (a b : ErrorRange) :
      (decide (a.start ≤ b.start) || decide (b.start ≤ a.start)) = true := by
    simp only [Bool.or_eq_true, decide_eq_true_eq]
    exact Nat.le_total _ _
  have h := List.pairwise_mergeSort htrans htotal ranges
  simpa [Starting] using h

theorem canonical_errorSpans (ranges : List ErrorRange) (length : Nat) :
    Canonical (errorSpans ranges length) := canonical_errorSpansFrom _ _ _

theorem totalLength_errorSpans (ranges : List ErrorRange) (length : Nat) :
    totalLength (errorSpans ranges length) = length :=
  totalLength_errorSpansFrom _ (Nat.zero_le _)

theorem error_errorSpans (ranges : List ErrorRange) (length i : Nat) :
    (tagsAt (errorSpans ranges length) i).error = true ↔
      i < length ∧ ∃ r ∈ ranges, r.covers i := by
  rw [errorSpans, error_errorSpansFrom (starting_mergeSort ranges) (Nat.zero_le _)]
  simp only [Nat.zero_add, List.mem_mergeSort]

theorem canonical_merge (spans : List Span) (ranges : List ErrorRange) :
    Canonical (merge spans ranges) := canonical_overlay _ _

theorem totalLength_merge (spans : List Span) (ranges : List ErrorRange) :
    totalLength (merge spans ranges) = totalLength spans := by
  rw [merge, totalLength_overlay, totalLength_errorSpans, Nat.max_self]

theorem keyword_merge (spans : List Span) (ranges : List ErrorRange) (i : Nat) :
    (tagsAt (merge spans ranges) i).keyword = (tagsAt spans i).keyword := by
  rw [merge, tagsAt_overlay, Tags.union, errorSpans, keyword_errorSpansFrom, Bool.or_false]

theorem error_merge (spans : List Span) (ranges : List ErrorRange) (i : Nat) :
    (tagsAt (merge spans ranges) i).error = true ↔ (tagsAt spans i).error = true ∨
      i < totalLength spans ∧ ∃ r ∈ ranges, r.covers i := by
  rw [merge, tagsAt_overlay, Tags.union, Bool.or_eq_true, error_errorSpans]

end ScriptBench.Highlight
