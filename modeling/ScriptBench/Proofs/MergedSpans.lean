import ScriptBench.Proofs.SpanUnion

namespace ScriptBench.Highlight

instance (r : ErrorRange) (i : Nat) : Decidable (r.covers i) :=
  inferInstanceAs (Decidable (_ ∧ _))

inductive SpanAt : List Span → Nat → Span → Prop
  | here {s rest i} : i < s.length → SpanAt (s :: rest) i s
  | later {s t rest i} : SpanAt rest i t → SpanAt (s :: rest) (s.length + i) t

theorem SpanAt.tagsAt_eq {spans : List Span} {i : Nat} {s : Span} (h : SpanAt spans i s) :
    tagsAt spans i = s.tags := by
  induction h with
  | here hi => exact if_pos hi
  | @later s t rest i _ ih => rw [tagsAt_cons, if_neg (by omega), Nat.add_sub_cancel_left, ih]

theorem SpanAt.lt_totalLength {spans : List Span} {i : Nat} {s : Span} (h : SpanAt spans i s) :
    i < totalLength spans := by
  induction h with
  | here hi =>
      rw [totalLength]
      omega
  | later _ ih =>
      rw [totalLength]
      omega

theorem exists_spanAt {spans : List Span} {i : Nat} (hi : i < totalLength spans) :
    ∃ s, SpanAt spans i s := by
  induction spans generalizing i with
  | nil => cases hi
  | cons s rest ih =>
      rw [totalLength] at hi
      by_cases hs : i < s.length
      · exact ⟨s, .here hs⟩
      · obtain ⟨t, ht⟩ := ih (i := i - s.length) (by omega)
        have hsplit : i = s.length + (i - s.length) := by omega
        rw [hsplit]
        exact ⟨t, .later ht⟩

theorem Tags.eq_ite_insert_error {t s : Tags} {p : Prop} [Decidable p]
    (hkeyword : t.keyword = s.keyword) (herror : t.error = true ↔ s.error = true ∨ p) :
    t = if p then s.insert .error else s := by
  obtain ⟨keyword, error⟩ := t
  obtain rfl : keyword = s.keyword := hkeyword
  split
  · rename_i hp
    obtain rfl : error = true := herror.mpr (.inr hp)
    rfl
  · rename_i hp
    obtain rfl : error = s.error := Bool.eq_iff_iff.mpr (herror.trans (or_iff_left hp))
    rfl

theorem tagsAt_merge (spans : List Span) (ranges : List ErrorRange) {i : Nat}
    (hi : i < totalLength spans) : tagsAt (merge spans ranges) i =
      if ∃ r ∈ ranges, r.covers i then (tagsAt spans i).insert .error else tagsAt spans i := by
  refine Tags.eq_ite_insert_error (keyword_merge spans ranges i) ?_
  rw [error_merge, and_iff_right hi]

theorem Tags.insert_insert (t : Tags) (tag : Tag) : (t.insert tag).insert tag = t.insert tag := by
  cases tag <;> rfl

theorem merge_congr {spans spans' : List Span} {ranges ranges' : List ErrorRange}
    (hlen : totalLength spans' = totalLength spans)
    (htags : ∀ i < totalLength spans, tagsAt spans' i = tagsAt spans i)
    (hcovered : ∀ i < totalLength spans,
      ((∃ r ∈ ranges', r.covers i) ↔ ∃ r ∈ ranges, r.covers i)) :
    merge spans' ranges' = merge spans ranges := by
  refine (eq_iff_of_canonical (canonical_merge _ _)).mpr ⟨canonical_merge _ _, ?_, fun i hi => ?_⟩
  · rw [totalLength_merge, totalLength_merge, hlen]
  · rw [totalLength_merge] at hi
    rw [tagsAt_merge _ _ (hlen.symm ▸ hi), tagsAt_merge _ _ hi]
    simp only [htags i hi, hcovered i hi]

theorem merge_merge (spans : List Span) (a b : List ErrorRange) :
    merge (merge spans a) b = merge spans (a ++ b) := by
  refine (eq_iff_of_canonical (canonical_merge _ _)).mpr ⟨canonical_merge _ _, ?_, fun i hi => ?_⟩
  · rw [totalLength_merge, totalLength_merge, totalLength_merge]
  · rw [totalLength_merge] at hi
    rw [tagsAt_merge _ _ (by rwa [totalLength_merge]), tagsAt_merge _ _ hi, tagsAt_merge _ _ hi]
    simp only [List.mem_append, or_and_right, exists_or]
    by_cases ha : ∃ r ∈ a, r.covers i
    · simp only [ha, true_or, if_true, Tags.insert_insert, ite_self]
    · simp only [ha, false_or, if_false]

theorem merge_again (spans : List Span) (ranges : List ErrorRange) :
    merge (merge spans ranges) ranges = merge spans ranges := by
  rw [merge_merge]
  refine merge_congr rfl (fun _ _ => rfl) fun i _ => ?_
  simp only [List.mem_append, or_self]

theorem eq_merge_iff {spans out : List Span} {ranges : List ErrorRange} :
    out = merge spans ranges ↔ Canonical out ∧ totalLength out = totalLength spans ∧
      ∀ i s, SpanAt spans i s → tagsAt out i =
        if ∃ r ∈ ranges, r.covers i then s.tags.insert .error else s.tags := by
  rw [eq_iff_of_canonical (canonical_merge _ _), totalLength_merge]
  refine and_congr_right fun _ => and_congr_right fun _ => ⟨fun h i s hs => ?_, fun h i hi => ?_⟩
  · rw [h i hs.lt_totalLength, tagsAt_merge _ _ hs.lt_totalLength, hs.tagsAt_eq]
  · obtain ⟨s, hs⟩ := exists_spanAt hi
    rw [h i s hs, tagsAt_merge _ _ hi, hs.tagsAt_eq]

theorem merge_canonical_by_offset (spans : List Span) (ranges : List ErrorRange) :
    (∀ out, out = merge spans ranges ↔ Canonical out ∧ totalLength out = totalLength spans ∧
      ∀ i s, SpanAt spans i s → tagsAt out i =
        if ∃ r ∈ ranges, r.covers i then s.tags.insert .error else s.tags) ∧
    (∀ i, i < totalLength spans ↔ ∃ s, SpanAt spans i s) ∧
    (∀ spans' ranges', totalLength spans' = totalLength spans →
      (∀ i s s', SpanAt spans i s → SpanAt spans' i s' → s'.tags = s.tags ∧
        ((∃ r ∈ ranges', r.covers i) ↔ ∃ r ∈ ranges, r.covers i)) →
      merge spans' ranges' = merge spans ranges) ∧
    (∀ more, merge (merge spans ranges) more = merge spans (ranges ++ more)) ∧
    merge (merge spans ranges) ranges = merge spans ranges := by
  refine ⟨fun _ => eq_merge_iff, fun i => ⟨exists_spanAt, fun ⟨_, hs⟩ => hs.lt_totalLength⟩, ?_,
    merge_merge spans ranges, merge_again spans ranges⟩
  intro spans' ranges' hlen hsame
  have hboth (i : Nat) (hi : i < totalLength spans) :
      tagsAt spans' i = tagsAt spans i ∧
        ((∃ r ∈ ranges', r.covers i) ↔ ∃ r ∈ ranges, r.covers i) := by
    obtain ⟨s, hs⟩ := exists_spanAt hi
    obtain ⟨s', hs'⟩ := exists_spanAt (hlen ▸ hi)
    rw [hs.tagsAt_eq, hs'.tagsAt_eq]
    exact hsame i s s' hs hs'
  exact merge_congr hlen (fun i hi => (hboth i hi).1) fun i hi => (hboth i hi).2

end ScriptBench.Highlight
