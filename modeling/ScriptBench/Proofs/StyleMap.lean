import ScriptBench.Highlight.StyleMap
import ScriptBench.Proofs.KeywordMatch
import ScriptBench.Proofs.SpanUnion

namespace ScriptBench.Highlight

open Diagnostic (PositionSet)

theorem eq_empty_of_isEmpty {positions : PositionSet} (h : positions.isEmpty = true) :
    positions = .empty := by
  obtain ⟨ps, hps⟩ := positions
  have hnil : ps = [] := List.isEmpty_iff.mp h
  subst hnil
  rfl

theorem merge_nil {spans : List Span} (h : Canonical spans) : merge spans [] = spans := by
  refine eq_of_tagsAt (canonical_merge spans []) h (totalLength_merge spans []) fun i => ?_
  have hk := keyword_merge spans [] i
  have he := error_merge spans [] i
  simp only [List.not_mem_nil, false_and, exists_false, and_false, or_false] at he
  cases hm : tagsAt (merge spans []) i with
  | mk k e =>
      cases hs : tagsAt spans i with
      | mk k' e' =>
          rw [hm, hs] at hk he
          have hee : e = e' := Bool.eq_iff_iff.mpr he
          rw [show k = k' from hk, hee]

theorem styleMap_eq_merge (keywords : List String) (text : String) (positions : PositionSet) :
    styleMap keywords text positions =
      merge (keywordSpans keywords text) (errorRanges text positions) := by
  rw [styleMap]
  split
  · rename_i h
    have hnone : errorRanges text positions = [] := by
      rw [eq_empty_of_isEmpty h]
      simp [errorRanges, PositionSet.empty]
    rw [hnone, merge_nil (canonical_keywordSpans keywords text)]
  · rfl

theorem styleMap_canonical_by_offset (keywords : List String) (text : String)
    (positions : PositionSet) :
    Canonical (styleMap keywords text positions) ∧
    totalLength (styleMap keywords text positions) = text.length ∧
    (∃ words ms, Listed keywords words ∧ Matched words text.toList 0 ms ∧
      ∀ i, (tagsAt (styleMap keywords text positions) i).keyword = true ↔ ∃ m ∈ ms, m.covers i) ∧
    (∀ i, (tagsAt (styleMap keywords text positions) i).error = true ↔
      i < text.length ∧ ∃ r ∈ errorRanges text positions, r.covers i) ∧
    styleMap keywords text positions =
      merge (keywordSpans keywords text) (errorRanges text positions) := by
  have heq := styleMap_eq_merge keywords text positions
  have hlen := totalLength_keywordSpans keywords text
  refine ⟨?_, ?_, ?_, fun i => ?_, heq⟩
  · rw [heq]
    exact canonical_merge _ _
  · rw [heq, totalLength_merge, hlen]
  · obtain ⟨ms, hm, hkey⟩ := keyword_keywordSpans keywords text
    refine ⟨_, ms, listed_searchWords keywords, hm, fun i => ?_⟩
    rw [heq, keyword_merge, hkey]
  · have hplain : (tagsAt (keywordSpans keywords text) i).error = false := by
      rw [tagsAt_keywordSpans]
      rfl
    rw [heq, error_merge, hplain, hlen]
    simp

end ScriptBench.Highlight
