import ScriptBench.Proofs.PaintedRange

namespace ScriptBench.Highlight

open Diagnostic (Position)

theorem Painted.stop_le_or {chars : List Char} {column : Option Nat} {r : ErrorRange}
    (h : Painted chars column r) :
    r.stop ≤ chars.length ∧ (∀ c ∈ column, c ≤ chars.length) ∨
      column = some r.stop ∧ chars.length < r.stop := by
  cases h with
  | line => simp
  | identifier hi hcolumn hid =>
      have hle := hid.stop_le_length
      refine .inl ⟨?_, by simpa using hcolumn⟩
      simp only
      split <;> omega
  | single hi hcolumn hc hpart =>
      have hi := (List.getElem?_eq_some_iff.mp hc).1
      exact .inl ⟨hi, by simpa using hcolumn⟩
  | identifierPast hpast hid => exact .inr ⟨rfl, hpast⟩
  | singlePast hpast hc hpart => exact .inr ⟨rfl, hpast⟩

theorem errorRanges_single {text : String} {p : Position} {g : ErrorRange}
    (h : Paints (text.toList.splitOn '\n') p g) : errorRanges text (.ofList [p]) = [g] := by
  have hlist : (Diagnostic.PositionSet.ofList [p]).toList = [p] := rfl
  rw [errorRanges, hlist, List.filterMap_cons_some (errorRange?_eq_some_iff.mpr h),
    List.filterMap_nil, List.mergeSort_singleton]

theorem spills_iff_column_past_separator (keywords : List String) (text : String) (p : Position)
    (chars : List Char) (hline : p.line ≠ 0)
    (hchars : (text.toList.splitOn '\n')[p.line - 1]? = some chars) (hne : chars ≠ []) :
    let start := lineStart (text.toList.splitOn '\n') p.line
    let below := start + chars.length + 1
    let marked i := (tagsAt (styleMap keywords text (.ofList [p])) i).error = true
    ∃ g, errorRanges text (.ofList [p]) = [g] ∧ start ≤ g.start ∧ g.start < start + chars.length ∧
      (g.stop ≤ below ↔ ∀ c ∈ p.column, c ≤ chars.length + 1) ∧
      ((∃ i, marked i ∧ ¬ (start ≤ i ∧ i < below)) ↔
        below < text.length ∧ ∃ c ∈ p.column, chars.length + 1 < c) := by
  intro start below marked
  obtain ⟨r, hr⟩ := exists_painted hne p.column
  obtain ⟨hlt, hinside⟩ := hr.bounds hne
  have hrange := errorRanges_single ⟨chars, r, hline, hchars, hne, hr, rfl⟩
  have hmarked (i : Nat) :
      marked i ↔ i < text.length ∧ start + r.start ≤ i ∧ i < start + r.stop := by
    refine (error_styleMap _ _ _ _).trans ?_
    rw [hrange]
    simp [ErrorRange.covers, start]
  refine ⟨_, hrange, Nat.le_add_right _ _, Nat.add_lt_add_left hinside _, ?_, ?_⟩
  · rcases hr.stop_le_or with ⟨hstop, hcolumn⟩ | ⟨hcolumn, hstop⟩
    · refine iff_of_true (by simp only [start, below]; omega) fun c hc => ?_
      exact Nat.le_succ_of_le (hcolumn c hc)
    · simp only [hcolumn, Option.mem_some_iff, forall_eq', start, below]
      omega
  · simp only [hmarked]
    rcases hr.stop_le_or with ⟨hstop, hcolumn⟩ | ⟨hcolumn, hstop⟩
    · refine iff_of_false ?_ ?_
      · rintro ⟨i, ⟨-, hfirst, hlast⟩, hout⟩
        omega
      · rintro ⟨-, c, hc, hpast⟩
        have := hcolumn c hc
        omega
    · simp only [hcolumn, Option.mem_some_iff, exists_eq_left']
      constructor
      · rintro ⟨i, ⟨htext, hfirst, hlast⟩, hout⟩
        omega
      · rintro ⟨htext, hpast⟩
        exact ⟨below, ⟨htext, by omega, by omega⟩, by omega⟩

theorem spill_of_column_six :
    let text := "a(\nbcd"
    (text.toList.splitOn '\n')[0]? = some "a(".toList ∧
      ∃ i, (tagsAt (styleMap [] text (.ofList [⟨1, some 6⟩])) i).error = true ∧ ¬ (0 ≤ i ∧ i < 3) := by
  intro text
  have hchars : (text.toList.splitOn '\n')[0]? = some "a(".toList := by decide
  obtain ⟨g, -, -, -, -, hspill⟩ :=
    spills_iff_column_past_separator [] text ⟨1, some 6⟩ "a(".toList (by decide) hchars (by decide)
  exact ⟨hchars, hspill.mpr ⟨by decide, 6, rfl, by decide⟩⟩

theorem late_column_paints_next_line :
    ¬ ∀ (text : String) (p : Position) (chars : List Char), p.line ≠ 0 →
      (text.toList.splitOn '\n')[p.line - 1]? = some chars → chars ≠ [] →
      ∀ g ∈ errorRanges text (.ofList [p]),
        lineStart (text.toList.splitOn '\n') p.line ≤ g.start ∧
          g.stop ≤ lineStart (text.toList.splitOn '\n') p.line + chars.length + 1 := by
  intro hall
  have hrange : (⟨1, 6⟩ : ErrorRange) ∈ errorRanges "a(\nbcd" (.ofList [⟨1, some 6⟩]) :=
    mem_errorRanges_single.mpr (by decide +kernel)
  have hbound := hall "a(\nbcd" ⟨1, some 6⟩ "a(".toList (by decide) (by decide) (by decide) _ hrange
  exact absurd hbound.2 (by decide)

end ScriptBench.Highlight
