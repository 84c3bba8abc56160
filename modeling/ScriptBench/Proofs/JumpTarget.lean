import ScriptBench.Diagnostic.Extractor
import ScriptBench.Proofs.StyleMap

namespace ScriptBench.Text

theorem chars_getElem?_placed (start : Nat) (ls : List (List Char)) (i : Nat) :
    (placed start ls)[i]?.map Line.chars = ls[i]? := by
  induction ls generalizing start i with
  | nil => rfl
  | cons l ls ih =>
      cases i with
      | zero => rfl
      | succ i => simp [placed, ih]

theorem exists_line?_of_getElem? {cs chars : List Char} {n : Nat} (hn : n ≠ 0)
    (h : (lines cs)[n - 1]? = some chars) : ∃ start, line? cs n = some ⟨start, chars⟩ := by
  rw [← chars_getElem?_placed 0, Option.map_eq_some_iff] at h
  obtain ⟨⟨start, chars'⟩, hline, rfl⟩ := h
  exact ⟨start, by rw [line?, if_neg hn, hline]⟩

theorem line?_eq_none_iff (cs : List Char) (n : Nat) :
    line? cs n = none ↔ n = 0 ∨ (lines cs).length < n := by
  have hsome := line?_isSome_iff cs n
  rw [← Option.not_isSome_iff_eq_none, hsome, length_lines]
  omega

theorem stop_le_of_mem_placed {start : Nat} {cs : List Char} {l : Line}
    (h : l ∈ placed start (lines cs)) : l.start + l.chars.length ≤ start + cs.length := by
  induction cs generalizing start l with
  | nil =>
      obtain rfl : l = ⟨start, []⟩ := List.mem_singleton.mp h
      exact Nat.le_refl _
  | cons c cs ih =>
      rw [lines_cons] at h
      split at h
      · rcases List.mem_cons.mp h with rfl | h
        · exact Nat.le_add_right _ _
        · have hrest := ih h
          simp only [List.length_nil, List.length_cons] at hrest ⊢
          omega
      · rw [lines, List.modifyHead_cons, placed] at h
        rw [lines] at ih
        rcases List.mem_cons.mp h with rfl | h
        · have hfirst : start + (splitLines cs).1.length ≤ start + cs.length :=
            @ih start ⟨start, (splitLines cs).1⟩ List.mem_cons_self
          simp only [List.length_cons]
          omega
        · have hmoved : start + (c :: (splitLines cs).1).length + 1 =
              start + 1 + (splitLines cs).1.length + 1 := by
            rw [List.length_cons]
            omega
          rw [hmoved] at h
          have hrest := ih (List.mem_cons_of_mem ⟨start + 1, (splitLines cs).1⟩ h)
          rw [List.length_cons]
          omega

theorem stop_le_of_line? {cs : List Char} {n : Nat} {l : Line} (h : line? cs n = some l) :
    l.start + l.chars.length ≤ cs.length := by
  rw [line?] at h
  split at h
  · cases h
  · have hstop := stop_le_of_mem_placed (List.mem_of_getElem? h)
    rw [Nat.zero_add] at hstop
    exact hstop

end ScriptBench.Text

namespace ScriptBench.Diagnostic

theorem offset?_eq_none_iff (text : String) (line column : Nat) :
    offset? text line column = none ↔
      line = 0 ∨ (text.toList.splitOn '\n').length < line := by
  rw [offset?, Option.map_eq_none_iff, Text.line?_eq_none_iff, Text.lines_eq_splitOn]

theorem jump?_of_isError {r : Record} (h : r.isError = true) (source : String) :
    r.jump? source = r.position.bind fun p => offset? source p.line (p.column.getD 1) := if_pos h

namespace Extractor

theorem mem_positions_read {x : Extractor} {line : String} {p : Position} :
    p ∈ (x.read line).2.positions ↔
      p ∈ x.positions ∨ ∃ r ∈ (x.read line).1, r.position = some p := by
  simp only [read, exists_record_iff]
  cases hshape : (classify x.ext line).position? with
  | none => simp
  | some q =>
      rw [Option.map_some, Option.getD_some, PositionSet.mem_insert, Option.some.injEq, eq_comm]
      exact or_comm

theorem mem_positions_readAll {x : Extractor} {lines : List String} {p : Position} :
    p ∈ (x.readAll lines).2.positions ↔
      p ∈ x.positions ∨ ∃ r ∈ (x.readAll lines).1, r.position = some p := by
  induction lines generalizing x with
  | nil => simp [readAll]
  | cons line more ih =>
      rw [readAll, ih, mem_positions_read, or_assoc]
      simp only [List.mem_append, Option.mem_toList, Option.mem_def, or_and_right, exists_or]

theorem mem_positions_new {ext : String} {lines : List String} {p : Position} :
    p ∈ ((new ext).readAll lines).2.positions ↔
      ∃ r ∈ ((new ext).readAll lines).1, r.position = some p :=
  mem_positions_readAll.trans (or_iff_right (PositionSet.not_mem_empty p))

theorem isError_of_mem_readAll {x : Extractor} {lines : List String} {r : Record}
    (h : r ∈ (x.readAll lines).1) : r.isError = true := by
  induction lines generalizing x with
  | nil => cases h
  | cons line more ih =>
      rw [readAll, List.mem_append, Option.mem_toList] at h
      rcases h with h | h
      · exact isError_of_record h
      · exact ih h

end Extractor

end ScriptBench.Diagnostic

namespace ScriptBench.Highlight

open Diagnostic (Extractor Position PositionSet Record)

theorem covers_columnRange {chars : List Char} (hchars : chars ≠ []) (column : Nat) :
    (columnRange chars column).covers (min (column - 1) chars.length) := by
  have hlen : 0 < chars.length := List.length_pos_iff.mpr hchars
  simp only [columnRange, ErrorRange.covers]
  split
  · simp only
    split <;> omega
  · simp only
    omega

theorem covers_errorRange? {text : List Char} {p : Position} {l : Text.Line}
    (hl : Text.line? text p.line = some l) (hchars : l.chars ≠ []) :
    ∃ g, errorRange? text p = some g ∧
      g.covers (l.start + min (p.column.getD 1 - 1) l.chars.length) := by
  have hlen : 0 < l.chars.length := List.length_pos_iff.mpr hchars
  have hempty : l.chars.isEmpty = false := by simpa using hchars
  rw [errorRange?, hl]
  cases hcolumn : p.column with
  | none =>
      refine ⟨⟨l.start, l.start + l.chars.length⟩, by simp [hempty], ?_⟩
      simp [ErrorRange.covers, hlen]
  | some column =>
      obtain ⟨hstart, hstop⟩ := covers_columnRange hchars column
      exact ⟨_, if_neg (by simp [hempty]), Nat.add_le_add_left hstart _,
        Nat.add_lt_add_left hstop _⟩

theorem mem_errorRanges {text : String} {positions : PositionSet} {g : ErrorRange} :
    g ∈ errorRanges text positions ↔ ∃ p ∈ positions, errorRange? text.toList p = some g := by
  rw [errorRanges, List.mem_mergeSort, List.mem_filterMap]
  rfl

theorem mem_errorRanges_single {text : String} {p : Position} {g : ErrorRange} :
    g ∈ errorRanges text (.ofList [p]) ↔ errorRange? text.toList p = some g := by
  rw [mem_errorRanges]
  constructor
  · rintro ⟨q, hq, hg⟩
    rcases PositionSet.mem_insert.mp hq with rfl | hq
    · exact hg
    · exact absurd hq (PositionSet.not_mem_empty q)
  · intro hg
    exact ⟨p, PositionSet.mem_insert.mpr (.inl rfl), hg⟩

theorem error_styleMap (keywords : List String) (text : String) (positions : PositionSet)
    (i : Nat) :
    (tagsAt (styleMap keywords text positions) i).error = true ↔
      i < text.length ∧ ∃ g ∈ errorRanges text positions, g.covers i := by
  have hplain : (tagsAt (keywordSpans keywords text) i).error = false := by
    rw [tagsAt_keywordSpans]
    rfl
  rw [styleMap_eq_merge, error_merge, hplain, totalLength_keywordSpans]
  simp

theorem jump_lands_on_mark (ext : String) (lines keywords : List String) (source : String) :
    let records := ((Extractor.new ext).readAll lines).1
    let positions := ((Extractor.new ext).readAll lines).2.positions
    let marked (i : Nat) := (tagsAt (styleMap keywords source positions) i).error = true
    let sourceLines := source.toList.splitOn '\n'
    (∀ r ∈ records, ∀ p ∈ r.position, ∀ chars, p.line ≠ 0 →
      sourceLines[p.line - 1]? = some chars → chars ≠ [] →
      ∃ o, r.jump? source = some o ∧ (o = source.length ∨ marked o) ∧
        ∃ g ∈ errorRanges source (.ofList [p]), g.covers o) ∧
    (∀ i, marked i → ∃ r ∈ records, ∃ p ∈ r.position,
      ∃ g ∈ errorRanges source (.ofList [p]), g.covers i) ∧
    (∀ r ∈ records, ∀ p ∈ r.position,
      r.jump? source = none ↔ p.line = 0 ∨ sourceLines.length < p.line) := by
  intro records positions marked sourceLines
  have hjump : ∀ r ∈ records, ∀ p ∈ r.position,
      r.jump? source = Diagnostic.offset? source p.line (p.column.getD 1) := by
    intro r hr p hp
    rw [Diagnostic.jump?_of_isError (Extractor.isError_of_mem_readAll hr), hp]
    rfl
  refine ⟨?_, ?_, ?_⟩
  · intro r hr p hp chars hline hchars hne
    have hlines : (Text.lines source.toList)[p.line - 1]? = some chars := by
      rw [Text.lines_eq_splitOn]
      exact hchars
    obtain ⟨start, hl⟩ := Text.exists_line?_of_getElem? hline hlines
    obtain ⟨g, hg, hcovers⟩ := covers_errorRange? hl hne
    have hstop := Text.stop_le_of_line? hl
    rw [String.length_toList] at hstop
    have hmem : p ∈ positions := Extractor.mem_positions_new.mpr ⟨r, hr, hp⟩
    refine ⟨start + min (p.column.getD 1 - 1) chars.length, ?_, ?_, g,
      mem_errorRanges_single.mpr hg, hcovers⟩
    · rw [hjump r hr p hp, Diagnostic.offset?, hl]
      rfl
    · by_cases hend : start + min (p.column.getD 1 - 1) chars.length = source.length
      · exact .inl hend
      · refine .inr ((error_styleMap _ _ _ _).mpr ⟨?_, g, mem_errorRanges.mpr ⟨p, hmem, hg⟩, hcovers⟩)
        simp only at hstop
        omega
  · intro i hi
    obtain ⟨-, g, hg, hcovers⟩ := (error_styleMap _ _ _ _).mp hi
    obtain ⟨p, hp, hrange⟩ := mem_errorRanges.mp hg
    obtain ⟨r, hr, hposition⟩ := Extractor.mem_positions_new.mp hp
    exact ⟨r, hr, p, hposition, g, mem_errorRanges_single.mpr hrange, hcovers⟩
  · intro r hr p hp
    rw [hjump r hr p hp]
    exact Diagnostic.offset?_eq_none_iff _ _ _

theorem jump_past_line_end_lands_on_mark :
    let read := (Extractor.new "kts").readAll ["a.kts:1:9: error: x", "        ^"]
    let r : Record := .positioned "error: x at 1:9" ⟨1, some 9⟩
    r ∈ read.1 ∧ ("val\nx".toList.splitOn '\n')[0]? = some "val".toList ∧
    ∃ o, r.jump? "val\nx" = some o ∧ (o = "val\nx".length ∨
      (tagsAt (styleMap ["val"] "val\nx" read.2.positions) o).error = true) := by
  intro read r
  have hr : r ∈ read.1 := by decide
  have hline : ("val\nx".toList.splitOn '\n')[0]? = some "val".toList := by decide
  have hjump := (jump_lands_on_mark "kts" ["a.kts:1:9: error: x", "        ^"] ["val"] "val\nx").1
  obtain ⟨o, ho, hmark, -⟩ :=
    hjump r hr ⟨1, some 9⟩ rfl "val".toList (by decide) hline (by decide)
  exact ⟨hr, hline, o, ho, hmark⟩

end ScriptBench.Highlight
