import ScriptBench.Proofs.JumpTarget
import ScriptBench.Proofs.LineIdentifier
import Mathlib.Algebra.GroupWithZero.Nat
import Mathlib.Data.List.Perm.Basic

namespace ScriptBench.Highlight

open Diagnostic (Position PositionSet)

def lineStart (lines : List (List Char)) (line : Nat) : Nat :=
  ((lines.take (line - 1)).map (·.length + 1)).sum

def onText (lines : List (List Char)) (p : Position) : Bool :=
  p.line != 0 && (lines[p.line - 1]?).any (!·.isEmpty)

def Paints (lines : List (List Char)) (p : Position) (g : ErrorRange) : Prop :=
  ∃ chars r, p.line ≠ 0 ∧ lines[p.line - 1]? = some chars ∧ chars ≠ [] ∧
    Painted chars p.column r ∧
    g = ⟨lineStart lines p.line + r.start, lineStart lines p.line + r.stop⟩

theorem placed_getElem? (start : Nat) (ls : List (List Char)) (i : Nat) :
    (Text.placed start ls)[i]? =
      ls[i]?.map fun l => ⟨start + ((ls.take i).map (·.length + 1)).sum, l⟩ := by
  induction ls generalizing start i with
  | nil => rfl
  | cons l ls ih =>
      cases i with
      | zero => rfl
      | succ i =>
          rw [Text.placed, List.getElem?_cons_succ, List.getElem?_cons_succ, ih]
          simp only [List.take_succ_cons, List.map_cons, List.sum_cons, Nat.add_assoc]

theorem line?_eq (cs : List Char) {n : Nat} (hn : n ≠ 0) :
    Text.line? cs n =
      (cs.splitOn '\n')[n - 1]?.map fun l => ⟨lineStart (cs.splitOn '\n') n, l⟩ := by
  rw [Text.line?, if_neg hn, placed_getElem?, Text.lines_eq_splitOn]
  simp only [Nat.zero_add, lineStart]

theorem exists_painted {chars : List Char} (hchars : chars ≠ []) (column : Option Nat) :
    ∃ r, Painted chars column r := by
  cases column with
  | none => exact ⟨_, .line⟩
  | some column => exact ⟨_, painted_columnRange hchars column⟩

theorem onText_iff {lines : List (List Char)} {p : Position} :
    onText lines p = true ↔
      p.line ≠ 0 ∧ ∃ chars, lines[p.line - 1]? = some chars ∧ chars ≠ [] := by
  simp [onText, Option.any_eq_true]

theorem onText_iff_exists_paints {lines : List (List Char)} {p : Position} :
    onText lines p = true ↔ ∃ g, Paints lines p g := by
  rw [onText_iff]
  constructor
  · rintro ⟨hline, chars, hchars, hne⟩
    obtain ⟨r, hr⟩ := exists_painted hne p.column
    exact ⟨_, chars, r, hline, hchars, hne, hr, rfl⟩
  · rintro ⟨g, chars, r, hline, hchars, hne, -⟩
    exact ⟨hline, chars, hchars, hne⟩

theorem Paints.unique {lines : List (List Char)} {p : Position} {g g' : ErrorRange}
    (h : Paints lines p g) (h' : Paints lines p g') : g = g' := by
  obtain ⟨chars, r, -, hchars, -, hr, rfl⟩ := h
  obtain ⟨chars', r', -, hchars', -, hr', rfl⟩ := h'
  obtain rfl : chars = chars' := Option.some.inj (hchars.symm.trans hchars')
  rw [hr.unique hr']

theorem paints_of_errorRange? {text : List Char} {p : Position} {g : ErrorRange}
    (h : errorRange? text p = some g) : Paints (text.splitOn '\n') p g := by
  have hline : p.line ≠ 0 := by
    intro hzero
    simp [errorRange?, hzero, Text.line?] at h
  rw [errorRange?, line?_eq text hline] at h
  cases hchars : (text.splitOn '\n')[p.line - 1]? with
  | none => simp [hchars] at h
  | some chars =>
      have hne : chars ≠ [] := by
        rintro rfl
        simp [hchars] at h
      have hempty : chars.isEmpty = false := by simpa using hne
      simp only [hchars, Option.map_some, hempty, Bool.false_eq_true, if_false] at h
      cases hcolumn : p.column with
      | none =>
          rw [hcolumn, Option.some.injEq] at h
          exact ⟨chars, ⟨0, chars.length⟩, hline, hchars, hne, hcolumn ▸ .line, h.symm⟩
      | some column =>
          rw [hcolumn, Option.some.injEq] at h
          exact ⟨chars, columnRange chars column, hline, hchars, hne,
            hcolumn ▸ painted_columnRange hne column, h.symm⟩

theorem errorRange?_eq_some_iff {text : List Char} {p : Position} {g : ErrorRange} :
    errorRange? text p = some g ↔ Paints (text.splitOn '\n') p g := by
  refine ⟨paints_of_errorRange?, fun h => ?_⟩
  obtain ⟨chars, r, hline, hchars, hne, -⟩ := id h
  obtain ⟨start, hl⟩ := Text.exists_line?_of_getElem? hline
    ((congrArg (·[p.line - 1]?) (Text.lines_eq_splitOn text)).trans hchars)
  obtain ⟨g', hg', -⟩ := covers_errorRange? hl hne
  rw [hg', h.unique (paints_of_errorRange? hg')]

theorem onText_eq_isSome (text : List Char) (p : Position) :
    onText (text.splitOn '\n') p = (errorRange? text p).isSome := by
  rw [Bool.eq_iff_iff, onText_iff_exists_paints, Option.isSome_iff_exists]
  simp only [errorRange?_eq_some_iff]

theorem forall₂_paints (text : List Char) (ps : List Position) :
    List.Forall₂ (Paints (text.splitOn '\n')) (ps.filter (onText (text.splitOn '\n')))
      (ps.filterMap (errorRange? text)) := by
  induction ps with
  | nil => exact .nil
  | cons p ps ih =>
      have hon := onText_eq_isSome text p
      cases hrange : errorRange? text p with
      | none =>
          rw [hrange] at hon
          rw [List.filter_cons_of_neg (by simp [hon]), List.filterMap_cons_none hrange]
          exact ih
      | some g =>
          rw [hrange] at hon
          rw [List.filter_cons_of_pos hon, List.filterMap_cons_some hrange]
          exact .cons (errorRange?_eq_some_iff.mp hrange) ih

theorem filterMap_filter_onText (text : List Char) (ps : List Position) :
    (ps.filter (onText (text.splitOn '\n'))).filterMap (errorRange? text) =
      ps.filterMap (errorRange? text) := by
  rw [List.filterMap_filter]
  refine List.filterMap_congr fun p _ => ?_
  rw [onText_eq_isSome]
  cases errorRange? text p <;> rfl

theorem sorted_errorRanges (text : String) (positions : PositionSet) :
    (errorRanges text positions).Pairwise fun a b =>
      a.start < b.start ∨ a.start = b.start ∧ a.stop ≤ b.stop := by
  have hle (a b : ErrorRange) : a.le b = true ↔
      a.start < b.start ∨ a.start = b.start ∧ a.stop ≤ b.stop := by
    simp [ErrorRange.le]
  have htrans (a b c : ErrorRange) (hab : a.le b = true) (hbc : b.le c = true) :
      a.le c = true := by
    rw [hle] at hab hbc ⊢
    omega
  have htotal (a b : ErrorRange) : (a.le b || b.le a) = true := by
    rw [Bool.or_eq_true, hle, hle]
    omega
  refine (List.pairwise_mergeSort htrans htotal _).imp ?_
  intro a b hab
  exact (hle a b).mp hab

end ScriptBench.Highlight

namespace ScriptBench.Diagnostic

theorem Increasing.nodup {ps : List Position} (h : Increasing ps) : ps.Nodup := by
  refine h.imp ?_
  rintro p _ hbefore rfl
  rw [p.before_irrefl] at hbefore
  cases hbefore

theorem Increasing.eq_of_mem_iff {ps qs : List Position} (hp : Increasing ps) (hq : Increasing qs)
    (hmem : ∀ p, p ∈ ps ↔ p ∈ qs) : ps = qs := by
  have hperm : ps.Perm qs := (List.perm_ext_iff_of_nodup hp.nodup hq.nodup).mpr hmem
  refine hperm.eq_of_pairwise ?_ hp hq
  intro p q _ _ hpq hqp
  have hself := Position.before_trans hpq hqp
  rw [p.before_irrefl] at hself
  cases hself

end ScriptBench.Diagnostic

namespace ScriptBench.Highlight

open Diagnostic (Position PositionSet)

theorem errorRanges_congr {text : String} {positions other : PositionSet}
    (hsame : ∀ p, onText (text.toList.splitOn '\n') p = true → (p ∈ other ↔ p ∈ positions)) :
    errorRanges text other = errorRanges text positions := by
  have hdrawn : other.toList.filter (onText (text.toList.splitOn '\n')) =
      positions.toList.filter (onText (text.toList.splitOn '\n')) := by
    refine Diagnostic.Increasing.eq_of_mem_iff (other.increasing.filter _)
      (positions.increasing.filter _) fun p => ?_
    rw [List.mem_filter, List.mem_filter]
    exact and_congr_left (hsame p)
  rw [errorRanges, ← filterMap_filter_onText, hdrawn, filterMap_filter_onText, errorRanges]

theorem Paints.of_same_identifier {lines : List (List Char)} {line : Nat} {chars : List Char}
    {i start stop column column' : Nat} (hchars : lines[line - 1]? = some chars)
    (hid : Identifier chars i start stop) (hstart : start < column) (hstop : column ≤ stop)
    (hstart' : start < column') (hstop' : column' ≤ stop) {g : ErrorRange}
    (h : Paints lines ⟨line, some column⟩ g) : Paints lines ⟨line, some column'⟩ g := by
  obtain ⟨chars', r, hline, hchars', hne, hr, rfl⟩ := h
  obtain rfl : chars = chars' := Option.some.inj (hchars.symm.trans hchars')
  have hle := hid.stop_le_length
  have hinside {c : Nat} (hlow : start < c) (hhigh : c ≤ stop) : Painted chars (some c)
      ⟨start, if stop < chars.length then stop + 1 else stop⟩ :=
    .identifier (i := c - 1) (by omega) (by omega) (hid.around (by omega) (by omega))
  rw [hr.unique (hinside hstart hstop)]
  exact ⟨chars, _, hline, hchars, hne, hinside hstart' hstop', rfl⟩

theorem Paints.bounds {lines : List (List Char)} {p : Position} {chars : List Char}
    {g : ErrorRange} (hchars : lines[p.line - 1]? = some chars) (h : Paints lines p g) :
    g.start < g.stop ∧ lineStart lines p.line ≤ g.start ∧
      g.start < lineStart lines p.line + chars.length := by
  obtain ⟨chars', r, -, hchars', hne, hr, rfl⟩ := h
  obtain rfl : chars = chars' := Option.some.inj (hchars.symm.trans hchars')
  obtain ⟨hlt, hinside⟩ := hr.bounds hne
  exact ⟨Nat.add_lt_add_left hlt _, Nat.le_add_right _ _, Nat.add_lt_add_left hinside _⟩

theorem errorRanges_by_position (text : String) (positions : PositionSet) :
    let lines := text.toList.splitOn '\n'
    let ranges := errorRanges text positions
    (ranges.Pairwise fun a b => a.start < b.start ∨ a.start = b.start ∧ a.stop ≤ b.stop) ∧
    (∃ gs, List.Forall₂ (Paints lines) (positions.toList.filter (onText lines)) gs ∧
      gs.Perm ranges) ∧
    (∀ other : PositionSet, (∀ p, onText lines p = true → (p ∈ other ↔ p ∈ positions)) →
      errorRanges text other = ranges) ∧
    (∀ p g g', Paints lines p g → Paints lines p g' → g = g') ∧
    (∀ line chars i start stop column column', lines[line - 1]? = some chars →
      Identifier chars i start stop → start < column → column ≤ stop → start < column' →
      column' ≤ stop → ∀ g, Paints lines ⟨line, some column⟩ g →
        Paints lines ⟨line, some column'⟩ g) ∧
    ∀ p chars g, lines[p.line - 1]? = some chars → Paints lines p g →
      g.start < g.stop ∧ lineStart lines p.line ≤ g.start ∧
        g.start < lineStart lines p.line + chars.length := by
  intro lines ranges
  refine ⟨sorted_errorRanges text positions, ?_, fun _ => errorRanges_congr,
    fun _ _ _ => Paints.unique, ?_, fun _ _ _ => Paints.bounds⟩
  · exact ⟨_, forall₂_paints text.toList positions.toList, (List.mergeSort_perm _ _).symm⟩
  · intro line chars i start stop column column' hchars hid hstart hstop hstart' hstop' g
    exact .of_same_identifier hchars hid hstart hstop hstart' hstop'

theorem identifier_columns_paint_alike :
    let text := "val foo(\n\nx"
    let lines := text.toList.splitOn '\n'
    Paints lines ⟨1, some 5⟩ ⟨4, 8⟩ ∧ Paints lines ⟨1, some 7⟩ ⟨4, 8⟩ ∧
      errorRanges text (.ofList [⟨1, some 5⟩, ⟨2, none⟩, ⟨4, some 1⟩]) =
        errorRanges text (.ofList [⟨1, some 5⟩]) := by
  intro text lines
  obtain ⟨-, -, hsame, -, halike, -⟩ := errorRanges_by_position text (.ofList [⟨1, some 5⟩])
  have hfirst : Paints lines ⟨1, some 5⟩ ⟨4, 8⟩ := paints_of_errorRange? (by decide +kernel)
  have hid : Identifier "val foo(".toList 4 4 7 :=
    identifier_around (i := 4) (c := 'f') (by decide) (by decide +kernel)
  refine ⟨hfirst, ?_, ?_⟩
  · exact halike 1 "val foo(".toList 4 4 7 5 7 (by decide) hid (by decide) (by decide) (by decide)
      (by decide) _ hfirst
  · refine hsame _ fun p hp => PositionSet.mem_insert.trans ((or_iff_right ?_).trans
      (PositionSet.mem_insert.trans (or_iff_right ?_)))
    · rintro rfl
      exact absurd hp (by decide)
    · rintro rfl
      exact absurd hp (by decide)

end ScriptBench.Highlight
