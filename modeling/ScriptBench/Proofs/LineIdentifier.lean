import ScriptBench.Highlight.ErrorRange
import Mathlib.Data.List.TakeWhile
import Mathlib.Tactic.ByContra

namespace ScriptBench.Highlight

open Text (isIdentifierPart)

structure Identifier (chars : List Char) (i start stop : Nat) : Prop where
  start_le : start ≤ i
  lt_stop : i < stop
  inside : ∀ j, start ≤ j → j < stop → ∃ c ∈ chars[j]?, isIdentifierPart c = true
  front : ∀ j, j + 1 = start → ∀ c ∈ chars[j]?, isIdentifierPart c = false
  back : ∀ c ∈ chars[stop]?, isIdentifierPart c = false

section Identifier

variable {chars : List Char} {i j start start' stop stop' : Nat}

theorem Identifier.stop_le_length (h : Identifier chars i start stop) : stop ≤ chars.length := by
  have hlt := h.lt_stop
  have hle := h.start_le
  obtain ⟨c, hc, -⟩ := h.inside (stop - 1) (by omega) (by omega)
  have := (List.getElem?_eq_some_iff.mp hc).1
  omega

theorem Identifier.around (h : Identifier chars i start stop) (hstart : start ≤ j)
    (hstop : j < stop) : Identifier chars j start stop :=
  ⟨hstart, hstop, h.inside, h.front, h.back⟩

theorem Identifier.start_le_start (h : Identifier chars i start stop)
    (h' : Identifier chars i start' stop') : start ≤ start' := by
  by_contra hlt
  have hle := h'.start_le
  have hle' := h.start_le
  have hstop := h'.lt_stop
  obtain ⟨c, hc, hpart⟩ := h'.inside (start - 1) (by omega) (by omega)
  rw [h.front (start - 1) (by omega) c hc] at hpart
  cases hpart

theorem Identifier.stop_le_stop (h : Identifier chars i start stop)
    (h' : Identifier chars i start' stop') : stop' ≤ stop := by
  by_contra hlt
  have hle := h'.start_le
  have hstop := h.lt_stop
  obtain ⟨c, hc, hpart⟩ := h'.inside stop (by omega) (by omega)
  rw [h.back c hc] at hpart
  cases hpart

theorem Identifier.unique (h : Identifier chars i start stop)
    (h' : Identifier chars i start' stop') : start = start' ∧ stop = stop' :=
  ⟨Nat.le_antisymm (h.start_le_start h') (h'.start_le_start h),
    Nat.le_antisymm (h'.stop_le_stop h) (h.stop_le_stop h')⟩

end Identifier

theorem identifierLength_nil : identifierLength [] = 0 := rfl

theorem identifierLength_cons (c : Char) (cs : List Char) :
    identifierLength (c :: cs) = if isIdentifierPart c then identifierLength cs + 1 else 0 := by
  rw [identifierLength, List.takeWhile_cons]
  split <;> rfl

theorem part_of_lt_identifierLength {cs : List Char} {j : Nat} (h : j < identifierLength cs) :
    ∃ c ∈ cs[j]?, isIdentifierPart c = true := by
  induction cs generalizing j with
  | nil => cases h
  | cons c cs ih =>
      rw [identifierLength_cons] at h
      split at h
      · rename_i hc
        cases j with
        | zero => exact ⟨c, rfl, hc⟩
        | succ j => exact ih (Nat.lt_of_succ_lt_succ h)
      · cases h

theorem not_part_behind_identifier (cs : List Char) :
    ∀ c ∈ cs[identifierLength cs]?, isIdentifierPart c = false := by
  induction cs with
  | nil =>
      intro c hc
      cases hc
  | cons c cs ih =>
      rw [identifierLength_cons]
      split
      · exact ih
      · rename_i hc
        rintro _ ⟨⟩
        exact Bool.not_eq_true _ ▸ hc

theorem getElem?_reverse_take {chars : List Char} {i j : Nat} (hj : j < i)
    (hi : i ≤ chars.length) : (chars.take i).reverse[i - 1 - j]? = chars[j]? := by
  have hlen : (chars.take i).length = i := by rw [List.length_take, Nat.min_eq_left hi]
  rw [List.getElem?_reverse (by omega), hlen, List.getElem?_take, if_pos (by omega)]
  congr 1
  omega

theorem identifierLength_reverse_take_le (chars : List Char) (i : Nat) :
    identifierLength (chars.take i).reverse ≤ i := by
  have hle := (List.takeWhile_prefix isIdentifierPart (l := (chars.take i).reverse)).length_le
  rw [List.length_reverse, List.length_take] at hle
  exact Nat.le_trans hle (Nat.min_le_left _ _)

theorem identifier_around {chars : List Char} {i : Nat} {c : Char} (hc : chars[i]? = some c)
    (hpart : isIdentifierPart c = true) :
    Identifier chars i (i - identifierLength (chars.take i).reverse)
      (i + 1 + identifierLength (chars.drop (i + 1))) := by
  have hi : i < chars.length := (List.getElem?_eq_some_iff.mp hc).1
  have hle := identifierLength_reverse_take_le chars i
  refine ⟨Nat.sub_le _ _, by omega, ?_, ?_, ?_⟩
  · intro j hstart hstop
    rcases Nat.lt_trichotomy j i with hlt | rfl | hgt
    · rw [← getElem?_reverse_take hlt (Nat.le_of_lt hi)]
      exact part_of_lt_identifierLength (by omega)
    · exact ⟨c, hc, hpart⟩
    · have hj : j = i + 1 + (j - (i + 1)) := by omega
      rw [hj, ← List.getElem?_drop]
      exact part_of_lt_identifierLength (by omega)
  · intro j hj
    rw [← getElem?_reverse_take (i := i) (by omega) (Nat.le_of_lt hi)]
    have hplace : i - 1 - j = identifierLength (chars.take i).reverse := by omega
    rw [hplace]
    exact not_part_behind_identifier _
  · rw [← List.getElem?_drop]
    exact not_part_behind_identifier _

/-- The part of a line that a position on it paints, counted from the start of the line. Column 0
counts as 1. -/
inductive Painted (chars : List Char) : Option Nat → ErrorRange → Prop
  | line : Painted chars none ⟨0, chars.length⟩
  | identifier {column i start stop} : max column 1 = i + 1 → column ≤ chars.length →
      Identifier chars i start stop →
      Painted chars (some column) ⟨start, if stop < chars.length then stop + 1 else stop⟩
  | single {column i c} : max column 1 = i + 1 → column ≤ chars.length → chars[i]? = some c →
      isIdentifierPart c = false → Painted chars (some column) ⟨i, i + 1⟩
  | identifierPast {column start} : chars.length < column →
      Identifier chars (chars.length - 1) start chars.length →
      Painted chars (some column) ⟨start, column⟩
  | singlePast {column c} : chars.length < column → chars.getLast? = some c →
      isIdentifierPart c = false → Painted chars (some column) ⟨chars.length - 1, column⟩

theorem painted_columnRange {chars : List Char} (hchars : chars ≠ []) (column : Nat) :
    Painted chars (some column) (columnRange chars column) := by
  have hlen : 0 < chars.length := List.length_pos_iff.mpr hchars
  rw [columnRange]
  generalize hi : min (column - 1) (chars.length - 1) = i
  obtain ⟨c, hc⟩ : ∃ c, chars[i]? = some c := ⟨_, List.getElem?_eq_getElem (by omega)⟩
  simp only [hc, Option.any_some]
  by_cases hcolumn : column ≤ chars.length
  · have hstop : max column (i + 1) = i + 1 := by omega
    have hplace : max column 1 = i + 1 := by omega
    rw [hstop]
    split
    · rename_i hpart
      exact .identifier hplace hcolumn (identifier_around hc hpart)
    · rename_i hpart
      exact .single hplace hcolumn hc (Bool.not_eq_true _ ▸ hpart)
  · have hstop : max column (i + 1) = column := by omega
    have hlast : i = chars.length - 1 := by omega
    rw [hstop]
    split
    · rename_i hpart
      have hrun := identifier_around hc hpart
      have hback : chars.drop column = [] := List.drop_eq_nil_of_le (by omega)
      have hnone : chars.drop (i + 1) = [] := List.drop_eq_nil_of_le (by omega)
      have hend : i + 1 = chars.length := by omega
      rw [hnone, hend] at hrun
      rw [identifierLength_nil, Nat.add_zero] at hrun
      rw [hback, identifierLength_nil, Nat.add_zero, if_neg (by omega)]
      rw [hlast] at hrun ⊢
      exact .identifierPast (by omega) hrun
    · rename_i hpart
      rw [hlast, ← List.getLast?_eq_getElem?] at hc
      rw [hlast]
      exact .singlePast (by omega) hc (Bool.not_eq_true _ ▸ hpart)

theorem Identifier.exists_part {chars : List Char} {i start stop : Nat}
    (h : Identifier chars i start stop) : ∃ c ∈ chars[i]?, isIdentifierPart c = true :=
  h.inside i h.start_le h.lt_stop

theorem not_identifier {chars : List Char} {i start stop : Nat} {c : Char} (hc : chars[i]? = some c)
    (hpart : isIdentifierPart c = false) : ¬ Identifier chars i start stop := by
  intro h
  obtain ⟨d, hd, hdpart⟩ := h.exists_part
  obtain rfl : c = d := Option.some.inj (hc.symm.trans hd)
  rw [hpart] at hdpart
  cases hdpart

theorem Painted.unique {chars : List Char} {column : Option Nat} {r r' : ErrorRange}
    (h : Painted chars column r) (h' : Painted chars column r') : r = r' := by
  cases h with
  | line =>
      cases h'
      rfl
  | @identifier column i start stop hi hcolumn hid =>
      cases h' with
      | @identifier _ i' _ _ hi' _ hid' =>
          obtain rfl : i = i' := by omega
          obtain ⟨rfl, rfl⟩ := hid.unique hid'
          rfl
      | @single _ i' c hi' _ hc hpart =>
          obtain rfl : i = i' := by omega
          exact absurd hid (not_identifier hc hpart)
      | identifierPast hpast => omega
      | singlePast hpast => omega
  | @single column i c hi hcolumn hc hpart =>
      cases h' with
      | @identifier _ i' _ _ hi' _ hid' =>
          obtain rfl : i = i' := by omega
          exact absurd hid' (not_identifier hc hpart)
      | @single _ i' _ hi' _ _ _ =>
          obtain rfl : i = i' := by omega
          rfl
      | identifierPast hpast => omega
      | singlePast hpast => omega
  | identifierPast hpast hid =>
      cases h' with
      | identifier _ hcolumn => omega
      | single _ hcolumn => omega
      | identifierPast _ hid' => rw [(hid.unique hid').1]
      | singlePast _ hc hpart =>
          rw [List.getLast?_eq_getElem?] at hc
          exact absurd hid (not_identifier hc hpart)
  | singlePast hpast hc hpart =>
      cases h' with
      | identifier _ hcolumn => omega
      | single _ hcolumn => omega
      | identifierPast _ hid' =>
          rw [List.getLast?_eq_getElem?] at hc
          exact absurd hid' (not_identifier hc hpart)
      | singlePast _ _ _ => rfl

theorem Painted.bounds {chars : List Char} (hchars : chars ≠ []) {column : Option Nat}
    {r : ErrorRange} (h : Painted chars column r) : r.start < r.stop ∧ r.start < chars.length := by
  have hlen : 0 < chars.length := List.length_pos_iff.mpr hchars
  cases h with
  | line => exact ⟨hlen, hlen⟩
  | identifier hi hcolumn hid =>
      have hstart := hid.start_le
      have hstop := hid.lt_stop
      have hle := hid.stop_le_length
      simp only
      split <;> omega
  | single hi hcolumn hc hpart =>
      have hi := (List.getElem?_eq_some_iff.mp hc).1
      simp only
      omega
  | identifierPast hpast hid =>
      have hstart := hid.start_le
      simp only
      omega
  | singlePast hpast hc hpart =>
      simp only
      omega

end ScriptBench.Highlight
