import ScriptBench.Proofs.PaintedRange

namespace ScriptBench.Text

def lineAt (cs : List Char) (o : Nat) : Nat := (cs.take o).count '\n' + 1

def fromLineStart (cs : List Char) (o : Nat) : Nat :=
  ((cs.take o).reverse.takeWhile (· != '\n')).length

structure LineCut (cs : List Char) (n : Nat) (front chars back : List Char) : Prop where
  cut : cs = front ++ chars ++ back
  begins : front = [] ∨ ∃ before, front = before ++ ['\n']
  number : front.count '\n' + 1 = n
  unbroken : '\n' ∉ chars
  ends : back = [] ∨ ∃ behind, back = '\n' :: behind

theorem sum_lines (cs : List Char) :
    ((cs.splitOn '\n').map (·.length + 1)).sum = cs.length + 1 := by
  rw [← lines_eq_splitOn]
  induction cs with
  | nil => rfl
  | cons c cs ih =>
      rw [lines_cons]
      split
      · rw [List.map_cons, List.sum_cons, ih, List.length_nil, List.length_cons]
        omega
      · rw [lines, List.map_cons, List.sum_cons] at ih
        rw [lines, List.modifyHead_cons, List.map_cons, List.sum_cons, List.length_cons,
          List.length_cons]
        omega

theorem lineAt_le_lineAt (cs : List Char) {o o' : Nat} (h : o ≤ o') :
    lineAt cs o ≤ lineAt cs o' :=
  Nat.succ_le_succ ((List.take_prefix_take_left h).sublist.count_le '\n')

theorem exists_lineAt {cs : List Char} {n : Nat} (hn : 1 ≤ n) (hle : n ≤ cs.count '\n' + 1) :
    ∃ o ≤ cs.length, lineAt cs o = n := by
  induction cs generalizing n with
  | nil => exact ⟨0, Nat.le_refl 0, Nat.le_antisymm hn hle⟩
  | cons c cs ih =>
      by_cases hfirst : n = 1
      · exact ⟨0, Nat.zero_le _, hfirst.symm⟩
      · have hstep (o : Nat) : lineAt (c :: cs) (o + 1) =
            lineAt cs o + if c = '\n' then 1 else 0 := by
          by_cases hc : c = '\n' <;> simp [lineAt, hc]
        by_cases hc : c = '\n'
        · rw [hc, List.count_cons_self] at hle
          obtain ⟨o, ho, hline⟩ := @ih (n - 1) (by omega) (by omega)
          refine ⟨o + 1, Nat.succ_le_succ ho, ?_⟩
          rw [hstep, if_pos hc, hline]
          omega
        · rw [List.count_cons_of_ne hc] at hle
          obtain ⟨o, ho, hline⟩ := ih hn hle
          refine ⟨o + 1, Nat.succ_le_succ ho, ?_⟩
          rw [hstep, if_neg hc, hline, Nat.add_zero]

section LineCut

variable {cs front chars back : List Char} {n : Nat}

theorem LineCut.splitOn (h : LineCut cs n front chars back) :
    ∃ earlier later, cs.splitOn '\n' = earlier ++ chars :: later ∧ earlier.length + 1 = n ∧
      (earlier.map (·.length + 1)).sum = front.length := by
  obtain ⟨later, hlater⟩ : ∃ later, (chars ++ back).splitOn '\n' = chars :: later := by
    rcases h.ends with rfl | ⟨behind, rfl⟩
    · rw [List.append_nil, List.splitOn_eq_singleton h.unbroken]
      exact ⟨[], rfl⟩
    · rw [List.splitOn_append_cons_self, List.splitOn_eq_singleton h.unbroken]
      exact ⟨_, rfl⟩
  have hnumber := h.number
  rcases h.begins with rfl | ⟨before, rfl⟩
  · exact ⟨[], later, by rw [h.cut, List.nil_append, hlater]; rfl, hnumber, rfl⟩
  · refine ⟨before.splitOn '\n', later, ?_, ?_, ?_⟩
    · rw [h.cut, List.append_assoc, List.append_assoc, List.singleton_append,
        List.splitOn_append_cons_self, hlater]
    · rw [List.count_append] at hnumber
      rw [← lines_eq_splitOn, length_lines]
      exact hnumber
    · rw [sum_lines, List.length_append]
      rfl

theorem LineCut.getElem? (h : LineCut cs n front chars back) :
    (cs.splitOn '\n')[n - 1]? = some chars := by
  obtain ⟨earlier, later, hsplit, hn, -⟩ := h.splitOn
  rw [hsplit, ← hn, Nat.add_sub_cancel, List.getElem?_append_right (Nat.le_refl _), Nat.sub_self]
  rfl

theorem LineCut.line? (h : LineCut cs n front chars back) :
    line? cs n = some ⟨front.length, chars⟩ := by
  obtain ⟨earlier, later, hsplit, hn, hsum⟩ := h.splitOn
  have hstart : Highlight.lineStart (cs.splitOn '\n') n = front.length := by
    rw [Highlight.lineStart, hsplit, ← hn, Nat.add_sub_cancel, List.take_left, hsum]
  rw [Highlight.line?_eq cs (by omega), h.getElem?, hstart]
  rfl

theorem LineCut.offset (h : LineCut cs n front chars back) {k : Nat} (hk : k ≤ chars.length) :
    front.length + k ≤ cs.length ∧ lineAt cs (front.length + k) = n ∧
      fromLineStart cs (front.length + k) = k := by
  have htake : cs.take (front.length + k) = front ++ chars.take k := by
    rw [h.cut, List.append_assoc, List.take_length_add_append, List.take_append_of_le_length hk]
  have hunbroken : '\n' ∉ chars.take k := fun hmem => h.unbroken (List.mem_of_mem_take hmem)
  have hfront : front.reverse.takeWhile (· != '\n') = [] := by
    rcases h.begins with rfl | ⟨before, rfl⟩
    · rfl
    · rw [List.reverse_concat]
      rfl
  refine ⟨?_, ?_, ?_⟩
  · rw [h.cut, List.length_append, List.length_append]
    omega
  · rw [lineAt, htake, List.count_append, List.count_eq_zero.mpr hunbroken, Nat.add_zero, h.number]
  · have hall : ∀ c ∈ (chars.take k).reverse, (c != '\n') = true := by
      intro c hc
      rw [bne_iff_ne]
      rintro rfl
      exact hunbroken (List.mem_reverse.mp hc)
    rw [fromLineStart, htake, List.reverse_append, List.takeWhile_append_of_pos hall, hfront,
      List.append_nil, List.length_reverse, List.length_take, Nat.min_eq_left hk]

end LineCut

theorem exists_cut_at_feed (cs : List Char) :
    ∃ rest, cs = cs.takeWhile (· != '\n') ++ rest ∧ '\n' ∉ cs.takeWhile (· != '\n') ∧
      (rest = [] ∨ ∃ behind, rest = '\n' :: behind) := by
  refine ⟨cs.dropWhile (· != '\n'), List.takeWhile_append_dropWhile.symm, ?_, ?_⟩
  · intro hmem
    cases List.mem_takeWhile_imp hmem
  · have hnot := List.head?_dropWhile_not (· != '\n') cs
    cases hrest : cs.dropWhile (· != '\n') with
    | nil => exact .inl rfl
    | cons c behind =>
        rw [hrest] at hnot
        obtain rfl : c = '\n' := by simpa using hnot
        exact .inr ⟨behind, rfl⟩

theorem exists_lineCut (cs : List Char) {o : Nat} (h : o ≤ cs.length) :
    ∃ front chars back, LineCut cs (lineAt cs o) front chars back ∧
      front.length + fromLineStart cs o = o ∧ fromLineStart cs o ≤ chars.length := by
  obtain ⟨front, htake, hbefore, hfront⟩ := exists_cut_at_feed (cs.take o).reverse
  obtain ⟨back, hdrop, hbehind, hback⟩ := exists_cut_at_feed (cs.drop o)
  let before := (cs.take o).reverse.takeWhile (· != '\n')
  rw [List.reverse_eq_iff, List.reverse_append] at htake
  refine ⟨front.reverse, before.reverse ++ (cs.drop o).takeWhile (· != '\n'), back, ?_, ?_, ?_⟩
  · refine ⟨?_, ?_, ?_, ?_, hback⟩
    · rw [← List.append_assoc, ← htake, List.append_assoc, ← hdrop, List.take_append_drop]
    · rcases hfront with rfl | ⟨behind, rfl⟩
      · exact .inl rfl
      · exact .inr ⟨behind.reverse, List.reverse_cons⟩
    · have hnone : before.reverse.count '\n' = 0 :=
        List.count_eq_zero.mpr fun hmem => hbefore (List.mem_reverse.mp hmem)
      rw [lineAt, htake, List.count_append, hnone, Nat.add_zero]
    · rw [List.mem_append, List.mem_reverse, not_or]
      exact ⟨hbefore, hbehind⟩
  · have hfrom : before.reverse.length = fromLineStart cs o := List.length_reverse
    rw [← hfrom, ← List.length_append, ← htake, List.length_take_of_le h]
  · rw [List.length_append, List.length_reverse]
    exact Nat.le_add_right _ _

end ScriptBench.Text

namespace ScriptBench.Diagnostic

open Text (LineCut fromLineStart lineAt)

theorem exists_lineCut_of_offset? {text : String} {line column o : Nat}
    (h : offset? text line column = some o) :
    ∃ front chars back, LineCut text.toList line front chars back ∧
      o = front.length + min (column - 1) chars.length := by
  obtain ⟨l, hl, ho⟩ := Option.map_eq_some_iff.mp h
  have hrange := (Text.line?_isSome_iff text.toList line).mp (by rw [hl]; rfl)
  obtain ⟨i, hi, rfl⟩ := Text.exists_lineAt hrange.1 hrange.2
  obtain ⟨front, chars, back, hcut, -, -⟩ := Text.exists_lineCut text.toList hi
  obtain rfl : l = ⟨front.length, chars⟩ := Option.some.inj (hl.symm.trans hcut.line?)
  exact ⟨front, chars, back, hcut, ho.symm⟩

theorem offset?_of_cut {text : String} {line : Nat} {front chars back : List Char}
    (h : LineCut text.toList line front chars back) (column : Nat) :
    offset? text line column = some (front.length + min (column - 1) chars.length) := by
  rw [offset?, h.line?]
  rfl

theorem offset?_lineAt {text : String} {o : Nat} (h : o ≤ text.length) :
    offset? text (lineAt text.toList o) (fromLineStart text.toList o + 1) = some o := by
  rw [← String.length_toList] at h
  obtain ⟨front, chars, back, hcut, ho, hle⟩ := Text.exists_lineCut text.toList h
  rw [offset?_of_cut hcut, Nat.add_sub_cancel, Nat.min_eq_left hle, ho]

theorem offset?_eq_some_iff {text : String} {line column o : Nat} :
    offset? text line column = some o ↔ o ≤ text.length ∧ lineAt text.toList o = line ∧
      ∃ chars ∈ (text.toList.splitOn '\n')[line - 1]?,
        fromLineStart text.toList o = min (column - 1) chars.length := by
  rw [← String.length_toList]
  constructor
  · intro h
    obtain ⟨front, chars, back, hcut, rfl⟩ := exists_lineCut_of_offset? h
    obtain ⟨hle, hline, hfrom⟩ := hcut.offset (Nat.min_le_right (column - 1) chars.length)
    exact ⟨hle, hline, chars, hcut.getElem?, hfrom⟩
  · rintro ⟨hle, rfl, chars, hchars, hfrom⟩
    obtain ⟨front, chars', back, hcut, ho, -⟩ := Text.exists_lineCut text.toList hle
    obtain rfl : chars = chars' := Option.some.inj (hchars.symm.trans hcut.getElem?)
    rw [offset?_of_cut hcut, ← hfrom, ho]

theorem exists_offset?_iff (text : String) (line column : Nat) :
    (∃ o, offset? text line column = some o) ↔
      1 ≤ line ∧ line ≤ text.toList.count '\n' + 1 := by
  rw [← Option.isSome_iff_exists, offset?, Option.isSome_map, Text.line?_isSome_iff]

theorem offset?_lt_of_line_lt {text : String} {line line' column column' o o' : Nat}
    (h : offset? text line column = some o) (h' : offset? text line' column' = some o')
    (hlt : line < line') : o < o' := by
  obtain ⟨-, rfl, -⟩ := offset?_eq_some_iff.mp h
  obtain ⟨-, rfl, -⟩ := offset?_eq_some_iff.mp h'
  exact Nat.lt_of_not_le fun hle => absurd (Text.lineAt_le_lineAt text.toList hle) (by omega)

theorem offset?_le_of_column_le {text : String} {line column column' o o' : Nat}
    (h : offset? text line column = some o) (h' : offset? text line column' = some o')
    (hle : column ≤ column') : o ≤ o' := by
  obtain ⟨front, chars, back, hcut, rfl⟩ := exists_lineCut_of_offset? h
  obtain rfl := Option.some.inj ((offset?_of_cut hcut column').symm.trans h')
  omega

theorem lineAt_of_jump? {text : String} {r : Record} {o : Nat} (h : r.jump? text = some o) :
    ∃ p ∈ r.position, lineAt text.toList o = p.line ∧ o ≤ text.length := by
  cases herror : r.isError with
  | false =>
      rw [Record.jump?, herror] at h
      cases h
  | true =>
      rw [jump?_of_isError herror] at h
      obtain ⟨p, hp, hoffset⟩ := Option.bind_eq_some_iff.mp h
      obtain ⟨hle, hline, -⟩ := offset?_eq_some_iff.mp hoffset
      exact ⟨p, hp, hline, hle⟩

theorem offset_inverts_numbering (text : String) :
    let cs := text.toList
    (∀ o ≤ text.length, offset? text (lineAt cs o) (fromLineStart cs o + 1) = some o) ∧
    (∀ line column, (∃ o, offset? text line column = some o) ↔
      1 ≤ line ∧ line ≤ cs.count '\n' + 1) ∧
    (∀ line column o, offset? text line column = some o ↔
      1 ≤ line ∧ o ≤ text.length ∧ (cs.take o).count '\n' = line - 1 ∧
        ∃ chars ∈ (cs.splitOn '\n')[line - 1]?,
          fromLineStart cs o = min (column - 1) chars.length) ∧
    (∀ line column line' column' o o', offset? text line column = some o →
      offset? text line' column' = some o' →
        (line < line' → o < o') ∧ (line = line' → column ≤ column' → o ≤ o')) ∧
    ∀ r : Record, ∀ o ∈ r.jump? text,
      ∃ p ∈ r.position, lineAt cs o = p.line ∧ o ≤ text.length := by
  intro cs
  refine ⟨fun o => offset?_lineAt, exists_offset?_iff text, ?_, ?_, fun r o => lineAt_of_jump?⟩
  · intro line column o
    have hnumber : lineAt cs o = line ↔ 1 ≤ line ∧ (cs.take o).count '\n' = line - 1 := by
      rw [lineAt]
      omega
    rw [offset?_eq_some_iff, hnumber]
    tauto
  · intro line column line' column' o o' h h'
    refine ⟨offset?_lt_of_line_lt h h', ?_⟩
    rintro rfl
    exact offset?_le_of_column_le h h'

theorem numbering_around_empty_line :
    4 ≤ "né\n\nx".length ∧ offset? "né\n\nx" 3 1 = some 4 ∧ offset? "né\n\nx" 2 9 = some 3 := by
  have hlast : 4 ≤ "né\n\nx".length := by decide
  have hnumbering := offset_inverts_numbering "né\n\nx"
  refine ⟨hlast, hnumbering.1 4 hlast, ?_⟩
  exact (hnumbering.2.2.1 2 9 3).mpr ⟨by decide, by decide, by decide, [], by decide, by decide⟩

end ScriptBench.Diagnostic
