namespace ScriptBench.Text

def splitLines : List Char → List Char × List (List Char)
  | [] => ([], [])
  | c :: cs =>
    let (line, more) := splitLines cs
    if c = '\n' then ([], line :: more) else (c :: line, more)

def lines (cs : List Char) : List (List Char) :=
  (splitLines cs).1 :: (splitLines cs).2

theorem length_lines (cs : List Char) : (lines cs).length = cs.count '\n' + 1 := by
  induction cs with
  | nil => rfl
  | cons c cs ih =>
      simp only [lines, List.length_cons, Nat.add_right_cancel_iff] at ih ⊢
      by_cases h : c = '\n' <;> simp [splitLines, h, ih]

theorem lines_cons (c : Char) (cs : List Char) :
    lines (c :: cs) = if c = '\n' then [] :: lines cs else (lines cs).modifyHead (c :: ·) := by
  by_cases h : c = '\n' <;> simp [lines, splitLines, h]

theorem lines_eq_splitOn (cs : List Char) : lines cs = cs.splitOn '\n' := by
  induction cs with
  | nil => rfl
  | cons c cs ih =>
      rw [List.splitOn_eq_splitOnP] at ih ⊢
      rw [List.splitOnP_cons_eq_if_modifyHead, ← ih, lines_cons]
      simp

theorem not_mem_of_mem_lines {cs l : List Char} (hl : l ∈ lines cs) : '\n' ∉ l := by
  induction cs generalizing l with
  | nil =>
      obtain rfl : l = [] := List.mem_singleton.mp hl
      exact List.not_mem_nil
  | cons c cs ih =>
      rw [lines_cons] at hl
      split at hl
      · rcases List.mem_cons.mp hl with rfl | hl
        · exact List.not_mem_nil
        · exact ih hl
      · rename_i hc
        rw [lines, List.modifyHead_cons] at hl
        rcases List.mem_cons.mp hl with rfl | hl
        · have hfirst : '\n' ∉ (splitLines cs).1 := ih List.mem_cons_self
          simp [hfirst, Ne.symm hc]
        · exact ih (List.mem_cons_of_mem _ hl)

theorem fst_splitLines (cs : List Char) : (splitLines cs).1 = cs.takeWhile (· != '\n') := by
  induction cs with
  | nil => rfl
  | cons c cs ih => by_cases h : c = '\n' <;> simp [splitLines, h, ih]

structure Line where
  start : Nat
  chars : List Char
deriving DecidableEq, Repr

def placed (start : Nat) : List (List Char) → List Line
  | [] => []
  | l :: ls => ⟨start, l⟩ :: placed (start + l.length + 1) ls

def line? (cs : List Char) (number : Nat) : Option Line :=
  if number = 0 then none else (placed 0 (lines cs))[number - 1]?

theorem length_placed (start : Nat) (ls : List (List Char)) :
    (placed start ls).length = ls.length := by
  induction ls generalizing start with
  | nil => rfl
  | cons l ls ih => simp [placed, ih]

theorem line?_isSome_iff (cs : List Char) (number : Nat) :
    (line? cs number).isSome = true ↔ 1 ≤ number ∧ number ≤ cs.count '\n' + 1 := by
  cases number with
  | zero => simp [line?]
  | succ n =>
      have h : (line? cs (n + 1)).isSome = true ↔ n < (placed 0 (lines cs)).length := by
        simp [line?]
      rw [h, length_placed, length_lines]
      omega

end ScriptBench.Text
