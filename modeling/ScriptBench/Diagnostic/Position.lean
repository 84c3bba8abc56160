namespace ScriptBench.Diagnostic

structure Position where
  line : Nat
  column : Option Nat
deriving DecidableEq, Repr

/-- Lines first, then columns; an unknown column comes before every known one. -/
def Position.before (a b : Position) : Bool :=
  a.line < b.line || (a.line == b.line &&
    match a.column, b.column with
    | none, some _ => true
    | some m, some n => m < n
    | _, none => false)

theorem Position.before_irrefl (a : Position) : a.before a = false := by
  cases a with
  | mk line column => cases column <;> simp [before]

theorem Position.before_trans {a b c : Position} (hab : a.before b = true)
    (hbc : b.before c = true) : a.before c = true := by
  rcases a with ⟨la, _ | ca⟩ <;> rcases b with ⟨lb, _ | cb⟩ <;> rcases c with ⟨lc, _ | cc⟩ <;>
    simp_all [before] <;> omega

theorem Position.eq_of_not_before {a b : Position} (hab : a.before b = false)
    (hba : b.before a = false) : a = b := by
  rcases a with ⟨la, _ | ca⟩ <;> rcases b with ⟨lb, _ | cb⟩ <;> simp_all [before] <;> omega

def insertSorted (p : Position) : List Position → List Position
  | [] => [p]
  | q :: rest =>
    if p.before q then p :: q :: rest
    else if q.before p then q :: insertSorted p rest
    else q :: rest

theorem mem_insertSorted {p r : Position} {ps : List Position} :
    r ∈ insertSorted p ps ↔ r = p ∨ r ∈ ps := by
  induction ps with
  | nil => simp [insertSorted]
  | cons q rest ih =>
      simp only [insertSorted]
      split
      · simp
      · split
        · simp only [List.mem_cons, ih]
          exact or_left_comm
        · rename_i h1 h2
          have := Position.eq_of_not_before (Bool.not_eq_true _ ▸ h1) (Bool.not_eq_true _ ▸ h2)
          subst this
          simp

def Increasing (ps : List Position) : Prop := ps.Pairwise (fun a b => a.before b = true)

theorem increasing_insertSorted {p : Position} {ps : List Position} (h : Increasing ps) :
    Increasing (insertSorted p ps) := by
  induction ps with
  | nil => simp [insertSorted, Increasing]
  | cons q rest ih =>
      have hq := (List.pairwise_cons.1 h).1
      have hrest := (List.pairwise_cons.1 h).2
      simp only [insertSorted]
      split
      · rename_i hpq
        refine List.pairwise_cons.2 ⟨fun r hr => ?_, h⟩
        cases List.mem_cons.1 hr with
        | inl e => exact e ▸ hpq
        | inr hr => exact Position.before_trans hpq (hq r hr)
      · split
        · rename_i hqp
          refine List.pairwise_cons.2 ⟨fun r hr => ?_, ih hrest⟩
          cases mem_insertSorted.1 hr with
          | inl e => exact e ▸ hqp
          | inr hr => exact hq r hr
        · exact h

structure PositionSet where
  toList : List Position
  increasing : Increasing toList
deriving DecidableEq

namespace PositionSet

def empty : PositionSet := ⟨[], List.Pairwise.nil⟩

def insert (s : PositionSet) (p : Position) : PositionSet :=
  ⟨insertSorted p s.toList, increasing_insertSorted s.increasing⟩

def ofList (ps : List Position) : PositionSet := ps.foldl insert empty

def isEmpty (s : PositionSet) : Bool := s.toList.isEmpty

def size (s : PositionSet) : Nat := s.toList.length

instance : Membership Position PositionSet := ⟨fun s p => p ∈ s.toList⟩

theorem mem_insert {s : PositionSet} {p q : Position} : q ∈ s.insert p ↔ q = p ∨ q ∈ s :=
  mem_insertSorted

theorem not_mem_empty (p : Position) : ¬ p ∈ empty := List.not_mem_nil

end PositionSet

end ScriptBench.Diagnostic
