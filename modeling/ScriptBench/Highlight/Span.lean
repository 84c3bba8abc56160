namespace ScriptBench.Highlight

inductive Tag where
  | keyword | error
deriving DecidableEq, Repr

def Tag.slug : Tag → String
  | .keyword => "keyword"
  | .error => "error"

structure Tags where
  keyword : Bool
  error : Bool
deriving DecidableEq, Repr

namespace Tags

def plain : Tags := ⟨false, false⟩

def ofKeyword (keyword : Bool) : Tags := ⟨keyword, false⟩

def onlyError : Tags := ⟨false, true⟩

def union (a b : Tags) : Tags := ⟨a.keyword || b.keyword, a.error || b.error⟩

def insert (a : Tags) : Tag → Tags
  | .keyword => ⟨true, a.error⟩
  | .error => ⟨a.keyword, true⟩

def ofList (tags : List Tag) : Tags := tags.foldl insert plain

def has (a : Tags) : Tag → Bool
  | .keyword => a.keyword
  | .error => a.error

def toList (a : Tags) : List Tag := [Tag.keyword, Tag.error].filter a.has

theorem union_comm (a b : Tags) : a.union b = b.union a := by
  simp [union, Bool.or_comm]

theorem union_plain (a : Tags) : a.union plain = a := by
  simp [union, plain]

end Tags

structure Span where
  length : Nat
  tags : Tags
deriving DecidableEq, Repr

def totalLength : List Span → Nat
  | [] => 0
  | s :: rest => s.length + totalLength rest

def tagsAt : List Span → Nat → Tags
  | [], _ => .plain
  | s :: rest, i => if i < s.length then s.tags else tagsAt rest (i - s.length)

def grow (n : Nat) (tags : Tags) (spans : List Span) : List Span :=
  if n = 0 then spans
  else match spans with
    | [] => [⟨n, tags⟩]
    | s :: rest => if s.tags = tags then ⟨n + s.length, tags⟩ :: rest else ⟨n, tags⟩ :: s :: rest

inductive Canonical : List Span → Prop
  | nil : Canonical []
  | single {s} : 0 < s.length → Canonical [s]
  | cons {s t rest} : 0 < s.length → s.tags ≠ t.tags → Canonical (t :: rest) →
      Canonical (s :: t :: rest)

theorem canonical_grow (n : Nat) (tags : Tags) {spans : List Span} (h : Canonical spans) :
    Canonical (grow n tags spans) := by
  unfold grow
  split
  · exact h
  · rename_i hn
    cases h with
    | nil => exact .single (by simp; omega)
    | @single s hs =>
        simp only
        split
        · exact .single (by simp; omega)
        · rename_i hne
          exact .cons (by simp; omega) (fun e => hne e.symm) (.single hs)
    | @cons s t rest hs hne ht =>
        simp only
        split
        · rename_i heq
          exact .cons (by simp; omega) (fun e => hne (heq.trans e)) ht
        · rename_i hne'
          exact .cons (by simp; omega) (fun e => hne' e.symm) (.cons hs hne ht)

theorem totalLength_grow (n : Nat) (tags : Tags) (spans : List Span) :
    totalLength (grow n tags spans) = n + totalLength spans := by
  unfold grow
  split
  · omega
  · cases spans with
    | nil => simp [totalLength]
    | cons s rest =>
        simp only
        split <;> simp [totalLength]
        omega

theorem tagsAt_grow (n : Nat) (tags : Tags) (spans : List Span) (i : Nat) :
    tagsAt (grow n tags spans) i = if i < n then tags else tagsAt spans (i - n) := by
  unfold grow
  split
  · rename_i hn
    simp [hn]
  · cases spans with
    | nil => simp [tagsAt]
    | cons s rest =>
        simp only
        split
        · rename_i hn heq
          by_cases h1 : i < n
          · have : i < n + s.length := by omega
            simp [tagsAt, h1, this]
          · by_cases h2 : i < n + s.length
            · have : i - n < s.length := by omega
              simp [tagsAt, h1, h2, this, heq]
            · have h3 : ¬ i - n < s.length := by omega
              have h4 : i - (n + s.length) = i - n - s.length := by omega
              simp [tagsAt, h1, h2, h3, h4]
        · simp [tagsAt]

def runs : List Tags → List Span
  | [] => []
  | t :: ts => grow 1 t (runs ts)

theorem canonical_runs (ts : List Tags) : Canonical (runs ts) := by
  induction ts with
  | nil => exact .nil
  | cons t ts ih => exact canonical_grow 1 t ih

theorem totalLength_runs (ts : List Tags) : totalLength (runs ts) = ts.length := by
  induction ts with
  | nil => rfl
  | cons t ts ih => simp [runs, totalLength_grow, ih]; omega

theorem tagsAt_runs (ts : List Tags) (i : Nat) : tagsAt (runs ts) i = ts[i]?.getD .plain := by
  induction ts generalizing i with
  | nil => simp [runs, tagsAt]
  | cons t ts ih =>
      cases i with
      | zero => simp [runs, tagsAt_grow]
      | succ i => simp [runs, tagsAt_grow, ih]

end ScriptBench.Highlight
