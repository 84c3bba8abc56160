import ScriptBench.Diagnostic.LineClass
import ScriptBench.Text.Lines
import Mathlib.Algebra.Group.Nat.Defs
import Mathlib.Data.List.TakeWhile

namespace ScriptBench.Diagnostic

theorem value_eq_ofDigitChars (ds : List Char) : value ds = Nat.ofDigitChars 10 ds 0 := by
  rw [Nat.ofDigitChars_eq_foldl]
  rfl

theorem number?_eq_some_iff {ds : List Char} {n : Nat} :
    number? ds = some n ↔ n = Nat.ofDigitChars 10 ds 0 ∧ n < 2 ^ 64 := by
  rw [number?, value_eq_ofDigitChars, numberLimit]
  constructor
  · intro h
    split at h
    · rename_i hlt
      obtain rfl := Option.some.inj h
      exact ⟨rfl, hlt⟩
    · cases h
  · rintro ⟨rfl, hlt⟩
    exact if_pos hlt

def Digits (ds : List Char) : Prop := ds ≠ [] ∧ ∀ d ∈ ds, d.isDigit = true

theorem not_mem_digits {ds : List Char} (h : Digits ds) {c : Char} (hc : c.isDigit = false) :
    c ∉ ds := by
  intro hmem
  rw [h.2 c hmem] at hc
  cases hc

theorem takeWhile_digits_eq_nil_iff {cs : List Char} :
    cs.takeWhile Char.isDigit = [] ↔ ∀ c ∈ cs.head?, c.isDigit = false := by
  cases cs with
  | nil => simp
  | cons c cs => by_cases hc : c.isDigit = true <;> simp [hc]

theorem dropWhile_digits_eq_self {cs : List Char} (h : ∀ c ∈ cs.head?, c.isDigit = false) :
    cs.dropWhile Char.isDigit = cs := by
  cases cs with
  | nil => rfl
  | cons c cs => simp [h c rfl]

theorem head?_dropWhile_digits (cs : List Char) :
    ∀ c ∈ (cs.dropWhile Char.isDigit).head?, c.isDigit = false := by
  intro c hc
  have hnot := List.head?_dropWhile_not Char.isDigit cs
  rw [hc] at hnot
  exact hnot

theorem digits?_eq_some_iff {text ds rest : List Char} :
    digits? text = some (ds, rest) ↔
      text = ds ++ rest ∧ Digits ds ∧ ∀ c ∈ rest.head?, c.isDigit = false := by
  constructor
  · intro h
    have hall : ∀ d ∈ text.takeWhile Char.isDigit, d.isDigit = true :=
      List.all_eq_true.mp List.all_takeWhile
    have htext : text.takeWhile Char.isDigit ++ text.dropWhile Char.isDigit = text :=
      List.takeWhile_append_dropWhile
    rw [digits?] at h
    cases htake : text.takeWhile Char.isDigit with
    | nil =>
        rw [htake] at h
        cases h
    | cons d more =>
        rw [htake] at h hall htext
        obtain ⟨rfl, rfl⟩ := Prod.mk.inj (Option.some.inj h)
        exact ⟨htext.symm, ⟨List.cons_ne_nil d more, hall⟩, head?_dropWhile_digits text⟩
  · rintro ⟨rfl, hds, hrest⟩
    have htake : (ds ++ rest).takeWhile Char.isDigit = ds := by
      rw [List.takeWhile_append_of_pos hds.2, takeWhile_digits_eq_nil_iff.mpr hrest, List.append_nil]
    have hdrop : (ds ++ rest).dropWhile Char.isDigit = rest := by
      rw [List.dropWhile_append_of_pos hds.2, dropWhile_digits_eq_self hrest]
    rw [digits?, htake, hdrop]
    cases ds with
    | nil => exact absurd rfl hds.1
    | cons d ds => rfl

theorem after?_takeWhile {p : Char → Bool} {mark : List Char} (hmark : ∀ c ∈ mark, p c = true)
    (text : List Char) : after? mark (text.takeWhile p) = (after? mark text).map (·.takeWhile p) := by
  induction mark generalizing text with
  | nil => rfl
  | cons m mark ih =>
      obtain ⟨hm, hmark⟩ := List.forall_mem_cons.mp hmark
      cases text with
      | nil => rfl
      | cons c text =>
          by_cases hc : m = c
          · subst hc
            simp [after?, hm, ih hmark]
          · by_cases hp : p c = true <;> simp [after?, hp, hc]

theorem digits?_takeWhile {p : Char → Bool} (hp : ∀ c, c.isDigit = true → p c = true)
    (text : List Char) :
    (digits? (text.takeWhile p)).map Prod.fst = (digits? text).map Prod.fst := by
  have hboth : (fun c => decide (c.isDigit = true ∧ p c = true)) = Char.isDigit := by
    funext c
    cases hc : c.isDigit with
    | true => simp [hp c hc]
    | false => simp
  rw [digits?, digits?, List.takeWhile_takeWhile, hboth]
  cases text.takeWhile Char.isDigit <;> rfl

section Finds

variable {α : Type} {read : List Char → Option α}

def Finds (read : List Char → Option α) (text before : List Char) (a : α) : Prop :=
  '\n' ∉ before ∧ ∃ rest, text = before ++ rest ∧ read rest = some a

theorem finds_nil {before : List Char} {a : α} :
    Finds read [] before a ↔ before = [] ∧ read [] = some a := by
  constructor
  · rintro ⟨-, rest, htext, hread⟩
    obtain ⟨rfl, rfl⟩ := List.nil_eq_append_iff.mp htext
    exact ⟨rfl, hread⟩
  · rintro ⟨rfl, hread⟩
    exact ⟨List.not_mem_nil, [], rfl, hread⟩

theorem finds_cons {c : Char} {cs before : List Char} {a : α} :
    Finds read (c :: cs) before a ↔
      before = [] ∧ read (c :: cs) = some a ∨
      ∃ front, before = c :: front ∧ c ≠ '\n' ∧ Finds read cs front a := by
  constructor
  · rintro ⟨hfree, rest, htext, hread⟩
    cases before with
    | nil =>
        rw [List.nil_append] at htext
        exact .inl ⟨rfl, htext ▸ hread⟩
    | cons b front =>
        obtain ⟨rfl, hcs⟩ := List.cons.inj htext
        rw [List.mem_cons, not_or] at hfree
        exact .inr ⟨front, rfl, Ne.symm hfree.1, hfree.2, rest, hcs, hread⟩
  · rintro (⟨rfl, hread⟩ | ⟨front, rfl, hc, hfree, rest, rfl, hread⟩)
    · exact ⟨List.not_mem_nil, _, rfl, hread⟩
    · exact ⟨by simp [hfree, Ne.symm hc], rest, rfl, hread⟩

theorem finds_unique {text before before' : List Char} {a a' : α}
    (h : Finds read text before a) (h' : Finds read text before' a')
    (hlen : before.length = before'.length) : a = a' := by
  obtain ⟨-, rest, rfl, hread⟩ := h
  obtain ⟨-, rest', htext, hread'⟩ := h'
  obtain ⟨-, rfl⟩ := List.append_inj htext hlen
  exact Option.some.inj (hread.symm.trans hread')

theorem last?_eq_none_iff {text : List Char} :
    last? read text = none ↔ ∀ a before, ¬ Finds read text before a := by
  induction text with
  | nil => simp [last?, finds_nil, Option.eq_none_iff_forall_ne_some]
  | cons c cs ih =>
      by_cases hc : c = '\n'
      · simp [last?, finds_cons, hc, Option.eq_none_iff_forall_ne_some]
      · rw [last?, if_neg hc, Option.or_eq_none_iff, ih]
        constructor
        · rintro ⟨hrest, hhere⟩ a before hfinds
          rcases finds_cons.mp hfinds with ⟨-, hread⟩ | ⟨front, -, -, hfront⟩
          · rw [hhere] at hread
            cases hread
          · exact hrest a front hfront
        · intro hnone
          refine ⟨fun a before h => hnone a (c :: before) ?_, ?_⟩
          · exact finds_cons.mpr (.inr ⟨before, rfl, hc, h⟩)
          · rw [Option.eq_none_iff_forall_ne_some]
            intro a hread
            exact hnone a [] (finds_cons.mpr (.inl ⟨rfl, hread⟩))

-- What is found in the rest of the line wins over what stands here, so the front is longest.
theorem exists_longest_of_last? {text : List Char} {a : α} (h : last? read text = some a) :
    ∃ before, Finds read text before a ∧
      ∀ before' a', Finds read text before' a' → before'.length ≤ before.length := by
  induction text with
  | nil =>
      refine ⟨[], finds_nil.mpr ⟨rfl, h⟩, fun before' a' h' => ?_⟩
      exact Nat.le_of_eq (congrArg List.length (finds_nil.mp h').1)
  | cons c cs ih =>
      rw [last?] at h
      split at h
      · rename_i hc
        refine ⟨[], finds_cons.mpr (.inl ⟨rfl, h⟩), fun before' a' h' => ?_⟩
        rcases finds_cons.mp h' with ⟨rfl, -⟩ | ⟨-, -, hne, -⟩
        · exact Nat.le_refl _
        · exact absurd hc hne
      · rename_i hc
        rcases Option.or_eq_some_iff.mp h with hrest | ⟨hrest, hhere⟩
        · obtain ⟨front, hfront, hlongest⟩ := ih hrest
          refine ⟨c :: front, finds_cons.mpr (.inr ⟨front, rfl, hc, hfront⟩), ?_⟩
          intro before' a' h'
          rcases finds_cons.mp h' with ⟨rfl, -⟩ | ⟨front', rfl, -, hfront'⟩
          · exact Nat.zero_le _
          · exact Nat.succ_le_succ (hlongest front' a' hfront')
        · refine ⟨[], finds_cons.mpr (.inl ⟨rfl, hhere⟩), fun before' a' h' => ?_⟩
          rcases finds_cons.mp h' with ⟨rfl, -⟩ | ⟨front', -, -, hfront'⟩
          · exact Nat.le_refl _
          · exact absurd hfront' (last?_eq_none_iff.mp hrest a' front')

theorem last?_eq_some_iff {text : List Char} {a : α} :
    last? read text = some a ↔ ∃ before, Finds read text before a ∧
      ∀ before' a', Finds read text before' a' → before'.length ≤ before.length := by
  refine ⟨exists_longest_of_last?, ?_⟩
  rintro ⟨before, hfinds, hlongest⟩
  cases hlast : last? read text with
  | none => exact absurd hfinds (last?_eq_none_iff.mp hlast a before)
  | some a' =>
      obtain ⟨before', hfinds', hlongest'⟩ := exists_longest_of_last? hlast
      have hlen : before'.length = before.length :=
        Nat.le_antisymm (hlongest before' a' hfinds') (hlongest' before a hfinds)
      rw [finds_unique hfinds' hfinds hlen]

theorem last?_takeWhile (hread : ∀ text, read text = read (text.takeWhile (· != '\n')))
    (text : List Char) : last? read text = last? read (text.takeWhile (· != '\n')) := by
  induction text with
  | nil => rfl
  | cons c cs ih =>
      by_cases hc : c = '\n'
      · have hfirst : (c :: cs).takeWhile (· != '\n') = [] := by simp [hc]
        rw [last?, if_pos hc, hread, hfirst]
        rfl
      · have hfirst : (c :: cs).takeWhile (· != '\n') = c :: cs.takeWhile (· != '\n') := by
          simp [hc]
        rw [last?, if_neg hc, hread, hfirst, last?, if_neg hc, ih]

theorem go_eq_or_findSome? (hread : ∀ text, read text = read (text.takeWhile (· != '\n')))
    (found : Option α) (text : List Char) :
    lastInLines?.go read found text =
      found.or ((Text.splitLines text).2.findSome? (last? read)) := by
  induction text generalizing found with
  | nil => cases found <;> rfl
  | cons c cs ih =>
      cases found with
      | some a => rfl
      | none =>
          by_cases hc : c = '\n'
          · simp only [lastInLines?.go, if_pos hc, ih, Text.splitLines, List.findSome?_cons]
            rw [last?_takeWhile hread cs, Text.fst_splitLines]
            cases last? read (cs.takeWhile (· != '\n')) <;> rfl
          · simp only [lastInLines?.go, if_neg hc, ih, Text.splitLines]

theorem lastInLines?_eq_findSome? (hread : ∀ text, read text = read (text.takeWhile (· != '\n')))
    (text : List Char) :
    lastInLines? read text = (text.splitOn '\n').findSome? (last? read) := by
  rw [← Text.lines_eq_splitOn, Text.lines, List.findSome?_cons, lastInLines?,
    go_eq_or_findSome? hread, Text.fst_splitLines, ← last?_takeWhile hread text]
  cases last? read text <;> rfl

end Finds

end ScriptBench.Diagnostic
