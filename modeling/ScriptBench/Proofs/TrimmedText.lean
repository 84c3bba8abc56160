import ScriptBench.Text.Trim
import Mathlib.Data.List.DropRight
import Mathlib.Data.List.TakeWhile

namespace ScriptBench.Text

structure Trims (cs word : List Char) : Prop where
  padded : ∃ front back, (∀ c ∈ front, isBlank c = true) ∧ (∀ c ∈ back, isBlank c = true) ∧
    cs = front ++ word ++ back
  head : ∀ c ∈ word.head?, isBlank c = false
  last : ∀ c ∈ word.getLast?, isBlank c = false

theorem dropWhile_of_head {p : Char → Bool} {cs : List Char} (h : ∀ c ∈ cs.head?, p c = false) :
    cs.dropWhile p = cs := by
  cases cs with
  | nil => rfl
  | cons c cs => exact List.dropWhile_cons_of_neg (by simp [h c rfl])

theorem trimChars_of_ends {cs : List Char} (hfront : ∀ c ∈ cs.head?, isBlank c = false)
    (hback : ∀ c ∈ cs.getLast?, isBlank c = false) : trimChars cs = cs := by
  have hreverse : ∀ c ∈ cs.reverse.head?, isBlank c = false := by
    rw [List.head?_reverse]
    exact hback
  rw [trimChars, dropWhile_of_head hfront, dropTrailing, dropWhile_of_head hreverse,
    List.reverse_reverse]

theorem dropTrailing_append {p : Char → Bool} {back : List Char} (hback : ∀ c ∈ back, p c = true)
    (cs : List Char) : dropTrailing p (cs ++ back) = dropTrailing p cs := by
  have hreverse : ∀ c ∈ back.reverse, p c = true := fun c hc => hback c (List.mem_reverse.mp hc)
  rw [dropTrailing, List.reverse_append, List.dropWhile_append_of_pos hreverse, dropTrailing]

theorem trimChars_padded {front back : List Char} (hfront : ∀ c ∈ front, isBlank c = true)
    (hback : ∀ c ∈ back, isBlank c = true) (cs : List Char) :
    trimChars (front ++ cs ++ back) = trimChars cs := by
  rw [trimChars, List.append_assoc, List.dropWhile_append_of_pos hfront, List.dropWhile_append]
  split
  · rename_i hempty
    have hcs : cs.dropWhile isBlank = [] := List.isEmpty_iff.mp hempty
    have hnone : back.dropWhile isBlank = [] := List.dropWhile_eq_nil_iff.mpr hback
    rw [trimChars, hcs, hnone]
  · exact dropTrailing_append hback _

theorem head?_dropWhile {p : Char → Bool} (cs : List Char) :
    ∀ c ∈ (cs.dropWhile p).head?, p c = false := by
  intro c hc
  have hnot := List.head?_dropWhile_not p cs
  rw [Option.mem_def.mp hc] at hnot
  exact hnot

theorem trimChars_append_trailing (cs : List Char) :
    trimChars cs ++ (cs.dropWhile isBlank).rtakeWhile isBlank = cs.dropWhile isBlank :=
  List.rdropWhile_append_rtakeWhile ..

theorem trims_trimChars (cs : List Char) : Trims cs (trimChars cs) := by
  have hsplit := trimChars_append_trailing cs
  refine ⟨⟨cs.takeWhile isBlank, (cs.dropWhile isBlank).rtakeWhile isBlank,
    fun c hc => List.mem_takeWhile_imp hc, fun c hc => List.mem_rtakeWhile_imp hc, ?_⟩, ?_, ?_⟩
  · rw [List.append_assoc, hsplit, List.takeWhile_append_dropWhile]
  · intro c hc
    refine head?_dropWhile cs c ?_
    rw [← hsplit, List.head?_append, Option.mem_def.mp hc]
    rfl
  · rw [trimChars, dropTrailing, List.getLast?_reverse]
    exact head?_dropWhile _

theorem trims_iff {cs word : List Char} : Trims cs word ↔ word = trimChars cs := by
  constructor
  · rintro ⟨⟨front, back, hfront, hback, rfl⟩, hhead, hlast⟩
    rw [trimChars_padded hfront hback, trimChars_of_ends hhead hlast]
  · rintro rfl
    exact trims_trimChars cs

theorem trimChars_eq_nil_iff {cs : List Char} :
    trimChars cs = [] ↔ ∀ c ∈ cs, isBlank c = true := by
  constructor
  · intro h
    obtain ⟨⟨front, back, hfront, hback, hcs⟩, -, -⟩ := trims_trimChars cs
    rw [h, List.append_nil] at hcs
    rw [hcs]
    exact List.forall_mem_append.mpr ⟨hfront, hback⟩
  · intro h
    have hpadded := @trimChars_padded cs [] h (by simp) []
    rwa [List.append_nil, List.append_nil] at hpadded

theorem Trims.eq_nil {cs word : List Char} (h : Trims cs word)
    (hblank : ∀ c ∈ cs, isBlank c = true) : word = [] :=
  (trims_iff.mp h).trans (trimChars_eq_nil_iff.mpr hblank)

theorem mem_trimChars_of_not_blank {c : Char} {cs : List Char} (hc : isBlank c = false)
    (hmem : c ∈ cs) : c ∈ trimChars cs := by
  obtain ⟨front, back, hfront, hback, hcs⟩ := (trims_trimChars cs).padded
  have hkept (blanks : List Char) (hblanks : ∀ c ∈ blanks, isBlank c = true) : c ∉ blanks := by
    intro h
    rw [hblanks c h] at hc
    cases hc
  rw [hcs, List.mem_append, List.mem_append] at hmem
  rcases hmem with (hmem | hmem) | hmem
  · exact absurd hmem (hkept front hfront)
  · exact hmem
  · exact absurd hmem (hkept back hback)

end ScriptBench.Text
