import ScriptBench.Proofs.KeywordMatch
import ScriptBench.Proofs.SpanUnion
import Mathlib.Data.List.TakeWhile

namespace ScriptBench.Text

theorem boundary_before_word {c : Char} (hc : isWordPart c = true) (before : Option Char) :
    boundary before (some c) = true ↔ ∀ b ∈ before, isWordPart b = false := by
  cases before <;> simp [boundary, hc]

theorem boundary_behind_word {c : Char} (hc : isWordPart c = true) (after : Option Char) :
    boundary (some c) after = true ↔ ∀ a ∈ after, isWordPart a = false := by
  cases after <;> simp [boundary, hc]

end ScriptBench.Text

namespace ScriptBench.Highlight

def Wordy (cs : List Char) : Prop := ∀ c ∈ cs, Text.isWordPart c = true

instance (cs : List Char) : Decidable (Wordy cs) :=
  List.decidableBAll _ _

structure MaximalRun (text : List Char) (start : Nat) (run : List Char) : Prop where
  ne_nil : run ≠ []
  wordy : Wordy run
  within : run <+: text.drop start
  front : ∀ c ∈ (text.take start).getLast?, Text.isWordPart c = false
  back : ∀ c ∈ text[start + run.length]?, Text.isWordPart c = false

section Run

variable {text run run' word : List Char} {i j k start : Nat}

theorem getElem?_of_prefix_drop (h : run <+: text.drop start) (hi : i < run.length) :
    text[start + i]? = some run[i] := by
  rw [← List.getElem?_drop]
  exact List.prefix_iff_getElem?.mp h i hi

theorem MaximalRun.exists_getElem? (h : MaximalRun text start run) (hi : i < run.length) :
    ∃ c, text[start + i]? = some c ∧ Text.isWordPart c = true :=
  ⟨run[i], getElem?_of_prefix_drop h.within hi, h.wordy _ (List.getElem_mem hi)⟩

theorem occurs_iff_maximalRun (hne : word ≠ []) (hword : Wordy word) :
    Occurs text word i ↔ MaximalRun text i word := by
  have hpos : 0 < word.length := List.length_pos_iff.mpr hne
  have hedges (hp : word <+: text.drop i) :
      (WordEdge text i ↔ ∀ c ∈ (text.take i).getLast?, Text.isWordPart c = false) ∧
        (WordEdge text (i + word.length) ↔
          ∀ c ∈ text[i + word.length]?, Text.isWordPart c = false) := by
    have hfirst : text[i]? = some word[0] := getElem?_of_prefix_drop hp hpos
    have hi : i < text.length := (List.getElem?_eq_some_iff.mp hfirst).1
    have hlast := take_getLast?_of_prefix (text.take i) hne hp
    rw [List.take_append_drop, List.length_take, Nat.min_eq_left (Nat.le_of_lt hi),
      List.getLast?_eq_some_getLast hne] at hlast
    rw [wordEdge_iff, wordEdge_iff, hfirst, hlast]
    exact ⟨Text.boundary_before_word (hword _ (List.getElem_mem hpos)) _,
      Text.boundary_behind_word (hword _ (List.getLast_mem hne)) _⟩
  constructor
  · rintro ⟨hp, hfront, hback⟩
    exact ⟨hne, hword, hp, (hedges hp).1.mp hfront, (hedges hp).2.mp hback⟩
  · intro h
    exact ⟨h.within, (hedges h.within).1.mpr h.front, (hedges h.within).2.mpr h.back⟩

theorem MaximalRun.length_le (h : MaximalRun text start run) (h' : MaximalRun text start run') :
    run'.length ≤ run.length := by
  by_contra hlt
  obtain ⟨c, hc, hword⟩ := h'.exists_getElem? (Nat.lt_of_not_le hlt)
  rw [h.back c hc] at hword
  cases hword

theorem MaximalRun.unique (h : MaximalRun text start run) (h' : MaximalRun text start run') :
    run = run' :=
  (List.prefix_of_prefix_length_le h.within h'.within (h'.length_le h)).eq_of_length_le
    (h.length_le h')

theorem MaximalRun.stop_le (h : MaximalRun text j run) (h' : MaximalRun text k run')
    (hjk : j < k) : j + run.length ≤ k := by
  by_contra hlt
  obtain ⟨c, hc, hword⟩ := h.exists_getElem? (i := k - 1 - j) (by omega)
  have hbefore : (text.take k).getLast? = some c := by
    rw [List.getLast?_take, if_neg (by omega), show k - 1 = j + (k - 1 - j) by omega, hc]
    rfl
  rw [h'.front c hbefore] at hword
  cases hword

end Run

theorem Matched.mem_iff {words : List (List Char)} {text : List Char} {i : Nat} {ms : List Match}
    (h : Matched words text i ms) (hwords : ∀ w ∈ words, w ≠ [] ∧ Wordy w) {m : Match} :
    m ∈ ms ↔ i ≤ m.start ∧ m.word ∈ words ∧ MaximalRun text m.start m.word := by
  have hoccurs {w : List Char} (hw : w ∈ words) {n : Nat} :
      Occurs text w n ↔ MaximalRun text n w :=
    occurs_iff_maximalRun (hwords w hw).1 (hwords w hw).2
  induction h with
  | done hnone =>
      constructor
      · intro hm
        cases hm
      · rintro ⟨hi, hw, hrun⟩
        exact absurd ((hoccurs hw).mpr hrun) (hnone _ hi _ hw)
  | @found i j word more hij hnone hfirst _ ih =>
      have hrun : MaximalRun text j word := (hoccurs hfirst.mem.1).mp hfirst.mem.2
      refine List.mem_cons.trans ((or_congr_right ih).trans ?_)
      constructor
      · rintro (rfl | ⟨hj, hw, hm⟩)
        · exact ⟨hij, hfirst.mem.1, hrun⟩
        · exact ⟨by omega, hw, hm⟩
      · rintro ⟨hi, hw, hm⟩
        rcases Nat.lt_trichotomy m.start j with hlt | heq | hgt
        · exact absurd ((hoccurs hw).mpr hm) (hnone _ hi hlt _ hw)
        · obtain ⟨start, w⟩ := m
          obtain rfl : start = j := heq
          exact .inl (congrArg (Match.mk start) (hm.unique hrun))
        · exact .inr ⟨hrun.stop_le hm hgt, hw, hm⟩

def trimmed (keywords : List String) : List (List Char) :=
  keywords.map fun k => Text.trimChars k.toList

theorem mem_searchWords {keywords : List String} {word : List Char} :
    word ∈ searchWords keywords ↔ word ∈ trimmed keywords ∧ word ≠ [] := by
  simp [searchWords, trimmed]

theorem keyword_iff_maximalRun {keywords : List String}
    (hwords : ∀ w ∈ trimmed keywords, Wordy w) (text : String) (i : Nat) :
    (tagsAt (keywordSpans keywords text) i).keyword = true ↔
      ∃ start run, MaximalRun text.toList start run ∧ start ≤ i ∧ i < start + run.length ∧
        run ∈ trimmed keywords := by
  obtain ⟨ms, hms, hkeyword⟩ := keyword_keywordSpans keywords text
  have hsearch : ∀ w ∈ searchWords keywords, w ≠ [] ∧ Wordy w := fun w hw =>
    ⟨(mem_searchWords.mp hw).2, hwords w (mem_searchWords.mp hw).1⟩
  rw [hkeyword]
  constructor
  · rintro ⟨m, hm, hstart, hstop⟩
    obtain ⟨-, hw, hrun⟩ := (hms.mem_iff hsearch).mp hm
    exact ⟨m.start, m.word, hrun, hstart, hstop, (mem_searchWords.mp hw).1⟩
  · rintro ⟨start, run, hrun, hstart, hstop, hw⟩
    have hm : ⟨start, run⟩ ∈ ms :=
      (hms.mem_iff hsearch).mpr ⟨Nat.zero_le _, mem_searchWords.mpr ⟨hw, hrun.ne_nil⟩, hrun⟩
    exact ⟨⟨start, run⟩, hm, hstart, hstop⟩

theorem keywordSpans_congr {keywords other : List String}
    (hwords : ∀ w ∈ trimmed keywords, Wordy w)
    (hsame : ∀ w, w ∈ trimmed other ↔ w ∈ trimmed keywords) (text : String) :
    keywordSpans other text = keywordSpans keywords text := by
  have hother : ∀ w ∈ trimmed other, Wordy w := fun w hw => hwords w ((hsame w).mp hw)
  refine eq_of_tagsAt (canonical_keywordSpans _ _) (canonical_keywordSpans _ _) ?_ fun i => ?_
  · rw [totalLength_keywordSpans, totalLength_keywordSpans]
  · have hkeyword : (tagsAt (keywordSpans other text) i).keyword =
        (tagsAt (keywordSpans keywords text) i).keyword := by
      rw [Bool.eq_iff_iff, keyword_iff_maximalRun hother, keyword_iff_maximalRun hwords]
      simp only [hsame]
    rw [tagsAt_keywordSpans, tagsAt_keywordSpans] at hkeyword ⊢
    exact congrArg Tags.ofKeyword hkeyword

/-- The same keywords in another order, more often, or with other blanks around them. -/
inductive Relisted : List String → List String → Prop
  | perm {ks ks'} : ks.Perm ks' → Relisted ks ks'
  | again {k ks} : k ∈ ks → Relisted ks (k :: ks)
  | padded {k k' ks front back} : (∀ c ∈ front, Text.isBlank c = true) →
      (∀ c ∈ back, Text.isBlank c = true) → k'.toList = front ++ k.toList ++ back →
      Relisted (k :: ks) (k' :: ks)
  | trans {ks ks' ks''} : Relisted ks ks' → Relisted ks' ks'' → Relisted ks ks''

theorem Relisted.mem_trimmed {ks ks' : List String} (h : Relisted ks ks') (w : List Char) :
    w ∈ trimmed ks' ↔ w ∈ trimmed ks := by
  induction h with
  | perm hp => exact (hp.map _).mem_iff.symm
  | again hk =>
      refine List.mem_cons.trans (or_iff_right_of_imp ?_)
      rintro rfl
      exact List.mem_map_of_mem hk
  | padded hfront hback hk' =>
      rw [trimmed, List.map_cons, hk', Text.trimChars_padded hfront hback]
      rfl
  | trans _ _ ih ih' => exact ih'.trans ih

theorem keyword_iff_listed_run {keywords : List String}
    (hwords : ∀ w ∈ trimmed keywords, Wordy w) (text : String) :
    (∀ i, (tagsAt (keywordSpans keywords text) i).keyword = true ↔
      ∃ start run, MaximalRun text.toList start run ∧ start ≤ i ∧ i < start + run.length ∧
        run ∈ trimmed keywords) ∧
    ∀ other, Relisted keywords other → keywordSpans other text = keywordSpans keywords text :=
  ⟨keyword_iff_maximalRun hwords text, fun _ h => keywordSpans_congr hwords h.mem_trimmed text⟩

theorem longer_keyword_is_found :
    (∀ w ∈ trimmed ["print", " println ", ""], Wordy w) ∧
    (tagsAt (keywordSpans ["print", " println ", ""] "println printer") 6).keyword = true ∧
    keywordSpans ["\tprint ", "print", " println ", ""] "println printer" =
      keywordSpans ["print", " println ", ""] "println printer" := by
  have hwords : ∀ w ∈ trimmed ["print", " println ", ""], Wordy w := by decide +kernel
  have hfound := keyword_iff_listed_run hwords "println printer"
  have hrun : MaximalRun "println printer".toList 0 "println".toList :=
    { ne_nil := by decide
      wordy := by decide +kernel
      within := by decide
      front := by simp
      back := by
        have hblank : "println printer".toList[0 + "println".toList.length]? = some ' ' := by decide
        rw [hblank]
        rintro c ⟨⟩
        decide }
  have hagain : Relisted ["print", " println ", ""] ["print", "print", " println ", ""] :=
    .again List.mem_cons_self
  have hpadded : Relisted ["print", "print", " println ", ""]
      ["\tprint ", "print", " println ", ""] :=
    @Relisted.padded "print" "\tprint " _ ['\t'] [' '] (by simp; decide) (by simp; decide) rfl
  exact ⟨hwords, (hfound.1 6).mpr ⟨0, _, hrun, by decide, by decide, by decide +kernel⟩,
    hfound.2 _ (hagain.trans hpadded)⟩

end ScriptBench.Highlight
