import ScriptBench.Highlight.Keyword
import ScriptBench.Proofs.TrimmedText
import Mathlib.Data.List.Basic

namespace ScriptBench.Highlight

/-- The words that a list of keywords is searched for: blank keywords are left out. -/
inductive Listed : List String → List (List Char) → Prop
  | nil : Listed [] []
  | blank {k ks words} : (∀ c ∈ k.toList, Text.isBlank c = true) → Listed ks words →
      Listed (k :: ks) words
  | word {k ks word words} : Text.Trims k.toList word → word ≠ [] → Listed ks words →
      Listed (k :: ks) (word :: words)

def WordEdge (text : List Char) (i : Nat) : Prop :=
  (text.take i).getLast?.any Text.isWordPart ≠ text[i]?.any Text.isWordPart

def Occurs (text word : List Char) (i : Nat) : Prop :=
  word <+: text.drop i ∧ WordEdge text i ∧ WordEdge text (i + word.length)

def FirstListed (words : List (List Char)) (text : List Char) (i : Nat) (word : List Char) : Prop :=
  ∃ pre post, words = pre ++ word :: post ∧ Occurs text word i ∧ ∀ w ∈ pre, ¬ Occurs text w i

structure Match where
  start : Nat
  word : List Char
deriving DecidableEq, Repr

def Match.covers (m : Match) (i : Nat) : Prop := m.start ≤ i ∧ i < m.start + m.word.length

inductive Matched (words : List (List Char)) (text : List Char) : Nat → List Match → Prop
  | done {i} : (∀ j, i ≤ j → ∀ w ∈ words, ¬ Occurs text w j) → Matched words text i []
  | found {i j word more} : i ≤ j → (∀ k, i ≤ k → k < j → ∀ w ∈ words, ¬ Occurs text w k) →
      FirstListed words text j word → Matched words text (j + word.length) more →
      Matched words text i (⟨j, word⟩ :: more)

theorem listed_searchWords (keywords : List String) : Listed keywords (searchWords keywords) := by
  induction keywords with
  | nil => exact .nil
  | cons k ks ih =>
      by_cases hblank : Text.trimChars k.toList = []
      · have hskip : searchWords (k :: ks) = searchWords ks := by simp [searchWords, hblank]
        exact hskip ▸ .blank (Text.trimChars_eq_nil_iff.mp hblank) ih
      · have hkeep : searchWords (k :: ks) = Text.trimChars k.toList :: searchWords ks := by
          simp [searchWords, hblank]
        exact hkeep ▸ .word (Text.trims_trimChars _) hblank ih

theorem Listed.unique {keywords : List String} {words words' : List (List Char)}
    (h : Listed keywords words) (h' : Listed keywords words') : words = words' := by
  induction h generalizing words' with
  | nil =>
      cases h'
      rfl
  | blank hblank _ ih =>
      cases h' with
      | blank _ h' => exact ih h'
      | word htrims hne _ => exact absurd (htrims.eq_nil hblank) hne
  | word htrims hne _ ih =>
      cases h' with
      | blank hblank _ => exact absurd (htrims.eq_nil hblank) hne
      | word htrims' _ h' =>
          rw [Text.trims_iff.mp htrims, Text.trims_iff.mp htrims', ih h']

instance (text : List Char) (i : Nat) : Decidable (WordEdge text i) :=
  inferInstanceAs (Decidable (_ ≠ _))

instance (text word : List Char) (i : Nat) : Decidable (Occurs text word i) :=
  inferInstanceAs (Decidable (_ ∧ _))

theorem wordEdge_iff {text : List Char} {i : Nat} :
    WordEdge text i ↔ Text.boundary (text.take i).getLast? text[i]? = true :=
  bne_iff_ne.symm

theorem take_getLast?_of_prefix {word rest : List Char} (pre : List Char) (hw : word ≠ [])
    (h : word <+: rest) :
    ((pre ++ rest).take (pre.length + word.length)).getLast? = word.getLast? := by
  obtain ⟨post, rfl⟩ := h
  have hsplit : pre ++ (word ++ post) = (pre ++ word) ++ post := by rw [List.append_assoc]
  rw [hsplit, ← List.length_append, List.take_left, List.getLast?_append_of_ne_nil _ hw]

theorem standsAt_iff {pre rest word : List Char} (hw : word ≠ []) :
    standsAt pre.getLast? rest word = true ↔ Occurs (pre ++ rest) word pre.length := by
  have hfront : WordEdge (pre ++ rest) pre.length ↔
      Text.boundary pre.getLast? rest.head? = true := by
    rw [wordEdge_iff, List.take_left, List.getElem?_append_right (Nat.le_refl _), Nat.sub_self,
      List.head?_eq_getElem?]
  simp only [standsAt, Bool.and_eq_true, List.isPrefixOf_iff_prefix, Occurs, List.drop_left]
  rw [hfront, and_assoc]
  refine and_congr_right fun hp => and_congr_right fun _ => ?_
  rw [wordEdge_iff, take_getLast?_of_prefix pre hw hp, List.getElem?_append_right (by omega),
    Nat.add_sub_cancel_left, List.head?_drop]

theorem not_occurs_past {text word : List Char} {i : Nat} (hw : word ≠ []) (hi : text.length ≤ i) :
    ¬ Occurs text word i := by
  rintro ⟨hp, -⟩
  rw [List.drop_eq_nil_of_le hi] at hp
  exact hw (List.prefix_nil.mp hp)

theorem Occurs.stop_le {text word : List Char} {i : Nat} (hw : word ≠ []) (h : Occurs text word i) :
    i + word.length ≤ text.length := by
  have hi : ¬ text.length ≤ i := fun hpast => not_occurs_past hw hpast h
  have hlen := h.1.length_le
  rw [List.length_drop] at hlen
  omega

theorem Matched.skip {words : List (List Char)} {text : List Char} {i : Nat} {ms : List Match}
    (h : Matched words text (i + 1) ms) (hi : ∀ w ∈ words, ¬ Occurs text w i) :
    Matched words text i ms := by
  have hcase (k : Nat) (hk : i ≤ k) : k = i ∨ i + 1 ≤ k := by omega
  cases h with
  | done hd =>
      refine .done fun k hk w hw => ?_
      rcases hcase k hk with rfl | hk
      · exact hi w hw
      · exact hd k hk w hw
  | found hj hb hf hm =>
      refine .found (by omega) (fun k hk hkj w hw => ?_) hf hm
      rcases hcase k hk with rfl | hk
      · exact hi w hw
      · exact hb k hk hkj w hw

theorem Matched.start_le {words : List (List Char)} {text : List Char} {i : Nat}
    {ms : List Match} (h : Matched words text i ms) : ∀ m ∈ ms, i ≤ m.start := by
  induction h with
  | done _ => simp
  | @found i j word more hj _ _ _ ih =>
      intro m hm
      rcases List.mem_cons.mp hm with rfl | hm
      · exact hj
      · have := ih m hm
        omega

theorem Matched.not_covered {words : List (List Char)} {text : List Char} {i k : Nat}
    {ms : List Match} (h : Matched words text i ms) (hk : k < i) : ¬ ∃ m ∈ ms, m.covers k := by
  rintro ⟨m, hm, hstart, -⟩
  have := h.start_le m hm
  omega

theorem FirstListed.mem {words : List (List Char)} {text word : List Char} {i : Nat}
    (h : FirstListed words text i word) : word ∈ words ∧ Occurs text word i := by
  obtain ⟨pre, post, rfl, ho, -⟩ := h
  exact ⟨by simp, ho⟩

theorem FirstListed.unique {words : List (List Char)} {text word word' : List Char} {i : Nat}
    (h : FirstListed words text i word) (h' : FirstListed words text i word') : word = word' := by
  obtain ⟨pre, post, hsplit, ho, hpre⟩ := h
  obtain ⟨pre', post', hsplit', ho', hpre'⟩ := h'
  rcases List.append_eq_append_iff.mp (hsplit.symm.trans hsplit') with
    ⟨as, rfl, has⟩ | ⟨as, rfl, has⟩
  · cases as with
    | nil => exact (List.cons.inj has).1
    | cons a as =>
        have ha : a = word := (List.cons.inj has).1.symm
        exact absurd ho (hpre' word (by simp [ha]))
  · cases as with
    | nil => exact (List.cons.inj has).1.symm
    | cons a as =>
        have ha : a = word' := (List.cons.inj has).1.symm
        exact absurd ho' (hpre word' (by simp [ha]))

theorem Matched.unique {words : List (List Char)} {text : List Char} {i : Nat}
    {ms ms' : List Match} (h : Matched words text i ms) (h' : Matched words text i ms') :
    ms = ms' := by
  induction h generalizing ms' with
  | done hd =>
      cases h' with
      | done _ => rfl
      | found hj _ hf _ => exact absurd hf.mem.2 (hd _ hj _ hf.mem.1)
  | @found i j word more hj hb hf _ ih =>
      cases h' with
      | done hd => exact absurd hf.mem.2 (hd _ hj _ hf.mem.1)
      | @found _ j' word' more' hj' hb' hf' hm' =>
          have hjj : j = j' := by
            rcases Nat.lt_trichotomy j j' with hlt | heq | hgt
            · exact absurd hf.mem.2 (hb' _ hj hlt _ hf.mem.1)
            · exact heq
            · exact absurd hf'.mem.2 (hb _ hj' hgt _ hf'.mem.1)
          subst hjj
          have hww : word = word' := hf.unique hf'
          subst hww
          rw [ih hm']

theorem searchWords_ne_nil (keywords : List String) : ∀ w ∈ searchWords keywords, w ≠ [] := by
  intro w hw
  obtain ⟨-, hne⟩ := List.mem_filter.mp hw
  intro h
  simp [h] at hne

theorem matchLength_eq_zero {words : List (List Char)} {pre rest : List Char}
    (hwords : ∀ w ∈ words, w ≠ []) (h : matchLength words pre.getLast? rest = 0) :
    ∀ w ∈ words, ¬ Occurs (pre ++ rest) w pre.length := by
  intro w hw ho
  have hnone : words.find? (standsAt pre.getLast? rest) = none := by
    cases hfind : words.find? (standsAt pre.getLast? rest) with
    | none => rfl
    | some v =>
        have hv : v = [] := by simpa [matchLength, hfind] using h
        exact absurd hv (hwords v (List.mem_of_find?_eq_some hfind))
  exact List.find?_eq_none.mp hnone w hw ((standsAt_iff (hwords w hw)).mpr ho)

theorem firstListed_of_matchLength {words : List (List Char)} {pre rest : List Char} {n : Nat}
    (hwords : ∀ w ∈ words, w ≠ []) (h : matchLength words pre.getLast? rest = n + 1) :
    ∃ w, w.length = n + 1 ∧ FirstListed words (pre ++ rest) pre.length w := by
  cases hfind : words.find? (standsAt pre.getLast? rest) with
  | none => simp [matchLength, hfind] at h
  | some w =>
      obtain ⟨hw, ws, more, hsplit, hws⟩ := List.find?_eq_some_iff_append.mp hfind
      have hne {v : List Char} (hv : v ∈ words) : v ≠ [] := hwords v hv
      refine ⟨w, by simpa [matchLength, hfind] using h, ws, more, hsplit, ?_, ?_⟩
      · exact (standsAt_iff (hne (by simp [hsplit]))).mp hw
      · intro v hv ho
        have hstands := (standsAt_iff (hne (by simp [hsplit, hv]))).mpr ho
        simpa [hstands] using hws v hv

-- The induction is on what is left of the text behind `pre`. The first `left` characters of it
-- still belong to the match before, so the search goes on behind them.
theorem keywordFlags_matched {words : List (List Char)} (hwords : ∀ w ∈ words, w ≠ [])
    (pre rest : List Char) (left : Nat) (hleft : left ≤ rest.length) :
    ∃ ms, Matched words (pre ++ rest) (pre.length + left) ms ∧
      ∀ i, (keywordFlags words pre.getLast? left rest)[i]? = some true ↔
        i < left ∨ ∃ m ∈ ms, m.covers (pre.length + i) := by
  induction rest generalizing pre left with
  | nil =>
      refine ⟨[], .done fun j hj w hw => not_occurs_past (hwords w hw) ?_, fun i => ?_⟩
      · simpa using Nat.le_trans (Nat.le_add_right _ _) hj
      · have hl : left = 0 := by simpa using hleft
        simp [keywordFlags, hl]
  | cons c rest ih =>
      have hpre : pre ++ c :: rest = (pre ++ [c]) ++ rest := by simp
      have hnext (n : Nat) (hn : n ≤ rest.length) :
          ∃ ms, Matched words (pre ++ c :: rest) (pre.length + (n + 1)) ms ∧
            ∀ i, (keywordFlags words (some c) n rest)[i]? = some true ↔
              i < n ∨ ∃ m ∈ ms, m.covers (pre.length + (i + 1)) := by
        have h := ih (pre ++ [c]) n hn
        simpa only [← hpre, List.length_append, List.length_singleton, List.getLast?_concat,
          Nat.add_assoc, Nat.add_comm 1] using h
      cases left with
      | succ n =>
          obtain ⟨ms, hm, hflags⟩ := hnext n (by simpa using hleft)
          refine ⟨ms, hm, fun i => ?_⟩
          cases i with
          | zero => simp [keywordFlags]
          | succ i => simpa [keywordFlags] using hflags i
      | zero =>
          cases hlen : matchLength words pre.getLast? (c :: rest) with
          | zero =>
              obtain ⟨ms, hm, hflags⟩ := hnext 0 (Nat.zero_le _)
              refine ⟨ms, hm.skip (matchLength_eq_zero hwords hlen), fun i => ?_⟩
              cases i with
              | zero =>
                  have hno : ¬ ∃ m ∈ ms, m.covers (pre.length + 0) := hm.not_covered (by omega)
                  simpa [keywordFlags, hlen] using hno
              | succ i => simpa [keywordFlags, hlen] using hflags i
          | succ n =>
              obtain ⟨w, hw, hfirst⟩ := firstListed_of_matchLength hwords hlen
              have hfit : w.length ≤ rest.length + 1 := by
                simpa using hfirst.mem.2.1.length_le
              obtain ⟨ms, hm, hflags⟩ := hnext n (by omega)
              refine ⟨⟨pre.length, w⟩ :: ms, ?_, fun i => ?_⟩
              · exact .found (Nat.le_refl _) (fun k hk hkj => by omega) hfirst (hw ▸ hm)
              · have hcov : (⟨pre.length, w⟩ : Match).covers (pre.length + i) ↔ i < n + 1 := by
                  simp only [Match.covers, hw]
                  omega
                simp only [List.exists_mem_cons_iff, hcov, Nat.not_lt_zero, false_or]
                cases i with
                | zero => simp [keywordFlags, hlen]
                | succ i => simpa [keywordFlags, hlen] using hflags i

theorem keywordFlags_from_start {words : List (List Char)} (hwords : ∀ w ∈ words, w ≠ [])
    (text : List Char) :
    ∃ ms, Matched words text 0 ms ∧
      ∀ i, (keywordFlags words none 0 text)[i]? = some true ↔ ∃ m ∈ ms, m.covers i := by
  obtain ⟨ms, hm, hflags⟩ := keywordFlags_matched hwords [] text 0 (Nat.zero_le _)
  refine ⟨ms, hm, fun i => (hflags i).trans ?_⟩
  simp only [Nat.not_lt_zero, false_or, List.length_nil, Nat.zero_add]

theorem canonical_keywordSpans (keywords : List String) (text : String) :
    Canonical (keywordSpans keywords text) := canonical_runs _

theorem totalLength_keywordSpans (keywords : List String) (text : String) :
    totalLength (keywordSpans keywords text) = text.length := by
  rw [keywordSpans, totalLength_runs, List.length_map, length_keywordFlags, String.length_toList]

theorem tagsAt_keywordSpans (keywords : List String) (text : String) (i : Nat) :
    tagsAt (keywordSpans keywords text) i =
      .ofKeyword ((keywordFlags (searchWords keywords) none 0 text.toList)[i]?.getD false) := by
  rw [keywordSpans, tagsAt_runs, List.getElem?_map]
  cases (keywordFlags (searchWords keywords) none 0 text.toList)[i]? <;> rfl

theorem keyword_iff_flag (keywords : List String) (text : String) (i : Nat) :
    (tagsAt (keywordSpans keywords text) i).keyword = true ↔
      (keywordFlags (searchWords keywords) none 0 text.toList)[i]? = some true := by
  rw [tagsAt_keywordSpans, Tags.ofKeyword]
  cases (keywordFlags (searchWords keywords) none 0 text.toList)[i]? <;> simp

theorem keyword_keywordSpans (keywords : List String) (text : String) :
    ∃ ms, Matched (searchWords keywords) text.toList 0 ms ∧
      ∀ i, (tagsAt (keywordSpans keywords text) i).keyword = true ↔ ∃ m ∈ ms, m.covers i := by
  obtain ⟨ms, hm, hflags⟩ := keywordFlags_from_start (searchWords_ne_nil keywords) text.toList
  exact ⟨ms, hm, fun i => (keyword_iff_flag keywords text i).trans (hflags i)⟩

end ScriptBench.Highlight
