import ScriptBench.Proofs.KeywordMatch
import ScriptBench.Proofs.MergedSpans
import Mathlib.Data.String.Basic

namespace ScriptBench.Highlight

instance (m : Match) (i : Nat) : Decidable (m.covers i) :=
  inferInstanceAs (Decidable (_ ∧ _))

def place (text : String) (i : Nat) : String.Pos.Raw := ⟨String.utf8Len (text.toList.take i)⟩

def Match.places (text : String) (m : Match) : String.Pos.Raw × String.Pos.Raw :=
  (place text m.start, place text (m.start + m.word.length))

/-- The lengths of the slices before, in and behind the given places, from `last` on. -/
def cutAt (text : String) : String.Pos.Raw → List (String.Pos.Raw × String.Pos.Raw) → List Span
  | last, [] => [⟨(String.Pos.Raw.extract text last text.rawEndPos).length, .plain⟩]
  | last, (start, stop) :: more =>
    ⟨(String.Pos.Raw.extract text last start).length, .plain⟩ ::
      ⟨(String.Pos.Raw.extract text start stop).length, .ofKeyword true⟩ :: cutAt text stop more

theorem place_zero (text : String) : place text 0 = 0 := rfl

theorem place_length (text : String) : place text text.length = text.rawEndPos := by
  rw [place, ← String.length_toList, List.take_length]
  conv => rhs; rw [← String.ofList_toList (s := text), String.rawEndPos_ofList]

theorem length_extract_place {text : String} {i j : Nat} (hij : i ≤ j) (hj : j ≤ text.length) :
    (String.Pos.Raw.extract text (place text i) (place text j)).length = j - i := by
  have hlen : text.toList.length = text.length := String.length_toList
  have hmid : text.toList.take j = text.toList.take i ++ (text.toList.take j).drop i := by
    conv => lhs; rw [← List.take_append_drop i (text.toList.take j)]
    rw [List.take_take, Nat.min_eq_left hij]
  have hsplit : text = String.ofList
      (text.toList.take i ++ (text.toList.take j).drop i ++ text.toList.drop j) := by
    rw [← hmid, List.take_append_drop, String.ofList_toList]
  have hplace : place text j =
      ⟨String.utf8Len (text.toList.take i) + String.utf8Len ((text.toList.take j).drop i)⟩ := by
    rw [place, hmid, String.utf8Len_append, ← hmid]
  have hslice := String.extract_of_valid (text.toList.take i) ((text.toList.take j).drop i)
    (text.toList.drop j)
  rw [← hsplit, ← hplace] at hslice
  rw [place, hslice, String.length_ofList, List.length_drop, List.length_take]
  omega

theorem tagsAt_cutAt {words : List (List Char)} (hwords : ∀ w ∈ words, w ≠ []) {text : String}
    {i : Nat} {ms : List Match} (h : Matched words text.toList i ms) (hi : i ≤ text.length) :
    totalLength (cutAt text (place text i) (ms.map (Match.places text))) = text.length - i ∧
    ∀ k, tagsAt (cutAt text (place text i) (ms.map (Match.places text))) k =
      .ofKeyword (decide (∃ m ∈ ms, m.covers (i + k))) := by
  induction h with
  | done _ =>
      rw [List.map_nil, cutAt, ← place_length, length_extract_place hi (Nat.le_refl _)]
      refine ⟨rfl, fun k => ?_⟩
      rw [tagsAt]
      split <;> rfl
  | @found i j word more hij _ hfirst hmore ih =>
      have hword : word ≠ [] := hwords word hfirst.mem.1
      have hpos : 0 < word.length := List.length_pos_iff.mpr hword
      have hstop : j + word.length ≤ text.length :=
        String.length_toList ▸ hfirst.mem.2.stop_le hword
      obtain ⟨hlen, htags⟩ := ih hstop
      have hgap := length_extract_place hij (by omega : j ≤ text.length)
      have hmid := length_extract_place (Nat.le_add_right j word.length) hstop
      rw [Nat.add_sub_cancel_left] at hmid
      rw [List.map_cons, Match.places, cutAt, hgap, hmid]
      refine ⟨by simp only [totalLength, hlen]; omega, fun k => ?_⟩
      have hat : Matched words text.toList j (⟨j, word⟩ :: more) :=
        .found (Nat.le_refl j) (fun k hk hkj => by omega) hfirst hmore
      simp only [tagsAt_cons]
      by_cases hbefore : k < j - i
      · rw [if_pos hbefore, decide_eq_false (hat.not_covered (by omega))]
        rfl
      · rw [if_neg hbefore]
        by_cases hinside : k - (j - i) < word.length
        · have hcov : (⟨j, word⟩ : Match).covers (i + k) := by
            simp only [Match.covers]
            omega
          rw [if_pos hinside, decide_eq_true ⟨_, List.mem_cons_self, hcov⟩]
        · have hout : ¬ (⟨j, word⟩ : Match).covers (i + k) := by
            simp only [Match.covers]
            omega
          have hoffset : j + word.length + (k - (j - i) - word.length) = i + k := by omega
          rw [if_neg hinside, htags, hoffset]
          simp only [List.exists_mem_cons_iff, hout, false_or]

theorem keywordSpans_eq_joined {keywords : List String} {text : String} {ms : List Match}
    (h : Matched (searchWords keywords) text.toList 0 ms) :
    keywordSpans keywords text = joined (cutAt text 0 (ms.map (Match.places text))) ∧
    ∀ i, tagsAt (keywordSpans keywords text) i = .ofKeyword (decide (∃ m ∈ ms, m.covers i)) := by
  obtain ⟨hlen, hcut⟩ := tagsAt_cutAt (searchWords_ne_nil keywords) h (Nat.zero_le _)
  simp only [place_zero, Nat.sub_zero, Nat.zero_add] at hlen hcut
  have htags (i : Nat) : tagsAt (keywordSpans keywords text) i =
      .ofKeyword (decide (∃ m ∈ ms, m.covers i)) := by
    obtain ⟨ms', hms', hkeyword⟩ := keyword_keywordSpans keywords text
    obtain rfl : ms = ms' := h.unique hms'
    have htagged := hkeyword i
    rw [tagsAt_keywordSpans] at htagged ⊢
    congr 1
    rw [Bool.eq_iff_iff, decide_eq_true_iff]
    exact htagged
  refine ⟨eq_of_tagsAt (canonical_keywordSpans _ _) (canonical_joined _) ?_ fun i => ?_, htags⟩
  · rw [totalLength_keywordSpans, totalLength_joined, hlen]
  · rw [htags, tagsAt_joined, hcut]

theorem keywordSpans_cut_at_matches (keywords : List String) (text : String) :
    ∃ words ms, (∀ words', Listed keywords words' ↔ words' = words) ∧
      (∀ ms', Matched words text.toList 0 ms' ↔ ms' = ms) ∧
      keywordSpans keywords text = joined (cutAt text 0 (ms.map (Match.places text))) ∧
      ∀ spans, spans = keywordSpans keywords text ↔ Canonical spans ∧
        totalLength spans = text.length ∧
        ∀ i < text.length, tagsAt spans i = .ofKeyword (decide (∃ m ∈ ms, m.covers i)) := by
  obtain ⟨ms, hms, -⟩ := keyword_keywordSpans keywords text
  obtain ⟨hcut, htags⟩ := keywordSpans_eq_joined hms
  have hlisted := listed_searchWords keywords
  refine ⟨searchWords keywords, ms, fun words' => ⟨fun h => h.unique hlisted, fun h => h ▸ hlisted⟩,
    fun ms' => ⟨fun h => h.unique hms, fun h => h ▸ hms⟩, hcut, fun spans => ?_⟩
  rw [eq_iff_of_canonical (canonical_keywordSpans _ _), totalLength_keywordSpans]
  simp only [htags]

-- The keyword that is listed first stands at the front of the other one, but not as a word.
theorem padded_keywords_cut_text :
    Listed ["print", " println\t", "  ", ""] ["print".toList, "println".toList] ∧
    Matched ["print".toList, "println".toList] "println print".toList 0
      [⟨0, "println".toList⟩, ⟨8, "print".toList⟩] ∧
    keywordSpans ["print", " println\t", "  ", ""] "println print" =
      [⟨7, .ofKeyword true⟩, ⟨1, .plain⟩, ⟨5, .ofKeyword true⟩] := by
  obtain ⟨words, ms, hwords, hms, hcut, -⟩ :=
    keywordSpans_cut_at_matches ["print", " println\t", "  ", ""] "println print"
  have hprint : Text.Trims "print".toList "print".toList :=
    Text.trims_iff.mpr (by decide +kernel)
  have hprintln : Text.Trims " println\t".toList "println".toList :=
    Text.trims_iff.mpr (by decide +kernel)
  have hblanks : ∀ c ∈ "  ".toList, Text.isBlank c = true :=
    Text.trimChars_eq_nil_iff.mp (by decide +kernel)
  have hlisted : Listed ["print", " println\t", "  ", ""] ["print".toList, "println".toList] :=
    .word hprint (by decide) (.word hprintln (by decide) (.blank hblanks (.blank (by simp) .nil)))
  obtain rfl := (hwords _).mp hlisted
  have hlast : FirstListed ["print".toList, "println".toList] "println print".toList 8
      "print".toList :=
    ⟨[], ["println".toList], rfl, by decide +kernel, by simp⟩
  have hfirst : FirstListed ["print".toList, "println".toList] "println print".toList 0
      "println".toList :=
    ⟨["print".toList], [], rfl, by decide +kernel, by decide +kernel⟩
  have hgap : ∀ w ∈ ["print".toList, "println".toList], ¬ Occurs "println print".toList w 7 := by
    decide +kernel
  have hne : ∀ w ∈ ["print".toList, "println".toList], w ≠ [] := by decide
  have hend : "println print".toList.length = 8 + "print".toList.length := by decide
  have hmatched : Matched ["print".toList, "println".toList] "println print".toList 0
      [⟨0, "println".toList⟩, ⟨8, "print".toList⟩] := by
    refine .found (Nat.le_refl 0) (by omega) hfirst ?_
    refine .found (by decide) (fun k hk hk8 => ?_) hlast (.done fun j hj w hw => ?_)
    · obtain rfl : k = 7 := by
        simp at hk
        omega
      exact hgap
    · exact not_occurs_past (hne w hw) (hend.trans_le hj)
  obtain rfl := (hms _).mp hmatched
  exact ⟨hlisted, hmatched, hcut.trans (by decide +kernel)⟩

end ScriptBench.Highlight
