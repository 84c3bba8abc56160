import ScriptBench.Proofs.AcceptedSettings
import ScriptBench.Proofs.WholeWords
import Mathlib.Data.List.Find

namespace ScriptBench.Text

theorem not_part_of_isBlank {c : Char} (h : isBlank c = true) :
    isWordPart c = false ∧ isIdentifierPart c = false := by
  have hall : ∀ r ∈ blanks, ∀ k < r.2 + 1 - r.1, isWordPart (Char.ofNat (r.1 + k)) = false ∧
      isIdentifierPart (Char.ofNat (r.1 + k)) = false := by decide +kernel
  obtain ⟨r, hr, hlow, hhigh⟩ := exists_range_of_inRanges h
  have hc := hall r hr (c.toNat - r.1) (by omega)
  rwa [Nat.add_sub_cancel' hlow, Char.ofNat_toNat] at hc

theorem isNumeric_of_not_wordPart {c : Char} (hpart : isIdentifierPart c = true)
    (hword : isWordPart c = false) : isNumeric c = true ∧ isDecimalDigit c = false := by
  simp only [isWordPart, Bool.or_eq_false_iff] at hword
  obtain ⟨⟨⟨⟨halphabetic, -⟩, hdigit⟩, hconnector⟩, -⟩ := hword
  simp only [isIdentifierPart, halphabetic, Bool.false_or, Bool.or_eq_true, beq_iff_eq] at hpart
  rcases hpart with hnumeric | rfl
  · exact ⟨hnumeric, hdigit⟩
  · cases hconnector

end ScriptBench.Text

namespace ScriptBench.Highlight

def Unbroken (words : List (List Char)) : Prop :=
  ∀ w ∈ words, w ≠ [] ∧ ∀ c ∈ w, Text.isBlank c = false

section Blank

variable {words : List (List Char)} {before before' : Option Char} {cs post : List Char} {b : Char}

theorem standsAt_congr (h : before.any Text.isWordPart = before'.any Text.isWordPart)
    (rest word : List Char) : standsAt before rest word = standsAt before' rest word := by
  simp only [standsAt, Text.boundary, h]

theorem keywordFlags_congr (h : before.any Text.isWordPart = before'.any Text.isWordPart)
    (left : Nat) (cs : List Char) :
    keywordFlags words before left cs = keywordFlags words before' left cs := by
  have hstands : standsAt before = standsAt before' := by
    funext rest word
    exact standsAt_congr h rest word
  cases cs with
  | nil => rfl
  | cons c cs => simp only [keywordFlags, matchLength, hstands]

theorem prefix_append_blank_iff {word : List Char} (hb : b ∉ word) :
    word <+: cs ++ b :: post ↔ word <+: cs := by
  refine ⟨fun h => ?_, List.prefix_append_of_prefix⟩
  have hfront : cs ++ [b] <+: cs ++ b :: post := by simp
  rcases List.prefix_or_prefix_of_prefix h hfront with hword | hword
  · rcases List.prefix_concat_iff.mp hword with rfl | hword
    · exact absurd (by simp) hb
    · exact hword
  · exact absurd (hword.subset (by simp)) hb

theorem standsAt_append_blank {word : List Char} (hne : word ≠ [])
    (hword : ∀ c ∈ word, Text.isBlank c = false) (hb : Text.isBlank b = true) :
    standsAt before (cs ++ b :: post) word = standsAt before cs word := by
  have hmem : b ∉ word := fun h => by
    rw [hword b h] at hb
    cases hb
  rw [Bool.eq_iff_iff]
  simp only [standsAt, Bool.and_eq_true, List.isPrefixOf_iff_prefix, prefix_append_blank_iff hmem,
    and_assoc]
  refine and_congr_right fun hprefix => ?_
  obtain ⟨rest, rfl⟩ := hprefix
  have hhead (back : List Char) : (word ++ back).head? = word.head? := by
    rw [List.head?_append, Option.or_of_isSome (by simpa using hne)]
  have hbehind : (rest ++ b :: post).head?.any Text.isWordPart =
      rest.head?.any Text.isWordPart := by
    cases rest with
    | nil => exact (Text.not_part_of_isBlank hb).1
    | cons d rest => rfl
  simp only [List.append_assoc, hhead, List.drop_left, Text.boundary, hbehind]

theorem matchLength_append_blank (hwords : Unbroken words) (hb : Text.isBlank b = true)
    (before : Option Char) (cs post : List Char) :
    matchLength words before (cs ++ b :: post) = matchLength words before cs := by
  rw [matchLength, List.find?_congr fun w hw =>
    standsAt_append_blank (hwords w hw).1 (hwords w hw).2 hb, matchLength]

theorem matchLength_le (words : List (List Char)) (before : Option Char) (rest : List Char) :
    matchLength words before rest ≤ rest.length := by
  rw [matchLength]
  cases hfind : words.find? (standsAt before rest) with
  | none => exact Nat.zero_le _
  | some w =>
      have hstands := List.find?_some hfind
      simp only [standsAt, Bool.and_eq_true, List.isPrefixOf_iff_prefix] at hstands
      exact hstands.1.1.length_le

-- The induction is on the text before the blank; the match that covers its next `left` characters
-- ends before the blank.
theorem keywordFlags_append_blank (hwords : Unbroken words) (hb : Text.isBlank b = true)
    (before : Option Char) {left : Nat} (hleft : left ≤ cs.length) :
    keywordFlags words before left (cs ++ b :: post) =
      keywordFlags words before left cs ++ false :: keywordFlags words none 0 post := by
  induction cs generalizing before left with
  | nil =>
      obtain rfl : left = 0 := by simpa using hleft
      have hnone : matchLength words before (b :: post) = 0 :=
        (matchLength_append_blank hwords hb before [] post).trans
          (Nat.le_zero.mp (matchLength_le words before []))
      have hedge : (some b).any Text.isWordPart = (none : Option Char).any Text.isWordPart :=
        (Text.not_part_of_isBlank hb).1
      simp only [List.nil_append, keywordFlags, if_true, hnone, bne_self_eq_false,
        keywordFlags_congr hedge]
  | cons c cs ih =>
      have hlength := matchLength_append_blank hwords hb before (c :: cs) post
      have hle := matchLength_le words before (c :: cs)
      simp only [List.cons_append, List.length_cons] at hlength hle hleft
      simp only [List.cons_append, keywordFlags, hlength]
      rw [ih]
      split <;> omega

theorem keywordFlags_between_blanks (hwords : Unbroken words) {pre word post : List Char}
    (hpre : ∀ c ∈ pre.getLast?, Text.isBlank c = true)
    (hpost : ∀ c ∈ post.head?, Text.isBlank c = true) {i : Nat} (hi : i < word.length) :
    (keywordFlags words none 0 (pre ++ word ++ post))[pre.length + i]? =
      (keywordFlags words none 0 word)[i]? := by
  have hback : (keywordFlags words none 0 (word ++ post))[i]? =
      (keywordFlags words none 0 word)[i]? := by
    cases post with
    | nil => rw [List.append_nil]
    | cons b post =>
        rw [keywordFlags_append_blank hwords (hpost b rfl) none (Nat.zero_le _),
          List.getElem?_append_left (by rwa [length_keywordFlags])]
  rw [List.append_assoc, ← hback]
  rcases List.eq_nil_or_concat' pre with rfl | ⟨front, b, rfl⟩
  · simp
  · have hb : Text.isBlank b = true := hpre b (by simp)
    rw [List.append_assoc, List.singleton_append,
      keywordFlags_append_blank hwords hb none (Nat.zero_le _)]
    rw [List.getElem?_append_right (by rw [length_keywordFlags]; simp; omega), length_keywordFlags]
    simp only [List.length_append, List.length_singleton]
    have hoffset : front.length + 1 + i - front.length = i + 1 := by omega
    rw [hoffset, List.getElem?_cons_succ]

end Blank

/-- The text from an offset on is a row of words, each one the first listed that occurs at its
place. -/
inductive Tiled (words : List (List Char)) (text : List Char) : Nat → Prop
  | done : Tiled words text text.length
  | next {i word} : FirstListed words text i word → Tiled words text (i + word.length) →
      Tiled words text i

section Tiling

variable {words : List (List Char)} {text : List Char} {i : Nat}

theorem Matched.covers_of_tiled {ms : List Match} (h : Matched words text i ms)
    (ht : Tiled words text i) {k : Nat} (hik : i ≤ k) (hk : k < text.length) :
    ∃ m ∈ ms, m.covers k := by
  induction ht generalizing ms with
  | done => omega
  | @next i word hfirst _ ih =>
      cases h with
      | done hnone => exact absurd hfirst.mem.2 (hnone i (Nat.le_refl _) word hfirst.mem.1)
      | @found _ j word' more hij hnone hfirst' hmore =>
          obtain rfl : i = j := by
            by_contra hne
            exact hnone i (Nat.le_refl _) (by omega) word hfirst.mem.1 hfirst.mem.2
          obtain rfl : word = word' := hfirst.unique hfirst'
          by_cases hinside : k < i + word.length
          · exact ⟨_, List.mem_cons_self, hik, hinside⟩
          · obtain ⟨m, hm, hcov⟩ := ih hmore (by omega)
            exact ⟨m, List.mem_cons_of_mem _ hm, hcov⟩

theorem Matched.tiled_of_covers {ms : List Match} (hwords : ∀ w ∈ words, w ≠ [])
    (h : Matched words text i ms) (hi : i ≤ text.length)
    (hcov : ∀ k, i ≤ k → k < text.length → ∃ m ∈ ms, m.covers k) :
    Tiled words text i := by
  induction h with
  | @done i _ =>
      have hend : i = text.length := by
        by_contra hne
        obtain ⟨m, hm, -⟩ := hcov i (Nat.le_refl _) (by omega)
        cases hm
      exact hend ▸ .done
  | @found i j word more hij _ hfirst hmore ih =>
      have hword : word ≠ [] := hwords word hfirst.mem.1
      have hpos : 0 < word.length := List.length_pos_iff.mpr hword
      have hstop := hfirst.mem.2.stop_le hword
      have hat : Matched words text j (⟨j, word⟩ :: more) :=
        .found (Nat.le_refl j) (fun k hk hkj => by omega) hfirst hmore
      obtain rfl : i = j := by
        by_contra hne
        exact hat.not_covered (by omega) (hcov i (Nat.le_refl _) (by omega))
      refine .next hfirst (ih hstop fun k hk hklt => ?_)
      obtain ⟨m, hm, hcovers⟩ := hcov k (by omega) hklt
      rcases List.mem_cons.mp hm with rfl | hm
      · simp only [Match.covers] at hcovers
        omega
      · exact ⟨m, hm, hcovers⟩

theorem exists_firstListed {word : List Char} (hw : word ∈ words) (h : Occurs text word i) :
    ∃ w, FirstListed words text i w := by
  induction words with
  | nil => cases hw
  | cons w words ih =>
      by_cases hfirst : Occurs text w i
      · exact ⟨w, [], words, rfl, hfirst, by simp⟩
      · have hmem : word ∈ words := by
          rcases List.mem_cons.mp hw with rfl | hw
          · exact absurd h hfirst
          · exact hw
        obtain ⟨v, pre, post, rfl, hv, hpre⟩ := ih hmem
        exact ⟨v, w :: pre, post, rfl, hv, List.forall_mem_cons.mpr ⟨hfirst, hpre⟩⟩

theorem maximalRun_self (hne : text ≠ []) (h : Wordy text) : MaximalRun text 0 text :=
  { ne_nil := hne
    wordy := h
    within := List.prefix_refl _
    front := by simp
    back := by simp }

-- A shorter keyword that stands at the front would end between two word characters.
theorem tiled_of_wordy (hwords : ∀ w ∈ words, w ≠ []) (hmem : text ∈ words) (h : Wordy text) :
    Tiled words text 0 := by
  have hself : MaximalRun text 0 text := maximalRun_self (hwords text hmem) h
  obtain ⟨w, hw⟩ := exists_firstListed hmem
    ((occurs_iff_maximalRun (hwords text hmem) h).mpr hself)
  have hwordy : Wordy w := fun c hc => h c (hw.mem.2.1.subset hc)
  obtain rfl : w = text :=
    ((occurs_iff_maximalRun (hwords w hw.mem.1) hwordy).mp hw.mem.2).unique hself
  refine .next hw ?_
  rw [Nat.zero_add]
  exact .done

theorem Tiled.wordEdges (hwords : ∀ w ∈ words, w ≠ []) (h : Tiled words text i)
    (hi : i < text.length) : WordEdge text i ∧ WordEdge text text.length := by
  induction h with
  | done => omega
  | @next i word hfirst _ ih =>
      have hstop := hfirst.mem.2.stop_le (hwords word hfirst.mem.1)
      refine ⟨hfirst.mem.2.2.1, ?_⟩
      by_cases hend : i + word.length = text.length
      · exact hend ▸ hfirst.mem.2.2.2
      · exact (ih (by omega)).2

theorem Tiled.ends_wordy (hwords : ∀ w ∈ words, w ≠ []) (h : Tiled words text 0) :
    (∀ c ∈ text.head?, Text.isWordPart c = true) ∧
      ∀ c ∈ text.getLast?, Text.isWordPart c = true := by
  cases htext : text with
  | nil => simp
  | cons c cs =>
      obtain ⟨hfront, hback⟩ := h.wordEdges hwords (by simp [htext])
      rw [wordEdge_iff, List.take_zero, ← List.head?_eq_getElem?] at hfront
      rw [wordEdge_iff, List.take_length, List.getElem?_eq_none (Nat.le_refl _)] at hback
      rw [← htext]
      refine ⟨fun c hc => ?_, fun c hc => ?_⟩
      · simpa [Text.boundary, Option.mem_def.mp hc] using hfront
      · simpa [Text.boundary, Option.mem_def.mp hc] using hback

end Tiling

end ScriptBench.Highlight

namespace ScriptBench.Config

open Highlight

theorem keywordFault?_eq_none_iff {index : Nat} {keywords : List String} :
    keywordFault? index keywords = none ↔ ∀ w ∈ trimmed keywords,
      w ≠ [] ∧ ∀ c ∈ w, Text.isIdentifierPart c = true := by
  induction keywords generalizing index with
  | nil => simp [keywordFault?, trimmed]
  | cons k rest ih =>
      rw [keywordFault?, trimmed, List.map_cons, List.forall_mem_cons, ← trimmed]
      split
      · rename_i hempty
        simp [List.isEmpty_iff.mp hempty]
      · rename_i hempty
        rw [List.isEmpty_iff] at hempty
        split
        · rename_i hpart
          rw [ih, and_iff_right ⟨hempty, List.all_eq_true.mp hpart⟩]
        · rename_i hpart
          rw [List.all_eq_true] at hpart
          simp [hpart]

theorem Settings.words_of_validate {s : Settings} (h : s.validate = .ok s) :
    ∀ w ∈ trimmed s.keywords, w ≠ [] ∧ ∀ c ∈ w, Text.isIdentifierPart c = true := by
  rw [Settings.validate] at h
  split at h
  · cases h
  · rename_i hnone
    exact keywordFault?_eq_none_iff.mp (Option.or_eq_none_iff.mp hnone).2

theorem Settings.unbroken_of_validate {s : Settings} (h : s.validate = .ok s) :
    Unbroken (searchWords s.keywords) := by
  intro w hw
  obtain ⟨hmem, hne⟩ := mem_searchWords.mp hw
  refine ⟨hne, fun c hc => ?_⟩
  have hpart := (Settings.words_of_validate h w hmem).2 c hc
  rw [Bool.eq_false_iff]
  intro hblank
  rw [(Text.not_part_of_isBlank hblank).2] at hpart
  cases hpart

end ScriptBench.Config

namespace ScriptBench.Highlight

open Config (Settings)

theorem keyword_between_blanks {keywords : List String} (hwords : Unbroken (searchWords keywords))
    {text : String} {pre word post : List Char} (htext : text.toList = pre ++ word ++ post)
    (hpre : ∀ c ∈ pre.getLast?, Text.isBlank c = true)
    (hpost : ∀ c ∈ post.head?, Text.isBlank c = true) :
    (∀ i < word.length, (tagsAt (keywordSpans keywords text) (pre.length + i)).keyword = true) ↔
      Tiled (searchWords keywords) word 0 := by
  obtain ⟨ms, hms, hflags⟩ := keywordFlags_from_start (searchWords_ne_nil keywords) word
  have htagged (i : Nat) (hi : i < word.length) :
      (tagsAt (keywordSpans keywords text) (pre.length + i)).keyword = true ↔
        ∃ m ∈ ms, m.covers i := by
    rw [keyword_iff_flag, htext, keywordFlags_between_blanks hwords hpre hpost hi, hflags]
  constructor
  · intro h
    exact hms.tiled_of_covers (searchWords_ne_nil keywords) (Nat.zero_le _) fun i _ hi =>
      (htagged i hi).mp (h i hi)
  · intro h i hi
    exact (htagged i hi).mpr (hms.covers_of_tiled h (Nat.zero_le _) hi)

theorem accepted_keyword_highlighted_iff {s : Settings} {keyword text : String}
    {pre post : List Char} (hs : s.validate = .ok s) (hkeyword : keyword ∈ s.keywords)
    (htext : text.toList = pre ++ Text.trimChars keyword.toList ++ post)
    (hpre : ∀ c ∈ pre.getLast?, Text.isBlank c = true)
    (hpost : ∀ c ∈ post.head?, Text.isBlank c = true) :
    let word := Text.trimChars keyword.toList
    let highlighted := ∀ i < word.length,
      (tagsAt (keywordSpans s.keywords text) (pre.length + i)).keyword = true
    (∃ words, Listed s.keywords words ∧ (highlighted ↔ Tiled words word 0)) ∧
    (Wordy word → highlighted) ∧
    (highlighted → (∀ c ∈ word.head?, Text.isWordPart c = true) ∧
      ∀ c ∈ word.getLast?, Text.isWordPart c = true) ∧
    ∀ c ∈ word, Text.isWordPart c = false →
      Text.isNumeric c = true ∧ Text.isDecimalDigit c = false := by
  intro word highlighted
  have hiff : highlighted ↔ Tiled (searchWords s.keywords) word 0 :=
    keyword_between_blanks (Settings.unbroken_of_validate hs) htext hpre hpost
  have hlisted : word ∈ trimmed s.keywords := List.mem_map_of_mem hkeyword
  obtain ⟨hne, hpart⟩ := Settings.words_of_validate hs word hlisted
  have hwords := searchWords_ne_nil s.keywords
  refine ⟨⟨_, listed_searchWords s.keywords, hiff⟩, fun h => ?_,
    fun h => (hiff.mp h).ends_wordy hwords, fun c hc hword => ?_⟩
  · exact hiff.mpr (tiled_of_wordy hwords (mem_searchWords.mpr ⟨hlisted, hne⟩) h)
  · exact Text.isNumeric_of_not_wordPart (hpart c hc) hword

-- The keyword with the raised two is listed before the one that is its first letter.
theorem raised_two_inside_keyword :
    let s : Settings := { Settings.default with keywords := ["x²y", " x "] }
    s.validate = .ok s ∧ "if x²y".toList = "if ".toList ++ Text.trimChars "x²y".toList ++ [] ∧
      (∀ c ∈ "if ".toList.getLast?, Text.isBlank c = true) ∧
      ∀ i < 3, (tagsAt (keywordSpans s.keywords "if x²y") (3 + i)).keyword = true := by
  intro s
  have hs : s.validate = .ok s := by decide +kernel
  have hword : Text.trimChars "x²y".toList = "x²y".toList := by decide +kernel
  have htext : "if x²y".toList = "if ".toList ++ Text.trimChars "x²y".toList ++ [] := by
    rw [hword]
    rfl
  have hlast : "if ".toList.getLast? = some ' ' := rfl
  have hpre : ∀ c ∈ "if ".toList.getLast?, Text.isBlank c = true := by
    rw [hlast]
    rintro c ⟨⟩
    decide
  have hkeyword : "x²y" ∈ s.keywords := List.mem_cons_self
  obtain ⟨words, hlisted, hiff⟩ :=
    (accepted_keyword_highlighted_iff hs hkeyword htext hpre (by simp)).1
  obtain rfl := hlisted.unique (listed_searchWords s.keywords)
  have hoccurs : Occurs "x²y".toList "x²y".toList 0 := by
    refine ⟨List.prefix_refl _, ?_, ?_⟩ <;> rw [WordEdge] <;> decide +kernel
  have hfirst : FirstListed (searchWords s.keywords) "x²y".toList 0 "x²y".toList :=
    ⟨[], [['x']], by decide +kernel, hoccurs, by simp⟩
  rw [hword] at hiff
  exact ⟨hs, htext, hpre, hiff.mpr (.next hfirst .done)⟩

theorem accepted_keyword_stays_plain :
    ¬ ∀ (s : Settings) (keyword text : String) (pre post : List Char), s.validate = .ok s →
      keyword ∈ s.keywords → text.toList = pre ++ Text.trimChars keyword.toList ++ post →
      (∀ c ∈ pre.getLast?, Text.isBlank c = true) → (∀ c ∈ post.head?, Text.isBlank c = true) →
      ∀ i < (Text.trimChars keyword.toList).length,
        (tagsAt (keywordSpans s.keywords text) (pre.length + i)).keyword = true := by
  intro hall
  have hplain := hall { Settings.default with keywords := ["m²"] } "m²" "m²" [] []
    (by decide +kernel) (by decide) (by decide +kernel) (by simp) (by simp) 0 (by decide +kernel)
  exact absurd hplain (by decide +kernel)

end ScriptBench.Highlight
