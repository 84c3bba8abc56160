import ScriptBench.Proofs.MergedSpans
import Mathlib.Algebra.Group.Nat.Defs
import Mathlib.Data.List.Chain

namespace ScriptBench.Highlight

def wordSub? (a b : Nat) : Option Nat := if b ≤ a then some (a - b) else none

def wordAdd? (a b : Nat) : Option Nat := if a + b < 2 ^ 64 then some (a + b) else none

theorem wordSub?_of_le {a b : Nat} (h : b ≤ a) : wordSub? a b = some (a - b) := if_pos h

theorem wordAdd?_of_lt {a b : Nat} (h : a + b < 2 ^ 64) : wordAdd? a b = some (a + b) := if_pos h

/-- Puts `n` characters with the given tags behind the spans, joined to the last span if the tags
agree. -/
def push? (spans : List Span) (n : Nat) (tags : Tags) : Option (List Span) :=
  if n = 0 then some spans
  else match spans.getLast? with
    | none => some [⟨n, tags⟩]
    | some last =>
      if last.tags = tags then
        (wordAdd? last.length n).map fun length => spans.dropLast ++ [⟨length, tags⟩]
      else some (spans ++ [⟨n, tags⟩])

theorem canonical_iff {spans : List Span} :
    Canonical spans ↔ (∀ s ∈ spans, 0 < s.length) ∧ spans.IsChain fun s t => s.tags ≠ t.tags := by
  constructor
  · intro h
    induction h with
    | nil => simp
    | single hs => simpa using hs
    | cons hs hne _ ih =>
        exact ⟨List.forall_mem_cons.mpr ⟨hs, ih.1⟩, List.isChain_cons_cons.mpr ⟨hne, ih.2⟩⟩
  · rintro ⟨hpos, hchain⟩
    induction spans with
    | nil => exact .nil
    | cons s rest ih =>
        obtain ⟨hs, hrest⟩ := List.forall_mem_cons.mp hpos
        cases rest with
        | nil => exact .single hs
        | cons t rest =>
            obtain ⟨hne, htail⟩ := List.isChain_cons_cons.mp hchain
            exact .cons hs hne (ih hrest htail)

instance (spans : List Span) : Decidable (Canonical spans) := decidable_of_iff _ canonical_iff.symm

theorem canonical_concat_iff {front : List Span} {s : Span} :
    Canonical (front ++ [s]) ↔
      Canonical front ∧ 0 < s.length ∧ ∀ t ∈ front.getLast?, t.tags ≠ s.tags := by
  simp only [canonical_iff, List.isChain_append, List.forall_mem_append, List.forall_mem_singleton,
    List.head?_cons, Option.mem_some_iff, forall_eq', List.isChain_singleton, true_and]
  tauto

theorem expand_append (a b : List Span) : expand (a ++ b) = expand a ++ expand b :=
  List.flatMap_append

theorem expand_singleton (s : Span) : expand [s] = List.replicate s.length s.tags := by
  simp [expand]

theorem expand_grow (n : Nat) (tags : Tags) (spans : List Span) :
    expand (grow n tags spans) = List.replicate n tags ++ expand spans := by
  unfold grow
  split
  · rename_i hn
    simp [hn]
  · cases spans with
    | nil => rfl
    | cons s rest =>
        simp only
        split
        · rename_i heq
          rw [expand_cons, expand_cons, List.replicate_add, heq, List.append_assoc]
        · rfl

theorem totalLength_of_expand {out spans : List Span} {n : Nat} {tags : Tags}
    (h : expand out = expand spans ++ List.replicate n tags) :
    totalLength out = totalLength spans + n := by
  rw [← length_expand, h, List.length_append, length_expand, List.length_replicate]

theorem push?_of_fits {spans : List Span} {n : Nat} (tags : Tags) (h : Canonical spans)
    (hfits : totalLength spans + n < 2 ^ 64) :
    ∃ out, push? spans n tags = some out ∧ Canonical out ∧
      expand out = expand spans ++ List.replicate n tags := by
  rw [push?]
  split
  · rename_i hn
    exact ⟨spans, rfl, h, by simp [hn]⟩
  · rename_i hn
    have hpos : 0 < n := Nat.pos_of_ne_zero hn
    rcases List.eq_nil_or_concat' spans with rfl | ⟨front, last, rfl⟩
    · exact ⟨_, rfl, .single hpos, by simp [expand]⟩
    · have hlast : totalLength (front ++ [last]) = totalLength front + last.length :=
        totalLength_of_expand (by rw [expand_append, expand_singleton])
      obtain ⟨hfront, hlen, hne⟩ := canonical_concat_iff.mp h
      simp only [List.getLast?_concat, List.dropLast_concat]
      split
      · rename_i htags
        subst htags
        rw [wordAdd?_of_lt (by omega)]
        refine ⟨_, rfl, canonical_concat_iff.mpr ⟨hfront, Nat.add_pos_left hlen n, hne⟩, ?_⟩
        simp only [expand_append, expand_singleton, List.replicate_add, List.append_assoc]
      · rename_i htags
        refine ⟨_, rfl, canonical_concat_iff.mpr ⟨h, hpos, ?_⟩, ?_⟩
        · simpa using htags
        · rw [expand_append, expand_singleton]

structure Brush where
  spans : List Span
  cursor : Nat

namespace Brush

def stroke? (length : Nat) (b : Brush) (r : ErrorRange) : Option Brush := do
  let start := max (min r.start length) b.cursor
  let stop := min r.stop length
  let gap ← wordSub? start b.cursor
  let spans ← push? b.spans gap .plain
  if start < stop then
    let marked ← wordSub? stop start
    let spans ← push? spans marked .onlyError
    some ⟨spans, max start stop⟩
  else some ⟨spans, max start stop⟩

def finish? (length : Nat) (b : Brush) : Option (List Span) := do
  let rest ← wordSub? length b.cursor
  push? b.spans rest .plain

structure Sound (length : Nat) (b : Brush) : Prop where
  canonical : Canonical b.spans
  drawn : totalLength b.spans = b.cursor
  within : b.cursor ≤ length

variable {length : Nat} {b : Brush}

-- A stroke moves offsets from what is still to be drawn to what is drawn; their row stays the same.
theorem stroke?_of_sound (hlength : length < 2 ^ 64) (h : b.Sound length) (r : ErrorRange) :
    ∃ b', b.stroke? length r = some b' ∧ b'.Sound length ∧ ∀ rest,
      expand b'.spans ++ expand (errorSpansFrom length b'.cursor rest) =
        expand b.spans ++ expand (errorSpansFrom length b.cursor (r :: rest)) := by
  obtain ⟨hcanonical, hdrawn, hwithin⟩ := h
  simp only [stroke?, errorSpansFrom]
  generalize hstart : max (min r.start length) b.cursor = start
  generalize hstop : min r.stop length = stop
  have hcursor : b.cursor ≤ start := by omega
  have hstartLength : start ≤ length := by omega
  have hstopLength : stop ≤ length := by omega
  obtain ⟨gap, hgap, hgapCanonical, hgapExpand⟩ :=
    push?_of_fits (n := start - b.cursor) .plain hcanonical (by omega)
  have hgapLength := totalLength_of_expand hgapExpand
  rw [wordSub?_of_le hcursor, Option.bind_eq_bind, Option.bind_some, hgap, Option.bind_eq_bind,
    Option.bind_some]
  split
  · rename_i hlt
    obtain ⟨marked, hmarked, hmarkedCanonical, hmarkedExpand⟩ :=
      push?_of_fits (n := stop - start) .onlyError hgapCanonical (by omega)
    have hmarkedLength := totalLength_of_expand hmarkedExpand
    rw [wordSub?_of_le (Nat.le_of_lt hlt), Option.bind_some, hmarked, Option.bind_some]
    refine ⟨_, rfl, ⟨hmarkedCanonical, by simp only; omega, by simp only; omega⟩, fun rest => ?_⟩
    simp only [expand_grow, hmarkedExpand, hgapExpand, List.append_assoc]
  · rename_i hle
    refine ⟨_, rfl, ⟨hgapCanonical, by simp only; omega, by simp only; omega⟩, fun rest => ?_⟩
    have hnone : stop - start = 0 := by omega
    simp only [expand_grow, hgapExpand, hnone, List.replicate_zero, List.nil_append,
      List.append_assoc]

theorem strokes?_of_sound (hlength : length < 2 ^ 64) (h : b.Sound length)
    (ranges : List ErrorRange) :
    ∃ b', ranges.foldlM (stroke? length) b = some b' ∧ b'.Sound length ∧
      expand b'.spans ++ expand (errorSpansFrom length b'.cursor []) =
        expand b.spans ++ expand (errorSpansFrom length b.cursor ranges) := by
  induction ranges generalizing b with
  | nil => exact ⟨b, rfl, h, rfl⟩
  | cons r rest ih =>
      obtain ⟨b₁, hstroke, h₁, hexpand₁⟩ := stroke?_of_sound hlength h r
      obtain ⟨b₂, hstrokes, h₂, hexpand₂⟩ := ih h₁
      refine ⟨b₂, ?_, h₂, hexpand₂.trans (hexpand₁ rest)⟩
      rw [List.foldlM_cons, hstroke, Option.bind_eq_bind, Option.bind_some, hstrokes]

theorem finish?_of_sound (hlength : length < 2 ^ 64) (h : b.Sound length) :
    ∃ out, b.finish? length = some out ∧ Canonical out ∧
      expand out = expand b.spans ++ expand (errorSpansFrom length b.cursor []) := by
  obtain ⟨hcanonical, hdrawn, hwithin⟩ := h
  obtain ⟨out, hout, houtCanonical, hexpand⟩ :=
    push?_of_fits (n := length - b.cursor) .plain hcanonical (by omega)
  refine ⟨out, ?_, houtCanonical, ?_⟩
  · rw [finish?, wordSub?_of_le hwithin, Option.bind_eq_bind, Option.bind_some, hout]
  · rw [hexpand, errorSpansFrom, expand_grow]
    simp [expand]

end Brush

def drawn? (ranges : List ErrorRange) (length : Nat) : Option (List Span) := do
  let b ← (ranges.mergeSort fun a b => a.start ≤ b.start).foldlM (Brush.stroke? length) ⟨[], 0⟩
  b.finish? length

theorem drawn?_eq {length : Nat} (hlength : length < 2 ^ 64) (ranges : List ErrorRange) :
    drawn? ranges length = some (errorSpans ranges length) := by
  have hblank : Brush.Sound length ⟨[], 0⟩ := ⟨.nil, rfl, Nat.zero_le _⟩
  obtain ⟨b, hb, hsound, hexpand⟩ := Brush.strokes?_of_sound hlength hblank
    (ranges.mergeSort fun a b => a.start ≤ b.start)
  obtain ⟨out, hout, hcanonical, hexpand'⟩ := Brush.finish?_of_sound hlength hsound
  have heq : out = errorSpans ranges length :=
    eq_of_expand hcanonical (canonical_errorSpans _ _) (hexpand'.trans hexpand)
  rw [drawn?, hb, Option.bind_eq_bind, Option.bind_some, hout, heq]

theorem tagsAt_errorSpans (ranges : List ErrorRange) {length i : Nat} (hi : i < length) :
    tagsAt (errorSpans ranges length) i =
      if ∃ r ∈ ranges, r.covers i then .onlyError else .plain := by
  refine Tags.eq_ite_insert_error (s := .plain) (keyword_errorSpansFrom _ _ _ _) ?_
  rw [error_errorSpans, and_iff_right hi]
  simp [Tags.plain]

theorem eq_errorSpans_iff {ranges : List ErrorRange} {length : Nat} {out : List Span} :
    out = errorSpans ranges length ↔ Canonical out ∧ totalLength out = length ∧
      ∀ i < length, tagsAt out i = if ∃ r ∈ ranges, r.covers i then .onlyError else .plain := by
  rw [eq_iff_of_canonical (canonical_errorSpans _ _), totalLength_errorSpans]
  refine and_congr_right fun _ => and_congr_right fun _ => forall₂_congr fun i hi => ?_
  rw [tagsAt_errorSpans _ hi]

theorem errorSpans_drawn (ranges : List ErrorRange) (length : Nat) (hlength : length < 2 ^ 64) :
    drawn? ranges length = some (errorSpans ranges length) ∧
    (∀ out, out = errorSpans ranges length ↔ Canonical out ∧ totalLength out = length ∧
      ∀ i < length, tagsAt out i = if ∃ r ∈ ranges, r.covers i then .onlyError else .plain) ∧
    ∀ other, (∀ r, r ∈ other ↔ r ∈ ranges) →
      errorSpans other length = errorSpans ranges length := by
  refine ⟨drawn?_eq hlength ranges, fun _ => eq_errorSpans_iff, fun other hsame => ?_⟩
  refine eq_errorSpans_iff.mpr ⟨canonical_errorSpans _ _, totalLength_errorSpans _ _, ?_⟩
  intro i hi
  rw [tagsAt_errorSpans _ hi]
  simp only [hsame]

theorem drawn_in_another_order :
    (10 : Nat) < 2 ^ 64 ∧
    drawn? [⟨2, 6⟩, ⟨4, 5⟩, ⟨3, 8⟩, ⟨9, 1⟩, ⟨9, 40⟩] 10 =
      some [⟨2, .plain⟩, ⟨6, .onlyError⟩, ⟨1, .plain⟩, ⟨1, .onlyError⟩] ∧
    errorSpans [⟨9, 40⟩, ⟨9, 1⟩, ⟨3, 8⟩, ⟨2, 6⟩, ⟨4, 5⟩, ⟨3, 8⟩] 10 =
      errorSpans [⟨2, 6⟩, ⟨4, 5⟩, ⟨3, 8⟩, ⟨9, 1⟩, ⟨9, 40⟩] 10 := by
  obtain ⟨hdrawn, hspans, hsame⟩ :=
    errorSpans_drawn [⟨2, 6⟩, ⟨4, 5⟩, ⟨3, 8⟩, ⟨9, 1⟩, ⟨9, 40⟩] 10 (by decide)
  refine ⟨by decide, hdrawn.trans (congrArg some ?_), hsame _ fun r => ?_⟩
  · exact ((hspans _).mpr ⟨by decide, by decide, by decide⟩).symm
  · simp only [List.mem_cons]
    tauto

end ScriptBench.Highlight
