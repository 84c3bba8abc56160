import ScriptBench.Proofs.DrawnSpans

/-!
Each list has a cursor that stands on a span which is not empty. A round takes the characters that
both cursors can still give, under the tags of both spans; once one list is at its end, a round
takes the span that the other cursor stands on.
-/

namespace ScriptBench.Highlight

/-- What is left of the span that the cursor stands on, and the spans behind that one. -/
structure Cursor where
  here : Option Span
  behind : List Span

namespace Cursor

def on : List Span → Cursor
  | [] => ⟨none, []⟩
  | s :: rest => if s.length = 0 then on rest else ⟨some s, rest⟩

def past (s : Span) (behind : List Span) (n : Nat) : Cursor :=
  if n < s.length then ⟨some ⟨s.length - n, s.tags⟩, behind⟩ else on behind

def spans (c : Cursor) : List Span := c.here.toList ++ c.behind

structure Standing (c : Cursor) : Prop where
  filled : ∀ s ∈ c.here, 0 < s.length
  ended : c.here = none → c.behind = []

theorem standing_on (spans : List Span) : (on spans).Standing := by
  induction spans with
  | nil => exact ⟨nofun, fun _ => rfl⟩
  | cons s rest ih =>
      rw [on]
      split
      · exact ih
      · rename_i hs
        refine ⟨fun t ht => ?_, nofun⟩
        obtain rfl : s = t := Option.some.inj ht
        exact Nat.pos_of_ne_zero hs

theorem standing_past (s : Span) (behind : List Span) (n : Nat) : (past s behind n).Standing := by
  rw [past]
  split
  · rename_i hn
    refine ⟨fun t ht => ?_, nofun⟩
    obtain rfl := Option.some.inj ht
    exact Nat.sub_pos_of_lt hn
  · exact standing_on behind

theorem expand_on (spans : List Span) : expand (on spans).spans = expand spans := by
  induction spans with
  | nil => rfl
  | cons s rest ih =>
      rw [on]
      split
      · rename_i hs
        rw [ih, expand_cons, hs, List.replicate_zero, List.nil_append]
      · rfl

theorem expand_past {s : Span} {n : Nat} (hn : n ≤ s.length) (behind : List Span) :
    expand (s :: behind) = List.replicate n s.tags ++ expand (past s behind n).spans := by
  rw [past]
  split
  · have hsplit : s.length = n + (s.length - n) := by omega
    show _ = _ ++ (List.replicate (s.length - n) s.tags ++ expand behind)
    rw [expand_cons, ← List.append_assoc, ← List.replicate_add, ← hsplit]
  · have hall : n = s.length := by omega
    rw [expand_on, expand_cons, hall]

theorem totalLength_past {s : Span} {n : Nat} (hn : n ≤ s.length) (behind : List Span) :
    totalLength (s :: behind) = n + totalLength (past s behind n).spans := by
  rw [← length_expand, expand_past hn, List.length_append, List.length_replicate, length_expand]

end Cursor

structure Laying where
  base : Cursor
  top : Cursor
  out : List Span

open Cursor (on past)

/-- One round, with the number of lists that it misses. -/
inductive Round : Nat → Laying → Laying → Prop
  | both {b t base top out pushed} :
      push? out (min b.length t.length) (b.tags.union t.tags) = some pushed →
      Round 0 ⟨⟨some b, base⟩, ⟨some t, top⟩, out⟩
        ⟨past b base (min b.length t.length), past t top (min b.length t.length), pushed⟩
  | baseAlone {b base top out pushed} : push? out b.length b.tags = some pushed →
      Round 1 ⟨⟨some b, base⟩, ⟨none, top⟩, out⟩ ⟨on base, on top, pushed⟩
  | topAlone {t base top out pushed} : push? out t.length t.tags = some pushed →
      Round 1 ⟨⟨none, base⟩, ⟨some t, top⟩, out⟩ ⟨on base, on top, pushed⟩

inductive Lays : Nat → Laying → List Span → Prop
  | ended {base top out} : Lays 0 ⟨⟨none, base⟩, ⟨none, top⟩, out⟩ out
  | round {k n l l' all} : Round k l l' → Lays n l' all → Lays (k + n) l all

theorem Round.unique {k k' : Nat} {l m m' : Laying} (h : Round k l m) (h' : Round k' l m') :
    k' = k ∧ m' = m := by
  cases h with
  | both hpush =>
      cases h' with
      | both hpush' =>
          obtain rfl := Option.some.inj (hpush.symm.trans hpush')
          exact ⟨rfl, rfl⟩
  | baseAlone hpush =>
      cases h' with
      | baseAlone hpush' =>
          obtain rfl := Option.some.inj (hpush.symm.trans hpush')
          exact ⟨rfl, rfl⟩
  | topAlone hpush =>
      cases h' with
      | topAlone hpush' =>
          obtain rfl := Option.some.inj (hpush.symm.trans hpush')
          exact ⟨rfl, rfl⟩

theorem Lays.unique {n n' : Nat} {l : Laying} {all all' : List Span} (h : Lays n l all)
    (h' : Lays n' l all') : n' = n ∧ all' = all := by
  induction h generalizing n' all' with
  | ended =>
      cases h' with
      | ended => exact ⟨rfl, rfl⟩
      | round hround _ => cases hround
  | round hround _ ih =>
      cases h' with
      | ended => cases hround
      | round hround' hrest =>
          obtain ⟨rfl, rfl⟩ := hround.unique hround'
          obtain ⟨rfl, rfl⟩ := ih hrest
          exact ⟨rfl, rfl⟩

theorem overlay_congr {a a' b b' : List Span} (ha : expand a = expand a')
    (hb : expand b = expand b') : overlay a b = overlay a' b' := by
  refine eq_of_tagsAt (canonical_overlay a b) (canonical_overlay a' b') ?_ fun i => ?_
  · rw [totalLength_overlay, totalLength_overlay, ← length_expand, ← length_expand, ha, hb,
      length_expand, length_expand]
  · rw [tagsAt_overlay, tagsAt_overlay, ← getD_expand, ← getD_expand, ha, hb, getD_expand,
      getD_expand]

theorem overlay_comm (base top : List Span) : overlay base top = overlay top base := by
  refine eq_of_tagsAt (canonical_overlay base top) (canonical_overlay top base) ?_ fun i => ?_
  · rw [totalLength_overlay, totalLength_overlay, Nat.max_comm]
  · rw [tagsAt_overlay, tagsAt_overlay, Tags.union_comm]

theorem overlay_both (b t : Span) (base top : List Span) :
    overlay (b :: base) (t :: top) =
      grow (min b.length t.length) (b.tags.union t.tags)
        (overlay (past b base (min b.length t.length)).spans
          (past t top (min b.length t.length)).spans) := by
  rw [overlay]
  split
  · rename_i hlt
    rw [Nat.min_eq_left (Nat.le_of_lt hlt), past, past, if_neg (Nat.lt_irrefl _), if_pos hlt,
      overlay_congr (Cursor.expand_on base).symm rfl]
    rfl
  · split
    · rename_i hle hlt
      rw [Nat.min_eq_right (Nat.le_of_lt hlt), past, past, if_neg (Nat.lt_irrefl _), if_pos hlt,
        overlay_congr rfl (Cursor.expand_on top).symm]
      rfl
    · rename_i hle hge
      have heq : b.length = t.length := by omega
      rw [heq, Nat.min_self, past, past, heq, if_neg (Nat.lt_irrefl _), if_neg (Nat.lt_irrefl _),
        overlay_congr (Cursor.expand_on base).symm (Cursor.expand_on top).symm]

theorem overlay_nil (spans : List Span) : overlay spans [] = joined spans := by
  cases spans with
  | nil => rw [overlay]
  | cons s rest => rw [overlay.eq_def]

theorem overlay_alone (b : Span) (base : List Span) :
    overlay (b :: base) [] = grow b.length b.tags (overlay (on base).spans []) := by
  rw [overlay_congr (Cursor.expand_on base) rfl, overlay_nil, overlay_nil, joined]

theorem Cursor.totalLength_on (spans : List Span) :
    totalLength (on spans).spans = totalLength spans := by
  rw [← length_expand, expand_on, length_expand]

namespace Laying

def left (l : Laying) : List Span := overlay l.base.spans l.top.spans

structure Sound (l : Laying) : Prop where
  base : l.base.Standing
  top : l.top.Standing
  out : Canonical l.out
  fits : totalLength l.out + totalLength l.left < 2 ^ 64

def Even (l : Laying) : Prop := totalLength l.base.spans = totalLength l.top.spans

structure Advances (k : Nat) (l l' : Laying) : Prop where
  sound : l'.Sound
  row : expand l'.out ++ expand l'.left = expand l.out ++ expand l.left
  shorter : totalLength l'.left < totalLength l.left
  even : k = 0 → (l'.Even ↔ l.Even)
  uneven : k ≠ 0 → ¬ l.Even

section Advances

variable {l : Laying} {base top : Cursor}

theorem Sound.exists_push (h : l.Sound) (hbase : base.Standing) (htop : top.Standing) {n : Nat}
    {tags : Tags} (hn : 0 < n) (hleft : l.left = grow n tags (overlay base.spans top.spans)) :
    ∃ pushed, push? l.out n tags = some pushed ∧ Sound ⟨base, top, pushed⟩ ∧
      expand pushed ++ expand (left ⟨base, top, pushed⟩) = expand l.out ++ expand l.left ∧
      totalLength (left ⟨base, top, pushed⟩) < totalLength l.left := by
  have hshorter : totalLength l.left = n + totalLength (overlay base.spans top.spans) := by
    rw [hleft, totalLength_grow]
  have hfits := h.fits
  obtain ⟨pushed, hpush, hcanonical, hexpand⟩ := push?_of_fits (n := n) tags h.out (by omega)
  have hpushed := totalLength_of_expand hexpand
  refine ⟨pushed, hpush, ⟨hbase, htop, hcanonical, ?_⟩, ?_, ?_⟩
  · simp only [left]
    omega
  · rw [left, hexpand, hleft, expand_grow, List.append_assoc]
  · rw [left, hshorter]
    exact Nat.lt_add_of_pos_left hn

theorem exists_both {b t : Span} {base top out : List Span}
    (h : Sound ⟨⟨some b, base⟩, ⟨some t, top⟩, out⟩) :
    ∃ l', Round 0 ⟨⟨some b, base⟩, ⟨some t, top⟩, out⟩ l' ∧
      Advances 0 ⟨⟨some b, base⟩, ⟨some t, top⟩, out⟩ l' := by
  have hb : 0 < b.length := h.base.filled b rfl
  have ht : 0 < t.length := h.top.filled t rfl
  have hcut : 0 < min b.length t.length := Nat.lt_min.mpr ⟨hb, ht⟩
  obtain ⟨pushed, hpush, hsound, hrow, hshorter⟩ := h.exists_push (Cursor.standing_past b base _)
    (Cursor.standing_past t top _) hcut (overlay_both b t base top)
  refine ⟨_, .both hpush, hsound, hrow, hshorter, fun _ => ?_, absurd rfl⟩
  have hbase := Cursor.totalLength_past (Nat.min_le_left b.length t.length) base
  have htop := Cursor.totalLength_past (Nat.min_le_right b.length t.length) top
  show _ = _ ↔ totalLength (b :: base) = totalLength (t :: top)
  rw [hbase, htop, Nat.add_left_cancel_iff]

theorem exists_baseAlone {b : Span} {base out : List Span}
    (h : Sound ⟨⟨some b, base⟩, ⟨none, []⟩, out⟩) :
    ∃ l', Round 1 ⟨⟨some b, base⟩, ⟨none, []⟩, out⟩ l' ∧
      Advances 1 ⟨⟨some b, base⟩, ⟨none, []⟩, out⟩ l' := by
  have hb : 0 < b.length := h.base.filled b rfl
  obtain ⟨pushed, hpush, hsound, hrow, hshorter⟩ := h.exists_push (Cursor.standing_on base)
    (Cursor.standing_on []) hb (overlay_alone b base)
  refine ⟨_, .baseAlone hpush, hsound, hrow, hshorter, nofun, fun _ heven => ?_⟩
  have htotal : b.length + totalLength base = 0 := heven
  omega

theorem exists_topAlone {t : Span} {top out : List Span}
    (h : Sound ⟨⟨none, []⟩, ⟨some t, top⟩, out⟩) :
    ∃ l', Round 1 ⟨⟨none, []⟩, ⟨some t, top⟩, out⟩ l' ∧
      Advances 1 ⟨⟨none, []⟩, ⟨some t, top⟩, out⟩ l' := by
  have ht : 0 < t.length := h.top.filled t rfl
  have hleft : overlay [] (t :: top) = grow t.length t.tags (overlay [] (on top).spans) := by
    rw [overlay_comm, overlay_alone, overlay_comm]
  obtain ⟨pushed, hpush, hsound, hrow, hshorter⟩ := h.exists_push (Cursor.standing_on [])
    (Cursor.standing_on top) ht hleft
  refine ⟨_, .topAlone hpush, hsound, hrow, hshorter, nofun, fun _ heven => ?_⟩
  have htotal : 0 = t.length + totalLength top := heven
  omega

theorem ended_or_exists_round (h : l.Sound) :
    (l.base = ⟨none, []⟩ ∧ l.top = ⟨none, []⟩) ∨ ∃ k l', Round k l l' ∧ Advances k l l' := by
  obtain ⟨⟨b?, base⟩, ⟨t?, top⟩, out⟩ := l
  cases b? with
  | none =>
      obtain rfl : base = [] := h.base.ended rfl
      cases t? with
      | none =>
          obtain rfl : top = [] := h.top.ended rfl
          exact .inl ⟨rfl, rfl⟩
      | some t => exact .inr ⟨1, exists_topAlone h⟩
  | some b =>
      cases t? with
      | none =>
          obtain rfl : top = [] := h.top.ended rfl
          exact .inr ⟨1, exists_baseAlone h⟩
      | some t => exact .inr ⟨0, exists_both h⟩

end Advances

-- Induction on the characters that are left: every round puts out at least one of them.
theorem Sound.exists_lays {l : Laying} (h : l.Sound) :
    ∃ n all, Lays n l all ∧ Canonical all ∧ expand all = expand l.out ++ expand l.left ∧
      (n = 0 ↔ l.Even) := by
  generalize hlength : totalLength l.left = length
  induction length using Nat.strong_induction_on generalizing l with
  | _ length ih =>
      rcases ended_or_exists_round h with ⟨hbase, htop⟩ | ⟨k, l', hround, hadvances⟩
      · obtain ⟨base, top, out⟩ := l
        obtain rfl : base = ⟨none, []⟩ := hbase
        obtain rfl : top = ⟨none, []⟩ := htop
        have hnone : left ⟨⟨none, []⟩, ⟨none, []⟩, out⟩ = [] := overlay_nil []
        rw [hnone]
        exact ⟨0, out, .ended, h.out, (List.append_nil _).symm, iff_of_true rfl rfl⟩
      · obtain ⟨n, all, hlays, hcanonical, hexpand, heven⟩ :=
          ih _ (hlength ▸ hadvances.shorter) hadvances.sound rfl
        refine ⟨k + n, all, .round hround hlays, hcanonical, hexpand.trans hadvances.row, ?_⟩
        rw [Nat.add_eq_zero_iff]
        constructor
        · rintro ⟨hk, hn⟩
          exact (hadvances.even hk).mp (heven.mp hn)
        · intro hl
          have hk : k = 0 := by_contra fun hk => hadvances.uneven hk hl
          exact ⟨hk, heven.mpr ((hadvances.even hk).mpr hl)⟩

end Laying

def Laying.start (base top : List Span) : Laying := ⟨on base, on top, []⟩

theorem exists_lays_start {base top : List Span} (hbase : totalLength base < 2 ^ 64)
    (htop : totalLength top < 2 ^ 64) :
    ∃ n, Lays n (.start base top) (overlay base top) ∧
      (n = 0 ↔ totalLength base = totalLength top) := by
  have hleft : (Laying.start base top).left = overlay base top :=
    overlay_congr (Cursor.expand_on base) (Cursor.expand_on top)
  have hsound : (Laying.start base top).Sound := by
    refine ⟨Cursor.standing_on base, Cursor.standing_on top, .nil, ?_⟩
    rw [hleft, totalLength_overlay]
    simp only [Laying.start, totalLength]
    omega
  obtain ⟨n, all, hlays, hcanonical, hexpand, heven⟩ := hsound.exists_lays
  rw [hleft] at hexpand
  obtain rfl : all = overlay base top := eq_of_expand hcanonical (canonical_overlay _ _) hexpand
  refine ⟨n, hlays, heven.trans ?_⟩
  rw [Laying.Even, Laying.start, Cursor.totalLength_on, Cursor.totalLength_on]

theorem overlay_lays_canonical_union (base top : List Span) :
    (∀ out, out = overlay base top ↔ Canonical out ∧
      totalLength out = max (totalLength base) (totalLength top) ∧
      ∀ i, tagsAt out i = (tagsAt base i).union (tagsAt top i)) ∧
    overlay base top = overlay top base ∧
    (totalLength base < 2 ^ 64 → totalLength top < 2 ^ 64 →
      ∃ n, Lays n (.start base top) (overlay base top) ∧
        (∀ n' all, Lays n' (.start base top) all → n' = n ∧ all = overlay base top) ∧
        (n = 0 ↔ totalLength base = totalLength top)) ∧
    ∀ ranges, totalLength base < 2 ^ 64 →
      Lays 0 (.start base (errorSpans ranges (totalLength base))) (merge base ranges) := by
  refine ⟨fun out => ⟨?_, ?_⟩, overlay_comm base top, fun hbase htop => ?_, fun ranges hbase => ?_⟩
  · rintro rfl
    exact ⟨canonical_overlay _ _, totalLength_overlay _ _, tagsAt_overlay _ _⟩
  · rintro ⟨hcanonical, hlength, htags⟩
    refine eq_of_tagsAt hcanonical (canonical_overlay _ _) ?_ fun i => ?_
    · rw [hlength, totalLength_overlay]
    · rw [htags, tagsAt_overlay]
  · obtain ⟨n, hlays, heven⟩ := exists_lays_start hbase htop
    exact ⟨n, hlays, fun _ _ h => hlays.unique h, heven⟩
  · have hlength := totalLength_errorSpans ranges (totalLength base)
    obtain ⟨n, hlays, heven⟩ := exists_lays_start hbase (hlength.symm ▸ hbase)
    obtain rfl : n = 0 := heven.mpr hlength.symm
    exact hlays

end ScriptBench.Highlight
