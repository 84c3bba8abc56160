import ScriptBench.Command.Styled
import ScriptBench.Proofs.SpanUnion

namespace ScriptBench.Highlight

theorem tagsAt_of_lt {s : Span} {i : Nat} (h : i < s.length) (rest : List Span) :
    tagsAt (s :: rest) i = s.tags := if_pos h

theorem tagsAt_add_length (s : Span) (rest : List Span) (i : Nat) :
    tagsAt (s :: rest) (i + s.length) = tagsAt rest i := by
  rw [tagsAt, if_neg (by omega), Nat.add_sub_cancel]

theorem mapIdx_tagsAt_nil {β : Type} (f : Char → Tags → β) (cs : List Char) :
    cs.mapIdx (fun i c => f c (tagsAt [] i)) = cs.map (f · .plain) :=
  List.ext_getElem (by simp) (by simp [tagsAt])

theorem mapIdx_tagsAt_cons {β : Type} (f : Char → Tags → β) (s : Span) (rest : List Span)
    (cs : List Char) :
    cs.mapIdx (fun i c => f c (tagsAt (s :: rest) i)) =
      (cs.take s.length).map (f · s.tags) ++
        (cs.drop s.length).mapIdx fun i c => f c (tagsAt rest i) := by
  have hcut : cs.mapIdx (fun i c => f c (tagsAt (s :: rest) i)) =
      (cs.take s.length).mapIdx (fun i c => f c (tagsAt (s :: rest) i)) ++
        (cs.drop s.length).mapIdx
          (fun i c => f c (tagsAt (s :: rest) (i + (cs.take s.length).length))) := by
    rw [← List.mapIdx_append, List.take_append_drop]
  rw [hcut]
  congr 1
  · apply List.ext_getElem (by simp)
    intro i hi _
    have hlt : i < s.length := by
      simp only [List.length_mapIdx, List.length_take] at hi
      omega
    simp [tagsAt_of_lt hlt]
  · by_cases hlen : s.length ≤ cs.length
    · simp only [List.length_take, Nat.min_eq_left hlen, tagsAt_add_length]
    · simp [List.drop_eq_nil_of_le (Nat.le_of_not_le hlen)]

end ScriptBench.Highlight

namespace ScriptBench.Command

open Highlight (Tag Tags Span tagsAt mapIdx_tagsAt_nil mapIdx_tagsAt_cons)

theorem toList_plain {tags : Tags} (h : tags.toList = []) : tags = .plain := by
  obtain ⟨keyword, error⟩ := tags
  cases keyword <;> cases error
  · rfl
  · cases h
  · cases h
  · cases h

section Reading

variable {β : Type} {f : Char → Tags → β} {cs : List Char}

theorem map_of_unstyled {tags : Tags}
    (h : ((String.ofList cs).isEmpty || tags.toList.isEmpty) = true) :
    cs.map (f · tags) = cs.map (f · .plain) := by
  rw [Bool.or_eq_true, List.isEmpty_iff] at h
  rcases h with hempty | hplain
  · obtain rfl : cs = [] := by simpa using hempty
    rfl
  · rw [toList_plain hplain]

-- What reads every run back, wherever it begins, reads the whole back.
theorem reads_showRuns {Reads : List Char → List β → Prop} {color : Bool} {barred : Char}
    (happend : ∀ {front back xs ys}, Reads front xs → Reads back ys →
      Reads (front ++ back) (xs ++ ys))
    (hrun : ∀ {cs} (tags : Tags), barred ∉ cs →
      Reads (styleRun (String.ofList cs) tags.toList color).toList (cs.map (f · tags)))
    (hcs : barred ∉ cs) (spans : List Span) :
    Reads (showRuns color spans cs).toList (cs.mapIdx fun i c => f c (tagsAt spans i)) := by
  induction spans generalizing cs with
  | nil =>
      have hplain : styleRun (String.ofList cs) Tags.plain.toList color = String.ofList cs := by
        simp [styleRun, Tags.toList, Tags.has, Tags.plain]
      rw [showRuns, mapIdx_tagsAt_nil, ← hplain]
      exact hrun .plain hcs
  | cons s rest ih =>
      have htake : barred ∉ cs.take s.length := fun h => hcs (List.mem_of_mem_take h)
      have hdrop : barred ∉ cs.drop s.length := fun h => hcs (List.mem_of_mem_drop h)
      rw [showRuns, String.toList_append, mapIdx_tagsAt_cons]
      exact happend (hrun s.tags htake) (ih hdrop)

end Reading

/-- What a terminal is reading: text, an escape sequence that has just begun, or the parameters of
one, the last of them still being read. -/
inductive Mode where
  | text
  | escape
  | parameters (before : List Nat) (current : Nat)
deriving DecidableEq, Repr

structure Terminal where
  mode : Mode
  pen : List Nat
  printed : List (Char × List Nat)
deriving DecidableEq, Repr

def setStyle (pen : List Nat) (parameter : Nat) : List Nat :=
  if parameter = 0 then [] else pen ++ [parameter]

namespace Terminal

def blank : Terminal := ⟨.text, [], []⟩

def feed (t : Terminal) (c : Char) : Terminal :=
  match t.mode with
  | .text =>
    if c = '\x1b' then { t with mode := .escape }
    else { t with printed := t.printed ++ [(c, t.pen)] }
  | .escape => { t with mode := if c = '[' then .parameters [] 0 else .text }
  | .parameters before current =>
    if c = 'm' then
      { t with mode := .text, pen := (before ++ [current]).foldl setStyle t.pen }
    else if c = ';' then { t with mode := .parameters (before ++ [current]) 0 }
    else if c.isDigit then
      { t with mode := .parameters before (10 * current + (c.toNat - '0'.toNat)) }
    else { t with mode := .text }

theorem foldl_feed_text {cs : List Char} (h : '\x1b' ∉ cs) (pen : List Nat)
    (printed : List (Char × List Nat)) :
    cs.foldl feed ⟨.text, pen, printed⟩ = ⟨.text, pen, printed ++ cs.map (·, pen)⟩ := by
  induction cs generalizing printed with
  | nil => simp
  | cons c cs ih =>
      have hc : c ≠ '\x1b' := (List.ne_of_not_mem_cons h).symm
      have hcs : '\x1b' ∉ cs := List.not_mem_of_not_mem_cons h
      simp [feed, hc, ih hcs]

def Prints (cs : List Char) (out : List (Char × List Nat)) : Prop :=
  ∀ printed, cs.foldl feed ⟨.text, [], printed⟩ = ⟨.text, [], printed ++ out⟩

theorem Prints.append {front back : List Char} {xs ys : List (Char × List Nat)}
    (hfront : Prints front xs) (hback : Prints back ys) : Prints (front ++ back) (xs ++ ys) := by
  intro printed
  rw [List.foldl_append, hfront, hback, List.append_assoc]

end Terminal

def parameters : Tag → List Nat
  | .keyword => [1, 34]
  | .error => [4, 31]

def styles (tags : Tags) : List Nat := tags.toList.flatMap parameters

theorem foldl_feed_opening {tags : Tags} (h : tags ≠ .plain) (printed : List (Char × List Nat)) :
    ("\x1b[" ++ String.intercalate ";" (tags.toList.map fun t => (style t).sgr) ++ "m").toList.foldl
      Terminal.feed ⟨.text, [], printed⟩ = ⟨.text, styles tags, printed⟩ := by
  obtain ⟨keyword, error⟩ := tags
  cases keyword <;> cases error
  · exact absurd rfl h
  · rfl
  · rfl
  · rfl

theorem foldl_feed_clearing (pen : List Nat) (printed : List (Char × List Nat)) :
    ("\x1b[0m" : String).toList.foldl Terminal.feed ⟨.text, pen, printed⟩ =
      ⟨.text, [], printed⟩ := rfl

theorem prints_styleRun {cs : List Char} (tags : Tags) (hcs : '\x1b' ∉ cs) :
    Terminal.Prints (styleRun (String.ofList cs) tags.toList true).toList
      (cs.map (·, styles tags)) := by
  intro printed
  rw [styleRun]
  split
  · rename_i h
    rw [String.toList_ofList, Terminal.foldl_feed_text hcs, map_of_unstyled (f := (·, styles ·)) h]
    rfl
  · rename_i h
    have hplain : tags ≠ .plain := by
      rintro rfl
      simp [Tags.toList, Tags.has, Tags.plain] at h
    rw [if_pos rfl, String.toList_append, String.toList_append, List.foldl_append,
      List.foldl_append, foldl_feed_opening hplain, String.toList_ofList,
      Terminal.foldl_feed_text hcs, foldl_feed_clearing]

structure Markup where
  marker : Option (List Char)
  enclosing : List Tag
  read : List (Char × List Tag)
deriving DecidableEq, Repr

namespace Markup

def blank : Markup := ⟨none, [], []⟩

def opens (m : Markup) (t : Tag) : Option Markup :=
  if t ∈ m.enclosing ∨ t = .error ∧ m.enclosing ≠ [] then none
  else some { m with marker := none, enclosing := t :: m.enclosing }

def closes (m : Markup) (t : Tag) : Option Markup :=
  match m.enclosing with
  | [] => none
  | u :: outer => if u = t then some { m with marker := none, enclosing := outer } else none

def mark (m : Markup) (name : List Char) : Option Markup :=
  if name = "err".toList then m.opens .error
  else if name = "/err".toList then m.closes .error
  else if name = "kw".toList then m.opens .keyword
  else if name = "/kw".toList then m.closes .keyword
  else none

def feed (m : Markup) (c : Char) : Option Markup :=
  match m.marker with
  | none =>
    if c = '[' then some { m with marker := some [] }
    else some { m with read := m.read ++ [(c, m.enclosing)] }
  | some name => if c = ']' then m.mark name else some { m with marker := some (name ++ [c]) }

theorem foldlM_feed_text {cs : List Char} (h : '[' ∉ cs) (enclosing : List Tag)
    (read : List (Char × List Tag)) :
    cs.foldlM feed ⟨none, enclosing, read⟩ =
      some ⟨none, enclosing, read ++ cs.map (·, enclosing)⟩ := by
  induction cs generalizing read with
  | nil => simp
  | cons c cs ih =>
      have hc : c ≠ '[' := (List.ne_of_not_mem_cons h).symm
      have hcs : '[' ∉ cs := List.not_mem_of_not_mem_cons h
      simp [feed, hc, ih hcs]

def Reads (cs : List Char) (out : List (Char × List Tag)) : Prop :=
  ∀ read, cs.foldlM feed ⟨none, [], read⟩ = some ⟨none, [], read ++ out⟩

theorem Reads.append {front back : List Char} {xs ys : List (Char × List Tag)}
    (hfront : Reads front xs) (hback : Reads back ys) : Reads (front ++ back) (xs ++ ys) := by
  intro read
  rw [List.foldlM_append, hfront, Option.bind_eq_bind, Option.bind_some, hback, List.append_assoc]

end Markup

theorem foldlM_feed_openings (tags : Tags) (read : List (Char × List Tag)) :
    (String.join ((outerFirst tags.toList).map fun t => (style t).opening)).toList.foldlM
      Markup.feed ⟨none, [], read⟩ = some ⟨none, tags.toList, read⟩ := by
  obtain ⟨keyword, error⟩ := tags
  cases keyword <;> cases error <;> rfl

theorem foldlM_feed_closings (tags : Tags) (read : List (Char × List Tag)) :
    (String.join ((outerFirst tags.toList).reverse.map fun t => (style t).closing)).toList.foldlM
      Markup.feed ⟨none, tags.toList, read⟩ = some ⟨none, [], read⟩ := by
  obtain ⟨keyword, error⟩ := tags
  cases keyword <;> cases error <;> rfl

theorem reads_styleRun {cs : List Char} (tags : Tags) (hcs : '[' ∉ cs) :
    Markup.Reads (styleRun (String.ofList cs) tags.toList false).toList
      (cs.map (·, tags.toList)) := by
  intro read
  rw [styleRun]
  split
  · rename_i h
    rw [String.toList_ofList, Markup.foldlM_feed_text hcs, map_of_unstyled (f := (·, ·.toList)) h]
    rfl
  · rw [if_neg Bool.false_ne_true]
    simp only [String.toList_append, List.foldlM_append, foldlM_feed_openings, String.toList_ofList,
      Markup.foldlM_feed_text hcs, foldlM_feed_closings, Option.bind_eq_bind, Option.bind_some]

theorem showSpans_reads_back (text : String) (spans : List Span) :
    ('\x1b' ∉ text.toList →
      (showSpans text spans true).toList.foldl Terminal.feed Terminal.blank =
        ⟨.text, [], text.toList.mapIdx fun i c => (c, styles (tagsAt spans i))⟩) ∧
    ('[' ∉ text.toList →
      (showSpans text spans false).toList.foldlM Markup.feed Markup.blank =
        some ⟨none, [], text.toList.mapIdx fun i c => (c, (tagsAt spans i).toList)⟩) :=
  ⟨fun h => reads_showRuns Terminal.Prints.append prints_styleRun h spans [],
    fun h => reads_showRuns Markup.Reads.append reads_styleRun h spans []⟩

-- The text has the last character of an escape sequence and the end of a marker in it, one span is
-- empty and the last one is too long.
theorem reads_back_past_overlong_span :
    '\x1b' ∉ "if m]\n".toList ∧ '[' ∉ "if m]\n".toList ∧
    (showSpans "if m]\n" [⟨2, ⟨true, true⟩⟩, ⟨0, ⟨false, true⟩⟩, ⟨1, .plain⟩, ⟨9, ⟨false, true⟩⟩]
      true).toList.foldl Terminal.feed Terminal.blank =
        ⟨.text, [], [('i', [1, 34, 4, 31]), ('f', [1, 34, 4, 31]), (' ', []), ('m', [4, 31]),
          (']', [4, 31]), ('\n', [4, 31])]⟩ ∧
    (showSpans "if m]\n" [⟨2, ⟨true, true⟩⟩, ⟨0, ⟨false, true⟩⟩, ⟨1, .plain⟩, ⟨9, ⟨false, true⟩⟩]
      false).toList.foldlM Markup.feed Markup.blank =
        some ⟨none, [], [('i', [.keyword, .error]), ('f', [.keyword, .error]), (' ', []),
          ('m', [.error]), (']', [.error]), ('\n', [.error])]⟩ :=
  ⟨by decide, by decide, (showSpans_reads_back _ _).1 (by decide),
    (showSpans_reads_back _ _).2 (by decide)⟩

end ScriptBench.Command
