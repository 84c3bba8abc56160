import ScriptBench.Proofs.LineSearch

namespace ScriptBench.Diagnostic

structure PositionedCut (ext line before first second message : List Char) : Prop where
  cut : line = before ++ ['.'] ++ ext ++ [':'] ++ first ++ [':'] ++ second ++
    ": error: ".toList ++ message
  first : Digits first
  second : Digits second
  message : message ≠ []

theorem positionedTail?_eq_some_iff {ext text first second message : List Char} :
    positionedTail? ext text = some (first, second, message) ↔
      PositionedCut ext text [] first second message ∧ '\n' ∉ message := by
  simp only [positionedTail?, Option.bind_eq_bind, Option.bind_eq_some_iff, after?_eq_some_iff,
    Prod.exists, digits?_eq_some_iff]
  constructor
  · rintro ⟨_, rfl, first', _, ⟨rfl, hfirst, -⟩, _, rfl, second', _, ⟨rfl, hsecond, -⟩,
      message', rfl, hmessage⟩
    split at hmessage
    · cases hmessage
    · rename_i hkept
      rw [Bool.or_eq_true, not_or, List.isEmpty_iff, List.contains_iff_mem] at hkept
      obtain ⟨rfl, rfl, rfl⟩ : first' = first ∧ second' = second ∧ message' = message := by
        simpa using hmessage
      exact ⟨⟨by simp [extensionMark], hfirst, hsecond, hkept.1⟩, hkept.2⟩
  · rintro ⟨⟨hcut, hfirst, hsecond, hmessage⟩, hfree⟩
    refine ⟨_, ?_, first, _, ⟨rfl, hfirst, ?_⟩, _, rfl, second, _, ⟨rfl, hsecond, ?_⟩, message,
      rfl, ?_⟩
    · simp [hcut, extensionMark]
    · simp
    · simp
    · rw [if_neg]
      simp [hmessage, hfree]

theorem finds_positionedTail?_iff {ext line before first second message : List Char}
    (hext : '\n' ∉ ext) :
    Finds (positionedTail? ext) line before (first, second, message) ↔
      '\n' ∉ line ∧ PositionedCut ext line before first second message := by
  constructor
  · rintro ⟨hbefore, rest, rfl, hread⟩
    obtain ⟨⟨rfl, hfirst, hsecond, hmessage⟩, hfree⟩ := positionedTail?_eq_some_iff.mp hread
    have h1 : '\n' ∉ first := not_mem_digits hfirst rfl
    have h2 : '\n' ∉ second := not_mem_digits hsecond rfl
    refine ⟨?_, ⟨by simp, hfirst, hsecond, hmessage⟩⟩
    simp [hbefore, hext, h1, h2, hfree]
  · rintro ⟨hline, ⟨rfl, hfirst, hsecond, hmessage⟩⟩
    simp only [List.mem_append, not_or] at hline
    refine ⟨by simp [hline], ['.'] ++ ext ++ [':'] ++ first ++ [':'] ++ second ++
      ": error: ".toList ++ message, by simp, ?_⟩
    exact positionedTail?_eq_some_iff.mpr ⟨⟨by simp, hfirst, hsecond, hmessage⟩, hline.2⟩

theorem positioned?_eq_some_iff {ext text : List Char} {shape : LineClass} :
    positioned? ext text = some shape ↔ ∃ first second message,
      last? (positionedTail? ext) text = some (first, second, message) ∧
      ∃ l c, number? first = some l ∧ number? second = some c ∧
        shape = .positioned l c (String.ofList message) := by
  simp only [positioned?, Option.bind_eq_bind, Option.bind_eq_some_iff, Prod.exists,
    Option.some.injEq]
  constructor
  · rintro ⟨first, second, message, hlast, l, hl, c, hc, rfl⟩
    exact ⟨first, second, message, hlast, l, c, hl, hc, rfl⟩
  · rintro ⟨first, second, message, hlast, l, c, hl, hc, rfl⟩
    exact ⟨first, second, message, hlast, l, hl, c, hc, rfl⟩

theorem reference?_eq_some_iff {ext text : List Char} {shape : LineClass} :
    reference? ext text = some shape ↔ ∃ digits,
      lastInLines? (referenceTail? ext) text = some digits ∧
      ∃ n, number? digits = some n ∧ shape = .reference n := by
  simp only [reference?, Option.bind_eq_bind, Option.bind_eq_some_iff, Option.some.injEq]
  constructor
  · rintro ⟨digits, hlast, n, hn, rfl⟩
    exact ⟨digits, hlast, n, hn, rfl⟩
  · rintro ⟨digits, hlast, n, hn, rfl⟩
    exact ⟨digits, hlast, n, hn, rfl⟩

theorem classify_of_positioned? {ext line : String} {shape : LineClass}
    (h : positioned? ext.toList line.toList = some shape) : classify ext line = shape := by
  rw [classify, h]
  rfl

theorem classify_of_unpositioned {ext line : String}
    (h : positioned? ext.toList line.toList = none) :
    classify ext line = (reference? ext.toList line.toList).getD
      (if isCaret line.toList then .caret else .plain) := by
  rw [classify, h]
  rfl

theorem classify_eq_positioned_iff {ext line : String} {l c : Nat} {message : String} :
    classify ext line = .positioned l c message ↔
      positioned? ext.toList line.toList = some (.positioned l c message) := by
  refine ⟨?_, classify_of_positioned?⟩
  intro h
  cases hp : positioned? ext.toList line.toList with
  | some shape => rw [← h, classify_of_positioned? hp]
  | none =>
      rw [classify_of_unpositioned hp] at h
      cases hr : reference? ext.toList line.toList with
      | some shape =>
          obtain ⟨-, -, n, -, rfl⟩ := reference?_eq_some_iff.mp hr
          rw [hr] at h
          cases h
      | none =>
          rw [hr, Option.getD_none] at h
          split at h <;> cases h

theorem positioned_iff_longest_cut (ext line : String) (hext : '\n' ∉ ext.toList) (l c : Nat)
    (message : String) :
    classify ext line = .positioned l c message ↔
      '\n' ∉ line.toList ∧ ∃ before first second,
        PositionedCut ext.toList line.toList before first second message.toList ∧
        (∀ before' first' second' message',
          PositionedCut ext.toList line.toList before' first' second' message' →
            before'.length ≤ before.length) ∧
        l = Nat.ofDigitChars 10 first 0 ∧ l < 2 ^ 64 ∧
        c = Nat.ofDigitChars 10 second 0 ∧ c < 2 ^ 64 := by
  rw [classify_eq_positioned_iff, positioned?_eq_some_iff]
  constructor
  · rintro ⟨first, second, m, hlast, l', c', hl, hc, hshape⟩
    obtain ⟨rfl, rfl, rfl⟩ := LineClass.positioned.inj hshape
    obtain ⟨before, hfinds, hlongest⟩ := last?_eq_some_iff.mp hlast
    obtain ⟨hfree, hcut⟩ := (finds_positionedTail?_iff hext).mp hfinds
    obtain ⟨hl, hl64⟩ := number?_eq_some_iff.mp hl
    obtain ⟨hc, hc64⟩ := number?_eq_some_iff.mp hc
    refine ⟨hfree, before, first, second, ?_, ?_, hl, hl64, hc, hc64⟩
    · rw [String.toList_ofList]
      exact hcut
    · intro before' first' second' message' hcut'
      exact hlongest before' _ ((finds_positionedTail?_iff hext).mpr ⟨hfree, hcut'⟩)
  · rintro ⟨hfree, before, first, second, hcut, hlongest, hl, hl64, hc, hc64⟩
    refine ⟨first, second, message.toList, ?_, l, c, number?_eq_some_iff.mpr ⟨hl, hl64⟩,
      number?_eq_some_iff.mpr ⟨hc, hc64⟩, by rw [String.ofList_toList]⟩
    refine last?_eq_some_iff.mpr ⟨before, (finds_positionedTail?_iff hext).mpr ⟨hfree, hcut⟩, ?_⟩
    rintro before' ⟨first', second', message'⟩ hfinds'
    exact hlongest _ _ _ _ ((finds_positionedTail?_iff hext).mp hfinds').2

theorem positioned_behind_quoted_error :
    '\n' ∉ "c++".toList ∧ ∃ before first second,
      PositionedCut "c++".toList "a.c++:1:2: error: b.c++:3:4: error: x".toList before first second
        "x".toList ∧
      3 = Nat.ofDigitChars 10 first 0 ∧ 4 = Nat.ofDigitChars 10 second 0 := by
  have hext : '\n' ∉ "c++".toList := by decide
  have hclass : classify "c++" "a.c++:1:2: error: b.c++:3:4: error: x" = .positioned 3 4 "x" := by
    decide
  have hiff := positioned_iff_longest_cut "c++" "a.c++:1:2: error: b.c++:3:4: error: x" hext 3 4 "x"
  obtain ⟨-, before, first, second, hcut, -, hl, -, hc, -⟩ := hiff.mp hclass
  exact ⟨hext, before, first, second, hcut, hl, hc⟩

def Mentions (ext segment before after : List Char) : Prop :=
  segment = before ++ ['.'] ++ ext ++ [':'] ++ after ∧ ∃ d ∈ after.head?, d.isDigit = true

def FirstMention (ext text after : List Char) : Prop :=
  ∃ skipped segment later before, text.splitOn '\n' = skipped ++ segment :: later ∧
    (∀ s ∈ skipped, ∀ before' after', ¬ Mentions ext s before' after') ∧
    Mentions ext segment before after ∧
    ∀ before' after', Mentions ext segment before' after' → before'.length ≤ before.length

theorem referenceTail?_eq_bind (ext text : List Char) :
    referenceTail? ext text =
      (after? (extensionMark ext) text).bind fun t => (digits? t).map Prod.fst := by
  rw [referenceTail?]
  cases after? (extensionMark ext) text with
  | none => rfl
  | some t => cases h : digits? t <;> simp [h]

theorem referenceTail?_takeWhile {ext : List Char} (hext : '\n' ∉ ext) (text : List Char) :
    referenceTail? ext text = referenceTail? ext (text.takeWhile (· != '\n')) := by
  have hmark : ∀ c ∈ extensionMark ext, (c != '\n') = true := by
    have hfree : '\n' ∉ extensionMark ext := by simp [extensionMark, hext]
    intro c hc
    rw [bne_iff_ne]
    rintro rfl
    exact hfree hc
  have hdigit : ∀ c : Char, c.isDigit = true → (c != '\n') = true := by
    intro c hc
    rw [bne_iff_ne]
    rintro rfl
    cases hc
  rw [referenceTail?_eq_bind, referenceTail?_eq_bind, after?_takeWhile hmark]
  cases after? (extensionMark ext) text with
  | none => rfl
  | some t => exact (digits?_takeWhile hdigit t).symm

theorem referenceTail?_eq_some_iff {ext text digits : List Char} :
    referenceTail? ext text = some digits ↔
      ∃ after, Mentions ext text [] after ∧ digits = after.takeWhile Char.isDigit := by
  simp only [referenceTail?_eq_bind, Option.bind_eq_some_iff, after?_eq_some_iff]
  constructor
  · rintro ⟨after, rfl, hdigits⟩
    obtain ⟨⟨ds, rest⟩, hread, rfl⟩ := Option.map_eq_some_iff.mp hdigits
    obtain ⟨rfl, hds, hrest⟩ := digits?_eq_some_iff.mp hread
    refine ⟨ds ++ rest, ⟨by simp [extensionMark], ?_⟩, ?_⟩
    · cases ds with
      | nil => exact absurd rfl hds.1
      | cons d ds => exact ⟨d, rfl, hds.2 d List.mem_cons_self⟩
    · rw [List.takeWhile_append_of_pos hds.2, takeWhile_digits_eq_nil_iff.mpr hrest, List.append_nil]
  · rintro ⟨after, ⟨htext, d, hd, hdigit⟩, rfl⟩
    refine ⟨after, by simp [htext, extensionMark], ?_⟩
    cases after with
    | nil => cases hd
    | cons c after =>
        obtain rfl : c = d := Option.some.inj hd
        simp [digits?, hdigit]

theorem finds_referenceTail?_iff {ext segment before digits : List Char}
    (hsegment : '\n' ∉ segment) :
    Finds (referenceTail? ext) segment before digits ↔
      ∃ after, Mentions ext segment before after ∧ digits = after.takeWhile Char.isDigit := by
  constructor
  · rintro ⟨-, rest, rfl, hread⟩
    obtain ⟨after, ⟨rfl, hdigit⟩, hdigits⟩ := referenceTail?_eq_some_iff.mp hread
    exact ⟨after, ⟨by simp, hdigit⟩, hdigits⟩
  · rintro ⟨after, ⟨rfl, hdigit⟩, hdigits⟩
    simp only [List.mem_append, not_or] at hsegment
    refine ⟨by simp [hsegment], ['.'] ++ ext ++ [':'] ++ after, by simp, ?_⟩
    exact referenceTail?_eq_some_iff.mpr ⟨after, ⟨by simp, hdigit⟩, hdigits⟩

theorem lastInLines?_eq_some_iff {ext text digits : List Char} (hext : '\n' ∉ ext) :
    lastInLines? (referenceTail? ext) text = some digits ↔
      ∃ after, FirstMention ext text after ∧ digits = after.takeWhile Char.isDigit := by
  rw [lastInLines?_eq_findSome? (referenceTail?_takeWhile hext), List.findSome?_eq_some_iff]
  have hfree : ∀ s ∈ text.splitOn '\n', '\n' ∉ s := by
    rw [← Text.lines_eq_splitOn]
    exact fun s => Text.not_mem_of_mem_lines
  constructor
  · rintro ⟨skipped, segment, later, hsegments, hlast, hskipped⟩
    rw [hsegments] at hfree
    have hsegment : '\n' ∉ segment := hfree segment (by simp)
    obtain ⟨before, hfinds, hlongest⟩ := last?_eq_some_iff.mp hlast
    obtain ⟨after, hmention, hdigits⟩ := (finds_referenceTail?_iff hsegment).mp hfinds
    refine ⟨after, ⟨skipped, segment, later, before, hsegments, ?_, hmention, ?_⟩, hdigits⟩
    · intro s hs before' after' h'
      have hnone := last?_eq_none_iff.mp (hskipped s hs)
      have hs' : '\n' ∉ s := hfree s (by simp [hs])
      exact hnone _ before' ((finds_referenceTail?_iff hs').mpr ⟨after', h', rfl⟩)
    · intro before' after' h'
      exact hlongest before' _ ((finds_referenceTail?_iff hsegment).mpr ⟨after', h', rfl⟩)
  · rintro ⟨after, ⟨skipped, segment, later, before, hsegments, hskipped, hmention, hlongest⟩,
      hdigits⟩
    rw [hsegments] at hfree
    have hsegment : '\n' ∉ segment := hfree segment (by simp)
    refine ⟨skipped, segment, later, hsegments, ?_, ?_⟩
    · refine last?_eq_some_iff.mpr ⟨before, ?_, ?_⟩
      · exact (finds_referenceTail?_iff hsegment).mpr ⟨after, hmention, hdigits⟩
      · intro before' digits' h'
        obtain ⟨after', h', -⟩ := (finds_referenceTail?_iff hsegment).mp h'
        exact hlongest before' after' h'
    · intro s hs
      have hs' : '\n' ∉ s := hfree s (by simp [hs])
      refine last?_eq_none_iff.mpr fun digits' before' h' => ?_
      obtain ⟨after', h', -⟩ := (finds_referenceTail?_iff hs').mp h'
      exact hskipped s hs before' after' h'

def ReadsReference (ext line : List Char) (n : Nat) : Prop :=
  ∃ after, FirstMention ext line after ∧
    n = Nat.ofDigitChars 10 (after.takeWhile Char.isDigit) 0 ∧ n < 2 ^ 64

theorem reference?_eq_reference_iff {ext line : List Char} (hext : '\n' ∉ ext) {n : Nat} :
    reference? ext line = some (.reference n) ↔ ReadsReference ext line n := by
  rw [reference?_eq_some_iff]
  constructor
  · rintro ⟨digits, hlast, n', hn, hshape⟩
    obtain rfl := LineClass.reference.inj hshape
    obtain ⟨after, hmention, rfl⟩ := (lastInLines?_eq_some_iff hext).mp hlast
    exact ⟨after, hmention, number?_eq_some_iff.mp hn⟩
  · rintro ⟨after, hmention, hn⟩
    exact ⟨_, (lastInLines?_eq_some_iff hext).mpr ⟨after, hmention, rfl⟩, n,
      number?_eq_some_iff.mpr hn, rfl⟩

def CaretLine (line : List Char) : Prop := '\n' ∉ line ∧ ∃ front, line = front ++ ['^']

theorem isCaret_iff {line : List Char} : isCaret line = true ↔ CaretLine line := by
  rw [isCaret, Bool.and_eq_true, beq_iff_eq, List.getLast?_eq_some_iff]
  simp [CaretLine]

theorem unpositioned_classes (ext line : String) (hext : '\n' ∉ ext.toList)
    (hline : ∀ l c message, classify ext line ≠ .positioned l c message) :
    (∀ n, classify ext line = .reference n ↔ ReadsReference ext.toList line.toList n) ∧
    (classify ext line = .caret ↔
      (∀ n, ¬ ReadsReference ext.toList line.toList n) ∧ CaretLine line.toList) ∧
    (classify ext line = .plain ↔
      (∀ n, ¬ ReadsReference ext.toList line.toList n) ∧ ¬ CaretLine line.toList) := by
  have hnone : positioned? ext.toList line.toList = none := by
    cases hp : positioned? ext.toList line.toList with
    | none => rfl
    | some shape =>
        obtain ⟨-, -, message, -, l, c, -, -, rfl⟩ := positioned?_eq_some_iff.mp hp
        exact absurd (classify_of_positioned? hp) (hline l c (String.ofList message))
  have hclass := classify_of_unpositioned hnone
  have hreads (n : Nat) : reference? ext.toList line.toList = some (.reference n) ↔
      ReadsReference ext.toList line.toList n := reference?_eq_reference_iff hext
  cases hr : reference? ext.toList line.toList with
  | some shape =>
      obtain ⟨-, -, n, -, rfl⟩ := reference?_eq_some_iff.mp hr
      rw [hr, Option.getD_some] at hclass
      have hsome : ¬ ∀ m, ¬ ReadsReference ext.toList line.toList m :=
        fun hnot => hnot n ((hreads n).mp hr)
      refine ⟨fun m => ?_, ?_, ?_⟩
      · rw [← hreads, hr, hclass, Option.some.injEq]
      · simp only [hclass, reduceCtorEq, hsome, false_and]
      · simp only [hclass, reduceCtorEq, hsome, false_and]
  | none =>
      have hnot (n : Nat) : ¬ ReadsReference ext.toList line.toList n := by
        rw [← hreads, hr]
        intro h
        cases h
      rw [hr, Option.getD_none] at hclass
      rw [hclass, ← isCaret_iff]
      cases isCaret line.toList <;> simp [hnot]

theorem overlong_number_above_caret :
    '\n' ∉ "kts".toList ∧
    (∀ l c message, classify "kts" "a.kts:99999999999999999999:1: error: x^" ≠
      .positioned l c message) ∧
    (∀ n, ¬ ReadsReference "kts".toList "a.kts:99999999999999999999:1: error: x^".toList n) ∧
    CaretLine "a.kts:99999999999999999999:1: error: x^".toList := by
  have hext : '\n' ∉ "kts".toList := by decide
  have hclass : classify "kts" "a.kts:99999999999999999999:1: error: x^" = .caret := by decide
  have hline : ∀ l c message, classify "kts" "a.kts:99999999999999999999:1: error: x^" ≠
      .positioned l c message := by
    intro l c message h
    rw [hclass] at h
    cases h
  have hclasses := unpositioned_classes "kts" "a.kts:99999999999999999999:1: error: x^" hext hline
  exact ⟨hext, hline, hclasses.2.1.mp hclass⟩

end ScriptBench.Diagnostic
