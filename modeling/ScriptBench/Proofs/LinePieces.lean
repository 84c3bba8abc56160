import ScriptBench.Run.LineStream

namespace ScriptBench.Run

def pieces : List UInt8 → List (List UInt8)
  | [] => []
  | b :: bs =>
    if b = lineFeed then [b] :: pieces bs
    else match pieces bs with
      | [] => [[b]]
      | p :: ps => (b :: p) :: ps

def linesOf (bs : List UInt8) : List String := (pieces bs).map decodeLine

theorem pieces_of_cut {bs front rest : List UInt8} (h : cutLine? bs = some (front, rest)) :
    pieces bs = front :: pieces rest := by
  induction bs generalizing front with
  | nil => simp [cutLine?] at h
  | cons b bs ih =>
      by_cases hb : b = lineFeed
      · simp only [cutLine?, hb, if_true, Option.some.injEq, Prod.mk.injEq] at h
        obtain ⟨rfl, rfl⟩ := h
        simp [pieces, hb]
      · simp only [cutLine?, hb, if_false, Option.map_eq_some_iff, Prod.exists, Prod.mk.injEq] at h
        obtain ⟨f, r, hcut, rfl, rfl⟩ := h
        simp [pieces, hb, ih hcut]

theorem pieces_of_not_cut {bs : List UInt8} (h : cutLine? bs = none) :
    pieces bs = if bs = [] then [] else [bs] := by
  induction bs with
  | nil => rfl
  | cons b bs ih =>
      by_cases hb : b = lineFeed
      · simp [cutLine?, hb] at h
      · have hbs : cutLine? bs = none := by simpa [cutLine?, hb] using h
        cases bs with
        | nil => simp [pieces, hb]
        | cons c bs =>
            have hone : pieces (c :: bs) = [c :: bs] := by simpa using ih hbs
            rw [pieces, if_neg hb, hone]
            rfl

theorem cut_front_ne_nil {bs front rest : List UInt8} (h : cutLine? bs = some (front, rest)) :
    front ≠ [] := by
  cases bs with
  | nil => simp [cutLine?] at h
  | cons b bs =>
      by_cases hb : b = lineFeed
      · simp only [cutLine?, hb, if_true, Option.some.injEq, Prod.mk.injEq] at h
        obtain ⟨rfl, -⟩ := h
        simp
      · simp only [cutLine?, hb, if_false, Option.map_eq_some_iff, Prod.exists, Prod.mk.injEq] at h
        obtain ⟨f, r, -, rfl, -⟩ := h
        simp

theorem cutLine?_append (bs more : List UInt8) :
    cutLine? (bs ++ more) = match cutLine? bs with
      | some (front, rest) => some (front, rest ++ more)
      | none => (cutLine? more).map fun (front, rest) => (bs ++ front, rest) := by
  induction bs with
  | nil => cases h : cutLine? more <;> simp [cutLine?, h]
  | cons b bs ih =>
      by_cases hb : b = lineFeed
      · simp [cutLine?, hb]
      · rw [List.cons_append]
        simp only [cutLine?, hb, if_false, ih]
        cases cutLine? bs with
        | some fr => rfl
        | none => cases cutLine? more <;> rfl

def Supply.content : Supply → List UInt8
  | .bytes bs => bs
  | _ => []

inductive Steady : List Supply → Prop
  | nil : Steady []
  | last : Steady [.bytes []]
  | interrupted {more} : Steady more → Steady (.interrupted :: more)
  | bytes {b bs more} : Steady more → Steady (.bytes (b :: bs) :: more)

def contents (supply : List Supply) : List UInt8 := supply.flatMap Supply.content

-- A read without a line feed is added to the line so far, so the line so far is always a part of
-- the bytes that has no line feed.
theorem fetch_steady {supply : List Supply} (hs : Steady supply) {line : List UInt8}
    (hline : cutLine? line = none) :
    match cutLine? (line ++ contents supply) with
    | some (front, rest) => ∃ buffered more, fetch line supply = (.complete front, buffered, more) ∧
        Steady more ∧ buffered ++ contents more = rest
    | none => fetch line supply = (.complete (line ++ contents supply), [], []) := by
  induction hs generalizing line with
  | nil =>
      have hnone : cutLine? (line ++ contents []) = none := by simpa [contents] using hline
      rw [hnone]
      simp [fetch, contents]
  | last =>
      have hnone : cutLine? (line ++ contents [.bytes []]) = none := by
        simpa [contents, Supply.content] using hline
      rw [hnone]
      simp [fetch, contents, Supply.content]
  | interrupted _ ih => exact ih hline
  | @bytes b bs more hmore ih =>
      have hcons : contents (.bytes (b :: bs) :: more) = (b :: bs) ++ contents more := rfl
      rw [hcons, ← List.append_assoc]
      cases hcut : cutLine? (b :: bs) with
      | some fr =>
          obtain ⟨front, rest⟩ := fr
          have hwhole : cutLine? (line ++ (b :: bs)) = some (line ++ front, rest) := by
            rw [cutLine?_append, hline, hcut]
            rfl
          rw [cutLine?_append, hwhole]
          exact ⟨rest, more, by simp [fetch, hcut], hmore, rfl⟩
      | none =>
          have hwhole : cutLine? (line ++ (b :: bs)) = none := by
            rw [cutLine?_append, hline, hcut]
            rfl
          have hfetch : fetch line (.bytes (b :: bs) :: more) =
              fetch (line ++ (b :: bs)) more := by
            simp [fetch, hcut]
          rw [hfetch]
          exact ih hwhole

namespace LineStream

def content (s : LineStream) : List UInt8 := s.buffered ++ contents s.supply

def Yields (s : LineStream) (lines : List String) : Prop :=
  s.done = false ∧ Steady s.supply ∧ linesOf s.content = lines

theorem yields_ofBytes (bs : List UInt8) : (ofBytes bs).Yields (linesOf bs) := by
  have hcontent : (ofBytes bs).content = bs := by
    simp [ofBytes, new, content, contents, Supply.content]
  refine ⟨rfl, ?_, by rw [hcontent]⟩
  cases bs with
  | nil => exact .last
  | cons b bs => exact .bytes .nil

theorem advance_steady {s : LineStream} (hs : Steady s.supply) :
    match cutLine? s.content with
    | some (front, rest) => ∃ buffered more, s.advance = (.complete front, buffered, more) ∧
        Steady more ∧ buffered ++ contents more = rest
    | none => s.advance = (.complete s.content, [], []) := by
  rw [content, advance]
  cases hcut : cutLine? s.buffered with
  | some fr =>
      obtain ⟨front, rest⟩ := fr
      rw [cutLine?_append, hcut]
      exact ⟨rest, s.supply, rfl, hs, rfl⟩
  | none => exact fetch_steady hs hcut

theorem next_of_yields_nil {s : LineStream} (h : s.Yields []) : (s.next false).1 = none := by
  obtain ⟨hdone, hs, hlines⟩ := h
  have hpieces : pieces s.content = [] := List.map_eq_nil_iff.mp hlines
  have hadv := advance_steady hs
  cases hcut : cutLine? s.content with
  | some fr => simp [pieces_of_cut hcut] at hpieces
  | none =>
      have hempty : s.content = [] := by simpa [pieces_of_not_cut hcut] using hpieces
      simp only [hcut] at hadv
      rw [hempty] at hadv
      simp [next, nextRaw, hdone, hadv]

theorem next_of_yields_cons {s : LineStream} {line : String} {more : List String}
    (h : s.Yields (line :: more)) :
    ∃ s', s.next false = (some line, s') ∧ s'.Yields more := by
  obtain ⟨hdone, hs, hlines⟩ := h
  have hadv := advance_steady hs
  cases hcut : cutLine? s.content with
  | some fr =>
      obtain ⟨front, rest⟩ := fr
      simp only [hcut] at hadv
      obtain ⟨buffered, supply, hadv, hsupply, hrest⟩ := hadv
      simp only [linesOf, pieces_of_cut hcut, List.map_cons, List.cons.injEq] at hlines
      obtain ⟨rfl, hmore⟩ := hlines
      have hfront : front.isEmpty = false := by simpa using cut_front_ne_nil hcut
      refine ⟨⟨buffered, supply, false⟩, ?_, rfl, hsupply, ?_⟩
      · simp [next, nextRaw, hdone, hadv, hfront]
      · rw [content, hrest]
        exact hmore
  | none =>
      simp only [hcut] at hadv
      have hne : s.content ≠ [] := by
        intro hempty
        simp [linesOf, hempty, pieces] at hlines
      simp only [linesOf, pieces_of_not_cut hcut, if_neg hne, List.map_cons, List.map_nil,
        List.cons.injEq] at hlines
      obtain ⟨rfl, hmore⟩ := hlines
      have hcontent : s.content.isEmpty = false := by simpa using hne
      refine ⟨⟨[], [], false⟩, ?_, rfl, .nil, hmore⟩
      simp [next, nextRaw, hdone, hadv, hcontent]

end LineStream

end ScriptBench.Run
