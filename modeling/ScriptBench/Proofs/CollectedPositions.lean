import ScriptBench.Proofs.PaintedRange
import Mathlib.Data.List.ReduceOption

namespace ScriptBench.Diagnostic

inductive Answers (ext line : String) : Option Record → Prop
  | positioned {l c : Nat} {message : String} : classify ext line = .positioned l c message →
      Answers ext line (some ⟨"error: " ++ message ++ " at " ++ toString l ++ ":" ++ toString c, true,
        some l, some c⟩)
  | reference {l : Nat} : classify ext line = .reference l →
      Answers ext line (some ⟨line, true, some l, none⟩)
  | caret : classify ext line = .caret → Answers ext line none
  | plain : classify ext line = .plain → Answers ext line (some ⟨line, true, none, none⟩)

section Answers

variable {ext line : String}

theorem answers_record? (ext line : String) :
    Answers ext line ((classify ext line).record? line) := by
  cases h : classify ext line with
  | positioned l c message => exact .positioned h
  | reference l => exact .reference h
  | caret => exact .caret h
  | plain => exact .plain h

theorem Answers.eq_none_iff {answer : Option Record} (h : Answers ext line answer) :
    answer = none ↔ classify ext line = .caret := by
  cases h with
  | positioned hclass => simp [hclass]
  | reference hclass => simp [hclass]
  | caret hclass => simp [hclass]
  | plain hclass => simp [hclass]

theorem Answers.isError {r : Record} (h : Answers ext line (some r)) : r.isError = true := by
  cases h <;> rfl

theorem Answers.column_eq_none {r : Record} (h : Answers ext line (some r))
    (hline : r.line = none) : r.column = none := by
  cases h with
  | positioned _ => cases hline
  | reference _ => rfl
  | plain _ => rfl

end Answers

theorem PositionSet.eq_of_mem_iff {s t : PositionSet} (h : ∀ p, p ∈ s ↔ p ∈ t) : s = t := by
  obtain ⟨ps, hps⟩ := s
  obtain ⟨qs, hqs⟩ := t
  obtain rfl : ps = qs := hps.eq_of_mem_iff hqs h
  rfl

theorem exists_line_of_answer {ext : String} {lines : List String} {answers : List (Option Record)}
    (h : List.Forall₂ (Answers ext) lines answers) {r : Record} (hr : some r ∈ answers) :
    ∃ line ∈ lines, Answers ext line (some r) := by
  induction h with
  | nil => cases hr
  | cons hanswer _ ih =>
      rcases List.mem_cons.mp hr with rfl | hr
      · exact ⟨_, List.mem_cons_self, hanswer⟩
      · obtain ⟨line, hline, hmore⟩ := ih hr
        exact ⟨line, List.mem_cons_of_mem _ hline, hmore⟩

theorem length_records_add_carets {ext : String} {lines : List String}
    {answers : List (Option Record)} (h : List.Forall₂ (Answers ext) lines answers) :
    answers.reduceOption.length + lines.countP (fun line => classify ext line = .caret) =
      lines.length := by
  induction h with
  | nil => rfl
  | @cons line answer lines answers hanswer _ ih =>
      have hcaret := hanswer.eq_none_iff
      rw [List.countP_cons, List.length_cons]
      cases answer with
      | none =>
          rw [List.reduceOption_cons_of_none, if_pos (by simpa using hcaret)]
          omega
      | some r =>
          rw [List.reduceOption_cons_of_some, List.length_cons, if_neg (by simpa using hcaret)]
          omega

namespace Extractor

def answers : Extractor → List String → List (Option Record)
  | _, [] => []
  | x, line :: more => (x.read line).1 :: (x.read line).2.answers more

theorem readAll_cons (x : Extractor) (line : String) (more : List String) :
    x.readAll (line :: more) = ((x.read line).1.toList ++ ((x.read line).2.readAll more).1,
      ((x.read line).2.readAll more).2) := rfl

theorem readAll_append (x : Extractor) (before later : List String) :
    x.readAll (before ++ later) =
      ((x.readAll before).1 ++ ((x.readAll before).2.readAll later).1,
        ((x.readAll before).2.readAll later).2) := by
  induction before generalizing x with
  | nil => rfl
  | cons line before ih =>
      rw [List.cons_append, readAll_cons, ih, readAll_cons, List.append_assoc]

theorem forall₂_answers (x : Extractor) (lines : List String) :
    List.Forall₂ (Answers x.ext) lines (x.answers lines) := by
  induction lines generalizing x with
  | nil => exact .nil
  | cons line more ih => exact .cons (answers_record? x.ext line) (ih (x.read line).2)

theorem records_eq_reduceOption (x : Extractor) (lines : List String) :
    (x.readAll lines).1 = (x.answers lines).reduceOption := by
  induction lines generalizing x with
  | nil => rfl
  | cons line more ih =>
      rw [readAll_cons, answers, ih]
      cases (x.read line).1 with
      | none => rfl
      | some r => rfl

theorem mem_positions_iff_exists_line {x : Extractor} {lines : List String} {p : Position} :
    p ∈ (x.readAll lines).2.positions ↔
      p ∈ x.positions ∨ ∃ line ∈ lines, (classify x.ext line).position? = some p := by
  induction lines generalizing x with
  | nil => simp [readAll]
  | cons line more ih =>
      have hread : (∃ r ∈ (x.read line).1, r.position = some p) ↔
          (classify x.ext line).position? = some p := exists_record_iff
      have hext : (x.read line).2.ext = x.ext := rfl
      rw [readAll_cons, ih, mem_positions_read, hread, hext, or_assoc, List.exists_mem_cons_iff]

theorem positions_congr {ext : String} {lines other : List String}
    (h : ∀ line, line ∈ other ↔ line ∈ lines) :
    ((new ext).readAll other).2.positions = ((new ext).readAll lines).2.positions := by
  refine PositionSet.eq_of_mem_iff fun p => ?_
  rw [mem_positions_iff_exists_line, mem_positions_iff_exists_line]
  simp only [h]

theorem records_match_positions (ext : String) (lines : List String) :
    let x := new ext
    let answers := x.answers lines
    let records := (x.readAll lines).1
    List.Forall₂ (Answers ext) lines answers ∧
    records = answers.reduceOption ∧
    records.length + lines.countP (fun line => classify ext line = .caret) = lines.length ∧
    (∀ r ∈ records, r.isError = true ∧ (r.line = none → r.column = none)) ∧
    (∀ before later, lines = before ++ later →
      let seen := x.readAll before
      records = seen.1 ++ (seen.2.readAll later).1 ∧
      ∀ p, p ∈ seen.2.positions ↔ ∃ r ∈ seen.1, r.position = some p) ∧
    ∀ other, (∀ line, line ∈ other ↔ line ∈ lines) →
      (x.readAll other).2.positions = (x.readAll lines).2.positions := by
  intro x answers records
  have hanswers : List.Forall₂ (Answers ext) lines answers := forall₂_answers x lines
  have hrecords : records = answers.reduceOption := records_eq_reduceOption x lines
  refine ⟨hanswers, hrecords, ?_, ?_, ?_, fun other => positions_congr⟩
  · rw [hrecords]
    exact length_records_add_carets hanswers
  · intro r hr
    rw [hrecords, List.reduceOption_mem_iff] at hr
    obtain ⟨line, -, hanswer⟩ := exists_line_of_answer hanswers hr
    exact ⟨hanswer.isError, hanswer.column_eq_none⟩
  · rintro before later rfl
    exact ⟨congrArg Prod.fst (readAll_append x before later), fun p => mem_positions_new⟩

theorem repeated_diagnostic_is_one_position :
    let lines := ["a.kts:2:3: error: x", "   ^", "a.kts:2:3: error: x", "at a.kts:7)"]
    let other := ["at a.kts:7)", "a.kts:2:3: error: x", "   ^"]
    (∀ line, line ∈ other ↔ line ∈ lines) ∧
      ((new "kts").readAll other).2.positions = ((new "kts").readAll lines).2.positions ∧
      ((new "kts").readAll lines).2.positions.toList = [⟨2, some 3⟩, ⟨7, none⟩] := by
  intro lines other
  have hsame : ∀ line, line ∈ other ↔ line ∈ lines := by
    intro line
    simp only [lines, other, List.mem_cons, List.not_mem_nil]
    tauto
  exact ⟨hsame, (records_match_positions "kts" lines).2.2.2.2.2 other hsame, by decide⟩

end Extractor

end ScriptBench.Diagnostic
