import ScriptBench.Proofs.AcceptedSettings
import ScriptBench.Proofs.LineShape
import ScriptBench.Proofs.PathComponents
import ScriptBench.Run.Launch

namespace ScriptBench.Diagnostic

theorem digits_toString (n : Nat) : Digits (toString n).toList := by
  rw [Nat.toString_eq_repr, Nat.toList_repr]
  exact ⟨Nat.toDigits_ne_nil, fun d => Nat.isDigit_of_mem_toDigits (by decide) (by decide)⟩

theorem number?_toString {n : Nat} (h : n < 2 ^ 64) : number? (toString n).toList = some n := by
  rw [number?_eq_some_iff, Nat.toString_eq_repr, Nat.toList_repr, Nat.ofDigitChars_ten_toDigits]
  exact ⟨rfl, h⟩

-- Every other cut puts the extension's mark in front of its last place, so this one is longest.
theorem classify_of_last_mark {ext line before message : String} {first second : List Char}
    {l c : Nat} (hext : '\n' ∉ ext.toList) (hline : '\n' ∉ line.toList)
    (hcut : PositionedCut ext.toList line.toList before.toList first second message.toList)
    (hlast : ∀ front later, line = front ++ "." ++ ext ++ ":" ++ later →
      front.length ≤ before.length)
    (hl : number? first = some l) (hc : number? second = some c) :
    classify ext line = .positioned l c message := by
  refine classify_of_positioned? (positioned?_eq_some_iff.mpr ?_)
  refine ⟨first, second, message.toList, ?_, l, c, hl, hc, by rw [String.ofList_toList]⟩
  refine last?_eq_some_iff.mpr
    ⟨before.toList, (finds_positionedTail?_iff hext).mpr ⟨hline, hcut⟩, ?_⟩
  rintro front ⟨first', second', message'⟩ hfinds
  obtain ⟨-, hcut'⟩ := (finds_positionedTail?_iff hext).mp hfinds
  have hfront : line = String.ofList front ++ "." ++ ext ++ ":" ++
      String.ofList (first' ++ [':'] ++ second' ++ ": error: ".toList ++ message') := by
    rw [← String.toList_inj, hcut'.cut]
    simp
  have hle := hlast _ _ hfront
  rw [String.length_ofList, ← String.length_toList] at hle
  exact hle

def printedError (path : String) (line column : Nat) (message : String) : String :=
  path ++ ":" ++ toString line ++ ":" ++ toString column ++ ": error: " ++ message

theorem classify_printedError {ext stem message : String} {line column : Nat}
    (hpath : '\n' ∉ (stem ++ "." ++ ext).toList) (hline : line < 2 ^ 64)
    (hcolumn : column < 2 ^ 64) (hmessage : message ≠ "") (hfree : '\n' ∉ message.toList)
    (hlast : ∀ front later,
      printedError (stem ++ "." ++ ext) line column message = front ++ "." ++ ext ++ ":" ++ later →
        front.length ≤ stem.length) :
    classify ext (printedError (stem ++ "." ++ ext) line column message) =
      .positioned line column message := by
  have hdigits := digits_toString line
  have hdigits' := digits_toString column
  have hext : '\n' ∉ ext.toList := by
    simp only [String.toList_append, List.mem_append, not_or] at hpath
    exact hpath.2
  have hfeed : '\n' ∉ (printedError (stem ++ "." ++ ext) line column message).toList := by
    have h1 : '\n' ∉ (toString line).toList := not_mem_digits hdigits rfl
    have h2 : '\n' ∉ (toString column).toList := not_mem_digits hdigits' rfl
    simp only [printedError, String.toList_append, List.mem_append, not_or] at hpath ⊢
    exact ⟨⟨⟨⟨⟨⟨hpath, by decide⟩, h1⟩, by decide⟩, h2⟩, by decide⟩, hfree⟩
  refine classify_of_last_mark hext hfeed ?_ hlast (number?_toString hline)
    (number?_toString hcolumn)
  exact ⟨by simp [printedError], hdigits, hdigits', by simpa using hmessage⟩

end ScriptBench.Diagnostic

namespace ScriptBench.Run

open Config (Runner Settings isSeparator)
open Machine (components joinPath isAbsolute)
open Diagnostic (classify printedError)

theorem no_separator_scriptName {r : Runner} (h : r.Accepted) {fresh : String}
    (hfresh : ∀ c ∈ fresh.toList, isSeparator c = false) :
    ∀ c ∈ (scriptName r fresh).toList, isSeparator c = false := by
  intro c hc
  simp only [scriptName, String.toList_append, List.mem_append] at hc
  rcases hc with ((hfront | hmiddle) | hdot) | hext
  · exact h.front c hfront
  · exact hfresh c hmiddle
  · obtain rfl : c = '.' := List.mem_singleton.mp hdot
    rfl
  · exact h.extension c hext

theorem scriptName_ne_empty (r : Runner) (fresh : String) : scriptName r fresh ≠ "" := by
  simp [scriptName]

def scriptDirectory (r : Runner) (h : Host) : String :=
  joinPath h.environment.directory (r.tempDir.getD h.environment.tempDirectory)

theorem components_scriptPath {r : Runner} {h : Host}
    (hname : ∀ c ∈ (scriptName r h.fresh).toList, isSeparator c = false) :
    components (scriptPath r h) = components (scriptDirectory r h) ++ [scriptName r h.fresh] := by
  have hslash : '/' ∉ (scriptName r h.fresh).toList := by
    intro hmem
    cases hname '/' hmem
  have hrelative : isAbsolute (scriptName r h.fresh) = false := by
    rw [isAbsolute, beq_eq_false_iff_ne]
    intro hhead
    exact hslash (List.mem_of_head? hhead)
  rw [scriptPath, Machine.components_join_join _ _ hrelative,
    Machine.components_of_no_slash (scriptName_ne_empty r h.fresh) hslash]
  rfl

theorem exists_stem_scriptPath (r : Runner) (h : Host) :
    ∃ stem, scriptPath r h = stem ++ "." ++ r.extension := by
  obtain ⟨inner, hinner⟩ :=
    Machine.exists_front_join (r.tempDir.getD h.environment.tempDirectory) (scriptName r h.fresh)
  obtain ⟨outer, houter⟩ :=
    Machine.exists_front_join h.environment.directory (inner ++ scriptName r h.fresh)
  refine ⟨outer ++ inner ++ r.tempPrefix ++ h.fresh, ?_⟩
  rw [scriptPath, hinner, houter, scriptName]
  simp [String.append_assoc]

theorem script_errors_are_positioned {s : Settings} {h : Host} (hvalid : s.validate = .ok s)
    (hfresh : ∀ c ∈ h.fresh.toList, isSeparator c = false) :
    (∀ c ∈ (scriptName s.runner h.fresh).toList, isSeparator c = false) ∧
    components (scriptPath s.runner h) =
      components (scriptDirectory s.runner h) ++ [scriptName s.runner h.fresh] ∧
    ∀ line column message, '\n' ∉ (scriptPath s.runner h).toList → line < 2 ^ 64 →
      column < 2 ^ 64 → message ≠ "" → '\n' ∉ message.toList →
      (∀ front later, printedError (scriptPath s.runner h) line column message =
          front ++ "." ++ s.runner.extension ++ ":" ++ later →
        (front ++ "." ++ s.runner.extension).length ≤ (scriptPath s.runner h).length) →
      classify s.runner.extension (printedError (scriptPath s.runner h) line column message) =
        .positioned line column message := by
  have hname := no_separator_scriptName (Settings.accepted_of_validate hvalid) hfresh
  refine ⟨hname, components_scriptPath hname, ?_⟩
  obtain ⟨stem, hstem⟩ := exists_stem_scriptPath s.runner h
  rw [hstem]
  intro line column message hpath hline hcolumn hmessage hfree hlast
  refine Diagnostic.classify_printedError hpath hline hcolumn hmessage hfree ?_
  intro front later hmark
  have hle := hlast front later hmark
  simp only [String.length_append] at hle
  omega

-- A mark that stands at no place behind `limit` is looked for at finitely many places.
theorem length_le_of_no_later_mark {text front mark later : List Char} {limit : Nat}
    (htext : text = front ++ mark ++ later) (hmark : mark ≠ [])
    (hnone : ∀ n < text.length, limit < n → ¬ mark <+: text.drop n) : front.length ≤ limit := by
  by_contra hlong
  have hpos : 0 < mark.length := List.length_pos_iff.mpr hmark
  have hlength : front.length < text.length := by
    simp only [htext, List.length_append]
    omega
  refine hnone front.length hlength (by omega) ⟨later, ?_⟩
  rw [htext, List.append_assoc, List.drop_left]

theorem quoted_error_behind_odd_extension :
    let s : Settings := ⟨⟨"sh", [], " k+t:1", "script", some "a b"⟩, [], .warn, .console⟩
    let h := Host.ofEnvironment ⟨[], .empty, "/tmp"⟩ "aB3xYz" 7
    s.validate = .ok s ∧ (∀ c ∈ h.fresh.toList, isSeparator c = false) ∧
      scriptPath s.runner h = "/tmp/a b/scriptaB3xYz. k+t:1" ∧
      classify " k+t:1" "/tmp/a b/scriptaB3xYz. k+t:1:12:0: error: see b.kts:3:4: error: x" =
        .positioned 12 0 "see b.kts:3:4: error: x" := by
  intro s h
  have hvalid : s.validate = .ok s := by decide
  have hfresh : ∀ c ∈ h.fresh.toList, isSeparator c = false := by
    have hall : h.fresh.toList.all (!isSeparator ·) := by decide
    simpa only [List.all_eq_true, Bool.not_eq_true'] using hall
  have hpath : scriptPath s.runner h = "/tmp/a b/scriptaB3xYz. k+t:1" := by decide
  have hpositioned := (script_errors_are_positioned hvalid hfresh).2.2 12 0
    "see b.kts:3:4: error: x"
  rw [hpath] at hpositioned
  refine ⟨hvalid, hfresh, hpath, hpositioned (by decide) (by decide) (by decide) (by decide)
    (by decide) ?_⟩
  intro front later hmark
  have htext : (printedError "/tmp/a b/scriptaB3xYz. k+t:1" 12 0 "see b.kts:3:4: error: x").toList =
      front.toList ++ ". k+t:1:".toList ++ later.toList := by
    rw [hmark]
    simp [s]
  have hle : front.toList.length ≤ 21 :=
    length_le_of_no_later_mark htext (by decide) (by decide)
  have hpoint : ".".length = 1 := by decide
  have hextension : s.runner.extension.length = 6 := by decide
  have hlimit : "/tmp/a b/scriptaB3xYz. k+t:1".length = 28 := by decide
  rw [String.length_append, String.length_append, ← String.length_toList]
  omega

end ScriptBench.Run
