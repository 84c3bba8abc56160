import ScriptBench.Proofs.CommandGrammar

namespace ScriptBench.Command

def operands : List String → List String
  | [] => []
  | token :: more =>
    if token = "--" then more.take 1
    else match headingOf token, more with
      | none, more => token :: operands more
      | some (some (.value _), none), _ :: more => operands more
      | some _, more => operands more

theorem operands_cons {token : String} (rest : List String) (hdashes : token ≠ "--") :
    operands (token :: rest) = match headingOf token, rest with
      | none, rest => token :: operands rest
      | some (some (.value _), none), _ :: more => operands more
      | some _, rest => operands rest := by
  rw [operands.eq_def]
  simp only [if_neg hdashes]

theorem operands_group (g : Group) (rest : List String) :
    operands (g.tokens ++ rest) = g.choice.script?.toList ++ operands rest := by
  cases g with
  | inline flag value =>
      have hread := operands_cons rest ((longName_valueFlag flag).ne_dashes (some value))
      rw [headingOf_valueFlag] at hread
      exact hread
  | apart flag value =>
      have hread := operands_cons (value :: rest) ((longName_valueFlag flag).ne_dashes none)
      rw [headingOf_valueFlag] at hread
      exact hread
  | switch s suffix =>
      have hread := operands_cons rest ((longName_switch s).ne_dashes suffix)
      rw [headingOf_switch] at hread
      exact hread
  | script token isScript =>
      have hread := operands_cons rest isScript.ne_dashes
      rw [headingOf_script isScript] at hread
      exact hread

theorem operands_groups (gs : List Group) (rest : List String) :
    operands (spellGroups gs ++ rest) = scripts (gs.map Group.choice) ++ operands rest := by
  induction gs with
  | nil => rfl
  | cons g gs ih =>
      have hscripts : scripts ((g :: gs).map Group.choice) =
          g.choice.script?.toList ++ scripts (gs.map Group.choice) := by
        rw [scripts, List.map_cons, List.filterMap_cons]
        cases g.choice.script? <;> rfl
      rw [spellGroups, List.flatMap_cons, List.append_assoc, operands_group, hscripts,
        List.append_assoc]
      exact congrArg _ ih

theorem operands_tokens (l : CommandLine) : operands l.tokens = l.scripts := by
  rw [CommandLine.tokens, operands_groups, CommandLine.scripts, CommandLine.choices, scripts,
    scripts, List.filterMap_append]
  cases l.last <;> rfl

example : operands ["--ext", "a", "", "--json=b", "-", "--", "-c", "d"] = ["", "-", "-c"] := by
  decide

theorem script_of_parse {argv : List String} {a : Args} (h : parse argv = .ok a) :
    a.script = (operands argv).getLast?.getD "" := by
  obtain ⟨l, rfl, -, rfl⟩ := parse_eq_ok_iff.mp h
  rw [operands_tokens]
  rfl

theorem exists_parse_eq_ok_iff {argv : List String} :
    (∃ a, parse argv = .ok a) ↔
      (∃ l : CommandLine, l.tokens = argv) ∧ ∀ o ∈ (operands argv).dropLast, o = "" := by
  simp only [parse_eq_ok_iff]
  constructor
  · rintro ⟨a, l, rfl, hfront, -⟩
    rw [operands_tokens]
    exact ⟨⟨l, rfl⟩, hfront⟩
  · rintro ⟨⟨l, rfl⟩, hfront⟩
    rw [operands_tokens] at hfront
    exact ⟨l.recorded, l, rfl, hfront, rfl⟩

theorem script_given_up_iff_unnamed (argv : List String) :
    ((∃ e, parse argv = .error e) ↔
      (∃ o ∈ (operands argv).dropLast, o ≠ "") ∨ ∀ l : CommandLine, l.tokens ≠ argv) ∧
    (∀ l : CommandLine, l.tokens = argv → (∃ o ∈ (operands argv).dropLast, o ≠ "") →
      parse argv = .error .secondScript) ∧
    ∀ a, parse argv = .ok a →
      a.script = (operands argv).getLast?.getD "" ∧ ∀ o ∈ (operands argv).dropLast, o = "" := by
  refine ⟨?_, ?_, fun a ha => ⟨script_of_parse ha, (exists_parse_eq_ok_iff.mp ⟨a, ha⟩).2⟩⟩
  · have hrefused : (∃ e, parse argv = .error e) ↔ ¬ ∃ a, parse argv = .ok a := by
      cases parse argv <;> simp
    rw [hrefused, exists_parse_eq_ok_iff, not_and_or, or_comm]
    simp only [not_forall, not_exists, exists_prop, ne_eq]
  · rintro l rfl ⟨o, ho, hnamed⟩
    rw [operands_tokens] at ho
    rw [parse_tokens, if_neg fun hall => hnamed (hall o ho)]

theorem unnamed_script_is_given_up :
    ¬ ∀ argv, 2 ≤ (operands argv).length → ∃ e, parse argv = .error e := by
  intro hrefused
  obtain ⟨e, he⟩ := hrefused ["", "main.kts"] (by decide)
  have htaken : parse ["", "main.kts"] = .ok { Args.empty with script := "main.kts" } := rfl
  cases htaken.symm.trans he

end ScriptBench.Command
