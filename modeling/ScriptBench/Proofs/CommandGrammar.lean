import ScriptBench.Proofs.CommandLines
import Mathlib.Data.List.Induction

namespace ScriptBench.Command

inductive Choice where
  | value (flag : ValueFlag) (text : String)
  | switch (switch : Switch)
  | script (token : String)
deriving DecidableEq, Repr

def Choice.apply (a : Args) : Choice → Except UsageError Args
  | .value flag text => .ok (a.setValue text flag)
  | .switch s => .ok (a.turnOn s)
  | .script token => a.setScript token

def Group.choice : Group → Choice
  | .inline flag value => .value flag value
  | .apart flag value => .value flag value
  | .switch s _ => .switch s
  | .script token _ => .script token

def CommandLine.choices (l : CommandLine) : List Choice :=
  l.groups.map Group.choice ++ l.last.toList.map Choice.script

theorem parseFrom_cons (a : Args) {token : String} (rest : List String) (hdashes : token ≠ "--") :
    a.parseFrom (token :: rest) = match headingOf token, rest with
      | none, rest => (a.setScript token).bind fun a => a.parseFrom rest
      | some (none, _), _ => .error (.unknownFlag (cutValue token).1)
      | some (some .help, _), _ => .error .helpRequested
      | some (some (.switch s), _), rest => (a.turnOn s).parseFrom rest
      | some (some (.value flag), some value), rest => (a.setValue value flag).parseFrom rest
      | some (some (.value flag), none), value :: rest => (a.setValue value flag).parseFrom rest
      | some (some (.value flag), none), [] => .error (.valueMissing flag) := by
  rw [Args.parseFrom.eq_def, headingOf]
  simp only [if_neg hdashes]
  cases isOperand token with
  | true => cases a.setScript token <;> rfl
  | false =>
      cases flagNames.lookup (cutValue token).1 with
      | none => rfl
      | some flag =>
          cases flag with
          | value flag => cases (cutValue token).2 <;> cases rest <;> rfl
          | switch s => rfl
          | help => rfl

theorem parseFrom_group (a : Args) (g : Group) (rest : List String) :
    a.parseFrom (g.tokens ++ rest) = (g.choice.apply a).bind fun a => a.parseFrom rest := by
  cases g with
  | inline flag value =>
      have hdashes := (longName_valueFlag flag).ne_dashes (some value)
      have hread := parseFrom_cons a rest hdashes
      rw [headingOf_valueFlag] at hread
      exact hread
  | apart flag value =>
      have hdashes := (longName_valueFlag flag).ne_dashes none
      have hread := parseFrom_cons a (value :: rest) hdashes
      rw [headingOf_valueFlag] at hread
      exact hread
  | switch s suffix =>
      have hdashes := (longName_switch s).ne_dashes suffix
      have hread := parseFrom_cons a rest hdashes
      rw [headingOf_switch] at hread
      exact hread
  | script token isScript =>
      have hread := parseFrom_cons a rest isScript.ne_dashes
      rw [headingOf_script isScript] at hread
      exact hread

theorem parseFrom_groups (a : Args) (gs : List Group) (rest : List String) :
    a.parseFrom (spellGroups gs ++ rest) =
      ((gs.map Group.choice).foldlM Choice.apply a).bind fun a => a.parseFrom rest := by
  induction gs generalizing a with
  | nil => rfl
  | cons g gs ih =>
      rw [spellGroups, List.flatMap_cons, List.append_assoc, parseFrom_group, List.map_cons,
        List.foldlM_cons]
      cases g.choice.apply a with
      | error e => rfl
      | ok a => exact ih a

theorem parseFrom_tokens (a : Args) (l : CommandLine) :
    a.parseFrom l.tokens = l.choices.foldlM Choice.apply a := by
  rw [CommandLine.tokens, parseFrom_groups, CommandLine.choices, List.foldlM_append]
  cases (l.groups.map Group.choice).foldlM Choice.apply a with
  | error e => rfl
  | ok a =>
      cases l.last with
      | none => rfl
      | some script =>
          show a.setScript script = (a.setScript script).bind fun a => .ok a
          cases a.setScript script <;> rfl

theorem exists_tokens_of_parseFrom {a b : Args} {argv : List String}
    (h : a.parseFrom argv = .ok b) : ∃ l : CommandLine, l.tokens = argv := by
  have hcons {rest : List String} (g : Group) :
      (∃ l : CommandLine, l.tokens = rest) → ∃ l : CommandLine, l.tokens = g.tokens ++ rest := by
    rintro ⟨l, rfl⟩
    exact ⟨_, CommandLine.tokens_cons g l⟩
  fun_induction Args.parseFrom a argv with
  | case1 => exact ⟨⟨[], none⟩, rfl⟩
  | case3 a script => exact ⟨⟨[], some script⟩, rfl⟩
  | case5 a token more hdashes hoperand a' hset ih =>
      exact hcons (.script token (isOperand_iff.mp hoperand)) (ih h)
  | case9 a token more hdashes hoperand name suffix hcut s hname ih =>
      rw [eq_flagToken_of_cutValue hcut, name_of_lookup_switch hname]
      exact hcons (.switch s suffix) (ih h)
  | case10 a token hdashes hoperand name flag hname value more hcut ih =>
      rw [eq_flagToken_of_cutValue hcut, name_of_lookup_value hname]
      exact hcons (.inline flag value) (ih h)
  | case11 a token hdashes hoperand name flag hname value more hcut ih =>
      rw [eq_flagToken_of_cutValue hcut, name_of_lookup_value hname]
      exact hcons (.apart flag value) (ih h)
  | _ => cases h

def Choice.text? (flag : ValueFlag) : Choice → Option String
  | .value f text => if f = flag then some text else none
  | _ => none

def Choice.script? : Choice → Option String
  | .script token => some token
  | _ => none

section Recorded

variable (cs : List Choice)

def lastText (flag : ValueFlag) : String := (cs.filterMap (Choice.text? flag)).getLast?.getD ""

def scripts : List String := cs.filterMap Choice.script?

def recorded : Args where
  configFile := lastText cs .config
  compiler := lastText cs .compiler
  extension := lastText cs .ext
  logLevel := lastText cs .logLevel
  logFormat := lastText cs .logFormat
  noColor := .switch .noColor ∈ cs
  highlightOnly := .switch .highlightOnly ∈ cs
  json := .switch .json ∈ cs
  script := (scripts cs).getLast?.getD ""

theorem recorded_value (flag : ValueFlag) (text : String) :
    recorded (cs ++ [.value flag text]) = (recorded cs).setValue text flag := by
  cases flag <;>
    simp [recorded, lastText, scripts, Choice.text?, Choice.script?, Args.setValue]

theorem recorded_switch (s : Switch) :
    recorded (cs ++ [.switch s]) = (recorded cs).turnOn s := by
  cases s <;>
    simp [recorded, lastText, scripts, Choice.text?, Choice.script?, Args.turnOn]

theorem recorded_script (token : String) :
    recorded (cs ++ [.script token]) = { recorded cs with script := token } := by
  simp [recorded, lastText, scripts, Choice.text?, Choice.script?]

theorem recorded_script_isEmpty_iff (h : ∀ o ∈ (scripts cs).dropLast, o = "") :
    (recorded cs).script.isEmpty ↔ ∀ o ∈ scripts cs, o = "" := by
  show ((scripts cs).getLast?.getD "").isEmpty ↔ _
  rcases List.eq_nil_or_concat (scripts cs) with hnone | ⟨front, script, hlast⟩
  · simp [hnone]
  · rw [List.concat_eq_append] at hlast
    rw [hlast, List.dropLast_concat] at h
    have hall : (∀ o ∈ front ++ [script], o = "") ↔ script = "" := by
      rw [List.forall_mem_append, List.forall_mem_singleton]
      exact and_iff_right h
    rw [hlast, hall, List.getLast?_concat, Option.getD_some, String.isEmpty_iff]

end Recorded

theorem foldlM_apply_empty (cs : List Choice) :
    cs.foldlM Choice.apply Args.empty =
      if ∀ o ∈ (scripts cs).dropLast, o = "" then .ok (recorded cs) else .error .secondScript := by
  -- The last choice overrides the ones in front of it, so the row is taken apart from its end.
  induction cs using List.reverseRecOn with
  | nil => rfl
  | append_singleton cs c ih =>
      rw [List.foldlM_append, ih]
      cases c with
      | value flag text =>
          have hscripts : scripts (cs ++ [.value flag text]) = scripts cs := by
            simp [scripts, Choice.script?]
          rw [hscripts, recorded_value]
          split_ifs <;> rfl
      | switch s =>
          have hscripts : scripts (cs ++ [.switch s]) = scripts cs := by
            simp [scripts, Choice.script?]
          rw [hscripts, recorded_switch]
          split_ifs <;> rfl
      | script token =>
          have hscripts : scripts (cs ++ [.script token]) = scripts cs ++ [token] := by
            simp [scripts, Choice.script?]
          rw [hscripts, List.dropLast_concat, recorded_script]
          by_cases hfront : ∀ o ∈ (scripts cs).dropLast, o = ""
          · rw [if_pos hfront]
            show ((recorded cs).setScript token).bind .ok = _
            simp only [Args.setScript, recorded_script_isEmpty_iff cs hfront]
            split_ifs <;> rfl
          · have hsome : ¬ ∀ o ∈ scripts cs, o = "" := by
              intro hall
              exact hfront fun o ho => hall o (List.dropLast_subset _ ho)
            rw [if_neg hfront, if_neg hsome]
            rfl

namespace CommandLine

variable (l : CommandLine)

def scripts : List String := Command.scripts l.choices

def recorded : Args := Command.recorded l.choices

end CommandLine

theorem parse_tokens (l : CommandLine) : parse l.tokens =
    if ∀ o ∈ l.scripts.dropLast, o = "" then .ok l.recorded else .error .secondScript := by
  rw [parse, parseFrom_tokens, foldlM_apply_empty]
  rfl

theorem dropLast_empty_iff {scripts : List String} (h : ∀ o ∈ scripts, o ≠ "") :
    (∀ o ∈ scripts.dropLast, o = "") ↔ scripts.length ≤ 1 := by
  match scripts with
  | [] => simp
  | [_] => simp
  | o :: o' :: rest =>
      have ho : o ≠ "" := h o List.mem_cons_self
      simp [ho]

theorem parse_eq_ok_iff {argv : List String} {a : Args} :
    parse argv = .ok a ↔
      ∃ l : CommandLine, l.tokens = argv ∧ (∀ o ∈ l.scripts.dropLast, o = "") ∧ l.recorded = a := by
  constructor
  · intro h
    obtain ⟨l, rfl⟩ := exists_tokens_of_parseFrom h
    rw [parse_tokens] at h
    split_ifs at h with hfront
    exact ⟨l, rfl, hfront, Except.ok.inj h⟩
  · rintro ⟨l, rfl, hfront, rfl⟩
    rw [parse_tokens, if_pos hfront]

inductive Field where
  | value (flag : ValueFlag)
  | switch (switch : Switch)
  | script
deriving DecidableEq, Repr

def Choice.field : Choice → Field
  | .value flag _ => .value flag
  | .switch s => .switch s
  | .script _ => .script

theorem setValue_comm (a : Args) {flag flag' : ValueFlag} (h : flag ≠ flag') (v v' : String) :
    (a.setValue v flag).setValue v' flag' = (a.setValue v' flag').setValue v flag := by
  cases flag <;> cases flag' <;> first | rfl | exact absurd rfl h

theorem turnOn_comm (a : Args) (s s' : Switch) :
    (a.turnOn s).turnOn s' = (a.turnOn s').turnOn s := by
  cases s <;> cases s' <;> rfl

theorem setValue_turnOn (a : Args) (v : String) (flag : ValueFlag) (s : Switch) :
    (a.setValue v flag).turnOn s = (a.turnOn s).setValue v flag := by
  cases flag <;> cases s <;> rfl

theorem setScript_setValue (a : Args) (v token : String) (flag : ValueFlag) :
    (a.setValue v flag).setScript token = (a.setScript token).map (·.setValue v flag) := by
  cases hscript : a.script.isEmpty <;> cases flag <;>
    simp [Args.setScript, Args.setValue, hscript, Except.map]

theorem setScript_turnOn (a : Args) (token : String) (s : Switch) :
    (a.turnOn s).setScript token = (a.setScript token).map (·.turnOn s) := by
  cases hscript : a.script.isEmpty <;> cases s <;>
    simp [Args.setScript, Args.turnOn, hscript, Except.map]

theorem Choice.apply_comm (a : Args) {c d : Choice} (h : c.field ≠ d.field) :
    ((c.apply a).bind fun a => d.apply a) = (d.apply a).bind fun a => c.apply a := by
  have hmap (token : String) (f : Args → Args) :
      ((a.setScript token).bind fun a => .ok (f a)) = (a.setScript token).map f := by
    cases a.setScript token <;> rfl
  cases c with
  | value flag v =>
      cases d with
      | value flag' v' =>
          have hflag : flag ≠ flag' := by
            rintro rfl
            exact h rfl
          exact congrArg Except.ok (setValue_comm a hflag v v')
      | switch s => exact congrArg Except.ok (setValue_turnOn a v flag s)
      | script token =>
          exact (setScript_setValue a v token flag).trans (hmap token (·.setValue v flag)).symm
  | switch s =>
      cases d with
      | value flag v => exact congrArg Except.ok (setValue_turnOn a v flag s).symm
      | switch s' => exact congrArg Except.ok (turnOn_comm a s s')
      | script token => exact (setScript_turnOn a token s).trans (hmap token (·.turnOn s)).symm
  | script token =>
      cases d with
      | value flag v =>
          exact (hmap token (·.setValue v flag)).trans (setScript_setValue a v token flag).symm
      | switch s => exact (hmap token (·.turnOn s)).trans (setScript_turnOn a token s).symm
      | script _ => exact absurd rfl h

theorem parseFrom_swap (a : Args) {g g' : Group} (h : g.choice.field ≠ g'.choice.field)
    (rest : List String) :
    a.parseFrom (g.tokens ++ (g'.tokens ++ rest)) =
      a.parseFrom (g'.tokens ++ (g.tokens ++ rest)) := by
  have htwo (g g' : Group) : a.parseFrom (g.tokens ++ (g'.tokens ++ rest)) =
      ((g.choice.apply a).bind fun a => g'.choice.apply a).bind fun a => a.parseFrom rest := by
    rw [parseFrom_group]
    cases g.choice.apply a with
    | error e => rfl
    | ok a => exact parseFrom_group a g' rest
  rw [htwo g g', htwo g' g, Choice.apply_comm a h]

def Args.text (a : Args) : ValueFlag → String
  | .config => a.configFile
  | .compiler => a.compiler
  | .ext => a.extension
  | .logLevel => a.logLevel
  | .logFormat => a.logFormat

def Args.isOn (a : Args) : Switch → Bool
  | .noColor => a.noColor
  | .highlightOnly => a.highlightOnly
  | .json => a.json

def Args.spelled (a : Args) : CommandLine where
  groups :=
    ([.config, .compiler, .ext, .logLevel, .logFormat] : List ValueFlag).map
        (fun flag => .apart flag (a.text flag)) ++
      (([.noColor, .highlightOnly, .json] : List Switch).filter a.isOn).map (.switch · none)
  last := some a.script

theorem scripts_spelled (a : Args) : a.spelled.scripts = [a.script] := by
  obtain ⟨_, _, _, _, _, noColor, highlightOnly, json, _⟩ := a
  cases noColor <;> cases highlightOnly <;> cases json <;> rfl

theorem recorded_spelled (a : Args) : a.spelled.recorded = a := by
  obtain ⟨_, _, _, _, _, noColor, highlightOnly, json, _⟩ := a
  cases noColor <;> cases highlightOnly <;> cases json <;> rfl

theorem parse_reads_command_lines :
    (∀ argv a, (∀ l : CommandLine, l.tokens = argv → ∀ o ∈ l.scripts, o ≠ "") →
      (parse argv = .ok a ↔
        ∃ l : CommandLine, l.tokens = argv ∧ l.scripts.length ≤ 1 ∧ l.recorded = a)) ∧
    (∀ front flag value rest,
      parse (spellGroups front ++ (Group.inline flag value).tokens ++ rest) =
        parse (spellGroups front ++ (Group.apart flag value).tokens ++ rest)) ∧
    (∀ front (g g' : Group) rest, g.choice.field ≠ g'.choice.field →
      parse (spellGroups front ++ g.tokens ++ g'.tokens ++ rest) =
        parse (spellGroups front ++ g'.tokens ++ g.tokens ++ rest)) ∧
    ∀ a : Args, parse a.spelled.tokens = .ok a := by
  refine ⟨?_, ?_, ?_, ?_⟩
  · intro argv a hnamed
    rw [parse_eq_ok_iff]
    refine exists_congr fun l => and_congr_right fun htokens => and_congr_left' ?_
    exact dropLast_empty_iff (hnamed l htokens)
  · intro front flag value rest
    simp only [parse, List.append_assoc, parseFrom_groups, parseFrom_group]
    rfl
  · intro front g g' rest hfield
    simp only [parse, List.append_assoc, parseFrom_groups]
    refine congrArg _ (funext fun a => ?_)
    exact parseFrom_swap a hfield rest
  · intro a
    rw [parse_tokens, scripts_spelled, recorded_spelled]
    rfl

theorem values_that_look_like_flags :
    parse ["--config=a=b", "--ext", "--", "--json=", "--ext=", "--compiler", "--json", "--", "-h"] =
        .ok { Args.empty with
          configFile := "a=b", compiler := "--json", json := true, script := "-h" } ∧
      parse ["a", "--json", "b", "--bogus"] = parse ["a", "b", "--json", "--bogus"] := by
  let line : CommandLine :=
    ⟨[.inline .config "a=b", .apart .ext "--", .switch .json "", .inline .ext "",
      .apart .compiler "--json"], "-h"⟩
  have hline : line.tokens =
      ["--config=a=b", "--ext", "--", "--json=", "--ext=", "--compiler", "--json", "--", "-h"] := by
    decide
  obtain ⟨hreads, -, hswap, -⟩ := parse_reads_command_lines
  constructor
  · refine (hreads _ _ ?_).mpr ⟨line, hline, by decide, rfl⟩
    intro l hl
    rw [CommandLine.tokens_injective (hl.trans hline.symm)]
    decide
  · exact hswap [.script "a" (by decide)] (.switch .json none) (.script "b" (by decide)) ["--bogus"]
      (by decide)

end ScriptBench.Command
