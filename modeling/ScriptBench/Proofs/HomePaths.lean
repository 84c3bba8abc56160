import ScriptBench.Proofs.LayeredSettings
import ScriptBench.Proofs.PathComponents
import ScriptBench.Proofs.TrimmedText

namespace ScriptBench.Machine

def Under (directory rest path : String) : Prop :=
  components path = components directory ++ components rest

instance (directory rest path : String) : Decidable (Under directory rest path) :=
  inferInstanceAs (Decidable (_ = _))

section Join

variable {base path : String}

theorem join_of_isAbsolute (h : isAbsolute path = true) : joinPath base path = path := if_pos h

theorem under_join_iff :
    Under base path (joinPath base path) ↔ isAbsolute path = false ∨ components base = [] := by
  rw [Under]
  cases habsolute : isAbsolute path with
  | false => simp [components_join base habsolute]
  | true => simp [join_of_isAbsolute habsolute, List.self_eq_append_left]

theorem isAbsolute_join_of_base (h : isAbsolute base = true) :
    isAbsolute (joinPath base path) = true := by
  cases habsolute : isAbsolute path with
  | false => rw [isAbsolute_join base habsolute, h]
  | true => rw [join_of_isAbsolute habsolute, habsolute]

end Join

end ScriptBench.Machine

namespace ScriptBench.Config

open Machine (Under components isAbsolute joinPath)

section Home

variable {home rest : String}

theorem home_text_not_blank : Text.isAllBlank ("~/" ++ rest) = false := by
  have htilde : Text.isBlank '~' = false := rfl
  simp [Text.isAllBlank, htilde]

theorem trim_home_text (h : ∀ c ∈ rest.toList.getLast?, Text.isBlank c = false) :
    Text.trim ("~/" ++ rest) = "~/" ++ rest := by
  have htext : ("~/" ++ rest).toList = '~' :: '/' :: rest.toList := by simp
  have hfront : ∀ c ∈ ("~/" ++ rest).toList.head?, Text.isBlank c = false := by
    rw [htext]
    rintro c ⟨⟩
    rfl
  have hback : ∀ c ∈ ("~/" ++ rest).toList.getLast?, Text.isBlank c = false := by
    intro c hc
    rw [htext, List.getLast?_cons_cons, List.getLast?_cons] at hc
    cases hlast : rest.toList.getLast? with
    | none =>
        rw [hlast] at hc
        obtain rfl : '/' = c := Option.some.inj hc
        rfl
    | some d =>
        rw [hlast] at hc
        obtain rfl : d = c := Option.some.inj hc
        exact h d hlast
  rw [Text.trim, Text.trimChars_of_ends hfront hback, String.ofList_toList]

theorem expands_home_text_iff {path : String} :
    Expands (some home) ("~/" ++ rest) path ↔ path = joinPath home rest := by
  constructor
  · intro h
    exact h.unique (.inside rfl)
  · rintro rfl
    exact .inside rfl

structure HomePath (home rest path : String) : Prop where
  absolute : isAbsolute path = true
  under_iff : Under home rest path ↔ isAbsolute rest = false ∨ components home = []
  leaves : isAbsolute rest = true → path = rest

theorem homePath_join (h : isAbsolute home = true) : HomePath home rest (joinPath home rest) where
  absolute := Machine.isAbsolute_join_of_base h
  under_iff := Machine.under_join_iff
  leaves := Machine.join_of_isAbsolute

section Read

variable {text : String} {l : Layer} {s : Settings}

theorem layered_of_parse {home : Option String} (hfile : layerOf text = .ok l)
    (hparse : parse home text = .ok s) : Command.Layered home l .empty s := by
  rw [parse_eq, hfile] at hparse
  exact (Command.file_settings_eq_ok_iff.mp hparse).1

theorem home_path_under_iff_rest_relative (hhome : isAbsolute home = true)
    (hback : ∀ c ∈ rest.toList.getLast?, Text.isBlank c = false) (hfile : layerOf text = .ok l)
    (hparse : parse (some home) text = .ok s) :
    (l.tempDir = "~/" ++ rest → ∃ path, s.runner.tempDir = some path ∧ HomePath home rest path) ∧
      (l.compiler = "~/" ++ rest → HomePath home rest s.runner.compiler) := by
  have hlayered := layered_of_parse hfile hparse
  constructor
  · intro htext
    have htempDir := hlayered.tempDir
    rw [htext, prevails_of_file home_text_not_blank, trim_home_text hback] at htempDir
    obtain ⟨path, hpath, htempDir⟩ := htempDir
    rw [expands_home_text_iff] at hpath
    subst hpath
    exact ⟨_, htempDir, homePath_join hhome⟩
  · intro htext
    have hcompiler : Prevails "" l.compiler Eq (Expands (some home)) "kotlinc" s.runner.compiler :=
      hlayered.compiler
    rw [htext, prevails_of_file home_text_not_blank, trim_home_text hback,
      expands_home_text_iff] at hcompiler
    rw [hcompiler]
    exact homePath_join hhome

end Read

theorem home_path_of_one_file :
    let s : Settings :=
      { runner := ⟨"/bin/sh", ["-script"], "kts", "script", some "/home/oracle/a//b"⟩
        keywords := Highlight.defaultKeywords
        logLevel := .warn
        logFormat := .console }
    parse (some "/home/oracle") "runner:\n  temp_dir: ~/a//b\n  compiler: ~//bin/sh\n" = .ok s ∧
      HomePath "/home/oracle" "a//b" "/home/oracle/a//b" ∧
      HomePath "/home/oracle" "/bin/sh" s.runner.compiler := by
  intro s
  have hfile : layerOf "runner:\n  temp_dir: ~/a//b\n  compiler: ~//bin/sh\n" =
      .ok { Layer.empty with compiler := "~//bin/sh", tempDir := "~/a//b" } :=
    ok_of_toOption (by decide +kernel)
  have hparse :
      parse (some "/home/oracle") "runner:\n  temp_dir: ~/a//b\n  compiler: ~//bin/sh\n" = .ok s :=
    ok_of_toOption (by decide +kernel)
  have hhome : isAbsolute "/home/oracle" = true := by decide
  have hback : ∀ c ∈ "a//b".toList.getLast?, Text.isBlank c = false := by
    intro c hc
    obtain rfl : 'b' = c := Option.some.inj hc
    rfl
  have hback' : ∀ c ∈ "/bin/sh".toList.getLast?, Text.isBlank c = false := by
    intro c hc
    obtain rfl : 'h' = c := Option.some.inj hc
    rfl
  obtain ⟨path, htempDir, hinside⟩ :=
    (home_path_under_iff_rest_relative hhome hback hfile hparse).1 rfl
  obtain rfl : "/home/oracle/a//b" = path := Option.some.inj htempDir
  have houtside := (home_path_under_iff_rest_relative hhome hback' hfile hparse).2 rfl
  exact ⟨hparse, hinside, houtside⟩

theorem home_path_with_two_slashes_leaves_home :
    ¬ ∀ (home rest text : String) (l : Layer) (s : Settings), Text.isAllBlank home = false →
      isAbsolute home = true → ".." ∉ components rest →
      (∀ c ∈ rest.toList.getLast?, Text.isBlank c = false) → layerOf text = .ok l →
      parse (some home) text = .ok s → l.tempDir = "~/" ++ rest →
      ∃ path, s.runner.tempDir = some path ∧ Under home rest path := by
  intro h
  have hfile : layerOf "runner:\n  temp_dir: ~//etc\n" =
      .ok { Layer.empty with tempDir := "~//etc" } :=
    ok_of_toOption (by decide +kernel)
  have hparse : parse (some "/home/oracle") "runner:\n  temp_dir: ~//etc\n" =
      .ok { Settings.default with
        runner := { Settings.default.runner with tempDir := some "/etc" } } :=
    ok_of_toOption (by decide +kernel)
  have hback : ∀ c ∈ "/etc".toList.getLast?, Text.isBlank c = false := by
    intro c hc
    obtain rfl : 'c' = c := Option.some.inj hc
    rfl
  obtain ⟨path, htempDir, hunder⟩ :=
    h "/home/oracle" "/etc" _ _ _ (by decide) (by decide) (by decide +kernel) hback hfile hparse rfl
  obtain rfl : "/etc" = path := Option.some.inj htempDir
  revert hunder
  decide +kernel

end Home

end ScriptBench.Config
