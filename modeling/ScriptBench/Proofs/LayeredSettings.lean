import ScriptBench.Command.Run
import ScriptBench.Proofs.FileLayer

namespace ScriptBench.Command

open Config (Directory Expands Layer LoadError Prevails Settings)
open Machine (Environment)

def Names {α : Type} (ofName? : String → Option α) (text : String) (a : α) : Prop :=
  ofName? text = some a

structure Layered (home : Option String) (l : Layer) (a : Args) (s : Settings) : Prop where
  compiler : Prevails a.compiler l.compiler Eq (Expands home) "kotlinc" s.runner.compiler
  args : s.runner.args = l.args.getD ["-script"]
  extension : Prevails a.extension l.extension Eq Eq "kts" s.runner.extension
  tempPrefix : Prevails "" l.tempPrefix Eq Eq "script" s.runner.tempPrefix
  tempDir : Prevails "" l.tempDir (Directory home) (Directory home) none s.runner.tempDir
  keywords : s.keywords = (l.keywords.map (·.map Text.trim)).getD Highlight.defaultKeywords
  logLevel : Prevails a.logLevel l.logLevel (Names Log.Level.ofName?) (Names Log.Level.ofName?)
    .warn s.logLevel
  logFormat : Prevails a.logFormat l.logFormat (Names Log.Format.ofName?)
    (Names Log.Format.ofName?) .console s.logFormat

section Layers

variable {home : Option String} {l : Layer} {a : Args} {s below : Settings}

theorem Names.unique {α : Type} {ofName? : String → Option α} (text : String) (x y : α)
    (hx : Names ofName? text x) (hy : Names ofName? text y) : x = y :=
  Option.some.inj (hx.symm.trans hy)

theorem Directory.unique (text : String) (x y : Option String) (hx : Directory home text x)
    (hy : Directory home text y) : x = y := by
  obtain ⟨path, hpath, rfl⟩ := hx
  obtain ⟨path', hpath', rfl⟩ := hy
  rw [hpath.unique hpath']

theorem eq_of_both (text x y : String) (hx : text = x) (hy : text = y) : x = y := hx.symm.trans hy

theorem eq_of_expands (text x y : String) (hx : Expands home text x) (hy : Expands home text y) :
    x = y :=
  hx.unique hy

theorem over_eq_ok_iff : l.over home .default = .ok s ↔ Layered home l .empty s := by
  simp only [Layer.over, bind_eq_ok_iff]
  constructor
  · rintro ⟨compiler, hcompiler, tempDir, htempDir, level, hlevel, format, hformat, hs⟩
    obtain rfl := Except.ok.inj hs
    exact {
      compiler := (Config.resolve_eq_ok_iff fun _ _ => Config.expandHome_eq_ok_iff).mp hcompiler
      args := rfl
      extension := Config.getD_given?_eq_iff.mp rfl
      tempPrefix := Config.getD_given?_eq_iff.mp rfl
      tempDir :=
        (Config.resolve_eq_ok_iff fun _ _ => Config.map_some_expandHome_eq_ok_iff).mp htempDir
      keywords := rfl
      logLevel := (Config.resolve_eq_ok_iff fun _ _ => Config.orFault_eq_ok_iff).mp hlevel
      logFormat := (Config.resolve_eq_ok_iff fun _ _ => Config.orFault_eq_ok_iff).mp hformat }
  · intro h
    refine ⟨s.runner.compiler,
      (Config.resolve_eq_ok_iff fun _ _ => Config.expandHome_eq_ok_iff).mpr h.compiler,
      s.runner.tempDir,
      (Config.resolve_eq_ok_iff fun _ _ => Config.map_some_expandHome_eq_ok_iff).mpr h.tempDir,
      s.logLevel, (Config.resolve_eq_ok_iff fun _ _ => Config.orFault_eq_ok_iff).mpr h.logLevel,
      s.logFormat, (Config.resolve_eq_ok_iff fun _ _ => Config.orFault_eq_ok_iff).mpr h.logFormat,
      ?_⟩
    have hextension := Config.getD_given?_eq_iff.mpr h.extension
    have htempPrefix := Config.getD_given?_eq_iff.mpr h.tempPrefix
    show Except.ok (Settings.mk ⟨_, l.args.getD ["-script"], (Config.given? l.extension).getD "kts",
      (Config.given? l.tempPrefix).getD "script", _⟩
      ((l.keywords.map (·.map Text.trim)).getD Highlight.defaultKeywords) _ _) = _
    rw [← h.args, ← hextension, ← htempPrefix, ← h.keywords]

theorem given?_of_ne {value : String} (h : value ≠ "") : given? value = some value := by
  rw [given?, if_neg]
  simpa [String.isEmpty_iff] using h

theorem getD_given?_eq_iff {value under v : String} :
    (given? value).getD under = v ↔ if value = "" then v = under else value = v := by
  split
  · subst value
    exact eq_comm
  · rename_i hvalue
    rw [given?_of_ne hvalue]
    rfl

theorem validate_eq_ok_iff {s' : Settings} :
    s.validate = .ok s' ↔ s = s' ∧ s'.validate = .ok s' := by
  constructor
  · intro h
    have hsame : s = s' := by
      rw [Settings.validate] at h
      split at h
      · cases h
      · exact Except.ok.inj h
    subst hsame
    exact ⟨rfl, h⟩
  · rintro ⟨rfl, h⟩
    exact h

theorem file_settings_eq_ok_iff :
    l.settings home = .ok s ↔ Layered home l .empty s ∧ s.validate = .ok s := by
  rw [Layer.settings, mapError_eq_ok_iff, bind_eq_ok_iff]
  constructor
  · rintro ⟨below, hover, hvalid⟩
    obtain ⟨rfl, hvalid⟩ := validate_eq_ok_iff.mp hvalid
    exact ⟨over_eq_ok_iff.mp hover, hvalid⟩
  · rintro ⟨hlayered, hvalid⟩
    exact ⟨s, over_eq_ok_iff.mpr hlayered, hvalid⟩

end Layers

inductive Setting where
  | compiler | args | extension | tempPrefix | tempDir | keywords | logLevel | logFormat

def SaidAlike (l l' : Layer) (a a' : Args) : Setting → Prop
  | .compiler => a.compiler = a'.compiler ∧ l.compiler = l'.compiler
  | .args => l.args = l'.args
  | .extension => a.extension = a'.extension ∧ l.extension = l'.extension
  | .tempPrefix => l.tempPrefix = l'.tempPrefix
  | .tempDir => l.tempDir = l'.tempDir
  | .keywords => l.keywords = l'.keywords
  | .logLevel => a.logLevel = a'.logLevel ∧ l.logLevel = l'.logLevel
  | .logFormat => a.logFormat = a'.logFormat ∧ l.logFormat = l'.logFormat

def SetAlike (s s' : Settings) : Setting → Prop
  | .compiler => s.runner.compiler = s'.runner.compiler
  | .args => s.runner.args = s'.runner.args
  | .extension => s.runner.extension = s'.runner.extension
  | .tempPrefix => s.runner.tempPrefix = s'.runner.tempPrefix
  | .tempDir => s.runner.tempDir = s'.runner.tempDir
  | .keywords => s.keywords = s'.keywords
  | .logLevel => s.logLevel = s'.logLevel
  | .logFormat => s.logFormat = s'.logFormat

theorem SaidAlike.refl (l : Layer) (a : Args) (f : Setting) : SaidAlike l l a a f := by
  cases f <;> simp [SaidAlike]

theorem eq_of_setAlike {s s' : Settings} (h : ∀ f, SetAlike s s' f) : s = s' := by
  obtain ⟨⟨_, _, _, _, _⟩, _, _, _⟩ := s
  obtain ⟨⟨_, _, _, _, _⟩, _, _, _⟩ := s'
  obtain rfl := h .compiler
  obtain rfl := h .args
  obtain rfl := h .extension
  obtain rfl := h .tempPrefix
  obtain rfl := h .tempDir
  obtain rfl := h .keywords
  obtain rfl := h .logLevel
  obtain rfl := h .logFormat
  rfl

theorem Layered.setAlike {home : Option String} {l l' : Layer} {a a' : Args} {s s' : Settings}
    (h : Layered home l a s) (h' : Layered home l' a' s') {f : Setting}
    (hsaid : SaidAlike l l' a a' f) : SetAlike s s' f := by
  cases f with
  | compiler => exact h.compiler.unique_of_alike hsaid.1 hsaid.2 eq_of_both eq_of_expands h'.compiler
  | args =>
      have hargs : l.args = l'.args := hsaid
      exact h.args.trans (hargs ▸ h'.args.symm)
  | extension => exact h.extension.unique_of_alike hsaid.1 hsaid.2 eq_of_both eq_of_both h'.extension
  | tempPrefix => exact h.tempPrefix.unique_of_alike rfl hsaid eq_of_both eq_of_both h'.tempPrefix
  | tempDir =>
      exact h.tempDir.unique_of_alike rfl hsaid Directory.unique Directory.unique h'.tempDir
  | keywords =>
      have hkeywords : l.keywords = l'.keywords := hsaid
      exact h.keywords.trans (hkeywords ▸ h'.keywords.symm)
  | logLevel =>
      exact h.logLevel.unique_of_alike hsaid.1 hsaid.2 Names.unique Names.unique h'.logLevel
  | logFormat =>
      exact h.logFormat.unique_of_alike hsaid.1 hsaid.2 Names.unique Names.unique h'.logFormat

theorem Layered.unique {home : Option String} {l : Layer} {a : Args} {s s' : Settings}
    (h : Layered home l a s) (h' : Layered home l a s') : s = s' :=
  eq_of_setAlike fun f => h.setAlike h' (.refl l a f)

end ScriptBench.Command
