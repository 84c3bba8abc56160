import ScriptBench.Config.Load

namespace ScriptBench

theorem bind_eq_ok_iff {ε α β : Type} {x : Except ε α} {f : α → Except ε β} {b : β} :
    (x >>= f) = .ok b ↔ ∃ a, x = .ok a ∧ f a = .ok b := by
  cases x <;> simp [bind, Except.bind]

theorem map_eq_ok_iff {ε α β : Type} {x : Except ε α} {f : α → β} {b : β} :
    x.map f = .ok b ↔ ∃ a, x = .ok a ∧ f a = b := by
  cases x <;> simp [Except.map]

theorem mapError_eq_ok_iff {ε ε' α : Type} {x : Except ε α} {f : ε → ε'} {a : α} :
    x.mapError f = .ok a ↔ x = .ok a := by
  cases x with
  | error e => exact ⟨nofun, nofun⟩
  | ok b =>
      show (Except.ok b : Except ε' α) = .ok a ↔ _
      rw [Except.ok.injEq, Except.ok.injEq]

theorem ok_of_toOption {ε α : Type} {x : Except ε α} {a : α} (h : x.toOption = some a) :
    x = .ok a := by
  cases x with
  | error => cases h
  | ok b => rw [Option.some.inj h]

end ScriptBench

namespace ScriptBench.Config

open Machine (Environment joinPath)

inductive Expands (home : Option String) : String → String → Prop
  | home {h} : home = some h → Expands home "~" h
  | inside {h rest} : home = some h → Expands home ("~/" ++ rest) (joinPath h rest)
  | itself {path} : path ≠ "~" → (∀ rest, path ≠ "~/" ++ rest) → Expands home path path

theorem expandHome_of_expands {home : Option String} {path p : String}
    (h : Expands home path p) : expandHome home path = .ok p := by
  cases h with
  | home hhome =>
      rw [hhome]
      rfl
  | @inside dir rest hhome =>
      have hpath : ("~/" ++ rest).toList = '~' :: '/' :: rest.toList := by simp
      rw [expandHome, hpath, hhome]
      simp
  | @itself path hhome hinside =>
      rw [expandHome]
      split
      · rename_i hpath
        exact absurd (String.toList_inj.mp hpath) hhome
      · rename_i rest hpath
        have hrest : path = "~/" ++ String.ofList rest := by
          rw [← String.toList_inj, hpath]
          simp
        exact absurd hrest (hinside _)
      · rfl

theorem expands_of_expandHome {home : Option String} {path p : String}
    (h : expandHome home path = .ok p) : Expands home path p := by
  rw [expandHome] at h
  split at h
  · rename_i hpath
    obtain rfl : path = "~" := String.toList_inj.mp hpath
    cases home with
    | none => cases h
    | some dir =>
        obtain rfl : dir = p := Except.ok.inj h
        exact .home rfl
  · rename_i rest hpath
    obtain rfl : path = "~/" ++ String.ofList rest := by
      rw [← String.toList_inj, hpath]
      simp
    cases home with
    | none => cases h
    | some dir =>
        obtain rfl : joinPath dir (String.ofList rest) = p := Except.ok.inj h
        exact .inside rfl
  · rename_i hhome hinside
    obtain rfl : path = p := Except.ok.inj h
    refine .itself ?_ ?_
    · rintro rfl
      exact hhome rfl
    · rintro rest rfl
      exact hinside rest.toList (by simp)

theorem expandHome_eq_ok_iff {home : Option String} {path p : String} :
    expandHome home path = .ok p ↔ Expands home path p :=
  ⟨expands_of_expandHome, expandHome_of_expands⟩

theorem Expands.unique {home : Option String} {path p p' : String} (h : Expands home path p)
    (h' : Expands home path p') : p = p' :=
  Except.ok.inj ((expandHome_of_expands h).symm.trans (expandHome_of_expands h'))

theorem given?_of_blank {text : String} (h : Text.isAllBlank text = true) : given? text = none :=
  if_pos h

theorem given?_of_not_blank {text : String} (h : Text.isAllBlank text = false) :
    given? text = some (Text.trim text) := by
  rw [given?, h]
  rfl

/-- The value of a setting: what its flag means if it has one, else what the trimmed text of the
file means if it is not blank, else what lies below. -/
inductive Prevails {α : Type} (flag file : String) (flagMeans fileMeans : String → α → Prop)
    (below : α) : α → Prop
  | flag {a} : flag ≠ "" → flagMeans flag a → Prevails flag file flagMeans fileMeans below a
  | file {a} : flag = "" → Text.isAllBlank file = false → fileMeans (Text.trim file) a →
      Prevails flag file flagMeans fileMeans below a
  | below : flag = "" → Text.isAllBlank file = true →
      Prevails flag file flagMeans fileMeans below below

section Prevails

variable {α : Type} {flag file : String} {flagMeans fileMeans : String → α → Prop} {below a : α}

theorem prevails_of_flag (h : flag ≠ "") :
    Prevails flag file flagMeans fileMeans below a ↔ flagMeans flag a := by
  constructor
  · rintro (⟨-, hmeans⟩ | ⟨hnone, -⟩ | ⟨hnone, -⟩)
    · exact hmeans
    · exact absurd hnone h
    · exact absurd hnone h
  · exact .flag h

theorem prevails_of_file (h : Text.isAllBlank file = false) :
    Prevails "" file flagMeans fileMeans below a ↔ fileMeans (Text.trim file) a := by
  constructor
  · rintro (⟨hflag, -⟩ | ⟨-, -, hmeans⟩ | ⟨-, hblank⟩)
    · exact absurd rfl hflag
    · exact hmeans
    · rw [h] at hblank
      cases hblank
  · exact .file rfl h

theorem prevails_of_blank (h : Text.isAllBlank file = true) :
    Prevails "" file flagMeans fileMeans below a ↔ a = below := by
  constructor
  · rintro (⟨hflag, -⟩ | ⟨-, hfile, -⟩ | -)
    · exact absurd rfl hflag
    · rw [h] at hfile
      cases hfile
    · rfl
  · rintro rfl
    exact .below rfl h

theorem Prevails.unique {a' : α} (hflag : ∀ t a a', flagMeans t a → flagMeans t a' → a = a')
    (hfile : ∀ t a a', fileMeans t a → fileMeans t a' → a = a')
    (h : Prevails flag file flagMeans fileMeans below a)
    (h' : Prevails flag file flagMeans fileMeans below a') : a = a' := by
  by_cases hnone : flag = ""
  · subst hnone
    cases hblank : Text.isAllBlank file with
    | true =>
        rw [prevails_of_blank hblank] at h h'
        exact h.trans h'.symm
    | false =>
        rw [prevails_of_file hblank] at h h'
        exact hfile _ _ _ h h'
  · rw [prevails_of_flag hnone] at h h'
    exact hflag _ _ _ h h'

theorem Prevails.unique_of_alike {flag' file' : String} {a' : α} (halike : flag = flag')
    (halike' : file = file') (hflag : ∀ t a a', flagMeans t a → flagMeans t a' → a = a')
    (hfile : ∀ t a a', fileMeans t a → fileMeans t a' → a = a')
    (h : Prevails flag file flagMeans fileMeans below a)
    (h' : Prevails flag' file' flagMeans fileMeans below a') : a = a' := by
  subst halike halike'
  exact h.unique hflag hfile h'

theorem resolve_eq_ok_iff {read : String → Except Fault α}
    (hread : ∀ t a, read t = .ok a ↔ fileMeans t a) :
    resolve read file below = .ok a ↔ Prevails "" file flagMeans fileMeans below a := by
  rw [resolve]
  cases hblank : Text.isAllBlank file with
  | true =>
      rw [given?_of_blank hblank, prevails_of_blank hblank]
      exact ⟨fun h => (Except.ok.inj h).symm, congrArg Except.ok ∘ Eq.symm⟩
  | false =>
      rw [given?_of_not_blank hblank, prevails_of_file hblank]
      exact hread _ _

theorem orFault_eq_ok_iff {fault : Fault} {value : Option α} :
    orFault fault value = .ok a ↔ value = some a := by
  cases value <;> simp [orFault]

end Prevails

theorem getD_given?_eq_iff {file below a : String} {flagMeans : String → String → Prop} :
    a = (given? file).getD below ↔ Prevails "" file flagMeans Eq below a := by
  cases hblank : Text.isAllBlank file with
  | true =>
      rw [given?_of_blank hblank, prevails_of_blank hblank]
      rfl
  | false =>
      rw [given?_of_not_blank hblank, prevails_of_file hblank]
      exact eq_comm

def Directory (home : Option String) (text : String) (dir : Option String) : Prop :=
  ∃ path, Expands home text path ∧ dir = some path

theorem map_some_expandHome_eq_ok_iff {home : Option String} {text : String}
    {dir : Option String} :
    (expandHome home text).map some = .ok dir ↔ Directory home text dir := by
  rw [map_eq_ok_iff]
  refine exists_congr fun path => ?_
  rw [expandHome_eq_ok_iff, eq_comm (a := some path)]

def layerOf (text : String) : Except LoadError Layer :=
  if Text.isAllBlank text then .ok .empty
  else (Yaml.Document.parse text >>= Layer.ofDocument).mapError .malformed

def Layer.settings (l : Layer) (home : Option String) : Except LoadError Settings :=
  (l.over home .default >>= Settings.validate).mapError .invalid

theorem validate_default : Settings.default.validate = .ok .default := by
  have hnone : Settings.default.fault? = none := by decide +kernel
  rw [Settings.validate, hnone]

theorem settings_empty (home : Option String) : Layer.empty.settings home = .ok .default := by
  have hover : Layer.empty.over home .default = .ok .default := rfl
  rw [Layer.settings, hover]
  show (Settings.default.validate).mapError LoadError.invalid = _
  rw [validate_default]
  rfl

theorem parse_eq (home : Option String) (text : String) :
    parse home text = layerOf text >>= fun l => l.settings home := by
  rw [parse, layerOf]
  split
  · exact (settings_empty home).symm
  · cases Yaml.Document.parse text >>= Layer.ofDocument with
    | error problem => rfl
    | ok l =>
        have hok : ((Except.ok l).mapError LoadError.malformed >>= fun l => l.settings home) =
            l.settings home := rfl
        rw [hok, Layer.settings]
        cases h : l.over home .default >>= Settings.validate <;> simp only [h] <;> rfl

end ScriptBench.Config
