import ScriptBench.Command.Args
import Mathlib.Data.List.TakeWhile

namespace ScriptBench.Command

def flagToken (name : String) : Option String → String
  | none => name
  | some value => name ++ "=" ++ value

theorem cutValue_flagToken {name : String} (h : '=' ∉ name.toList) (value : Option String) :
    cutValue (flagToken name value) = (name, value) := by
  have hfree : ∀ c ∈ name.toList, (c != '=') = true := by
    intro c hc
    rw [bne_iff_ne]
    rintro rfl
    exact h hc
  cases value with
  | none =>
      rw [flagToken, cutValue, List.dropWhile_eq_nil_iff.mpr hfree]
  | some value =>
      have htext : (flagToken name (some value)).toList = name.toList ++ '=' :: value.toList := by
        simp [flagToken]
      simp only [cutValue, htext]
      rw [List.dropWhile_append_of_pos hfree, List.takeWhile_append_of_pos hfree]
      simp

theorem eq_flagToken_of_cutValue {token name : String} {value : Option String}
    (h : cutValue token = (name, value)) : token = flagToken name value := by
  have hsplit : token.toList.takeWhile (· != '=') ++ token.toList.dropWhile (· != '=') =
    token.toList := List.takeWhile_append_dropWhile
  rw [cutValue] at h
  cases hdrop : token.toList.dropWhile (· != '=') with
  | nil =>
      simp only [hdrop] at h
      obtain ⟨rfl, rfl⟩ := Prod.mk.inj h
      rfl
  | cons c cs =>
      have hc : c = '=' := by
        have hnot := List.head?_dropWhile_not (· != '=') token.toList
        rw [hdrop] at hnot
        simpa using hnot
      simp only [hdrop] at h
      obtain ⟨rfl, rfl⟩ := Prod.mk.inj h
      rw [hdrop, hc] at hsplit
      rw [← String.toList_inj, ← hsplit]
      simp [flagToken, hsplit]

theorem lookup_valueFlag (flag : ValueFlag) : flagNames.lookup flag.name = some (.value flag) := by
  cases flag <;> rfl

theorem lookup_switch (s : Switch) : flagNames.lookup s.name = some (.switch s) := by
  cases s <;> rfl

theorem mem_flagNames_of_lookup {name : String} {flag : Flag}
    (h : flagNames.lookup name = some flag) : (name, flag) ∈ flagNames := by
  obtain ⟨front, back, hsplit, -⟩ := List.lookup_eq_some_iff.mp h
  rw [hsplit]
  exact List.mem_append_right _ List.mem_cons_self

theorem name_of_lookup_value {name : String} {flag : ValueFlag}
    (h : flagNames.lookup name = some (.value flag)) : name = flag.name := by
  have hmem := mem_flagNames_of_lookup h
  cases flag <;> simpa [flagNames] using hmem

theorem name_of_lookup_switch {name : String} {s : Switch}
    (h : flagNames.lookup name = some (.switch s)) : name = s.name := by
  have hmem := mem_flagNames_of_lookup h
  cases s <;> simpa [flagNames] using hmem

def IsScript (token : String) : Prop := token = "-" ∨ token.toList.head? ≠ some '-'

instance (token : String) : Decidable (IsScript token) := inferInstanceAs (Decidable (_ ∨ _))

theorem isOperand_iff {token : String} : isOperand token = true ↔ IsScript token := by
  rw [isOperand, IsScript, Bool.or_eq_true, beq_iff_eq, bne_iff_ne]

theorem IsScript.ne_dashes {token : String} (h : IsScript token) : token ≠ "--" := by
  rintro rfl
  revert h
  decide

structure LongName (name : String) : Prop where
  front : ∃ c cs, name.toList = '-' :: '-' :: c :: cs
  free : '=' ∉ name.toList

theorem longName_valueFlag (flag : ValueFlag) : LongName flag.name := by
  cases flag <;> exact ⟨⟨_, _, rfl⟩, by decide⟩

theorem longName_switch (s : Switch) : LongName s.name := by
  cases s <;> exact ⟨⟨_, _, rfl⟩, by decide⟩

theorem LongName.ne_dashes {name : String} (h : LongName name) (value : Option String) :
    flagToken name value ≠ "--" := by
  obtain ⟨c, cs, hname⟩ := h.front
  intro htoken
  have htext := congrArg String.toList htoken
  cases value with
  | none => simp [flagToken, hname] at htext
  | some value => simp [flagToken, hname] at htext

theorem LongName.not_isOperand {name : String} (h : LongName name) (value : Option String) :
    isOperand (flagToken name value) = false := by
  obtain ⟨c, cs, hname⟩ := h.front
  rw [← Bool.not_eq_true, isOperand_iff]
  rintro (htoken | hhead)
  · have htext := congrArg String.toList htoken
    cases value with
    | none => simp [flagToken, hname] at htext
    | some value => simp [flagToken, hname] at htext
  · cases value with
    | none => simp [flagToken, hname] at hhead
    | some value => simp [flagToken, hname] at hhead

def headingOf (token : String) : Option (Option Flag × Option String) :=
  if isOperand token then none
  else some (flagNames.lookup (cutValue token).1, (cutValue token).2)

theorem headingOf_valueFlag (flag : ValueFlag) (value : Option String) :
    headingOf (flagToken flag.name value) = some (some (.value flag), value) := by
  have hlong := longName_valueFlag flag
  rw [headingOf, hlong.not_isOperand, cutValue_flagToken hlong.free, lookup_valueFlag]
  rfl

theorem headingOf_switch (s : Switch) (suffix : Option String) :
    headingOf (flagToken s.name suffix) = some (some (.switch s), suffix) := by
  have hlong := longName_switch s
  rw [headingOf, hlong.not_isOperand, cutValue_flagToken hlong.free, lookup_switch]
  rfl

theorem headingOf_script {token : String} (h : IsScript token) : headingOf token = none := by
  rw [headingOf, isOperand_iff.mpr h]
  rfl

inductive Group where
  | inline (flag : ValueFlag) (value : String)
  | apart (flag : ValueFlag) (value : String)
  | switch (switch : Switch) (suffix : Option String)
  | script (token : String) (isScript : IsScript token)

def Group.tokens : Group → List String
  | .inline flag value => [flag.name ++ "=" ++ value]
  | .apart flag value => [flag.name, value]
  | .switch s suffix => [flagToken s.name suffix]
  | .script token _ => [token]

def Group.heading : Group → Option (Option Flag × Option String)
  | .inline flag value => some (some (.value flag), some value)
  | .apart flag _ => some (some (.value flag), none)
  | .switch s suffix => some (some (.switch s), suffix)
  | .script _ _ => none

theorem heading_tokens (g : Group) (rest : List String) :
    (g.tokens ++ rest).head?.bind headingOf = g.heading := by
  cases g with
  | inline flag value => exact headingOf_valueFlag flag (some value)
  | apart flag value => exact headingOf_valueFlag flag none
  | switch s suffix => exact headingOf_switch s suffix
  | script token isScript => exact headingOf_script isScript

def spellGroups (gs : List Group) : List String := gs.flatMap Group.tokens

structure CommandLine where
  groups : List Group
  last : Option String

namespace CommandLine

def tokens (l : CommandLine) : List String :=
  spellGroups l.groups ++ match l.last with
    | none => []
    | some script => ["--", script]

theorem tokens_cons (g : Group) (l : CommandLine) :
    (⟨g :: l.groups, l.last⟩ : CommandLine).tokens = g.tokens ++ l.tokens := by
  simp only [tokens, spellGroups, List.flatMap_cons, List.append_assoc]

end CommandLine

theorem Group.exists_tokens_eq (g : Group) :
    ∃ token more, g.tokens = token :: more ∧ token ≠ "--" := by
  cases g with
  | inline flag value => exact ⟨_, _, rfl, (longName_valueFlag flag).ne_dashes (some value)⟩
  | apart flag value => exact ⟨_, _, rfl, (longName_valueFlag flag).ne_dashes none⟩
  | switch s suffix => exact ⟨_, _, rfl, (longName_switch s).ne_dashes suffix⟩
  | script token isScript => exact ⟨_, _, rfl, isScript.ne_dashes⟩

theorem Group.eq_of_tokens_append {g g' : Group} {rest rest' : List String}
    (h : g.tokens ++ rest = g'.tokens ++ rest') : g = g' ∧ rest = rest' := by
  have hheading : g.heading = g'.heading := by
    rw [← heading_tokens g rest, h, heading_tokens]
  cases g with
  | inline flag value =>
      cases g' with
      | inline flag' value' =>
          cases hheading
          exact ⟨rfl, List.append_cancel_left h⟩
      | _ => cases hheading
  | apart flag value =>
      cases g' with
      | apart flag' value' =>
          cases hheading
          cases h
          exact ⟨rfl, rfl⟩
      | _ => cases hheading
  | switch s suffix =>
      cases g' with
      | switch s' suffix' =>
          cases hheading
          exact ⟨rfl, List.append_cancel_left h⟩
      | _ => cases hheading
  | script token isScript =>
      cases g' with
      | script token' isScript' =>
          cases h
          exact ⟨rfl, rfl⟩
      | _ => cases hheading

theorem Group.tokens_append_ne (g : Group) (rest : List String) (last : Option String) :
    g.tokens ++ rest ≠ (⟨[], last⟩ : CommandLine).tokens := by
  obtain ⟨token, more, htokens, hdashes⟩ := g.exists_tokens_eq
  rw [htokens]
  intro h
  cases last with
  | none => cases h
  | some script => exact hdashes (List.cons.inj h).1

theorem CommandLine.tokens_injective : Function.Injective CommandLine.tokens := by
  rintro ⟨gs, last⟩ ⟨gs', last'⟩ h
  induction gs generalizing gs' with
  | nil =>
      cases gs' with
      | nil =>
          cases last <;> cases last' <;> cases h <;> rfl
      | cons g' gs' =>
          rw [tokens_cons g' ⟨gs', last'⟩] at h
          exact absurd h.symm (g'.tokens_append_ne _ last)
  | cons g gs ih =>
      rw [tokens_cons g ⟨gs, last⟩] at h
      cases gs' with
      | nil => exact absurd h (g.tokens_append_ne _ last')
      | cons g' gs' =>
          rw [tokens_cons g' ⟨gs', last'⟩] at h
          obtain ⟨rfl, hrest⟩ := Group.eq_of_tokens_append h
          cases ih gs' hrest
          rfl

end ScriptBench.Command
