import ScriptBench.Config.Basic
import ScriptBench.Proofs.TrimmedText
import Mathlib.Tactic.SplitIfs

namespace ScriptBench.Config

theorem isBlank_of_isSeparator {c : Char} (h : isSeparator c = true) : Text.isBlank c = false := by
  rw [isSeparator, Bool.or_eq_true, beq_iff_eq, beq_iff_eq] at h
  rcases h with rfl | rfl <;> rfl

structure Runner.Accepted (r : Runner) : Prop where
  compiler : Text.isAllBlank r.compiler = false
  named : Text.trimChars r.extension.toList ≠ []
  undotted : (Text.trimChars r.extension.toList).head? ≠ some '.'
  bare : ∀ c ∈ Text.trimChars r.extension.toList, isSeparator c = false
  front : ∀ c ∈ r.tempPrefix.toList, isSeparator c = false

theorem Runner.fault?_eq_none_iff {r : Runner} : r.fault? = none ↔ r.Accepted := by
  rw [Runner.fault?]
  constructor
  · intro h
    split_ifs at h with hcompiler hnamed hbare hfront
    rw [Bool.or_eq_true, not_or, beq_iff_eq, List.any_eq_true] at hbare
    simp only [List.isEmpty_iff] at hnamed
    simp only [List.any_eq_true, not_exists, not_and, Bool.not_eq_true] at hbare hfront hcompiler
    exact ⟨hcompiler, hnamed, hbare.1, hbare.2, hfront⟩
  · rintro ⟨hcompiler, hnamed, hundotted, hbare, hfront⟩
    have hbare : (Text.trimChars r.extension.toList).any isSeparator = false :=
      List.any_eq_false.mpr fun c hc => Bool.eq_false_iff.mp (hbare c hc)
    have hfront : r.tempPrefix.toList.any isSeparator = false :=
      List.any_eq_false.mpr fun c hc => Bool.eq_false_iff.mp (hfront c hc)
    simp [hcompiler, hnamed, hundotted, hbare, hfront]

theorem Settings.accepted_of_validate {s : Settings} (h : s.validate = .ok s) :
    s.runner.Accepted := by
  rw [Settings.validate] at h
  split at h
  · cases h
  · rename_i hnone
    exact Runner.fault?_eq_none_iff.mp (Option.or_eq_none_iff.mp hnone).1

theorem Runner.Accepted.extension {r : Runner} (h : r.Accepted) :
    ∀ c ∈ r.extension.toList, isSeparator c = false := by
  intro c hc
  rw [Bool.eq_false_iff]
  intro hseparator
  have hkept := Text.mem_trimChars_of_not_blank (isBlank_of_isSeparator hseparator) hc
  rw [h.bare c hkept] at hseparator
  cases hseparator

end ScriptBench.Config
