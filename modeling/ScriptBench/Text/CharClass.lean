import ScriptBench.Text.Alphabetic
import ScriptBench.Text.Mark
import ScriptBench.Text.Number
import ScriptBench.Text.Unprintable

/-!
Two notions of a word meet in this library: keyword matching works with `isWordPart`, which counts
marks and connecting punctuation, while identifiers in diagnostics and the check of configured
keywords work with `isIdentifierPart`, which counts every kind of number but no mark. The tables are
those of Unicode 15.1.
-/

namespace ScriptBench.Text

def inRanges : List (Nat × Nat) → Nat → Bool
  | [], _ => false
  | (lo, hi) :: rest, n => !(n < lo) && (n ≤ hi || inRanges rest n)

theorem exists_range_of_inRanges {table : List (Nat × Nat)} {n : Nat}
    (h : inRanges table n = true) : ∃ r ∈ table, r.1 ≤ n ∧ n ≤ r.2 := by
  induction table with
  | nil => simp [inRanges] at h
  | cons r rest ih =>
      simp only [inRanges, Bool.and_eq_true, Bool.or_eq_true, decide_eq_true_eq,
        Bool.not_eq_true', decide_eq_false_iff_not, Nat.not_lt] at h
      cases h.2 with
      | inl hle => exact ⟨r, by simp, h.1, hle⟩
      | inr hrest =>
          obtain ⟨s, hs, hb⟩ := ih hrest
          exact ⟨s, by simp [hs], hb⟩

def isAlphabetic (c : Char) : Bool := inRanges alphabetic c.toNat

def isMark (c : Char) : Bool := inRanges marks c.toNat

def isDecimalDigit (c : Char) : Bool := inRanges decimalDigits c.toNat

def isNumeric (c : Char) : Bool := isDecimalDigit c || inRanges otherNumbers c.toNat

/-- The general category Pc. -/
def connectors : List (Nat × Nat) :=
  [(0x5f, 0x5f), (0x203f, 0x2040), (0x2054, 0x2054), (0xfe33, 0xfe34), (0xfe4d, 0xfe4f),
   (0xff3f, 0xff3f)]

/-- The property Join_Control. -/
def joiners : List (Nat × Nat) := [(0x200c, 0x200d)]

def isWordPart (c : Char) : Bool :=
  isAlphabetic c || isMark c || isDecimalDigit c || inRanges connectors c.toNat ||
    inRanges joiners c.toNat

def isIdentifierPart (c : Char) : Bool := isAlphabetic c || isNumeric c || c == '_'

/-- The property White_Space. -/
def blanks : List (Nat × Nat) :=
  [(0x9, 0xd), (0x20, 0x20), (0x85, 0x85), (0xa0, 0xa0), (0x1680, 0x1680), (0x2000, 0x200a),
   (0x2028, 0x2029), (0x202f, 0x202f), (0x205f, 0x205f), (0x3000, 0x3000)]

def isBlank (c : Char) : Bool := inRanges blanks c.toNat

def isUnprintable (c : Char) : Bool := inRanges unprintable c.toNat

def isGraphemeExtender (c : Char) : Bool := inRanges graphemeExtenders c.toNat

def boundary (before after : Option Char) : Bool :=
  before.any isWordPart != after.any isWordPart

end ScriptBench.Text
