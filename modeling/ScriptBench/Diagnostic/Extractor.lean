import ScriptBench.Diagnostic.LineClass
import ScriptBench.Diagnostic.Record

namespace ScriptBench.Diagnostic

def LineClass.position? : LineClass → Option Position
  | .positioned line column _ => some ⟨line, some column⟩
  | .reference line => some ⟨line, none⟩
  | .caret | .plain => none

def LineClass.record? (line : String) : LineClass → Option Record
  | .positioned l c message =>
    some (.positioned ("error: " ++ message ++ " at " ++ toString l ++ ":" ++ toString c) ⟨l, some c⟩)
  | .reference l => some (.positioned line ⟨l, none⟩)
  | .caret => none
  | .plain => some (.flagged line)

theorem isError_of_record {line : String} {shape : LineClass} {r : Record}
    (h : shape.record? line = some r) : r.isError = true := by
  cases shape with
  | positioned l c message => cases h; rfl
  | reference l => cases h; rfl
  | caret => cases h
  | plain => cases h; rfl

theorem position_of_record {line : String} {shape : LineClass} {r : Record}
    (h : shape.record? line = some r) : r.position = shape.position? := by
  cases shape with
  | positioned l c message => cases h; rfl
  | reference l => cases h; rfl
  | caret => cases h
  | plain => cases h; rfl

theorem exists_record_iff {shape : LineClass} {line : String} {p : Position} :
    (∃ r ∈ shape.record? line, r.position = some p) ↔ shape.position? = some p := by
  constructor
  · rintro ⟨r, hr, hp⟩
    rw [← position_of_record hr, hp]
  · intro hp
    cases shape with
    | positioned l c message => exact ⟨_, rfl, hp⟩
    | reference l => exact ⟨_, rfl, hp⟩
    | caret => cases hp
    | plain => cases hp

structure Extractor where
  ext : String
  positions : PositionSet
deriving DecidableEq

namespace Extractor

def new (ext : String) : Extractor := ⟨ext, .empty⟩

def read (x : Extractor) (line : String) : Option Record × Extractor :=
  let shape := classify x.ext line
  (shape.record? line, ⟨x.ext, (shape.position?.map x.positions.insert).getD x.positions⟩)

def readAll : Extractor → List String → List Record × Extractor
  | x, [] => ([], x)
  | x, line :: more =>
    let (record?, x) := x.read line
    let (records, x) := x.readAll more
    (record?.toList ++ records, x)

end Extractor

end ScriptBench.Diagnostic
