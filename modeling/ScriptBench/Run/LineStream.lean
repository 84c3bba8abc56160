import ScriptBench.Text.Utf8

namespace ScriptBench.Run

inductive Supply where
  | bytes (bs : List UInt8)
  | interrupted
  | failed
  | ended
deriving DecidableEq, Repr

def Supply.bytesIn : List Supply → Nat
  | [] => 0
  | .bytes bs :: rest => bs.length + bytesIn rest
  | _ :: rest => bytesIn rest

inductive Fetched where
  | complete (bs : List UInt8)
  | broken (bs : List UInt8)
deriving DecidableEq, Repr

def lineFeed : UInt8 := 10

def carriageReturn : UInt8 := 13

def cutLine? : List UInt8 → Option (List UInt8 × List UInt8)
  | [] => none
  | b :: bs =>
    if b = lineFeed then some ([b], bs)
    else (cutLine? bs).map fun (line, rest) => (b :: line, rest)

/-- Reads through the next line feed. `line` holds what was read of the line before; a read that
gives nothing ends the line. An interrupted read is repeated. -/
def fetch (line : List UInt8) : List Supply → Fetched × List UInt8 × List Supply
  | [] => (.complete line, [], [])
  | .ended :: more => (.complete line, [], more)
  | .failed :: more => (.broken line, [], more)
  | .interrupted :: more => fetch line more
  | .bytes bs :: more =>
    if bs.isEmpty then (.complete line, [], more)
    else match cutLine? bs with
      | some (front, rest) => (.complete (line ++ front), rest, more)
      | none => fetch (line ++ bs) more

structure LineStream where
  buffered : List UInt8
  supply : List Supply
  done : Bool
deriving DecidableEq, Repr

def decodeLine (raw : List UInt8) : String :=
  let raw := if raw.getLast? = some lineFeed then raw.dropLast else raw
  let raw := if raw.getLast? = some carriageReturn then raw.dropLast else raw
  String.ofList (Text.decode raw)

namespace LineStream

def new (supply : List Supply) : LineStream := ⟨[], supply, false⟩

def ofBytes (bs : List UInt8) : LineStream := new [.bytes bs]

def advance (s : LineStream) : Fetched × List UInt8 × List Supply :=
  match cutLine? s.buffered with
  | some (front, rest) => (.complete front, rest, s.supply)
  | none => fetch s.buffered s.supply

def nextRaw (cancelled : Bool) (s : LineStream) : Option (List UInt8) × LineStream :=
  if s.done || cancelled then (none, { s with done := true })
  else match s.advance with
    | (.complete raw, buffered, supply) =>
      if raw.isEmpty then (none, ⟨buffered, supply, true⟩)
      else (some raw, ⟨buffered, supply, false⟩)
    | (.broken raw, buffered, supply) =>
      (if raw.isEmpty then none else some raw, ⟨buffered, supply, true⟩)

def next (cancelled : Bool) (s : LineStream) : Option String × LineStream :=
  let (raw, s) := s.nextRaw cancelled
  (raw.map decodeLine, s)

def bound (s : LineStream) : Nat :=
  s.buffered.length + Supply.bytesIn s.supply

def rest (cancelled : Bool) (s : LineStream) : List String × LineStream :=
  collect (s.bound + 1) s
where
  collect : Nat → LineStream → List String × LineStream
    | 0, s => ([], s)
    | n + 1, s =>
      match s.next cancelled with
      | (none, s) => ([], s)
      | (some line, s) =>
        let (lines, s) := collect n s
        (line :: lines, s)

end LineStream

end ScriptBench.Run
