import ScriptBench.Json.Value
import Mathlib.Data.List.TakeWhile

namespace ScriptBench.Json

def isSpace (c : Char) : Bool := [' ', '\t', '\n', '\r'].contains c

def skipSpace (cs : List Char) : List Char := cs.dropWhile isSpace

def hexValue? (c : Char) : Option Nat :=
  if '0' ≤ c ∧ c ≤ '9' then some (c.toNat - '0'.toNat)
  else if 'a' ≤ c ∧ c ≤ 'f' then some (c.toNat - 'a'.toNat + 10)
  else if 'A' ≤ c ∧ c ≤ 'F' then some (c.toNat - 'A'.toNat + 10)
  else none

def escaped? : Char → Option Char
  | '"' => some '"'
  | '\\' => some '\\'
  | '/' => some '/'
  | 'b' => some '\x08'
  | 'f' => some '\x0c'
  | 'n' => some '\n'
  | 'r' => some '\r'
  | 't' => some '\t'
  | _ => none

-- The code points up to the closing quote; an escape of four digits is a unit of UTF-16.
def units? : List Char → Option (List Nat × List Char)
  | [] => none
  | '"' :: rest => some ([], rest)
  | '\\' :: 'u' :: a :: b :: c :: d :: rest => do
    let unit := 0x1000 * (← hexValue? a) + 0x100 * (← hexValue? b) + 0x10 * (← hexValue? c) +
      (← hexValue? d)
    let (more, rest) ← units? rest
    some (unit :: more, rest)
  | '\\' :: c :: rest => do
    let c ← escaped? c
    let (more, rest) ← units? rest
    some (c.toNat :: more, rest)
  | c :: rest => do
    let (more, rest) ← units? rest
    if c.toNat < 0x20 then none else some (c.toNat :: more, rest)

def scalar? (n : Nat) : Option Char := if n.isValidChar then some (Char.ofNat n) else none

def isHigh (n : Nat) : Bool := 0xd800 ≤ n && n < 0xdc00

def isLow (n : Nat) : Bool := 0xdc00 ≤ n && n < 0xe000

def scalars? : List Nat → Option (List Char)
  | [] => some []
  | [n] => do some [← scalar? n]
  | n :: m :: more =>
    if isHigh n && isLow m then do
      let c ← scalar? (0x10000 + 0x400 * (n - 0xd800) + (m - 0xdc00))
      some (c :: (← scalars? more))
    else do
      let c ← scalar? n
      some (c :: (← scalars? (m :: more)))

def text? (cs : List Char) : Option (String × List Char) := do
  let (units, rest) ← units? cs
  some (String.ofList (← scalars? units), rest)

def natural? (cs : List Char) : Option (Nat × List Char) :=
  match cs.takeWhile Char.isDigit with
  | [] => none
  | '0' :: _ :: _ => none
  | digits => some (Nat.ofDigitChars 10 digits 0, cs.dropWhile Char.isDigit)

def number? : List Char → Option (Value × List Char)
  | '-' :: rest => (natural? rest).map fun (n, rest) => (.number (-n), rest)
  | cs => (natural? cs).map fun (n, rest) => (.number n, rest)

mutual

def value? : Nat → List Char → Option (Value × List Char)
  | 0, _ => none
  | n + 1, cs =>
    match skipSpace cs with
    | '"' :: rest => (text? rest).map fun (s, rest) => (.string s, rest)
    | '[' :: rest =>
      match skipSpace rest with
      | ']' :: rest => some (.array [], rest)
      | rest => (items? n rest).map fun (items, rest) => (.array items, rest)
    | '\x7b' :: rest =>
      match skipSpace rest with
      | '\x7d' :: rest => some (.object [], rest)
      | rest => (fields? n rest).map fun (fields, rest) => (.object fields, rest)
    | 'n' :: 'u' :: 'l' :: 'l' :: rest => some (.null, rest)
    | 't' :: 'r' :: 'u' :: 'e' :: rest => some (.bool true, rest)
    | 'f' :: 'a' :: 'l' :: 's' :: 'e' :: rest => some (.bool false, rest)
    | rest => number? rest

def items? : Nat → List Char → Option (List Value × List Char)
  | 0, _ => none
  | n + 1, cs => do
    let (v, rest) ← value? n cs
    match skipSpace rest with
    | ']' :: rest => some ([v], rest)
    | ',' :: rest => (items? n rest).map fun (more, rest) => (v :: more, rest)
    | _ => none

def fields? : Nat → List Char → Option (List (String × Value) × List Char)
  | 0, _ => none
  | n + 1, cs =>
    match skipSpace cs with
    | '"' :: rest => do
      let (k, rest) ← text? rest
      match skipSpace rest with
      | ':' :: rest => do
        let (v, rest) ← value? n rest
        match skipSpace rest with
        | '\x7d' :: rest => some ([(k, v)], rest)
        | ',' :: rest => (fields? n rest).map fun (more, rest) => ((k, v) :: more, rest)
        | _ => none
      | _ => none
    | _ => none

end

def parse (cs : List Char) : Option Value := do
  let (v, rest) ← value? (cs.length + 1) cs
  if skipSpace rest = [] then some v else none

theorem hexValue?_hexDigit {n : Nat} (h : n < 16) : hexValue? (Text.hexDigit n) = some n := by
  have hall : ∀ n < 16, hexValue? (Text.hexDigit n) = some n := by decide
  exact hall n h

theorem units?_plain {c : Char} (hquote : c ≠ '"') (hslash : c ≠ '\\')
    (hplain : 0x20 ≤ c.toNat) (rest : List Char) :
    units? (c :: rest) = (units? rest).map fun (more, rest) => (c.toNat :: more, rest) := by
  have hcontrol : ¬ c.toNat < 0x20 := by omega
  cases h : units? rest <;> simp [units?, hslash, hcontrol, h]

theorem units?_unicode {c : Char} (hcontrol : c.toNat < 0x20) (rest : List Char) :
    units? ('\\' :: 'u' :: '0' :: '0' :: Text.hexDigit (c.toNat / 16) ::
      Text.hexDigit (c.toNat % 16) :: rest) =
        (units? rest).map fun (more, rest) => (c.toNat :: more, rest) := by
  have hzero : hexValue? '0' = some 0 := rfl
  have hhigh := hexValue?_hexDigit (n := c.toNat / 16) (by omega)
  have hlow := hexValue?_hexDigit (n := c.toNat % 16) (by omega)
  have hsum : 0x10 * (c.toNat / 16) + c.toNat % 16 = c.toNat := Nat.div_add_mod ..
  cases h : units? rest <;> simp [units?, hzero, hhigh, hlow, hsum, h]

theorem units?_escapeChar (c : Char) (rest : List Char) :
    units? (escapeChar c ++ rest) =
      (units? rest).map fun (more, rest) => (c.toNat :: more, rest) := by
  unfold escapeChar
  split
  case h_8 =>
    rename_i hquote hslash _ _ _ _ _
    split
    · rename_i hcontrol
      exact units?_unicode hcontrol rest
    · rename_i hcontrol
      exact units?_plain hquote hslash (by omega) rest
  all_goals cases h : units? rest <;> simp [units?, escaped?, h]

theorem units?_quote (cs rest : List Char) :
    units? (cs.flatMap escapeChar ++ '"' :: rest) = some (cs.map Char.toNat, rest) := by
  induction cs with
  | nil => rfl
  | cons c cs ih =>
      rw [List.flatMap_cons, List.append_assoc, units?_escapeChar, ih]
      rfl

theorem scalar?_toNat (c : Char) : scalar? c.toNat = some c := by
  have hvalid : c.toNat.isValidChar := c.valid
  rw [scalar?, if_pos hvalid, Char.ofNat_toNat]

theorem isHigh_toNat (c : Char) : isHigh c.toNat = false := by
  have hvalid : c.toNat < 0xd800 ∨ 0xdfff < c.toNat ∧ c.toNat < 0x110000 := c.valid
  simp only [isHigh, Bool.and_eq_false_iff, decide_eq_false_iff_not]
  omega

theorem scalars?_map_toNat (cs : List Char) : scalars? (cs.map Char.toNat) = some cs := by
  induction cs with
  | nil => rfl
  | cons c cs ih =>
      cases cs with
      | nil => simp [scalars?, scalar?_toNat]
      | cons d cs =>
          rw [List.map_cons, List.map_cons] at *
          simp [scalars?, isHigh_toNat, scalar?_toNat, ih]

theorem text?_quote (s : String) (rest : List Char) :
    text? (s.toList.flatMap escapeChar ++ '"' :: rest) = some (s, rest) := by
  simp [text?, units?_quote, scalars?_map_toNat]

theorem head?_toDigits {n : Nat} (h : (Nat.toDigits 10 n).head? = some '0') : n = 0 := by
  induction n using Nat.strongRecOn with
  | ind n ih =>
      by_cases hn : n < 10
      · have hall : ∀ n < 10, some (Nat.digitChar n) = some '0' → n = 0 := by decide
        rw [Nat.toDigits_of_lt_base hn] at h
        exact hall n hn h
      · rw [Nat.toDigits_of_base_le (by decide) (by omega), List.head?_append] at h
        cases hhead : (Nat.toDigits 10 (n / 10)).head? with
        | none => exact absurd (List.head?_eq_none_iff.mp hhead) Nat.toDigits_ne_nil
        | some c =>
            rw [hhead] at h
            have hfront := ih (n / 10) (by omega) (hhead.trans h)
            omega

def Ends (rest : List Char) : Prop := ∀ c ∈ rest.head?, c.isDigit = false

theorem natural?_toDigits (n : Nat) {rest : List Char} (hrest : Ends rest) :
    natural? (Nat.toDigits 10 n ++ rest) = some (n, rest) := by
  have hdigits : ∀ c ∈ Nat.toDigits 10 n, c.isDigit = true :=
    fun c => Nat.isDigit_of_mem_toDigits (by decide) (by decide)
  have htake : rest.takeWhile Char.isDigit = [] := by
    cases rest with
    | nil => rfl
    | cons c rest => exact List.takeWhile_cons_of_neg (by simp [hrest c rfl])
  have hdrop : rest.dropWhile Char.isDigit = rest := by
    cases rest with
    | nil => rfl
    | cons c rest => exact List.dropWhile_cons_of_neg (by simp [hrest c rfl])
  rw [natural?, List.takeWhile_append_of_pos hdigits, List.dropWhile_append_of_pos hdigits, htake,
    hdrop, List.append_nil]
  split
  · rename_i hnil
    exact absurd hnil Nat.toDigits_ne_nil
  · rename_i hzero
    obtain rfl : n = 0 := head?_toDigits (by rw [hzero]; rfl)
    cases hzero
  · rw [Nat.ofDigitChars_ten_toDigits]

theorem exists_digit_toDigits (n : Nat) :
    ∃ c cs, Nat.toDigits 10 n = c :: cs ∧ c.isDigit = true := by
  obtain ⟨c, cs, hcs⟩ := List.exists_cons_of_ne_nil (Nat.toDigits_ne_nil (n := n) (b := 10))
  have hmem : c ∈ Nat.toDigits 10 n := by
    rw [hcs]
    exact List.mem_cons_self
  exact ⟨c, cs, hcs, Nat.isDigit_of_mem_toDigits (by decide) (by decide) hmem⟩

theorem toList_ofNat (n : Nat) : (toString (Int.ofNat n)).toList = Nat.toDigits 10 n :=
  Nat.toList_repr

theorem toList_negSucc (n : Nat) :
    (toString (Int.negSucc n)).toList = '-' :: Nat.toDigits 10 (n + 1) := by
  show ("-" ++ (n + 1).repr).toList = _
  rw [String.toList_append, Nat.toList_repr]
  rfl

theorem number?_toString (n : Int) {rest : List Char} (hrest : Ends rest) :
    number? ((toString n).toList ++ rest) = some (.number n, rest) := by
  cases n with
  | ofNat n =>
      have hread := natural?_toDigits n hrest
      obtain ⟨c, cs, hcs, hc⟩ := exists_digit_toDigits n
      rw [toList_ofNat]
      rw [hcs] at hread ⊢
      rw [number?]
      · rw [hread]
        rfl
      · rintro cs' heq
        cases heq
        cases hc
  | negSucc n =>
      rw [toList_negSucc, List.cons_append, number?, natural?_toDigits _ hrest]
      rfl

theorem skipSpace_cons {c : Char} (hc : isSpace c = false) (cs : List Char) :
    skipSpace (c :: cs) = c :: cs :=
  List.dropWhile_cons_of_neg (by simp [hc])

theorem isSpace_of_isDigit {c : Char} (hc : c.isDigit = true) : isSpace c = false := by
  rw [Bool.eq_false_iff]
  intro hspace
  rcases (by simpa [isSpace] using hspace : c = ' ' ∨ c = '\t' ∨ c = '\n' ∨ c = '\r')
    with rfl | rfl | rfl | rfl <;> cases hc

theorem exists_cons_toString (n : Int) :
    ∃ c cs, (toString n).toList = c :: cs ∧ (c = '-' ∨ c.isDigit = true) := by
  cases n with
  | ofNat n =>
      obtain ⟨c, cs, hcs, hc⟩ := exists_digit_toDigits n
      exact ⟨c, cs, (toList_ofNat n).trans hcs, .inr hc⟩
  | negSucc n => exact ⟨'-', _, toList_negSucc n, .inl rfl⟩

theorem exists_cons_chars (v : Value) :
    ∃ c cs, chars v = c :: cs ∧ isSpace c = false ∧ c ≠ ']' := by
  cases v with
  | null => exact ⟨_, _, rfl, rfl, by decide⟩
  | bool b => cases b <;> exact ⟨_, _, rfl, rfl, by decide⟩
  | number n =>
      obtain ⟨c, cs, hcs, hc⟩ := exists_cons_toString n
      refine ⟨c, cs, hcs, ?_, ?_⟩
      · rcases hc with rfl | hdigit
        · rfl
        · exact isSpace_of_isDigit hdigit
      · rintro rfl
        simp at hc
  | string s => exact ⟨_, _, rfl, rfl, by decide⟩
  | array items => exact ⟨_, _, rfl, rfl, by decide⟩
  | object fields => exact ⟨_, _, rfl, rfl, by decide⟩

theorem value?_of_number {n : Nat} {c : Char} {cs : List Char}
    (hc : c = '-' ∨ c.isDigit = true) : value? (n + 1) (c :: cs) = number? (c :: cs) := by
  have hspace : isSpace c = false := by
    rcases hc with rfl | hdigit
    · rfl
    · exact isSpace_of_isDigit hdigit
  rw [value?, skipSpace_cons hspace]
  split
  case h_7 => rfl
  all_goals
    rename_i heq
    obtain ⟨rfl, -⟩ := List.cons.inj heq
    simp at hc

theorem itemChars_cons (v w : Value) (more : List Value) :
    itemChars (v :: w :: more) = chars v ++ ',' :: itemChars (w :: more) := by
  rw [itemChars]

theorem fieldChars_cons (k : String) (v : Value) (f : String × Value)
    (more : List (String × Value)) :
    fieldChars ((k, v) :: f :: more) = quote k ++ ':' :: chars v ++ ',' :: fieldChars (f :: more) := by
  rw [fieldChars]

theorem ends_cons {c : Char} (hc : c.isDigit = false) (rest : List Char) : Ends (c :: rest) := by
  intro d hd
  obtain rfl : c = d := Option.some.inj hd
  exact hc

theorem quote_append (s : String) (rest : List Char) :
    quote s ++ rest = '"' :: (s.toList.flatMap escapeChar ++ '"' :: rest) := by
  simp [quote]

theorem value?_of_items (n : Nat) {c : Char} (hspace : isSpace c = false) (hc : c ≠ ']')
    (cs : List Char) : value? (n + 1) ('[' :: c :: cs) =
      (items? n (c :: cs)).map fun (items, rest) => (.array items, rest) := by
  rw [value?, skipSpace_cons rfl]
  simp only [skipSpace_cons hspace]
  split
  · rename_i heq
    exact absurd (List.cons.inj heq).1 hc
  · rfl

theorem value?_of_fields (n : Nat) (cs : List Char) : value? (n + 1) ('\x7b' :: '"' :: cs) =
    (fields? n ('"' :: cs)).map fun (fields, rest) => (.object fields, rest) := rfl

theorem items?_of_value {n : Nat} {cs rest : List Char} {v : Value}
    (h : value? n cs = some (v, rest)) : items? (n + 1) cs =
      match skipSpace rest with
      | ']' :: rest => some ([v], rest)
      | ',' :: rest => (items? n rest).map fun (more, rest) => (v :: more, rest)
      | _ => none := by
  rw [items?, h]
  rfl

theorem fields?_of_value {n : Nat} {k : String} {cs rest : List Char} {v : Value}
    (h : value? n cs = some (v, rest)) : fields? (n + 1) (quote k ++ ':' :: cs) =
      match skipSpace rest with
      | '\x7d' :: rest => some ([(k, v)], rest)
      | ',' :: rest => (fields? n rest).map fun (more, rest) => ((k, v) :: more, rest)
      | _ => none := by
  rw [quote_append, fields?, skipSpace_cons rfl]
  simp only [text?_quote, Option.bind_eq_bind, Option.bind_some, skipSpace_cons (c := ':') rfl, h]

structure TakesBack (n : Nat) : Prop where
  value : ∀ v rest, (chars v).length < n → Ends rest →
    value? n (chars v ++ rest) = some (v, rest)
  items : ∀ v more rest, (itemChars (v :: more)).length + 1 < n →
    items? n (itemChars (v :: more) ++ ']' :: rest) = some (v :: more, rest)
  fields : ∀ k v more rest, (fieldChars ((k, v) :: more)).length + 1 < n →
    fields? n (fieldChars ((k, v) :: more) ++ '\x7d' :: rest) = some ((k, v) :: more, rest)

section TakesBack

variable {n : Nat} (h : TakesBack n)

include h

theorem TakesBack.array (w : Value) (more : List Value) (rest : List Char)
    (hn : (itemChars (w :: more)).length + 1 < n) :
    value? (n + 1) (chars (.array (w :: more)) ++ rest) = some (.array (w :: more), rest) := by
  have hread := h.items w more rest hn
  obtain ⟨c, cs, hcs, hspace, hc⟩ : ∃ c cs, itemChars (w :: more) = c :: cs ∧
      isSpace c = false ∧ c ≠ ']' := by
    obtain ⟨c, cs, hcs, hc⟩ := exists_cons_chars w
    cases more with
    | nil => exact ⟨c, cs, hcs, hc⟩
    | cons x more => exact ⟨c, _, by rw [itemChars_cons, hcs, List.cons_append], hc⟩
  rw [hcs, List.cons_append] at hread
  rw [chars, List.cons_append, List.cons_append, List.append_assoc, hcs, List.cons_append,
    value?_of_items n hspace hc, List.singleton_append, hread]
  rfl

theorem TakesBack.object (k : String) (w : Value) (more : List (String × Value))
    (rest : List Char) (hn : (fieldChars ((k, w) :: more)).length + 1 < n) :
    value? (n + 1) (chars (.object ((k, w) :: more)) ++ rest) =
      some (.object ((k, w) :: more), rest) := by
  have hread := h.fields k w more rest hn
  obtain ⟨cs, hcs⟩ : ∃ cs, fieldChars ((k, w) :: more) = '"' :: cs := by
    cases more with
    | nil => exact ⟨_, rfl⟩
    | cons f more => exact ⟨_, rfl⟩
  rw [hcs, List.cons_append] at hread
  rw [chars, List.cons_append, List.cons_append, List.append_assoc, hcs, List.cons_append,
    value?_of_fields, List.singleton_append, hread]
  rfl

theorem TakesBack.value_succ (v : Value) (rest : List Char) (hn : (chars v).length < n + 1)
    (hrest : Ends rest) : value? (n + 1) (chars v ++ rest) = some (v, rest) := by
  cases v with
  | null => rfl
  | bool b => cases b <;> rfl
  | number k =>
      obtain ⟨c, cs, hcs, hc⟩ := exists_cons_toString k
      have hread := number?_toString k hrest
      rw [hcs, List.cons_append] at hread
      rw [chars, hcs, List.cons_append, value?_of_number hc, hread]
  | string s =>
      rw [chars, quote_append, value?, skipSpace_cons rfl]
      simp only [text?_quote, Option.map_some]
  | array items =>
      cases items with
      | nil => rfl
      | cons w more =>
          simp only [chars, List.length_append, List.length_cons, List.length_nil] at hn
          exact h.array w more rest (by omega)
  | object fields =>
      cases fields with
      | nil => rfl
      | cons f more =>
          obtain ⟨k, w⟩ := f
          simp only [chars, List.length_append, List.length_cons, List.length_nil] at hn
          exact h.object k w more rest (by omega)

theorem TakesBack.items_succ (v : Value) (more : List Value) (rest : List Char)
    (hn : (itemChars (v :: more)).length + 1 < n + 1) :
    items? (n + 1) (itemChars (v :: more) ++ ']' :: rest) = some (v :: more, rest) := by
  cases more with
  | nil =>
      rw [itemChars] at hn ⊢
      have hread := h.value v (']' :: rest) (by omega) (ends_cons rfl rest)
      rw [items?_of_value hread, skipSpace_cons rfl]
      rfl
  | cons w more =>
      rw [itemChars_cons, List.length_append, List.length_cons] at hn
      rw [itemChars_cons, List.append_assoc, List.cons_append]
      have hread := h.value v (',' :: (itemChars (w :: more) ++ ']' :: rest)) (by omega)
        (ends_cons rfl _)
      have hmore := h.items w more rest (by omega)
      rw [items?_of_value hread, skipSpace_cons rfl]
      simp only [hmore, Option.map_some]

theorem TakesBack.fields_succ (k : String) (v : Value) (more : List (String × Value))
    (rest : List Char) (hn : (fieldChars ((k, v) :: more)).length + 1 < n + 1) :
    fields? (n + 1) (fieldChars ((k, v) :: more) ++ '\x7d' :: rest) =
      some ((k, v) :: more, rest) := by
  cases more with
  | nil =>
      rw [fieldChars, List.length_append, List.length_cons] at hn
      rw [fieldChars, List.append_assoc, List.cons_append]
      have hread := h.value v ('\x7d' :: rest) (by omega) (ends_cons rfl rest)
      rw [fields?_of_value hread, skipSpace_cons rfl]
      rfl
  | cons f more =>
      obtain ⟨k', w⟩ := f
      simp only [fieldChars_cons, List.length_append, List.length_cons] at hn
      rw [fieldChars_cons, List.append_assoc, List.append_assoc, List.cons_append,
        List.cons_append]
      have hread := h.value v (',' :: (fieldChars ((k', w) :: more) ++ '\x7d' :: rest))
        (by omega) (ends_cons rfl _)
      have hmore := h.fields k' w more rest (by omega)
      rw [fields?_of_value hread, skipSpace_cons rfl]
      simp only [hmore, Option.map_some]

end TakesBack

theorem takesBack (n : Nat) : TakesBack n := by
  induction n with
  | zero => exact ⟨fun _ _ h => by omega, fun _ _ _ h => by omega, fun _ _ _ _ h => by omega⟩
  | succ n ih => exact ⟨ih.value_succ, ih.items_succ, ih.fields_succ⟩

theorem parse_chars (v : Value) : parse (chars v) = some v := by
  have hread := (takesBack ((chars v).length + 1)).value v [] (Nat.lt_succ_self _)
    (fun c hc => by cases hc)
  rw [List.append_nil] at hread
  rw [parse, hread]
  rfl

example : (parse " [\"\\ud83d\\ude00\\/\", -10 ]".toList).map chars =
    some "[\"😀/\",-10]".toList := by decide +kernel

example : (parse "[01]".toList).map chars = none := by decide +kernel

def Printable (cs : List Char) : Prop := ∀ c ∈ cs, 0x20 ≤ c.toNat

instance (cs : List Char) : Decidable (Printable cs) :=
  decidable_of_iff (cs.all fun c => 0x20 ≤ c.toNat) (by simp [Printable])

theorem printable_append {front rest : List Char} (hfront : Printable front)
    (hrest : Printable rest) : Printable (front ++ rest) :=
  List.forall_mem_append.mpr ⟨hfront, hrest⟩

theorem printable_cons {c : Char} (hc : 0x20 ≤ c.toNat) {rest : List Char}
    (hrest : Printable rest) : Printable (c :: rest) :=
  List.forall_mem_cons.mpr ⟨hc, hrest⟩

theorem printable_escapeChar (c : Char) : Printable (escapeChar c) := by
  have hhex : ∀ n < 16, 0x20 ≤ (Text.hexDigit n).toNat := by decide
  unfold escapeChar
  split
  case h_8 =>
    split
    · refine @printable_append ['\\', 'u', '0', '0'] _ (by decide) ?_
      exact printable_cons (hhex _ (by omega)) (printable_cons (hhex _ (by omega)) (by decide))
    · exact printable_cons (by omega) (by decide)
  all_goals decide

theorem printable_quote (s : String) : Printable (quote s) := by
  refine printable_append (printable_cons (by decide) ?_) (printable_cons (by decide) ?_)
  · intro c hc
    obtain ⟨d, -, hmem⟩ := List.mem_flatMap.mp hc
    exact printable_escapeChar d c hmem
  · intro c hc
    cases hc

theorem printable_toDigits (n : Nat) : Printable (Nat.toDigits 10 n) := by
  intro c hc
  have hdigit := Nat.isDigit_of_mem_toDigits (by decide) (by decide) hc
  have hle : '0'.toNat ≤ c.toNat := (Char.isDigit_iff_toNat.mp hdigit).1
  exact le_trans (by decide) hle

theorem printable_toString (n : Int) : Printable (toString n).toList := by
  cases n with
  | ofNat n =>
      rw [toList_ofNat]
      exact printable_toDigits n
  | negSucc n =>
      rw [toList_negSucc]
      exact printable_cons (by decide) (printable_toDigits _)

mutual

theorem printable_chars (v : Value) : Printable (chars v) := by
  match v with
  | .null => decide
  | .bool true => decide
  | .bool false => decide
  | .number n => exact printable_toString n
  | .string s => exact printable_quote s
  | .array items =>
      exact printable_append (printable_cons (by decide) (printable_itemChars items)) (by decide)
  | .object fields =>
      exact printable_append (printable_cons (by decide) (printable_fieldChars fields)) (by decide)

theorem printable_itemChars (items : List Value) : Printable (itemChars items) := by
  match items with
  | [] => decide
  | [v] => exact printable_chars v
  | v :: w :: more =>
      rw [itemChars_cons]
      exact printable_append (printable_chars v)
        (printable_cons (by decide) (printable_itemChars (w :: more)))

theorem printable_fieldChars (fields : List (String × Value)) :
    Printable (fieldChars fields) := by
  match fields with
  | [] => decide
  | [(k, v)] =>
      exact printable_append (printable_quote k) (printable_cons (by decide) (printable_chars v))
  | (k, v) :: f :: more =>
      rw [fieldChars_cons]
      exact printable_append (printable_append (printable_quote k)
        (printable_cons (by decide) (printable_chars v)))
        (printable_cons (by decide) (printable_fieldChars (f :: more)))

end

end ScriptBench.Json
