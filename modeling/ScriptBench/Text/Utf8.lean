namespace ScriptBench.Text

def encode (cs : List Char) : List UInt8 := cs.flatMap String.utf8EncodeChar

def bytes (s : String) : List UInt8 := encode s.toList

/-- What a leading byte promises: how many bytes follow it, the range of the first of these, and
the leading byte's own bits. -/
structure Lead where
  more : Nat
  lo : Nat
  hi : Nat
  bits : Nat
deriving DecidableEq, Repr

def lead? (b : Nat) : Option Lead :=
  if b < 0xc2 then none
  else if b ≤ 0xdf then some ⟨1, 0x80, 0xbf, b - 0xc0⟩
  else if b = 0xe0 then some ⟨2, 0xa0, 0xbf, 0⟩
  else if b = 0xed then some ⟨2, 0x80, 0x9f, 0xd⟩
  else if b ≤ 0xef then some ⟨2, 0x80, 0xbf, b - 0xe0⟩
  else if b = 0xf0 then some ⟨3, 0x90, 0xbf, 0⟩
  else if b ≤ 0xf3 then some ⟨3, 0x80, 0xbf, b - 0xf0⟩
  else if b = 0xf4 then some ⟨3, 0x80, 0x8f, 4⟩
  else none

def follow : (more lo hi code : Nat) → List UInt8 → Option Nat × List UInt8
  | 0, _, _, code, bs => (some code, bs)
  | _ + 1, _, _, _, [] => (none, [])
  | more + 1, lo, hi, code, b :: bs =>
    if lo ≤ b.toNat ∧ b.toNat ≤ hi then follow more 0x80 0xbf (code * 64 + (b.toNat - 0x80)) bs
    else (none, b :: bs)

theorem length_follow_le (more lo hi code : Nat) (bs : List UInt8) :
    (follow more lo hi code bs).2.length ≤ bs.length := by
  induction bs generalizing more lo hi code with
  | nil => cases more <;> simp [follow]
  | cons b bs ih =>
      cases more with
      | zero => simp [follow]
      | succ more =>
          simp only [follow]
          split
          · exact Nat.le_trans (ih ..) (by simp)
          · simp

def next (b : UInt8) (bs : List UInt8) : Option Char × List UInt8 :=
  if b.toNat < 0x80 then (some (Char.ofNat b.toNat), bs)
  else match lead? b.toNat with
    | none => (none, bs)
    | some l =>
      let (code, rest) := follow l.more l.lo l.hi l.bits bs
      (code.map Char.ofNat, rest)

theorem length_next_le (b : UInt8) (bs : List UInt8) : (next b bs).2.length ≤ bs.length := by
  simp only [next]
  split
  · simp
  · split
    · simp
    · exact length_follow_le ..

def replacement : Char := '\uFFFD'

def characters : List UInt8 → List (Option Char)
  | [] => []
  | b :: bs => (next b bs).1 :: characters (next b bs).2
termination_by bs => bs.length
decreasing_by exact Nat.lt_succ_of_le (length_next_le b bs)

def decode (bs : List UInt8) : List Char := (characters bs).map (·.getD replacement)

def decode? (bs : List UInt8) : Option (List Char) := (characters bs).mapM id

end ScriptBench.Text
