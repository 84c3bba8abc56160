import ScriptBench.Text.Utf8
import Mathlib.Data.List.Basic

namespace ScriptBench.Text

theorem toNat_ofNat_byte {n : Nat} (hn : n < 256) : (UInt8.ofNat n).toNat = n := by
  rw [UInt8.toNat_ofNat', Nat.mod_eq_of_lt hn]

theorem lead?_of_two {b : Nat} (hlo : 0xc2 ≤ b) (hhi : b ≤ 0xdf) :
    lead? b = some ⟨1, 0x80, 0xbf, b - 0xc0⟩ := by
  rw [lead?, if_neg (by omega), if_pos hhi]

-- The byte behind 0xe0 has a range of its own to keep out shorter forms, the one behind 0xed to
-- keep out surrogates.
theorem lead?_of_three {b : Nat} (hlo : 0xe0 ≤ b) (hhi : b ≤ 0xef) :
    lead? b =
      some ⟨2, if b = 0xe0 then 0xa0 else 0x80, if b = 0xed then 0x9f else 0xbf, b - 0xe0⟩ := by
  rw [lead?, if_neg (by omega), if_neg (by omega)]
  by_cases hfirst : b = 0xe0
  · subst hfirst
    rfl
  · by_cases hsurrogate : b = 0xed
    · subst hsurrogate
      rfl
    · simp only [if_neg hfirst, if_neg hsurrogate, if_pos hhi]

theorem lead?_of_four {b : Nat} (hlo : 0xf0 ≤ b) (hhi : b ≤ 0xf4) :
    lead? b =
      some ⟨3, if b = 0xf0 then 0x90 else 0x80, if b = 0xf4 then 0x8f else 0xbf, b - 0xf0⟩ := by
  have hcases : b = 0xf0 ∨ b = 0xf1 ∨ b = 0xf2 ∨ b = 0xf3 ∨ b = 0xf4 := by omega
  rcases hcases with rfl | rfl | rfl | rfl | rfl <;> rfl

section Next

variable {n : Nat} {more : List UInt8}

theorem follow_byte {owed lo hi code : Nat} (hlo : lo ≤ n) (hhi : n ≤ hi) (hn : n < 256) :
    follow (owed + 1) lo hi code (UInt8.ofNat n :: more) =
      follow owed 0x80 0xbf (code * 64 + (n - 0x80)) more := by
  have hfits : lo ≤ (UInt8.ofNat n).toNat ∧ (UInt8.ofNat n).toNat ≤ hi := by
    rw [toNat_ofNat_byte hn]
    exact ⟨hlo, hhi⟩
  rw [follow, if_pos hfits, toNat_ofNat_byte hn]

theorem next_lead {owed lo hi bits : Nat} (hl : lead? n = some ⟨owed, lo, hi, bits⟩)
    (hlo : 0x80 ≤ n) (hn : n < 256) :
    next (UInt8.ofNat n) more =
      ((follow owed lo hi bits more).1.map Char.ofNat, (follow owed lo hi bits more).2) := by
  rw [next, toNat_ofNat_byte hn, if_neg (by omega), hl]

theorem next_one (hhi : n ≤ 0x7f) : next (UInt8.ofNat n) more = (some (Char.ofNat n), more) := by
  rw [next, toNat_ofNat_byte (by omega), if_pos (by omega)]

theorem next_two (hlo : 0x7f < n) (hhi : n ≤ 0x7ff) :
    next (UInt8.ofNat (n / 64 % 32 + 192)) (UInt8.ofNat (n % 64 + 128) :: more) =
      (some (Char.ofNat n), more) := by
  have hlead := lead?_of_two (b := n / 64 % 32 + 192) (by omega) (by omega)
  have hcode : (n / 64 % 32 + 192 - 192) * 64 + (n % 64 + 128 - 128) = n := by omega
  rw [next_lead hlead (by omega) (by omega), follow_byte (by omega) (by omega) (by omega), hcode]
  rfl

theorem next_three (hlo : 0x7ff < n) (hhi : n ≤ 0xffff) (hn : n < 0xd800 ∨ 0xdfff < n) :
    next (UInt8.ofNat (n / 4096 % 16 + 224))
        (UInt8.ofNat (n / 64 % 64 + 128) :: UInt8.ofNat (n % 64 + 128) :: more) =
      (some (Char.ofNat n), more) := by
  have hlead := lead?_of_three (b := n / 4096 % 16 + 224) (by omega) (by omega)
  have hcode : ((n / 4096 % 16 + 224 - 224) * 64 + (n / 64 % 64 + 128 - 128)) * 64 +
      (n % 64 + 128 - 128) = n := by omega
  rw [next_lead hlead (by omega) (by omega),
    follow_byte (by split <;> omega) (by split <;> omega) (by omega),
    follow_byte (by omega) (by omega) (by omega), hcode]
  rfl

theorem next_four (hlo : 0xffff < n) (hhi : n < 0x110000) :
    next (UInt8.ofNat (n / 262144 % 8 + 240))
        (UInt8.ofNat (n / 4096 % 64 + 128) :: UInt8.ofNat (n / 64 % 64 + 128) ::
          UInt8.ofNat (n % 64 + 128) :: more) =
      (some (Char.ofNat n), more) := by
  have hlead := lead?_of_four (b := n / 262144 % 8 + 240) (by omega) (by omega)
  have hcode : (((n / 262144 % 8 + 240 - 240) * 64 + (n / 4096 % 64 + 128 - 128)) * 64 +
      (n / 64 % 64 + 128 - 128)) * 64 + (n % 64 + 128 - 128) = n := by omega
  rw [next_lead hlead (by omega) (by omega),
    follow_byte (by split <;> omega) (by split <;> omega) (by omega),
    follow_byte (by omega) (by omega) (by omega), follow_byte (by omega) (by omega) (by omega),
    hcode]
  rfl

end Next

theorem toNat_valid (c : Char) : c.toNat < 0xd800 ∨ 0xdfff < c.toNat ∧ c.toNat < 0x110000 := by
  have h := c.valid
  simpa [UInt32.isValidChar, Nat.isValidChar] using h

theorem next_encodeChar (c : Char) (more : List UInt8) :
    ∃ b bs, String.utf8EncodeChar c = b :: bs ∧ next b (bs ++ more) = (some c, more) := by
  have hback : Char.ofNat c.toNat = c := Char.ofNat_toNat c
  have hvalid := toNat_valid c
  have hval : c.val.toNat = c.toNat := rfl
  rw [String.utf8EncodeChar, hval]
  by_cases h1 : c.toNat ≤ 0x7f
  · refine ⟨_, _, if_pos h1, ?_⟩
    rw [List.nil_append, next_one h1, hback]
  · by_cases h2 : c.toNat ≤ 0x7ff
    · refine ⟨_, _, by rw [if_neg h1, if_pos h2], ?_⟩
      rw [List.singleton_append, next_two (by omega) h2, hback]
    · by_cases h3 : c.toNat ≤ 0xffff
      · refine ⟨_, _, by rw [if_neg h1, if_neg h2, if_pos h3], ?_⟩
        have hthree := @next_three c.toNat more (by omega) h3 (by omega)
        rw [hback] at hthree
        exact hthree
      · refine ⟨_, _, by rw [if_neg h1, if_neg h2, if_neg h3], ?_⟩
        have hfour := @next_four c.toNat more (by omega) (by omega)
        rw [hback] at hfour
        exact hfour

theorem encode_cons (c : Char) (cs : List Char) :
    encode (c :: cs) = String.utf8EncodeChar c ++ encode cs := rfl

theorem characters_encode (cs : List Char) : characters (encode cs) = cs.map some := by
  induction cs with
  | nil => rw [encode, List.flatMap_nil, characters, List.map_nil]
  | cons c cs ih =>
      obtain ⟨b, bs, hchar, hnext⟩ := next_encodeChar c (encode cs)
      rw [encode_cons, hchar, List.cons_append, characters, hnext, ih, List.map_cons]

theorem decode_encode (cs : List Char) : decode (encode cs) = cs := by
  rw [decode, characters_encode, List.map_map]
  exact List.map_id cs

theorem encodeChar_of_le {c : Char} (hc : c.toNat ≤ 0x7f) :
    String.utf8EncodeChar c = [UInt8.ofNat c.toNat] := by
  rw [String.utf8EncodeChar]
  exact if_pos hc

theorem le_of_mem_encodeChar {c : Char} {b : UInt8} (hc : 0x7f < c.toNat)
    (hb : b ∈ String.utf8EncodeChar c) : 0x80 ≤ b.toNat := by
  have hlarge (n : Nat) (hlo : 0x80 ≤ n) (hn : n < 256) : 0x80 ≤ (UInt8.ofNat n).toNat := by
    rw [toNat_ofNat_byte hn]
    exact hlo
  have hvalid := toNat_valid c
  have hval : c.val.toNat = c.toNat := rfl
  rw [String.utf8EncodeChar, hval, if_neg (by omega)] at hb
  split at hb
  · simp only [List.mem_cons, List.not_mem_nil, or_false] at hb
    rcases hb with rfl | rfl <;> exact hlarge _ (by omega) (by omega)
  · split at hb
    · simp only [List.mem_cons, List.not_mem_nil, or_false] at hb
      rcases hb with rfl | rfl | rfl <;> exact hlarge _ (by omega) (by omega)
    · simp only [List.mem_cons, List.not_mem_nil, or_false] at hb
      rcases hb with rfl | rfl | rfl | rfl <;> exact hlarge _ (by omega) (by omega)

theorem eq_of_mem_encodeChar {c : Char} {b : UInt8} (hb : b.toNat < 0x80)
    (hmem : b ∈ String.utf8EncodeChar c) : c = Char.ofNat b.toNat := by
  by_cases hc : c.toNat ≤ 0x7f
  · rw [encodeChar_of_le hc, List.mem_singleton] at hmem
    rw [hmem, toNat_ofNat_byte (by omega), Char.ofNat_toNat]
  · have hle := le_of_mem_encodeChar (by omega) hmem
    omega

theorem mem_of_mem_encode {cs : List Char} {b : UInt8} (hb : b.toNat < 0x80)
    (hmem : b ∈ encode cs) : Char.ofNat b.toNat ∈ cs := by
  obtain ⟨c, hc, hmem⟩ := List.mem_flatMap.mp hmem
  rw [← eq_of_mem_encodeChar hb hmem]
  exact hc

theorem getLast?_of_getLast?_encode {cs : List Char} {b : UInt8} (hb : b.toNat < 0x80)
    (hlast : (encode cs).getLast? = some b) : cs.getLast? = some (Char.ofNat b.toNat) := by
  rcases List.eq_nil_or_concat' cs with rfl | ⟨front, c, rfl⟩
  · cases hlast
  · have hne : String.utf8EncodeChar c ≠ [] := String.utf8EncodeChar_ne_nil
    have hencode : encode (front ++ [c]) = encode front ++ String.utf8EncodeChar c := by
      simp [encode]
    rw [hencode, List.getLast?_append_of_ne_nil _ hne] at hlast
    rw [← eq_of_mem_encodeChar hb (List.mem_of_getLast? hlast)]
    simp

end ScriptBench.Text
