import ScriptBench.Proofs.EncodedText
import ScriptBench.Proofs.LineCollection

namespace ScriptBench.Run

inductive Written : List String → List UInt8 → Prop
  | nil : Written [] []
  | feed {line lines bs} : '\n' ∉ line.toList → line.toList.getLast? ≠ some '\r' →
      Written lines bs → Written (line :: lines) (Text.bytes line ++ lineFeed :: bs)
  | returnFeed {line lines bs} : '\n' ∉ line.toList → Written lines bs →
      Written (line :: lines) (Text.bytes line ++ carriageReturn :: lineFeed :: bs)
  | unterminated {line} : line ≠ "" → '\n' ∉ line.toList → line.toList.getLast? ≠ some '\r' →
      Written [line] (Text.bytes line)

section Line

variable {line : String}

theorem ofList_decode_bytes (line : String) :
    String.ofList (Text.decode (Text.bytes line)) = line := by
  rw [Text.bytes, Text.decode_encode, String.ofList_toList]

theorem bytes_ne_nil (h : line ≠ "") : Text.bytes line ≠ [] := by
  intro hnil
  have hback := ofList_decode_bytes line
  rw [hnil, Text.decode, Text.characters, List.map_nil] at hback
  exact h hback.symm

theorem lineFeed_not_mem_bytes (h : '\n' ∉ line.toList) : lineFeed ∉ Text.bytes line :=
  fun hmem => h (Text.mem_of_mem_encode (by decide) hmem)

theorem getLast?_bytes_ne_return (h : line.toList.getLast? ≠ some '\r') :
    (Text.bytes line).getLast? ≠ some carriageReturn :=
  fun hlast => h (Text.getLast?_of_getLast?_encode (by decide) hlast)

theorem decodeLine_concat_feed (raw : List UInt8) :
    decodeLine (raw ++ [lineFeed]) =
      String.ofList (Text.decode
        (if raw.getLast? = some carriageReturn then raw.dropLast else raw)) := by
  rw [decodeLine, if_pos List.getLast?_concat, List.dropLast_concat]

theorem decodeLine_feed (h : line.toList.getLast? ≠ some '\r') :
    decodeLine (Text.bytes line ++ [lineFeed]) = line := by
  rw [decodeLine_concat_feed, if_neg (getLast?_bytes_ne_return h), ofList_decode_bytes]

theorem decodeLine_returnFeed (line : String) :
    decodeLine (Text.bytes line ++ [carriageReturn] ++ [lineFeed]) = line := by
  rw [decodeLine_concat_feed, if_pos List.getLast?_concat, List.dropLast_concat,
    ofList_decode_bytes]

theorem decodeLine_unterminated (hfeed : '\n' ∉ line.toList)
    (hreturn : line.toList.getLast? ≠ some '\r') : decodeLine (Text.bytes line) = line := by
  have hlast : (Text.bytes line).getLast? ≠ some lineFeed :=
    fun h => lineFeed_not_mem_bytes hfeed (List.mem_of_getLast? h)
  rw [decodeLine, if_neg hlast, if_neg (getLast?_bytes_ne_return hreturn), ofList_decode_bytes]

end Line

theorem linesOf_append_feed {raw bs : List UInt8} (h : lineFeed ∉ raw) :
    linesOf (raw ++ lineFeed :: bs) = decodeLine (raw ++ [lineFeed]) :: linesOf bs := by
  have hcut : cutLine? (raw ++ lineFeed :: bs) = some (raw ++ [lineFeed], bs) :=
    cutLine?_eq_some_iff.mpr ⟨raw, h, rfl, rfl⟩
  rw [linesOf, pieces_of_cut hcut, List.map_cons, linesOf]

theorem linesOf_of_not_mem {raw : List UInt8} (hne : raw ≠ []) (h : lineFeed ∉ raw) :
    linesOf raw = [decodeLine raw] := by
  rw [linesOf, pieces_of_not_cut (cutLine?_eq_none_iff.mpr h), if_neg hne, List.map_singleton]

theorem linesOf_written {lines : List String} {bs : List UInt8} (h : Written lines bs) :
    linesOf bs = lines := by
  induction h with
  | nil => rfl
  | @feed line lines bs hfeed hreturn _ ih =>
      rw [linesOf_append_feed (lineFeed_not_mem_bytes hfeed), decodeLine_feed hreturn, ih]
  | @returnFeed line lines bs hfeed _ ih =>
      have hraw : lineFeed ∉ Text.bytes line ++ [carriageReturn] := by
        rw [List.mem_append, not_or]
        exact ⟨lineFeed_not_mem_bytes hfeed, by decide⟩
      have happend : Text.bytes line ++ carriageReturn :: lineFeed :: bs =
          Text.bytes line ++ [carriageReturn] ++ lineFeed :: bs := by simp
      rw [happend, linesOf_append_feed hraw, decodeLine_returnFeed, ih]
  | @unterminated line hne hfeed hreturn =>
      rw [linesOf_of_not_mem (bytes_ne_nil hne) (lineFeed_not_mem_bytes hfeed),
        decodeLine_unterminated hfeed hreturn]

namespace LineStream

theorem written_lines_read_back (capacity : Nat) {lines : List String} {reads : List Supply}
    (hgives : ∀ r ∈ reads, r.Gives) (hwritten : Written lines (contents reads)) :
    ((new (handedOut capacity reads)).rest false).1 = lines ∧
    ∀ ls, (new (handedOut capacity reads)).Collects ls ↔ ls = lines := by
  have hhanded : ∀ r ∈ handedOut capacity reads, r.Gives := gives_of_mem_handedOut hgives
  have hcollects : (new (handedOut capacity reads)).Collects lines := by
    have hyields := yields_new hhanded
    rw [contents_handedOut, linesOf_written hwritten] at hyields
    exact collects_of_yields hyields
  refine ⟨(collects_rest hhanded).unique hcollects, fun ls => ⟨fun h => h.unique hcollects, ?_⟩⟩
  rintro rfl
  exact hcollects

-- The first line keeps its own carriage return, the second is empty, the third has a character that
-- two reads share, and the last one just stops.
theorem written_lines_of_four_endings :
    (∀ r ∈ [Supply.bytes [97, 13], .bytes [13], .interrupted, .bytes [10, 10, 0xe2, 0x82],
        .bytes [0xac, 10, 98]], r.Gives) ∧
      Written ["a\r", "", "€", "b"] [97, 13, 13, 10, 10, 0xe2, 0x82, 0xac, 10, 98] ∧
      ((new (handedOut 1 [.bytes [97, 13], .bytes [13], .interrupted, .bytes [10, 10, 0xe2, 0x82],
        .bytes [0xac, 10, 98]])).rest false).1 = ["a\r", "", "€", "b"] := by
  have hgives : ∀ r ∈ [Supply.bytes [97, 13], .bytes [13], .interrupted,
      .bytes [10, 10, 0xe2, 0x82], .bytes [0xac, 10, 98]], r.Gives := by simp [Supply.Gives]
  have hwritten : Written ["a\r", "", "€", "b"] [97, 13, 13, 10, 10, 0xe2, 0x82, 0xac, 10, 98] := by
    have hlast : Written ["b"] [98] := .unterminated (by decide) (by decide) (by decide)
    have hthird : Written ["€", "b"] [0xe2, 0x82, 0xac, 10, 98] :=
      .feed (by decide) (by decide) hlast
    have hsecond : Written ["", "€", "b"] [10, 0xe2, 0x82, 0xac, 10, 98] :=
      .feed (by decide) (by decide) hthird
    exact .returnFeed (by decide) hsecond
  exact ⟨hgives, hwritten, (written_lines_read_back 1 hgives hwritten).1⟩

end LineStream

end ScriptBench.Run
