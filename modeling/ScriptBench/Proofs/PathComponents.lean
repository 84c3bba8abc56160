import ScriptBench.Machine.Path

namespace ScriptBench.Machine

theorem piecesOf_eq_splitOn (cs : List Char) :
    (piecesOf cs).1 :: (piecesOf cs).2 = cs.splitOn '/' := by
  induction cs with
  | nil => rfl
  | cons c cs ih =>
      rw [List.splitOn_cons_eq_if_modifyHead, ← ih, piecesOf]
      by_cases hc : c = '/' <;> simp [hc]

theorem pieces_eq_splitOn (path : String) :
    pieces path = (path.toList.splitOn '/').map String.ofList := by
  rw [← piecesOf_eq_splitOn]
  rfl

theorem components_append_slash (front back : String) :
    components (front ++ "/" ++ back) = components front ++ components back := by
  have hcut : (front ++ "/" ++ back).toList = front.toList ++ '/' :: back.toList := by simp
  rw [components, pieces_eq_splitOn, hcut, List.splitOn_append_cons_self, List.map_append,
    List.filter_append, ← pieces_eq_splitOn, ← pieces_eq_splitOn, ← components, ← components]

theorem components_slash (front : String) : components (front ++ "/") = components front := by
  have h := components_append_slash front ""
  rw [String.append_empty] at h
  exact h.trans (List.append_nil _)

theorem components_of_no_slash {name : String} (hne : name ≠ "") (h : '/' ∉ name.toList) :
    components name = [name] := by
  rw [components, pieces_eq_splitOn, List.splitOn_eq_singleton h]
  simp [hne]

theorem components_join (base : String) {path : String} (h : isAbsolute path = false) :
    components (joinPath base path) = components base ++ components path := by
  rw [joinPath, if_neg (by simp [h])]
  by_cases hempty : base = ""
  · rw [hempty, if_pos (by simp), String.empty_append]
    rfl
  · by_cases hslash : base.toList.getLast? = some '/'
    · obtain ⟨front, hfront⟩ := List.getLast?_eq_some_iff.mp hslash
      have hbase : base = String.ofList front ++ "/" := by
        rw [← String.toList_inj, hfront]
        simp
      rw [if_pos (by simp [hslash]), hbase, components_append_slash, components_slash]
    · rw [if_neg (by simp [hempty, hslash]), components_append_slash]

theorem isAbsolute_join (base : String) {path : String} (h : isAbsolute path = false) :
    isAbsolute (joinPath base path) = isAbsolute base := by
  rw [joinPath, if_neg (by simp [h])]
  by_cases hempty : base = ""
  · rw [hempty, if_pos (by simp), String.empty_append, h]
    rfl
  · have hne : base.toList ≠ [] := by simpa using hempty
    obtain ⟨c, cs, hbase⟩ := List.exists_cons_of_ne_nil hne
    split <;> simp [isAbsolute, hbase]

theorem components_join_join (base directory : String) {name : String}
    (h : isAbsolute name = false) :
    components (joinPath base (joinPath directory name)) =
      components (joinPath base directory) ++ components name := by
  have hjoin := isAbsolute_join directory h
  cases hdirectory : isAbsolute directory with
  | true =>
      rw [hdirectory] at hjoin
      rw [joinPath, if_pos hjoin, joinPath.eq_def base directory, if_pos hdirectory,
        components_join directory h]
  | false =>
      rw [hdirectory] at hjoin
      rw [components_join base hjoin, components_join base hdirectory, components_join directory h,
        List.append_assoc]

theorem exists_front_join (base path : String) : ∃ front, joinPath base path = front ++ path := by
  rw [joinPath]
  split
  · exact ⟨"", by simp⟩
  · split
    · exact ⟨base, rfl⟩
    · exact ⟨base ++ "/", rfl⟩

end ScriptBench.Machine
