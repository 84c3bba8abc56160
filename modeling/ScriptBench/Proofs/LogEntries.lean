import ScriptBench.Log.Logger
import ScriptBench.Proofs.JsonReader
import Mathlib.Data.List.Induction
import Mathlib.Data.String.Basic

namespace ScriptBench.Log

open Json (Printable Value)

def LastAssigned (row : List (String × String)) (key value : String) : Prop :=
  ∃ before later, row = before ++ (key, value) :: later ∧ ∀ e ∈ later, e.1 ≠ key

def Ascending (object : List (String × String)) : Prop := object.Pairwise fun a b => a.1 < b.1

theorem mem_keys_assign {key value k : String} {object : List (String × String)} :
    k ∈ (assign key value object).map Prod.fst ↔ k = key ∨ k ∈ object.map Prod.fst := by
  induction object with
  | nil => simp [assign]
  | cons e rest ih =>
      obtain ⟨first, v⟩ := e
      rw [assign]
      split
      · simp
      · split
        · rename_i heq
          simp [heq]
        · rw [List.map_cons, List.mem_cons, ih, List.map_cons, List.mem_cons]
          exact or_left_comm

theorem ascending_assign {object : List (String × String)} (h : Ascending object)
    (key value : String) : Ascending (assign key value object) := by
  induction object with
  | nil => exact List.pairwise_singleton _ _
  | cons e rest ih =>
      obtain ⟨first, v⟩ := e
      obtain ⟨hfirst, hrest⟩ := List.pairwise_cons.mp h
      rw [assign]
      split
      · rename_i hlt
        refine List.pairwise_cons.mpr ⟨fun e he => ?_, h⟩
        rcases List.mem_cons.mp he with rfl | he
        · exact hlt
        · exact String.lt_trans hlt (hfirst e he)
      · rename_i hnot
        split
        · rename_i heq
          subst heq
          exact List.pairwise_cons.mpr ⟨hfirst, hrest⟩
        · rename_i hne
          refine List.pairwise_cons.mpr ⟨fun e he => ?_, ih hrest⟩
          rcases mem_keys_assign.mp (List.mem_map_of_mem he) with hkey | hmem
          · rw [hkey]
            exact lt_of_le_of_ne (String.not_lt.mp hnot) (Ne.symm hne)
          · obtain ⟨e', he', heq⟩ := List.mem_map.mp hmem
            rw [← heq]
            exact hfirst e' he'

theorem mem_assign_iff {object : List (String × String)} (h : Ascending object)
    {key value k v : String} : (k, v) ∈ assign key value object ↔
      k = key ∧ v = value ∨ k ≠ key ∧ (k, v) ∈ object := by
  induction object with
  | nil =>
      simp only [assign, List.mem_singleton, Prod.mk.injEq, List.not_mem_nil, and_false, or_false]
  | cons e rest ih =>
      obtain ⟨first, w⟩ := e
      obtain ⟨hfirst, hrest⟩ := List.pairwise_cons.mp h
      have hlater : (k, v) ∈ rest → first < k := hfirst (k, v)
      rw [assign]
      split
      · rename_i hlt
        have hne : (k, v) ∈ (first, w) :: rest → k ≠ key := by
          intro hmem
          rcases List.mem_cons.mp hmem with heq | hmem
          · rw [(Prod.mk.inj heq).1]
            exact (ne_of_lt hlt).symm
          · exact (ne_of_lt (String.lt_trans hlt (hlater hmem))).symm
        rw [List.mem_cons, Prod.mk.injEq]
        exact or_congr_right (and_iff_right_of_imp hne).symm
      · split
        · rename_i heq
          subst heq
          have hne : (k, v) ∈ rest → k ≠ key := fun hmem => (ne_of_lt (hlater hmem)).symm
          rw [List.mem_cons, List.mem_cons, Prod.mk.injEq, Prod.mk.injEq]
          refine or_congr_right ⟨fun hmem => ⟨hne hmem, .inr hmem⟩, fun ⟨hk, hmem⟩ => ?_⟩
          exact hmem.resolve_left fun heq => hk heq.1
        · rename_i hne
          have hfirst' : (k, v) = (first, w) → k ≠ key := by
            intro heq
            rw [(Prod.mk.inj heq).1]
            exact Ne.symm hne
          rw [List.mem_cons, List.mem_cons, ih hrest, or_left_comm, and_or_left,
            and_iff_right_of_imp hfirst']

theorem not_lastAssigned_nil (key value : String) : ¬ LastAssigned [] key value := by
  rintro ⟨before, later, hrow, -⟩
  exact absurd hrow (by simp)

theorem lastAssigned_concat_iff {row : List (String × String)} {key value k v : String} :
    LastAssigned (row ++ [(key, value)]) k v ↔
      k = key ∧ v = value ∨ k ≠ key ∧ LastAssigned row k v := by
  constructor
  · rintro ⟨before, later, hrow, hlater⟩
    rcases List.eq_nil_or_concat later with rfl | ⟨front, e, rfl⟩
    · obtain ⟨-, hlast⟩ := List.append_inj' hrow rfl
      obtain ⟨rfl, rfl⟩ := Prod.mk.inj (List.cons.inj hlast).1
      exact .inl ⟨rfl, rfl⟩
    · rw [List.concat_eq_append, ← List.cons_append, ← List.append_assoc] at hrow
      obtain ⟨rfl, hlast⟩ := List.append_inj' hrow rfl
      obtain rfl := (List.cons.inj hlast).1
      simp only [List.concat_eq_append, List.forall_mem_append, List.forall_mem_singleton] at hlater
      exact .inr ⟨Ne.symm hlater.2, before, front, rfl, hlater.1⟩
  · rintro (⟨rfl, rfl⟩ | ⟨hne, before, later, rfl, hlater⟩)
    · exact ⟨row, [], rfl, fun e he => by cases he⟩
    · refine ⟨before, later ++ [(key, value)], by simp, ?_⟩
      rw [List.forall_mem_append, List.forall_mem_singleton]
      exact ⟨hlater, Ne.symm hne⟩

theorem LastAssigned.behind {row : List (String × String)} {k v : String}
    (h : LastAssigned row k v) (front : List (String × String)) :
    LastAssigned (front ++ row) k v := by
  obtain ⟨before, later, rfl, hlater⟩ := h
  exact ⟨front ++ before, later, (List.append_assoc ..).symm, hlater⟩

def objectOf (row : List (String × String)) : List (String × String) :=
  row.foldl (fun o (k, v) => assign k v o) []

theorem objectOf_concat (row : List (String × String)) (key value : String) :
    objectOf (row ++ [(key, value)]) = assign key value (objectOf row) :=
  List.foldl_concat ..

-- Induction on the row from its end, where the assignment that counts stands.
theorem objectOf_last_assigned (row : List (String × String)) :
    Ascending (objectOf row) ∧ ∀ k v, (k, v) ∈ objectOf row ↔ LastAssigned row k v := by
  induction row using List.reverseRecOn with
  | nil =>
      refine ⟨List.Pairwise.nil, fun k v => ?_⟩
      exact iff_of_false List.not_mem_nil (not_lastAssigned_nil k v)
  | append_singleton row e ih =>
      obtain ⟨key, value⟩ := e
      obtain ⟨hascending, hmem⟩ := ih
      rw [objectOf_concat]
      refine ⟨ascending_assign hascending key value, fun k v => ?_⟩
      rw [mem_assign_iff hascending, lastAssigned_concat_iff, hmem]

structure LineOf (row : List (String × String)) (text : List Char)
    (object : List (String × String)) : Prop where
  line : ∃ body, text = body ++ ['\n'] ∧ Printable body ∧
    Json.parse body = some (.object (object.map fun e => (e.1, Value.string e.2)))
  ascending : Ascending object
  values : ∀ k v, (k, v) ∈ object ↔ LastAssigned row k v

theorem lineOf_render (e : Entry) (clock : Clock) :
    LineOf (e.assignments clock) (e.render clock .json).toList (e.object clock) where
  line := by
    refine ⟨_, ?_, Json.printable_chars _, Json.parse_chars _⟩
    rw [Entry.render, String.toList_append, Value.render, String.toList_ofList]
    rfl
  ascending := (objectOf_last_assigned _).1
  values := (objectOf_last_assigned _).2

section LineOf

variable {row fields object : List (String × String)} {text : List Char}
  {stamp level message : String}

theorem LineOf.ne_nil (h : LineOf row text object) : text ≠ [] := by
  obtain ⟨body, rfl, -⟩ := h.line
  exact List.append_ne_nil_of_right_ne_nil body (List.cons_ne_nil '\n' [])

theorem LineOf.message_mem (h : LineOf (row ++ [("message", message)]) text object) :
    ("message", message) ∈ object :=
  (h.values _ _).mpr (lastAssigned_concat_iff.mpr (.inl ⟨rfl, rfl⟩))

theorem LineOf.field_mem {key value : String}
    (h : LineOf (("time", stamp) :: ("level", level) :: fields ++ [("message", message)]) text
      object)
    (hkey : key ≠ "message") (hlast : LastAssigned fields key value) : (key, value) ∈ object := by
  refine (h.values _ _).mpr (lastAssigned_concat_iff.mpr (.inr ⟨hkey, ?_⟩))
  exact hlast.behind [("time", stamp), ("level", level)]

end LineOf

inductive Derivation where
  | field (key value : String)
  | component (name : String)
deriving DecidableEq, Repr

def Derivation.pair : Derivation → String × String
  | .field key value => (key, value)
  | .component name => ("component", name)

namespace Logger

def derive (l : Logger) : Derivation → Logger
  | .field key value => l.withField key value
  | .component name => l.component name

def under (l : Logger) (chain : List Derivation) : Logger := chain.foldl derive l

theorem under_concat (l : Logger) (chain : List Derivation) (d : Derivation) :
    l.under (chain ++ [d]) = (l.under chain).derive d := List.foldl_concat ..

theorem under_eq (l : Logger) (chain : List Derivation) :
    l.under chain = { l with fields := l.fields ++ chain.map Derivation.pair } := by
  induction chain using List.reverseRecOn with
  | nil => simp [under]
  | append_singleton chain d ih =>
      rw [under_concat, ih, List.map_append, ← List.append_assoc]
      cases d <;> rfl

section Write

variable {filter level : Level} {chain : List Derivation} {clock : Clock} {message : String}
  {extra : List (String × String)}

theorem write_under : ((new filter .json).under chain).write clock level message extra =
    if filter.passes level then
      Entry.render ⟨level, chain.map Derivation.pair ++ extra, message⟩ clock .json
    else "" := by
  simp only [under_eq, write, entryOf, new, List.nil_append]
  cases filter.passes level <;> rfl

theorem exists_lineOf_write (h : filter.passes level = true) :
    ∃ object, LineOf (("time", clock.stamp) :: ("level", level.name) ::
        (chain.map Derivation.pair ++ extra) ++ [("message", message)])
      (((new filter .json).under chain).write clock level message extra).toList object := by
  rw [write_under, if_pos h]
  exact ⟨_, lineOf_render ⟨level, _, message⟩ clock⟩

theorem write_eq_nil_iff :
    (((new filter .json).under chain).write clock level message extra).toList = [] ↔
      filter.passes level = false := by
  cases hpasses : filter.passes level with
  | false =>
      rw [write_under, hpasses]
      exact iff_of_true rfl rfl
  | true =>
      obtain ⟨object, hline⟩ := exists_lineOf_write hpasses
      exact iff_of_false hline.ne_nil Bool.false_ne_true.symm

end Write

end Logger

structure Family where
  loggers : List Logger
  written : String
deriving DecidableEq, Repr

inductive Use where
  | derives (on : Nat) (d : Derivation)
  | writes (on : Nat) (clock : Clock) (level : Level) (message : String)
    (extra : List (String × String))
deriving DecidableEq, Repr

namespace Family

def new (root : Logger) : Family := ⟨[root], ""⟩

def step (f : Family) : Use → Family
  | .derives on d => match f.loggers[on]? with
    | some l => { f with loggers := f.loggers ++ [l.derive d] }
    | none => f
  | .writes on clock level message extra => match f.loggers[on]? with
    | some l => { f with written := f.written ++ l.write clock level message extra }
    | none => f

def after (f : Family) (uses : List Use) : Family := uses.foldl step f

theorem after_append (f : Family) (uses later : List Use) :
    f.after (uses ++ later) = (f.after uses).after later := List.foldl_append

theorem written_step_writes {f : Family} {i : Nat} {l : Logger} (h : f.loggers[i]? = some l)
    (clock : Clock) (level : Level) (message : String) (extra : List (String × String)) :
    (f.step (.writes i clock level message extra)).written =
      f.written ++ l.write clock level message extra := by
  rw [step, h]

theorem getElem?_step {f : Family} {i : Nat} {l : Logger} (h : f.loggers[i]? = some l) (u : Use) :
    (f.step u).loggers[i]? = some l := by
  cases u with
  | derives on d =>
      rw [step]
      split
      · exact List.getElem?_append_left (List.getElem?_eq_some_iff.mp h).1 ▸ h
      · exact h
  | writes on clock level message extra =>
      rw [step]
      split <;> exact h

theorem getElem?_after {f : Family} {i : Nat} {l : Logger} (h : f.loggers[i]? = some l)
    (uses : List Use) : (f.after uses).loggers[i]? = some l := by
  induction uses generalizing f with
  | nil => exact h
  | cons u uses ih => exact ih (getElem?_step h u)

def AllUnder (root : Logger) (f : Family) : Prop := ∀ l ∈ f.loggers, ∃ chain, l = root.under chain

theorem allUnder_step {root : Logger} {f : Family} (h : AllUnder root f) (u : Use) :
    AllUnder root (f.step u) := by
  cases u with
  | derives on d =>
      rw [step]
      split
      · rename_i l hl
        obtain ⟨chain, rfl⟩ := h l (List.mem_of_getElem? hl)
        refine List.forall_mem_append.mpr ⟨h, List.forall_mem_singleton.mpr ?_⟩
        exact ⟨chain ++ [d], (root.under_concat chain d).symm⟩
      · exact h
  | writes on clock level message extra =>
      rw [step]
      split <;> exact h

theorem allUnder_after (root : Logger) (uses : List Use) :
    AllUnder root ((new root).after uses) := by
  have hall (f : Family) (h : AllUnder root f) : AllUnder root (f.after uses) := by
    induction uses generalizing f with
    | nil => exact h
    | cons u uses ih => exact ih (f.step u) (allUnder_step h u)
  exact hall (new root) (List.forall_mem_singleton.mpr ⟨[], rfl⟩)

end Family

theorem written_lines_are_objects (filter : Level) :
    let root := Logger.new filter .json
    (∀ chain clock level message extra,
      let text := ((root.under chain).write clock level message extra).toList
      let fields := chain.map Derivation.pair ++ extra
      let row := ("time", clock.stamp) :: ("level", level.name) :: fields ++ [("message", message)]
      (text = [] ↔ filter.passes level = false) ∧
      (filter.passes level = true → ∃ object, LineOf row text object ∧
        ("message", message) ∈ object ∧
        ∀ key value, key ≠ "message" → LastAssigned fields key value → (key, value) ∈ object)) ∧
    ∀ uses i l, ((Family.new root).after uses).loggers[i]? = some l →
      (∃ chain, l = root.under chain) ∧
      ∀ later clock level message extra,
        let f := (Family.new root).after (uses ++ later)
        (f.step (.writes i clock level message extra)).written =
          f.written ++ l.write clock level message extra := by
  intro root
  refine ⟨fun chain clock level message extra => ?_, fun uses i l hl => ⟨?_, ?_⟩⟩
  · refine ⟨Logger.write_eq_nil_iff, fun hpasses => ?_⟩
    obtain ⟨object, hline⟩ := Logger.exists_lineOf_write hpasses
    exact ⟨object, hline, hline.message_mem, fun _ _ => hline.field_mem⟩
  · exact Family.allUnder_after root uses l (List.mem_of_getElem? hl)
  · intro later clock level message extra
    refine Family.written_step_writes ?_ clock level message extra
    rw [Family.after_append]
    exact Family.getElem?_after hl later

theorem lines_of_two_services :
    let root := Logger.new .info .json
    let noon : Clock := ⟨"12:00:00", "2024-05-01T12:00:00+00:00"⟩
    let text := ((root.component "store").write noon .warn "a\nb" [("time", "\"")]).toList
    let both := (Family.new root).after ([.derives 0 (.component "store"),
      .derives 0 (.component "web")] ++ [.writes 1 noon .warn "b" []])
    (∃ object, LineOf [("time", noon.stamp), ("level", "WARN"), ("component", "store"),
        ("time", "\""), ("message", "a\nb")] text object ∧
      ("message", "a\nb") ∈ object ∧ ("time", "\"") ∈ object) ∧
      root.write noon .debug "a" [] = "" ∧
      (both.step (.writes 2 noon .error "a" [])).written =
        both.written ++ (root.component "web").write noon .error "a" [] := by
  intro root noon text both
  obtain ⟨hlines, hfamily⟩ := written_lines_are_objects .info
  obtain ⟨object, hline, hmessage, hlast⟩ :=
    (hlines [.component "store"] noon .warn "a\nb" [("time", "\"")]).2 (by decide)
  have htime : LastAssigned [("component", "store"), ("time", "\"")] "time" "\"" :=
    ⟨[("component", "store")], [], rfl, fun e he => by cases he⟩
  have hquiet := (hlines [] noon .debug "a" []).1.mpr (by decide)
  refine ⟨⟨object, hline, hmessage, hlast _ _ (by decide) htime⟩, ?_, ?_⟩
  · exact String.toList_eq_nil_iff.mp hquiet
  · exact (hfamily [.derives 0 (.component "store"), .derives 0 (.component "web")] 2
      (root.component "web") rfl).2 [.writes 1 noon .warn "b" []] noon .error "a" []

end ScriptBench.Log
