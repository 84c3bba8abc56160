import ScriptBench.Machine.Path
import ScriptBench.Text.Utf8

namespace ScriptBench.Machine

inductive SystemError where
  | notFound
  | denied
  | notDirectory
  | isDirectory
  | nameTooLong
  | full
  | taken
  | notText
  | nulInName
  | nulInArgument
deriving DecidableEq, Repr

def SystemError.message : SystemError → String
  | .notFound => "No such file or directory (os error 2)"
  | .denied => "Permission denied (os error 13)"
  | .notDirectory => "Not a directory (os error 20)"
  | .isDirectory => "Is a directory (os error 21)"
  | .nameTooLong => "File name too long (os error 36)"
  | .full => "No space left on device (os error 28)"
  | .taken => "too many temporary files exist"
  | .notText => "stream did not contain valid UTF-8"
  | .nulInName => "file name contained an unexpected NUL byte"
  | .nulInArgument => "nul byte found in provided data"

inductive Content where
  | directory
  | file (bytes : List UInt8)
deriving DecidableEq, Repr

abbrev Place := List String

structure Files where
  entries : List (Place × Content)
deriving DecidableEq, Repr

namespace Files

def empty : Files := ⟨[]⟩

def at? (fs : Files) (p : Place) : Option Content :=
  if p.isEmpty then some .directory else fs.entries.lookup p

def set (fs : Files) (p : Place) (c : Content) : Files :=
  ⟨(p, c) :: fs.entries.filter fun e => e.1 != p⟩

def remove (fs : Files) (p : Place) : Files := ⟨fs.entries.filter fun e => e.1 != p⟩

theorem ne_nil_of_at?_eq_none {fs : Files} {p : Place} (h : fs.at? p = none) : p ≠ [] := by
  rintro rfl
  cases h

theorem at?_of_ne_nil (fs : Files) {p : Place} (hp : p ≠ []) : fs.at? p = fs.entries.lookup p := by
  rw [at?, if_neg (by simpa using hp)]

theorem lookup_filter_ne (entries : List (Place × Content)) (p q : Place) :
    (entries.filter fun e => e.1 != p).lookup q = if q = p then none else entries.lookup q := by
  induction entries with
  | nil => simp
  | cons e entries ih =>
      obtain ⟨place, c⟩ := e
      by_cases hplace : place = p
      · subst hplace
        rw [List.filter_cons_of_neg (by simp), ih]
        by_cases hq : q = place
        · rw [if_pos hq, if_pos hq]
        · rw [List.lookup_cons, beq_eq_false_iff_ne.mpr hq]
      · rw [List.filter_cons_of_pos (by simpa using hplace), List.lookup_cons, List.lookup_cons, ih]
        by_cases hq : q = place
        · subst hq
          simp [hplace]
        · rw [beq_eq_false_iff_ne.mpr hq]

theorem at?_remove (fs : Files) {p : Place} (hp : p ≠ []) (q : Place) :
    (fs.remove p).at? q = if q = p then none else fs.at? q := by
  cases q with
  | nil => rw [if_neg (Ne.symm hp)]; rfl
  | cons name q =>
      rw [at?_of_ne_nil _ (List.cons_ne_nil name q), at?_of_ne_nil _ (List.cons_ne_nil name q)]
      exact lookup_filter_ne fs.entries p (name :: q)

theorem at?_set (fs : Files) {p : Place} (hp : p ≠ []) (c : Content) (q : Place) :
    (fs.set p c).at? q = if q = p then some c else fs.at? q := by
  cases q with
  | nil => rw [if_neg (Ne.symm hp)]; rfl
  | cons name q =>
      rw [at?_of_ne_nil _ (List.cons_ne_nil name q), at?_of_ne_nil _ (List.cons_ne_nil name q), set,
        List.lookup_cons, lookup_filter_ne]
      by_cases hq : name :: q = p
      · rw [beq_iff_eq.mpr hq, if_pos hq, if_pos hq]
      · rw [beq_eq_false_iff_ne.mpr hq, if_neg hq, if_neg hq]

theorem remove_set {fs : Files} {p : Place} (h : fs.at? p = none) (c : Content) :
    (fs.set p c).remove p = fs := by
  have hnone := (at?_of_ne_nil fs (ne_nil_of_at?_eq_none h)).symm.trans h
  have hfree : ∀ e ∈ fs.entries, (e.1 != p) = true := by
    intro e he
    rw [bne_comm]
    exact List.lookup_eq_none_iff.mp hnone e he
  rw [set, remove, List.filter_cons_of_neg (by simp), List.filter_filter,
    List.filter_eq_self.mpr (by simpa using hfree)]

def countIn (fs : Files) (p : Place) : Nat :=
  (fs.entries.filter fun e => e.1.dropLast == p && e.1 != []).length

def longestName : Nat := 255

def walk (fs : Files) (from_ : Place) : List String → Except SystemError Place
  | [] => .ok from_
  | name :: more =>
    match fs.at? from_ with
    | none => .error .notFound
    | some (.file _) => .error .notDirectory
    | some .directory =>
      if name.isEmpty || name == "." then walk fs from_ more
      else if name == ".." then walk fs from_.dropLast more
      else if longestName < name.utf8ByteSize then .error .nameTooLong
      else walk fs (from_ ++ [name]) more

def locate (fs : Files) (directory : Place) (path : String) : Except SystemError Place :=
  if path.toList.contains '\x00' then .error .nulInName
  else if path.isEmpty then .error .notFound
  else fs.walk (if isAbsolute path then [] else directory) (pieces path)

def contentAt (fs : Files) (directory : Place) (path : String) : Except SystemError Content := do
  let p ← fs.locate directory path
  match fs.at? p with
  | none => .error .notFound
  | some c => .ok c

def readText (fs : Files) (directory : Place) (path : String) : Except SystemError String := do
  match ← fs.contentAt directory path with
  | .directory => .error .isDirectory
  | .file bytes =>
    match Text.decode? bytes with
    | some cs => .ok (String.ofList cs)
    | none => .error .notText

def put (fs : Files) (p : Place) (c : Content) : Files :=
  let above := (List.range p.length).map fun n => p.take n
  let fs := above.foldl
    (fun fs d => if (fs.at? d).isSome then fs else fs.set d .directory) fs
  fs.set p c

def ofSystem : Files :=
  let directories := [["bin"], ["boot"], ["dev"], ["etc"], ["home"], ["lib"], ["media"], ["mnt"],
    ["opt"], ["proc"], ["root"], ["run"], ["sbin"], ["srv"], ["sys"], ["tmp"], ["usr"],
    ["usr", "bin"], ["var"], ["var", "tmp"]]
  (directories.foldl (fun fs d => fs.put d .directory) empty).put ["dev", "null"] (.file [])

end Files

end ScriptBench.Machine
