/-
A tree of directories and files under paths, and the elementary operations on it.  An
operation works on one path and may fail on what it finds there; a list of them is
carried out up to the first that fails.
-/
import Mathlib.Data.List.Infix
import Mathlib.Logic.Function.Basic

namespace FileTree

universe u v

variable {N : Type u} {B : Type v}

/-- A directory, or a file with its bytes and its mode. -/
inductive Entry (B : Type v) where
  | dir
  | file (data : List B) (mode : Nat)
deriving Repr, DecidableEq

def Entry.file? : Entry B → Option (List B × Nat)
  | .dir => none
  | .file data mode => some (data, mode)

/-- What stands at each path. -/
abbrev Tree (N : Type u) (B : Type v) := List N → Option (Entry B)

def fileAt (t : Tree N B) (path : List N) : Option (List B × Nat) := (t path).bind Entry.file?

/-- The elementary operations: make a directory, open a file for writing and so empty it,
write to it, and set its mode. -/
inductive Op (N : Type u) (B : Type v) where
  | mkdir (path : List N)
  | create (path : List N) (mode : Nat)
  | write (path : List N) (data : List B)
  | chmod (path : List N) (mode : Nat)

def Op.path : Op N B → List N
  | .mkdir path | .create path _ | .write path _ | .chmod path _ => path

/-- The directory of the path is there. -/
def hasParent (t : Tree N B) (path : List N) : Bool :=
  path.isEmpty || match t path.dropLast with
    | some .dir => true
    | _ => false

variable [DecidableEq N]

/-- One operation; `none` when it fails. -/
def apply (t : Tree N B) : Op N B → Option (Tree N B)
  | .mkdir path =>
    match t path with
    | some .dir => some t
    | some (.file _ _) => none
    | none => if hasParent t path then some (Function.update t path (some .dir)) else none
  | .create path mode =>
    match t path with
    | some .dir => none
    -- an existing file keeps its mode
    | some (.file _ old) => some (Function.update t path (some (.file [] old)))
    | none =>
      if hasParent t path then some (Function.update t path (some (.file [] mode))) else none
  | .write path data =>
    match t path with
    | some (.file _ mode) => some (Function.update t path (some (.file data mode)))
    | _ => none
  | .chmod path mode =>
    match t path with
    | some (.file data _) => some (Function.update t path (some (.file data mode)))
    | some .dir => some t
    | none => none

/-- The operations one after the other, up to the first that fails; whether none did. -/
def applyAll (t : Tree N B) : List (Op N B) → Tree N B × Bool
  | [] => (t, true)
  | op :: ops =>
    match apply t op with
    | some t' => applyAll t' ops
    | none => (t, false)

/-- `os.MkdirAll`, one directory at a time. -/
def mkdirAll (path : List N) : List (Op N B) := path.inits.map .mkdir

/-- `os.WriteFile` and `os.Chmod`. -/
def writeFile (path : List N) (data : List B) (mode : Nat) : List (Op N B) :=
  [.create path mode, .write path data, .chmod path mode]

structure NewFile (N : Type u) (B : Type v) where
  path : List N
  mode : Nat
  data : List B
deriving Repr, DecidableEq

/-- Write files one after the other, with the directories they need. -/
def writeAll (files : List (NewFile N B)) : List (Op N B) :=
  files.flatMap fun f => mkdirAll f.path.dropLast ++ writeFile f.path f.data f.mode

/-- The file that is written last at a path. -/
def lastFile : List (NewFile N B) → List N → Option (List B × Nat)
  | [], _ => none
  | f :: files, path =>
    (lastFile files path).or (if path = f.path then some (f.data, f.mode) else none)

/-- Remove what is at or below a path, but for what cannot be removed. -/
def removeAll (root : List N) (kept : List N → Bool) (t : Tree N B) : Tree N B :=
  fun path => if root <+: path ∧ kept path = false then none else t path

section Apply

variable {t t' : Tree N B} {op : Op N B} {ops : List (Op N B)} {path : List N} {made root : List N}
  {files : List (NewFile N B)}

theorem apply_other (h : apply t op = some t') (hne : path ≠ op.path) : t' path = t path := by
  cases op <;> simp only [apply] at h <;> repeat' split at h
  all_goals first
    | cases h
      rfl
    | cases h
      exact Function.update_of_ne hne _ _
    | cases h

theorem applyAll_other (h : ∀ op ∈ ops, path ≠ op.path) : (applyAll t ops).1 path = t path := by
  induction ops generalizing t with
  | nil => rfl
  | cons op ops ih =>
    rw [applyAll]
    cases happly : apply t op with
    | none => rfl
    | some t' =>
      have hrest := ih (t := t') fun op hop => h op (List.mem_cons_of_mem _ hop)
      exact hrest.trans (apply_other happly (h op List.mem_cons_self))

theorem applyAll_append (t : Tree N B) (ops more : List (Op N B)) : applyAll t (ops ++ more) =
      if (applyAll t ops).2 then applyAll (applyAll t ops).1 more else applyAll t ops := by
  induction ops generalizing t with
  | nil => simp [applyAll]
  | cons op ops ih =>
    rw [List.cons_append, applyAll, applyAll]
    cases happly : apply t op with
    | none => simp
    | some t' => exact ih t'

/-- Making a directory changes no file. -/
theorem fileAt_mkdir (h : apply t (.mkdir made) = some t') (path : List N) :
    fileAt t' path = fileAt t path := by
  simp only [apply] at h
  split at h
  · rw [Option.some.inj h]
  · cases h
  · rename_i hnone
    split at h
    · obtain rfl := Option.some.inj h
      by_cases hpath : path = made
      · subst hpath
        simp [fileAt, hnone, Entry.file?]
      · simp [fileAt, Function.update_of_ne hpath]
    · cases h

theorem fileAt_applyAll_mkdir {dirs : List (List N)} (t : Tree N B) (path : List N) :
    fileAt (applyAll t (dirs.map .mkdir)).1 path = fileAt t path := by
  induction dirs generalizing t with
  | nil => rfl
  | cons made dirs ih =>
    rw [List.map_cons, applyAll]
    cases happly : apply t (.mkdir made) with
    | none => rfl
    | some t' => exact (ih t').trans (fileAt_mkdir happly path)

/-- A write that succeeds leaves its data at its path and every other file as it was. -/
theorem fileAt_writeFile {data : List B} {mode : Nat}
    (h : (applyAll t (writeFile made data mode)).2 = true) (path : List N) :
    fileAt (applyAll t (writeFile made data mode)).1 path =
      if path = made then some (data, mode) else fileAt t path := by
  by_cases hpath : path = made
  · subst hpath
    have hopen : ∃ t₁ old, apply t (.create path mode) = some t₁ ∧
        t₁ path = some (.file [] old) := by
      cases hcreate : apply t (.create path mode) with
      | none => simp [writeFile, applyAll, hcreate] at h
      | some t₁ =>
        simp only [apply] at hcreate
        split at hcreate
        · cases hcreate
        · rename_i old _
          obtain rfl := Option.some.inj hcreate
          exact ⟨_, old, rfl, Function.update_self _ _ _⟩
        · split at hcreate
          · obtain rfl := Option.some.inj hcreate
            exact ⟨_, mode, rfl, Function.update_self _ _ _⟩
          · cases hcreate
    obtain ⟨t₁, old, hcreate, hold⟩ := hopen
    have hwrite : apply t₁ (.write path data) =
        some (Function.update t₁ path (some (.file data old))) := by
      simp [apply, hold]
    have hchmod : apply (Function.update t₁ path (some (.file data old))) (.chmod path mode) =
        some (Function.update t₁ path (some (.file data mode))) := by
      simp [apply]
    simp only [writeFile, applyAll, hcreate, hwrite, hchmod]
    simp [fileAt, Entry.file?]
  · rw [if_neg hpath, fileAt, fileAt, applyAll_other]
    intro op hop
    simp only [writeFile, List.mem_cons, List.not_mem_nil, or_false] at hop
    rcases hop with rfl | rfl | rfl <;> exact hpath

theorem fileAt_mkdirAll (t : Tree N B) (made path : List N) :
    fileAt (applyAll t (mkdirAll made)).1 path = fileAt t path :=
  fileAt_applyAll_mkdir t path

/-- Once files are written, each path holds the last of them, or what it held. -/
theorem fileAt_writeAll (h : (applyAll t (writeAll files)).2 = true) (path : List N) :
    fileAt (applyAll t (writeAll files)).1 path = (lastFile files path).or (fileAt t path) := by
  induction files generalizing t with
  | nil => rfl
  | cons f files ih =>
    have hsplit : writeAll (f :: files) =
        mkdirAll f.path.dropLast ++ (writeFile f.path f.data f.mode ++ writeAll files) := by
      simp [writeAll]
    rw [hsplit, applyAll_append] at h ⊢
    cases hdirs : (applyAll t (mkdirAll f.path.dropLast)).2 with
    | false => simp [hdirs] at h
    | true =>
      rw [hdirs, applyAll_append] at h
      rw [if_pos rfl, applyAll_append]
      generalize hmade : (applyAll t (mkdirAll f.path.dropLast)).1 = t₁ at h ⊢
      cases hwrite : (applyAll t₁ (writeFile f.path f.data f.mode)).2 with
      | false => simp [hwrite] at h
      | true =>
        rw [hwrite] at h
        rw [if_pos rfl, ih h, fileAt_writeFile hwrite, ← hmade, fileAt_mkdirAll, lastFile]
        cases lastFile files path with
        | some last => rfl
        | none =>
          by_cases hpath : path = f.path
          · simp [hpath]
          · simp [hpath]

theorem lastFile_isSome {path : List N} :
    (lastFile files path).isSome = true ↔ ∃ f ∈ files, f.path = path := by
  induction files with
  | nil => simp [lastFile]
  | cons f files ih =>
    rw [lastFile, Option.isSome_or, Bool.or_eq_true, ih]
    by_cases hpath : path = f.path
    · simp [hpath]
    · simp [hpath, Ne.symm hpath]

theorem removeAll_of_prefix (h : root <+: path) (t : Tree N B) :
    removeAll root (fun _ => false) t path = none := by
  simp [removeAll, h]

theorem removeAll_other (h : ¬ root <+: path) (kept : List N → Bool) (t : Tree N B) :
    removeAll root kept t path = t path := by
  simp [removeAll, h]

end Apply

end FileTree
