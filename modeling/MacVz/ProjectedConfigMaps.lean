/-
A ConfigMap as a volume of its own and as the only source of a projected volume.  The two
resolvers differ in the texts of their errors and in what they take of a ConfigMap for which
no items are listed: the projected one leaves out the binary data.
-/
import MacVz.StepConditions
import MacVz.VolumeResolution

namespace MacVz

open GoFilepath

/-- The errors after which `CreatePod` waits and is called again. -/
def TranslateError.retryable : TranslateError → Bool
  | .configPending _ | .secretUnavailable _ => true
  | .unsupported _ => false

/-- The same files, or errors of one kind. -/
def SameResult : Except TranslateError (List FileToWrite) →
    Except TranslateError (List FileToWrite) → Prop
  | .ok files, .ok files' => files = files'
  | .error e, .error e' => e.retryable = e'.retryable
  | _, _ => False

theorem SameResult.refl (r : Except TranslateError (List FileToWrite)) : SameResult r r := by
  cases r with
  | ok files => exact (rfl : files = files)
  | error e => exact (rfl : e.retryable = e.retryable)

theorem SameResult.collect {first first' others others' : Except TranslateError (List FileToWrite)}
    (hfirst : SameResult first first') (hothers : SameResult others others') :
    SameResult (collect first others) (collect first' others') := by
  cases first with
  | error e =>
    cases first' with
    | error e' => exact hfirst
    | ok files' => exact hfirst.elim
  | ok files =>
    cases first' with
    | error e' => exact hfirst.elim
    | ok files' =>
      obtain rfl : files = files' := hfirst
      cases others with
      | error e =>
        cases others' with
        | error e' => exact hothers
        | ok more' => exact hothers.elim
      | ok more =>
        cases others' with
        | error e' => exact hothers.elim
        | ok more' =>
          obtain rfl : more = more' := hothers
          exact .refl _

theorem addFile_same (dir : List String) (subject subject' relPath : String) (data : Bytes)
    (mode : Nat) : SameResult (addFile dir subject relPath data mode)
      (addFile dir subject' relPath data mode) := by
  unfold addFile
  split
  · exact .refl _
  · exact (rfl : false = false)

theorem itemFiles_same (dir : List String) (subject subject' : String)
    (missing : String → TranslateError) (get : String → Option Bytes) (optional : Bool) (mode : Nat)
    (items : List KeyToPath) : SameResult (itemFiles dir subject missing get optional mode items)
      (itemFiles dir subject' missing get optional mode items) := by
  induction items with
  | nil => exact .refl _
  | cons it items ih =>
    rw [itemFiles, itemFiles]
    split
    · split
      · exact ih
      · exact .refl _
    · exact .collect (addFile_same dir subject subject' _ _ _) ih

theorem keyFiles_same (dir : List String) (subject subject' : String) (mode : Nat)
    (entries : List (String × Bytes)) :
    SameResult (keyFiles dir subject mode entries) (keyFiles dir subject' mode entries) := by
  induction entries with
  | nil => exact .refl _
  | cons entry entries ih => exact .collect (addFile_same dir subject subject' _ _ _) ih

theorem collect_nil (r : Except TranslateError (List FileToWrite)) : collect r (.ok []) = r := by
  cases r with
  | ok files => rw [collect, List.append_nil]
  | error e => rfl

theorem collect_assoc (first second third : Except TranslateError (List FileToWrite)) :
    collect (collect first second) third = collect first (collect second third) := by
  cases first with
  | error e => rfl
  | ok files =>
    cases second with
    | error e => rfl
    | ok more =>
      cases third with
      | error e => rfl
      | ok rest => simp only [collect, List.append_assoc]

theorem keyFiles_append (dir : List String) (subject : String) (mode : Nat)
    (entries more : List (String × Bytes)) : keyFiles dir subject mode (entries ++ more) =
      collect (keyFiles dir subject mode entries) (keyFiles dir subject mode more) := by
  induction entries with
  | nil =>
    rw [List.nil_append]
    cases keyFiles dir subject mode more with
    | ok files => rfl
    | error e => rfl
  | cons entry entries ih => rw [List.cons_append, keyFiles, keyFiles, ih, collect_assoc]

def RefusedKey (dir : List String) (key : String) : Prop := ¬ Below dir (join dir (split key))

/-- The files of the entries, unless some entry's key is refused. -/
theorem keyFiles_cases (dir : List String) (subject : String) (mode : Nat)
    (entries : List (String × Bytes)) : ((∀ entry ∈ entries, ¬ RefusedKey dir entry.1) ∧
        ∃ files, keyFiles dir subject mode entries = .ok files ∧ files.length = entries.length) ∨
      ((∃ entry ∈ entries, RefusedKey dir entry.1) ∧
        ∃ message, keyFiles dir subject mode entries = .error (.unsupported message)) := by
  induction entries with
  | nil => exact Or.inl ⟨by simp, [], rfl, rfl⟩
  | cons entry entries ih =>
    by_cases hbelow : Below dir (join dir (split entry.1))
    · have hadd : addFile dir subject entry.1 entry.2 mode =
          .ok [⟨join dir (split entry.1), mode, entry.2⟩] := by
        rw [addFile, safeJoinUnderRoot, if_pos hbelow]
      have hfine : ¬ RefusedKey dir entry.1 := not_not.mpr hbelow
      rcases ih with ⟨hall, files, hfiles, hlength⟩ | ⟨⟨bad, hbad, hrefused⟩, message, hfails⟩
      · refine Or.inl ⟨List.forall_mem_cons.mpr ⟨hfine, hall⟩, ?_⟩
        rw [keyFiles, hadd, hfiles]
        exact ⟨_, rfl, by simp [hlength]⟩
      · refine Or.inr ⟨⟨bad, List.mem_cons_of_mem _ hbad, hrefused⟩, message, ?_⟩
        rw [keyFiles, hadd, hfails]
        rfl
    · refine Or.inr ⟨⟨entry, List.mem_cons_self, hbelow⟩, ?_⟩
      rw [keyFiles, addFile, safeJoinUnderRoot, if_neg hbelow]
      exact ⟨_, rfl⟩

/-- Files for some of the entries are the files for all of them if there are no others, or if
there are no files. -/
theorem keyFiles_same_more_iff (dir : List String) (subject subject' : String) (mode : Nat)
    (entries more : List (String × Bytes)) :
    SameResult (keyFiles dir subject mode entries) (keyFiles dir subject' mode (entries ++ more)) ↔
      more = [] ∨ ∃ entry ∈ entries, RefusedKey dir entry.1 := by
  have hsame := keyFiles_same dir subject subject' mode entries
  rw [keyFiles_append]
  constructor
  · intro hmore
    by_contra hother
    simp only [not_or, not_exists, not_and] at hother
    obtain ⟨hne, hfine⟩ := hother
    rcases keyFiles_cases dir subject mode entries with
      ⟨-, files, hfiles, -⟩ | ⟨⟨bad, hbad, hrefused⟩, -⟩
    · rcases keyFiles_cases dir subject' mode entries with
        ⟨-, files', hfiles', -⟩ | ⟨⟨bad, hbad, hrefused⟩, -⟩
      · rw [hfiles, hfiles'] at hsame hmore
        obtain rfl : files = files' := hsame
        rcases keyFiles_cases dir subject' mode more with
          ⟨-, rest, hrest, hlength⟩ | ⟨-, message, hfails⟩
        · rw [hrest] at hmore
          have heq : files = files ++ rest := hmore
          rw [List.self_eq_append_right] at heq
          rw [heq, List.length_nil, eq_comm, List.length_eq_zero_iff] at hlength
          exact hne hlength
        · rw [hfails] at hmore
          exact hmore
      · exact hfine bad hbad hrefused
    · exact hfine bad hbad hrefused
  · rintro (rfl | hrefused)
    · rw [keyFiles, collect_nil]
      exact hsame
    · rcases keyFiles_cases dir subject' mode entries with ⟨hfine, -⟩ | ⟨-, message, hfails⟩
      · obtain ⟨bad, hbad, hrefused⟩ := hrefused
        exact absurd hrefused (hfine bad hbad)
      · rw [hfails] at hsame ⊢
        exact hsame

/-- A projected volume with one ConfigMap gives the files and the kind of error of a ConfigMap
volume, if and only if items are listed, or there is no ConfigMap to read, or it has no binary
data, or one of its keys is refused as a path. -/
theorem projected_configMap_same_iff (pod : Pod) (src : KeyedSource) (defaultMode : Option Int)
    (dir : List String) (access : ConfigAccess) :
    SameResult (projectedVolumeFiles pod defaultMode dir access [.configMap src])
        (configMapVolumeFiles pod.ns src defaultMode dir access) ↔
      ∀ cm, getConfigMap access pod.ns src.name src.isOptional = .ok (some cm) → src.items = [] →
        cm.binaryData.entries = [] ∨ ∃ entry ∈ cm.data.entries, RefusedKey dir entry.1 := by
  have hprojected : projectedVolumeFiles pod defaultMode dir access [.configMap src] =
      projectedConfigMapFiles pod.ns src dir (fileMode defaultMode defaultFileMode) access :=
    collect_nil _
  rw [hprojected, projectedConfigMapFiles, configMapVolumeFiles]
  cases hget : getConfigMap access pod.ns src.name src.isOptional with
  | error e => simpa using SameResult.refl (.error e)
  | ok found =>
    cases found with
    | none => simpa using SameResult.refl (.ok [])
    | some cm =>
      simp only [Except.ok.injEq, Option.some.injEq, forall_eq', objectFiles]
      by_cases hitems : src.items = []
      · simp only [hitems, ↓reduceIte, forall_const]
        exact keyFiles_same_more_iff dir _ _ _ cm.data.entries cm.binaryData.entries
      · simp only [hitems, ↓reduceIte, false_implies, iff_true]
        exact itemFiles_same dir _ _ _ _ _ _ _

def binaryOnly : ConfigMap where
  data := ⟨[], .nil⟩
  binaryData := ⟨[("logo.png", [0x89, 0x50])], List.pairwise_singleton _ _⟩

def readsBinaryOnly : ConfigAccess where
  configMaps := some fun _ _ => .ok binaryOnly
  secrets := none
  tokens := none

/-- The logo of a ConfigMap volume is missing from the projected volume. -/
theorem binary_key_not_projected :
    configMapVolumeFiles Sample.web.ns ⟨"assets", [], none⟩ none ["volumes", "8f4b", "v"]
        readsBinaryOnly =
      .ok [⟨["volumes", "8f4b", "v", "logo.png"], 0o644, [0x89, 0x50]⟩] ∧
    projectedVolumeFiles Sample.web none ["volumes", "8f4b", "v"] readsBinaryOnly
        [.configMap ⟨"assets", [], none⟩] = .ok [] ∧
    ¬ SameResult
        (projectedVolumeFiles Sample.web none ["volumes", "8f4b", "v"] readsBinaryOnly
          [.configMap ⟨"assets", [], none⟩])
        (configMapVolumeFiles Sample.web.ns ⟨"assets", [], none⟩ none ["volumes", "8f4b", "v"]
          readsBinaryOnly) := by
  have hvolume : configMapVolumeFiles Sample.web.ns ⟨"assets", [], none⟩ none
      ["volumes", "8f4b", "v"] readsBinaryOnly =
        .ok [⟨["volumes", "8f4b", "v", "logo.png"], 0o644, [0x89, 0x50]⟩] := by decide
  have hprojected : projectedVolumeFiles Sample.web none ["volumes", "8f4b", "v"] readsBinaryOnly
      [.configMap ⟨"assets", [], none⟩] = .ok [] := rfl
  refine ⟨hvolume, hprojected, ?_⟩
  rw [hvolume, hprojected]
  intro hsame
  cases (hsame : ([] : List FileToWrite) = [_])

end MacVz
