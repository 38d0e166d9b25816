/-
The deterministic workload name of a Pod container.  The join of prefix,
namespace, Pod and container is sanitised into a DNS label, so the name keeps
the sequence of alphanumeric words and forgets where one component ended.
-/
import MacVz.GoPackages
import MacVz.MaximalRuns
import MacVz.Sha256

namespace MacVz

open MaximalRuns GoStrings

variable {s : List Char} {r : Char}

def maxWorkloadIDLen : Nat := 63

/-- `WorkloadPrefix`. -/
def workloadPrefix : List Char := "macvz".toList

/-- The runes `sanitizeDNSLabel` copies. -/
def isLabelRune (r : Char) : Bool :=
  ('a' ≤ r && r ≤ 'z') || ('0' ≤ r && r ≤ '9')

/-- `sanitizeDNSLabel`. -/
def sanitizeDNSLabel (s : List Char) : List Char :=
  let out := trim '-' (collapse isLabelRune '-' false (s.map toLowerRune))
  if out = [] then "wl".toList else out

/-- A container of a Pod, as the three names `WorkloadID` is given. -/
structure ContainerIdentity where
  ns : String
  podName : String
  containerName : String
deriving Repr, DecidableEq

variable {t : ContainerIdentity}

/-- The three names joined under the prefix, as `WorkloadID` joins them. -/
def ContainerIdentity.joined (t : ContainerIdentity) : List Char :=
  ['-'].intercalate
    [workloadPrefix, t.ns.toList, t.podName.toList, t.containerName.toList]

/-- The joined name stays within the label limit once sanitised, so no hash
suffix is appended. -/
def ContainerIdentity.Fits (t : ContainerIdentity) : Prop :=
  (sanitizeDNSLabel t.joined).length ≤ maxWorkloadIDLen

instance (t : ContainerIdentity) : Decidable t.Fits :=
  inferInstanceAs (Decidable (_ ≤ _))

/-- The eight hexadecimal digits that tell over-long names apart. -/
def ContainerIdentity.hashSuffix (t : ContainerIdentity) : List Char :=
  (Sha256.encodeToString (Sha256.sum256
    (t.ns ++ "/" ++ t.podName ++ "/" ++ t.containerName).toUTF8.toList)).take 8

/-- `WorkloadID`. -/
def ContainerIdentity.workloadID (t : ContainerIdentity) : String :=
  let id := sanitizeDNSLabel t.joined
  if id.length ≤ maxWorkloadIDLen then String.ofList id
  else
    let keep := maxWorkloadIDLen - t.hashSuffix.length - 1
    String.ofList ((id.take keep).rdropWhile (· == '-') ++ '-' :: t.hashSuffix)

def nameWords (s : String) : List (List Char) :=
  runs isLabelRune (s.toList.map toLowerRune)

/-- The words of the three names, which the workload keeps. -/
def ContainerIdentity.words (t : ContainerIdentity) : List (List Char) :=
  nameWords t.ns ++ nameWords t.podName ++ nameWords t.containerName

/-- The characters of an RFC 1123 label: lower-case letters and digits, and
`-` anywhere but at the ends. -/
def isDNS1123Label (s : List Char) : Bool :=
  0 < s.length && s.length ≤ 63 &&
    s.all (fun r => isLabelRune r || r == '-') &&
    s.head?.any isLabelRune && s.getLast?.any isLabelRune

def isDNS1123Subdomain (s : List Char) : Bool :=
  s.length ≤ 253 && (s.splitOn '.').all fun part =>
    0 < part.length && part.all (fun r => isLabelRune r || r == '-') &&
      part.head?.any isLabelRune && part.getLast?.any isLabelRune

/-- Names Kubernetes admits for the namespace, the Pod and the container. -/
def ContainerIdentity.Valid (t : ContainerIdentity) : Prop :=
  isDNS1123Label t.ns.toList ∧ isDNS1123Subdomain t.podName.toList ∧
    isDNS1123Label t.containerName.toList

instance (t : ContainerIdentity) : Decidable t.Valid :=
  inferInstanceAs (Decidable (_ ∧ _ ∧ _))

theorem isLabelRune_dash : isLabelRune '-' = false := by decide

theorem toLowerRune_dash : toLowerRune '-' = '-' := by decide

theorem sanitizeDNSLabel_eq_intercalate (hwords : runs isLabelRune (s.map toLowerRune) ≠ []) :
    sanitizeDNSLabel s =
      ['-'].intercalate (runs isLabelRune (s.map toLowerRune)) := by
  have htrim := trim_collapse isLabelRune_dash (s.map toLowerRune)
  have hne : ['-'].intercalate (runs isLabelRune (s.map toLowerRune)) ≠ [] := by
    intro hnil
    obtain ⟨first, others, hruns⟩ := List.exists_cons_of_ne_nil hwords
    have hfirst : first ≠ [] :=
      mem_runs_ne_nil (by rw [hruns]; exact List.mem_cons_self)
    rw [hruns] at hnil
    cases others <;> simp [List.intercalate, hfirst] at hnil
  simp only [sanitizeDNSLabel, htrim, hne, ↓reduceIte]

theorem ContainerIdentity.runs_joined (t : ContainerIdentity) :
    runs isLabelRune (t.joined.map toLowerRune) = workloadPrefix :: t.words := by
  have hjoined : t.joined.map toLowerRune =
      workloadPrefix ++ '-' :: (t.ns.toList.map toLowerRune ++ '-' ::
        (t.podName.toList.map toLowerRune ++ '-' ::
          t.containerName.toList.map toLowerRune)) := by
    have hprefix : workloadPrefix.map toLowerRune = workloadPrefix := by decide
    simp [ContainerIdentity.joined, List.intercalate, toLowerRune_dash, hprefix]
  have hkept : workloadPrefix.all isLabelRune = true := by decide
  have hprefix : runs isLabelRune workloadPrefix = [workloadPrefix] :=
    runs_of_all_keep _ (by decide) (List.all_eq_true.mp hkept)
  rw [hjoined, runs_append_cons _ _ _ isLabelRune_dash,
    runs_append_cons _ _ _ isLabelRune_dash,
    runs_append_cons _ _ _ isLabelRune_dash, hprefix]
  simp [ContainerIdentity.words, nameWords]

theorem ContainerIdentity.workloadID_of_fits (hfits : t.Fits) : t.workloadID =
      String.ofList (['-'].intercalate (workloadPrefix :: t.words)) := by
  have hruns : runs isLabelRune (t.joined.map toLowerRune) ≠ [] := by
    simp [t.runs_joined]
  have hsanitize := sanitizeDNSLabel_eq_intercalate hruns
  rw [t.runs_joined] at hsanitize
  unfold ContainerIdentity.Fits at hfits
  rw [hsanitize] at hfits
  simp only [ContainerIdentity.workloadID, hsanitize, hfits, ↓reduceIte]

/-- Two names below the limit coincide exactly when the words of the three
components, read in one sequence, coincide. -/
theorem ContainerIdentity.workloadID_eq_iff {left right : ContainerIdentity} (hleft : left.Fits)
    (hright : right.Fits) : left.workloadID = right.workloadID ↔ left.words = right.words := by
  have hruns : ∀ t : ContainerIdentity, runs isLabelRune (t.joined.map toLowerRune) ≠ [] := by
    intro t
    simp [t.runs_joined]
  have hinj := intercalate_runs_inj isLabelRune_dash (hruns left) (hruns right)
  rw [left.runs_joined, right.runs_joined] at hinj
  rw [workloadID_of_fits hleft, workloadID_of_fits hright, String.ofList_inj, hinj]
  simp

theorem mem_sanitizeDNSLabel (h : r ∈ sanitizeDNSLabel s) : isLabelRune r = true ∨ r = '-' := by
  unfold sanitizeDNSLabel at h
  dsimp only at h
  split at h
  · have hall : "wl".toList.all isLabelRune = true := by decide
    exact Or.inl (List.all_eq_true.mp hall r h)
  · exact mem_collapse (mem_of_mem_trim h)

theorem isLabelRune_hexDigit (n : Nat) : isLabelRune (Sha256.hexDigit n) = true := by
  have hall : "0123456789abcdef".toList.all isLabelRune = true := by decide
  rw [Sha256.hexDigit, List.getD_eq_getElem?_getD]
  cases hdigit : "0123456789abcdef".toList[n]? with
  | none => decide
  | some r => exact List.all_eq_true.mp hall r (List.mem_of_getElem? hdigit)

/-- A workload name has lower-case letters, digits and dashes only, with or without the
hash suffix. -/
theorem ContainerIdentity.mem_workloadID (h : r ∈ t.workloadID.toList) :
    isLabelRune r = true ∨ r = '-' := by
  unfold ContainerIdentity.workloadID at h
  dsimp only at h
  split at h
  · rw [String.toList_ofList] at h
    exact mem_sanitizeDNSLabel h
  · rw [String.toList_ofList, List.mem_append, List.mem_cons] at h
    rcases h with hlabel | rfl | hhash
    · exact mem_sanitizeDNSLabel
        ((List.take_sublist _ _).subset ((List.rdropWhile_prefix _ _).subset hlabel))
    · exact Or.inr rfl
    · obtain ⟨b, -, hb⟩ := List.mem_flatMap.mp ((List.take_sublist _ _).subset hhash)
      rcases List.mem_pair.mp hb with rfl | rfl
      · exact Or.inl (isLabelRune_hexDigit _)
      · exact Or.inl (isLabelRune_hexDigit _)

theorem sanitizeDNSLabel_getLast? (s : List Char) :
    (sanitizeDNSLabel s).getLast?.any isLabelRune = true := by
  have hmem : ∀ r ∈ sanitizeDNSLabel s, isLabelRune r = true ∨ r = '-' :=
    fun _ => mem_sanitizeDNSLabel
  unfold sanitizeDNSLabel at hmem ⊢
  dsimp only at hmem ⊢
  split at hmem
  · rename_i hnil
    rw [if_pos hnil]
    decide
  · rename_i hne
    rw [if_neg hne, List.getLast?_eq_some_getLast hne]
    rcases hmem _ (List.getLast_mem hne) with hlabel | hdash
    · exact hlabel
    · exact absurd (beq_iff_eq.mpr hdash) (List.rdropWhile_last_not _ _ hne)

/-- The name of a container, for as long as it is not cut, is the prefix, a dash and a text that
begins with a letter or digit. -/
theorem ContainerIdentity.sanitize_joined (hwords : t.words ≠ []) : ∃ r rest, isLabelRune r = true ∧
      sanitizeDNSLabel t.joined = workloadPrefix ++ '-' :: r :: rest := by
  have hruns := t.runs_joined
  obtain ⟨word, others, hcons⟩ := List.exists_cons_of_ne_nil hwords
  have hmem : word ∈ runs isLabelRune (t.joined.map toLowerRune) := by
    rw [hruns, hcons]
    exact List.mem_cons_of_mem _ List.mem_cons_self
  obtain ⟨r, letters, rfl⟩ := List.exists_cons_of_ne_nil (mem_runs_ne_nil hmem)
  rw [sanitizeDNSLabel_eq_intercalate (by rw [hruns]; exact List.cons_ne_nil _ _), hruns, hcons]
  cases others with
  | nil => exact ⟨r, letters, keep_of_mem_runs hmem List.mem_cons_self, by simp⟩
  | cons next others =>
    refine ⟨r, letters ++ '-' :: ['-'].intercalate (next :: others),
      keep_of_mem_runs hmem List.mem_cons_self, ?_⟩
    simp [List.intercalate_cons_cons]

theorem ContainerIdentity.hashSuffix_getLast? (t : ContainerIdentity) :
    t.hashSuffix.getLast?.any isLabelRune = true := by
  have hcons : ∃ b bytes, Sha256.sum256 (t.ns ++ "/" ++ t.podName ++ "/" ++
      t.containerName).toUTF8.toList = b :: bytes := ⟨_, _, rfl⟩
  obtain ⟨b, bytes, hsum⟩ := hcons
  have hne : t.hashSuffix ≠ [] := by
    rw [ContainerIdentity.hashSuffix, hsum, Sha256.encodeToString, List.flatMap_cons]
    exact List.cons_ne_nil _ _
  rw [List.getLast?_eq_some_getLast hne, Option.any_some]
  obtain ⟨b, -, hb⟩ := List.mem_flatMap.mp ((List.take_sublist _ _).subset (List.getLast_mem hne))
  rcases List.mem_pair.mp hb with hdigit | hdigit
  · rw [hdigit]
    exact isLabelRune_hexDigit _
  · rw [hdigit]
    exact isLabelRune_hexDigit _

/-- A workload's name is never longer than the runtime allows. -/
theorem ContainerIdentity.workloadID_length (t : ContainerIdentity) :
    t.workloadID.toList.length ≤ maxWorkloadIDLen := by
  unfold ContainerIdentity.workloadID
  dsimp only
  split
  · rename_i hfits
    rw [String.toList_ofList]
    exact hfits
  · have hsuffix : t.hashSuffix.length ≤ 8 := List.length_take_le _ _
    have hkept := (List.rdropWhile_prefix (· == '-') ((sanitizeDNSLabel t.joined).take
      (maxWorkloadIDLen - t.hashSuffix.length - 1))).length_le
    have htake := List.length_take_le (maxWorkloadIDLen - t.hashSuffix.length - 1)
      (sanitizeDNSLabel t.joined)
    rw [String.toList_ofList, List.length_append, List.length_cons]
    simp only [maxWorkloadIDLen] at hkept htake ⊢
    omega

/-- A workload's name ends in a letter or a digit. -/
theorem ContainerIdentity.workloadID_getLast? (t : ContainerIdentity) :
    t.workloadID.toList.getLast?.any isLabelRune = true := by
  unfold ContainerIdentity.workloadID
  dsimp only
  split
  · rw [String.toList_ofList]
    exact sanitizeDNSLabel_getLast? _
  · have hsuffix := t.hashSuffix_getLast?
    rw [String.toList_ofList, List.getLast?_append, List.getLast?_cons]
    cases hlast : t.hashSuffix.getLast? with
    | none =>
      rw [hlast] at hsuffix
      cases hsuffix
    | some r =>
      rw [hlast] at hsuffix
      exact hsuffix

/-- The cut keeps at least the prefix, its dash and the rune behind it, which the trimming of
dashes at the cut leaves alone. -/
theorem ContainerIdentity.prefix_workloadID (hwords : t.words ≠ []) :
    workloadPrefix ++ ['-'] <+: t.workloadID.toList := by
  obtain ⟨r, rest, hlabel, hid⟩ := t.sanitize_joined hwords
  unfold ContainerIdentity.workloadID
  dsimp only
  rw [hid]
  split
  · exact ⟨r :: rest, by simp⟩
  · have hsuffix : t.hashSuffix.length ≤ 8 := List.length_take_le _ _
    obtain ⟨n, hkeep⟩ : ∃ n, maxWorkloadIDLen - t.hashSuffix.length - 1 =
        (workloadPrefix ++ ['-', r]).length + n := by
      refine Nat.exists_eq_add_of_le ?_
      change 7 ≤ 63 - t.hashSuffix.length - 1
      omega
    have hsplit : workloadPrefix ++ '-' :: r :: rest = workloadPrefix ++ ['-', r] ++ rest := by
      simp
    have hdash : (r == '-') = false := by
      rw [beq_eq_false_iff_ne]
      rintro rfl
      cases hlabel
    have hkept := prefix_rdropWhile (· == '-') (workloadPrefix ++ ['-']) (rest.take n) hdash
    rw [hsplit, hkeep, List.take_length_add_append]
    refine ((List.prefix_append _ [r]).trans hkept).trans ?_
    simp

theorem nameWords_ne_nil {s : String} (h : ∃ r ∈ s.toList, r.isAlphanum = true) :
    nameWords s ≠ [] := by
  obtain ⟨r, hr, halnum⟩ := h
  have hascii : r.toNat < 128 := by
    change ((decide ('A'.val ≤ r.val ∧ r.val ≤ 'Z'.val) ||
      (decide ('a'.val ≤ r.val) && decide (r.val ≤ 'z'.val))) ||
      (decide ('0'.val ≤ r.val) && decide (r.val ≤ '9'.val))) = true at halnum
    simp only [Bool.or_eq_true, Bool.and_eq_true, decide_eq_true_eq,
      UInt32.le_iff_toNat_le] at halnum
    have hz : 'z'.val.toNat = 122 := rfl
    have hZ : 'Z'.val.toNat = 90 := rfl
    have hnine : '9'.val.toNat = 57 := rfl
    change r.val.toNat < 128
    omega
  have hall : ∀ n < 128, (Char.ofNat n).isAlphanum = true →
      isLabelRune (toLowerRune (Char.ofNat n)) = true := by decide
  refine runs_ne_nil (List.mem_map_of_mem hr) ?_
  rw [← Char.ofNat_toNat r]
  exact hall r.toNat hascii (by rw [Char.ofNat_toNat]; exact halnum)

example : (ContainerIdentity.mk "default" "web.v1" "app").workloadID =
    "macvz-default-web-v1-app" := by
  decide

end MacVz
