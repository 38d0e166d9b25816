/-
The path checks of the volumes over the texts the code works with.  Cleaning, joining and
relativising of texts agree with joining of segments, so whatever passes the checks is
strictly below its root, and directories of different Pods lie apart.  A directory of the
allowlist admits what is at or below it, unless it is the root of the file system.
-/
import MacVz.NodeConfig
import MacVz.PathText
import MacVz.VolumeDisk

namespace MacVz

open GoFilepath FileTree

variable {dir path : List String} {root podUID uid name : String} {volumeName p : String}

namespace TextPath

/-- `safeJoinUnderRoot`. -/
def safeJoinUnderRoot (root : String) (elems : List String) : Except String String :=
  let cleanRoot := clean root
  if isAbs cleanRoot = false then .error ("volume root " ++ quoted root ++ " must be absolute")
  else
    let joined := clean (joinText (cleanRoot :: elems))
    match rel cleanRoot joined with
    | none => .error ("resolve volume path " ++ quoted joined ++ " under " ++ quoted cleanRoot ++
        ": Rel: can't make " ++ joined ++ " relative to " ++ cleanRoot)
    | some way =>
      if way = "." ∨ way = ".." ∨ (".." ++ "/").toList <+: way.toList ∨ isAbs way = true then
        .error ("resolved volume path " ++ quoted joined ++ " escapes volume root " ++
          quoted cleanRoot)
      else .ok joined

/-- `safePodRoot`. -/
def safePodRoot (root podUID : String) : Except String String :=
  if root = "" then .error "emptyDir volume root is not configured"
  else if podUID = "" then .error "emptyDir volumes require a non-empty Pod UID"
  else safeJoinUnderRoot root [podUID]

/-- `safeVolumeDir`. -/
def safeVolumeDir (root podUID volumeName : String) : Except String String :=
  if volumeName = "" then .error "emptyDir volume name must not be empty"
  else
    match safePodRoot root podUID with
    | .ok podRoot => safeJoinUnderRoot podRoot [volumeName]
    | .error e => .error e

theorem safeJoinUnderRoot_absText (hdir : PlainPath dir) (elems : List String) :
    safeJoinUnderRoot (absText dir) elems = (MacVz.safeJoinUnderRoot dir elems).map absText := by
  have hjoined := hdir.joined elems
  obtain ⟨way, hway, hescapes⟩ := rel_absText hdir hjoined
  simp only [safeJoinUnderRoot, clean_absText hdir, isAbs_absText, joinText_absText hdir,
    clean_absText hjoined, hway, Bool.true_eq_false, ↓reduceIte]
  by_cases hbelow : Below dir (join dir elems)
  · have hstays : ¬ Escapes way := fun h => hescapes.mp h hbelow
    rw [MacVz.safeJoinUnderRoot, if_pos hbelow]
    exact if_neg hstays
  · rw [MacVz.safeJoinUnderRoot, if_neg hbelow]
    exact if_pos (hescapes.mpr hbelow)

theorem safeJoinUnderRoot_eq (root : String) (elems : List String) : safeJoinUnderRoot root elems =
      ((absRoot root).bind fun dir => MacVz.safeJoinUnderRoot dir elems).map absText := by
  by_cases habs : isAbs root = true
  · have hclean := clean_of_isAbs habs
    have hsame : safeJoinUnderRoot root elems =
        safeJoinUnderRoot (absText (segments root)) elems := by
      simp only [safeJoinUnderRoot, hclean, clean_absText (plainPath_segments habs), isAbs_absText,
        Bool.true_eq_false, ↓reduceIte]
    rw [hsame, safeJoinUnderRoot_absText (plainPath_segments habs), absRoot, if_pos habs]
    rfl
  · simp only [safeJoinUnderRoot, isAbs_clean, habs, ↓reduceIte, absRoot, Bool.false_eq_true]
    rfl

theorem safePodRoot_eq (root podUID : String) :
    safePodRoot root podUID = (MacVz.safePodRoot root podUID).map absText := by
  unfold safePodRoot MacVz.safePodRoot
  split
  · rfl
  · split
    · rfl
    · rw [safeJoinUnderRoot_eq]
      cases absRoot root with
      | ok dir => rfl
      | error e => rfl

end TextPath

theorem safeJoinUnderRoot_plain (hdir : PlainPath dir) {elems : List String}
    (h : safeJoinUnderRoot dir elems = .ok path) : PlainPath path := by
  unfold safeJoinUnderRoot at h
  split at h
  · cases h
    exact hdir.joined elems
  · cases h

theorem safePodRoot_ok (h : safePodRoot root podUID = .ok path) :
    isAbs root = true ∧ safeJoinUnderRoot (segments root) [podUID] = .ok path := by
  unfold safePodRoot absRoot at h
  split at h
  · cases h
  · split at h
    · cases h
    · by_cases habs : isAbs root = true
      · rw [if_pos habs] at h
        exact ⟨habs, h⟩
      · rw [if_neg habs] at h
        cases h

theorem safeVolumeDir_ok (h : safeVolumeDir root podUID volumeName = .ok path) :
    ∃ podRoot, safePodRoot root podUID = .ok podRoot ∧
      safeJoinUnderRoot podRoot [volumeName] = .ok path := by
  unfold safeVolumeDir at h
  split at h
  · cases h
  · split at h
    · rename_i podRoot hroot
      exact ⟨podRoot, hroot, h⟩
    · cases h

theorem safePodRoot_plain (h : safePodRoot root podUID = .ok path) : PlainPath path := by
  obtain ⟨habs, hjoin⟩ := safePodRoot_ok h
  exact safeJoinUnderRoot_plain (plainPath_segments habs) hjoin

theorem TextPath.safeVolumeDir_eq (root podUID volumeName : String) :
    TextPath.safeVolumeDir root podUID volumeName =
      (MacVz.safeVolumeDir root podUID volumeName).map absText := by
  unfold TextPath.safeVolumeDir MacVz.safeVolumeDir
  split
  · rfl
  · rw [safePodRoot_eq]
    cases hroot : MacVz.safePodRoot root podUID with
    | ok podRoot => exact safeJoinUnderRoot_absText (safePodRoot_plain hroot) [volumeName]
    | error e => rfl

theorem not_below_dropLast (dir : List String) : ¬ Below dir dir.dropLast := by
  intro h
  exact h.2 (dir.dropLast_prefix.eq_of_length_le h.1.length_le)

theorem safeJoinUnderRoot_segment {elem : String} (hslash : '/' ∉ elem.toList)
    (h : safeJoinUnderRoot dir [elem] = .ok path) : path = dir ++ [elem] := by
  have hbelow := safeJoinUnderRoot_below h
  have hpath : path = push true dir elem := by
    unfold safeJoinUnderRoot at h
    split at h
    · cases h
      rw [join, List.foldl_cons, split_of_no_slash hslash]
      rfl
    · cases h
  subst hpath
  by_cases hskip : elem = "" ∨ elem = "."
  · rw [push_skip hskip] at hbelow
    exact absurd rfl hbelow.2
  · by_cases hdots : elem = ".."
    · -- two dots lead up, or nowhere from the root
      rw [push, if_neg hskip, if_pos hdots] at hbelow
      split at hbelow
      · exact absurd rfl hbelow.2
      · exact absurd hbelow (not_below_dropLast dir)
    · rw [push, if_neg hskip, if_neg hdots]

theorem safePodRoot_segment (hslash : '/' ∉ podUID.toList)
    (h : safePodRoot root podUID = .ok path) : path = segments root ++ [podUID] :=
  safeJoinUnderRoot_segment hslash (safePodRoot_ok h).2

/-- What `configMapVolumeFiles`, `secretVolumeFiles` and `projectedVolumeFiles` return for a
directory. -/
inductive ResolvedInto (dir : List String) : Except TranslateError (List FileToWrite) → Prop where
  | configMap (ns : String) (src : KeyedSource) (defaultMode : Option Int) (access : ConfigAccess) :
      ResolvedInto dir (configMapVolumeFiles ns src defaultMode dir access)
  | secret (ns : String) (src : KeyedSource) (defaultMode : Option Int) (access : ConfigAccess) :
      ResolvedInto dir (secretVolumeFiles ns src defaultMode dir access)
  | projected (pod : Pod) (defaultMode : Option Int) (access : ConfigAccess)
      (sources : List VolumeProjection) :
      ResolvedInto dir (projectedVolumeFiles pod defaultMode dir access sources)

theorem ResolvedInto.joined {resolved : Except TranslateError (List FileToWrite)}
    (h : ResolvedInto dir resolved) : FilesJoined dir resolved := by
  cases h with
  | configMap ns src defaultMode access =>
    exact configMapVolumeFiles_joined ns src defaultMode dir access
  | secret ns src defaultMode access => exact secretVolumeFiles_joined ns src defaultMode dir access
  | projected pod defaultMode access sources =>
    exact projectedVolumeFiles_joined pod defaultMode dir access sources

/-- The directory accepted for a volume is a plain absolute path. -/
theorem safeVolumeDir_segments {dir : String}
    (h : TextPath.safeVolumeDir root podUID volumeName = .ok dir) :
    PlainPath (segments dir) ∧ dir = absText (segments dir) ∧
      safeVolumeDir root podUID volumeName = .ok (segments dir) := by
  rw [TextPath.safeVolumeDir_eq] at h
  cases hpath : safeVolumeDir root podUID volumeName with
  | error e =>
    rw [hpath] at h
    cases h
  | ok path =>
    rw [hpath] at h
    cases h
    obtain ⟨podRoot, hroot, hjoin⟩ := safeVolumeDir_ok hpath
    have hplain := safeJoinUnderRoot_plain (safePodRoot_plain hroot) hjoin
    rw [segments_absText hplain]
    exact ⟨hplain, rfl, rfl⟩

theorem isAbs_safeVolumeDir {dir : String} (h : TextPath.safeVolumeDir root uid name = .ok dir) :
    isAbs dir = true := by
  rw [(safeVolumeDir_segments h).2.1]
  exact isAbs_absText _

theorem safeVolumeDir_below {dir : String} (h : TextPath.safeVolumeDir root uid name = .ok dir) :
    Below (segments (clean root)) (segments dir) := by
  obtain ⟨podRoot, hroot, hjoin⟩ := safeVolumeDir_ok (safeVolumeDir_segments h).2.2
  obtain ⟨habs, hpodRoot⟩ := safePodRoot_ok hroot
  rw [clean_of_isAbs habs, segments_absText (plainPath_segments habs)]
  exact (safeJoinUnderRoot_below hpodRoot).trans (safeJoinUnderRoot_below hjoin)

theorem safeVolumeDir_segment {dir : String} (huid : '/' ∉ uid.toList) (hname : '/' ∉ name.toList)
    (h : TextPath.safeVolumeDir root uid name = .ok dir) :
    segments dir = segments root ++ [uid, name] := by
  obtain ⟨podRoot, hroot, hjoin⟩ := safeVolumeDir_ok (safeVolumeDir_segments h).2.2
  rw [safeJoinUnderRoot_segment hname hjoin, safePodRoot_segment huid hroot, List.append_assoc,
    List.singleton_append]

theorem not_prefix_of_ne {a b c d : String} (hne : (a, b) ≠ (c, d)) :
    ¬ dir ++ [a, b] <+: dir ++ [c, d] := by
  intro hpre
  have heq := hpre.eq_of_length (by simp)
  rw [List.append_cancel_left_eq, List.cons.injEq, List.cons.injEq] at heq
  exact hne (Prod.ext heq.1 heq.2.1)

/-- Cleaning up one Pod's directories leaves another's files alone. -/
theorem cleanupVolumeDirs_other {policy : VolumePolicy} {pod : Pod} {dir : String}
    (hne : uid ≠ pod.uid) (hpod : '/' ∉ pod.uid.toList) (huid : '/' ∉ uid.toList)
    (h : TextPath.safeVolumeDir policy.root uid name = .ok dir) (hpath : segments dir <+: path)
    (kept : Option (List String → Bool)) (disk : Tree String UInt8) :
    cleanupVolumeDirs policy pod kept disk path = disk path := by
  obtain ⟨podRoot, hroot, hjoin⟩ := safeVolumeDir_ok (safeVolumeDir_segments h).2.2
  have hbelow := (safeJoinUnderRoot_below hjoin).le.trans hpath
  rw [safePodRoot_segment huid hroot] at hbelow
  cases hown : safePodRoot policy.root pod.uid with
  | error e => simp only [cleanupVolumeDirs, hown]
  | ok own =>
    simp only [cleanupVolumeDirs, hown]
    apply removeAll_other
    intro hpre
    rw [safePodRoot_segment hpod hown] at hpre
    have hsame := List.prefix_of_prefix_length_le hpre hbelow (by simp)
    have heq := hsame.eq_of_length (by simp)
    rw [List.append_cancel_left_eq, List.cons.injEq] at heq
    exact hne heq.1.symm

/-- Whatever `safeVolumeDir` returns is a cleaned absolute path strictly below the cleaned
root, and every file that is resolved into it is strictly below it.  Directories of different
Pods or volumes, none with a slash in its name, lie apart, and removing the tree of one Pod
touches nothing at or below a directory of another. -/
theorem volume_directories_lie_apart (root : String) :
    (∀ uid name dir, TextPath.safeVolumeDir root uid name = .ok dir →
      isAbs dir = true ∧ clean dir = dir ∧ Below (segments (clean root)) (segments dir) ∧
        ∀ resolved, ResolvedInto (segments dir) resolved → ∀ files, resolved = .ok files →
          ∀ f ∈ files, clean (absText f.path) = absText f.path ∧
            Below (segments dir) (segments (absText f.path))) ∧
    (∀ uid name uid' name' dir dir', (uid, name) ≠ (uid', name') →
      '/' ∉ uid.toList → '/' ∉ name.toList → '/' ∉ uid'.toList → '/' ∉ name'.toList →
      TextPath.safeVolumeDir root uid name = .ok dir →
      TextPath.safeVolumeDir root uid' name' = .ok dir' →
        ¬ segments dir <+: segments dir' ∧ ¬ segments dir' <+: segments dir) ∧
    (∀ (policy : VolumePolicy) (pod : Pod) kept disk uid' name' dir', policy.root = root →
      uid' ≠ pod.uid → '/' ∉ pod.uid.toList → '/' ∉ uid'.toList →
      TextPath.safeVolumeDir root uid' name' = .ok dir' →
        ∀ path, segments dir' <+: path →
          cleanupVolumeDirs policy pod kept disk path = disk path) := by
  refine ⟨?_, ?_, ?_⟩
  · intro uid name dir h
    obtain ⟨hplain, htext, -⟩ := safeVolumeDir_segments h
    have habs := isAbs_safeVolumeDir h
    refine ⟨habs, (clean_of_isAbs habs).trans htext.symm, safeVolumeDir_below h, ?_⟩
    intro resolved hresolved files hfiles f hf
    obtain ⟨elems, helems⟩ := hresolved.joined files hfiles f hf
    have hfile := safeJoinUnderRoot_plain hplain helems
    rw [segments_absText hfile]
    exact ⟨clean_absText hfile, safeJoinUnderRoot_below helems⟩
  · intro uid name uid' name' dir dir' hne huid hname huid' hname' h h'
    rw [safeVolumeDir_segment huid hname h, safeVolumeDir_segment huid' hname' h']
    exact ⟨not_prefix_of_ne hne, not_prefix_of_ne hne.symm⟩
  · rintro policy pod kept disk uid' name' dir' rfl hne hpod huid' h path hpath
    exact cleanupVolumeDirs_other hne hpod huid' h hpath kept disk

theorem two_volumes_lie_apart : TextPath.safeVolumeDir "/var/lib/macvz/../volumes/" "u-1" "cache" =
        .ok "/var/lib/volumes/u-1/cache" ∧
      TextPath.safeVolumeDir "/var/lib/macvz/../volumes/" "u-1" "logs" =
        .ok "/var/lib/volumes/u-1/logs" ∧
      ¬ segments "/var/lib/volumes/u-1/cache" <+: segments "/var/lib/volumes/u-1/logs" := by
  have hcache : TextPath.safeVolumeDir "/var/lib/macvz/../volumes/" "u-1" "cache" =
      .ok "/var/lib/volumes/u-1/cache" := by decide +kernel
  have hlogs : TextPath.safeVolumeDir "/var/lib/macvz/../volumes/" "u-1" "logs" =
      .ok "/var/lib/volumes/u-1/logs" := by decide +kernel
  exact ⟨hcache, hlogs, ((volume_directories_lie_apart "/var/lib/macvz/../volumes/").2.1
    "u-1" "cache" "u-1" "logs" _ _ (by decide) (by decide) (by decide) (by decide) (by decide)
    hcache hlogs).1⟩

/-- The policy `main` derives from the configuration. -/
def VolumesConfig.policy (volumes : VolumesConfig) : VolumePolicy :=
  ⟨volumes.root, volumes.hostPathAllowedPrefixes⟩

theorem isAbs_of_validateVolumes {c : Config} (h : c.validateVolumes = .ok ())
    (hp : p ∈ c.node.volumes.hostPathAllowedPrefixes) : isAbs p = true := by
  rw [Config.validateVolumes, Checks.then_eq_ok, Checks.each_eq_ok] at h
  exact (Checks.demand_eq_ok _ _).mp (h.2 p hp)

/-- The comparison with one prefix: a path at it or below it, except below the root. -/
theorem prefix_admits_iff {path : String} (hp : isAbs p = true) (hpath : isAbs path = true) :
    (clean path == clean p || (clean p ++ "/").toList <+: (clean path).toList) = true ↔
      segments p <+: segments path ∧ (segments p = [] → segments path = []) := by
  have hplain := plainPath_segments hp
  have hpathPlain := plainPath_segments hpath
  rw [Bool.or_eq_true, beq_iff_eq, decide_eq_true_eq, clean_of_isAbs hp, clean_of_isAbs hpath,
    absText_inj hpathPlain hplain, slash_prefix_iff hplain hpathPlain]
  constructor
  · rintro (heq | ⟨hne, hbelow⟩)
    · rw [heq]
      exact ⟨List.prefix_rfl, id⟩
    · exact ⟨hbelow.le, fun hroot => absurd hroot hne⟩
  · rintro ⟨hpre, hroot⟩
    by_cases heq : segments path = segments p
    · exact Or.inl heq
    · exact Or.inr ⟨fun hnil => heq ((hroot hnil).trans hnil.symm), hpre, heq⟩

/-- `validateHostPath` for a type it supports: what is left is the allowlist. -/
theorem validateHostPath_ok_iff {path type : String} {policy : VolumePolicy}
    (hpath : isAbs path = true) (htype : type ∈ ["", "Directory", "DirectoryOrCreate"]) :
    validateHostPath name path type policy = .ok () ↔
      withinAllowedPrefix (clean path) policy.hostPathAllowedPrefixes = true := by
  rw [validateHostPath, if_neg (by simp [hpath]), if_neg (not_not.mpr htype)]
  split
  · rename_i hwithin
    simp [hwithin]
  · rename_i hwithin
    simpa using hwithin

/-- A host path of a supported type is admitted exactly when it is at or below a directory of
an accepted allowlist, if and only if the allowlist does not name the root of the file system,
or the path is the root or at or below another entry. -/
theorem hostPath_admitted_iff_below {c : Config} (hvalid : c.validateVolumes = .ok ())
    {path : String} (hpath : isAbs path = true) :
    (∀ name, ∀ type ∈ ["", "Directory", "DirectoryOrCreate"],
        (validateHostPath name path type c.node.volumes.policy = .ok () ↔
          ∃ p ∈ c.node.volumes.hostPathAllowedPrefixes, segments p <+: segments path)) ↔
      ((∃ p ∈ c.node.volumes.hostPathAllowedPrefixes, segments p = []) →
        segments path = [] ∨ ∃ p ∈ c.node.volumes.hostPathAllowedPrefixes,
          segments p ≠ [] ∧ segments p <+: segments path) := by
  have hadmits (name type : String) (htype : type ∈ ["", "Directory", "DirectoryOrCreate"]) :
      validateHostPath name path type c.node.volumes.policy = .ok () ↔
        ∃ p ∈ c.node.volumes.hostPathAllowedPrefixes,
          segments p <+: segments path ∧ (segments p = [] → segments path = []) := by
    rw [validateHostPath_ok_iff hpath htype, withinAllowedPrefix, List.any_eq_true]
    constructor
    · rintro ⟨p, hp, hadmits⟩
      exact ⟨p, hp, (prefix_admits_iff (isAbs_of_validateVolumes hvalid hp) hpath).mp hadmits⟩
    · rintro ⟨p, hp, hadmits⟩
      exact ⟨p, hp, (prefix_admits_iff (isAbs_of_validateVolumes hvalid hp) hpath).mpr hadmits⟩
  constructor
  · rintro hexact ⟨p, hp, hroot⟩
    have hbelow : ∃ p ∈ c.node.volumes.hostPathAllowedPrefixes, segments p <+: segments path :=
      ⟨p, hp, hroot ▸ List.nil_prefix⟩
    rw [← hexact "" "" List.mem_cons_self, hadmits "" "" List.mem_cons_self] at hbelow
    obtain ⟨q, hq, hpre, hqroot⟩ := hbelow
    by_cases hnil : segments q = []
    · exact Or.inl (hqroot hnil)
    · exact Or.inr ⟨q, hq, hnil, hpre⟩
  · intro hcondition name type htype
    rw [hadmits name type htype]
    constructor
    · rintro ⟨p, hp, hpre, -⟩
      exact ⟨p, hp, hpre⟩
    · rintro ⟨p, hp, hpre⟩
      by_cases hnil : segments p = []
      · rcases hcondition ⟨p, hp, hnil⟩ with hroot | ⟨q, hq, hne, hqpre⟩
        · exact ⟨p, hp, hpre, fun _ => hroot⟩
        · exact ⟨q, hq, hqpre, fun h => absurd h hne⟩
      · exact ⟨p, hp, hpre, fun h => absurd h hnil⟩

def allowlisted (prefixes : List String) : Config where
  nodeName := "mac-1"
  runtimeDataRoot := ""
  node := ⟨"", "", "", "", [], false, 0, "", "", 0, "", "", "",
    ⟨"/var/lib/macvz/volumes", prefixes⟩⟩
  mesh := ⟨false, "", "", "", 0, 0, []⟩
  podNetwork := ⟨false, "", "", none, []⟩
  privilegedHelperSocket := ""
  orphanCleanup := ⟨false, "", ""⟩

theorem hostPath_admitted_below_srv : (allowlisted ["/srv"]).validateVolumes = .ok () ∧
      (validateHostPath "data" "/srv/data/../app" "Directory"
        (allowlisted ["/srv"]).node.volumes.policy = .ok () ↔
          ∃ p ∈ ["/srv"], segments p <+: segments "/srv/data/../app") := by
  have hvalid : (allowlisted ["/srv"]).validateVolumes = .ok () := by decide +kernel
  have hsrv : segments "/srv" = ["srv"] := by decide +kernel
  refine ⟨hvalid, (hostPath_admitted_iff_below hvalid (by decide)).mpr ?_ "data" "Directory"
    (by decide)⟩
  rintro ⟨p, hp, hroot⟩
  rw [List.mem_singleton.mp hp, hsrv] at hroot
  cases hroot

/-- With the root of the file system on the allowlist, a directory below it is refused. -/
theorem root_prefix_admits_nothing_below : (allowlisted ["/"]).validateVolumes = .ok () ∧
      validateHostPath "data" "/data" "Directory" (allowlisted ["/"]).node.volumes.policy ≠
        .ok () ∧
      segments "/" <+: segments "/data" := by
  refine ⟨by decide +kernel, ?_, by decide +kernel⟩
  rw [ne_eq, validateHostPath_ok_iff (by decide) (by decide)]
  decide +kernel

end MacVz
