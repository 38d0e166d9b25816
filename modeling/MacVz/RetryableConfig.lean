/-
The configuration a Pod depends on, asked for in two attempts.  Where an attempt to translate the
Pod succeeds, another one that finds the stores in a different state stops at the first of its
lookups that stops it, and only a Secret that cannot be read or a path without a file ends the Pod
there.
-/
import MacVz.ConfigEnv
import MacVz.PathText

namespace MacVz

open GoFilepath

/-- `translatePod` with its volumes and its environment; `c` is the rest of the container. -/
def Pod.translate (pod : Pod) (c : ContainerEnv) (policy : VolumePolicy) (access : ConfigAccess) :
    Except TranslateError (Container × ContainerSpec) :=
  translatePod pod ((translateVolumes pod policy access
    ((resolveEnv pod c access).map fun _ => ())).map fun _ => ())

/-- A path of an item as Kubernetes accepts it. -/
def LocalPath (path : String) : Prop := isAbs path = false ∧ ".." ∉ split path

/-- The objects a projected source refers to. -/
def VolumeProjection.keyed : VolumeProjection → List KeyedSource
  | .configMap src => [src]
  | .secret src => [src]
  | _ => []

/-- The objects a volume refers to. -/
def VolumeSource.keyed : VolumeSource → List KeyedSource
  | .configMap src _ => [src]
  | .secret src _ => [src]
  | .projected sources _ => sources.flatMap VolumeProjection.keyed
  | _ => []

/-- The items of a source as keys that become files. -/
def KeyedSource.wanted (src : KeyedSource) : List Wanted :=
  src.items.map fun it => ⟨it.key, some it.path⟩

/-- What a projected source asks for. -/
def VolumeProjection.lookups : VolumeProjection → List Lookup
  | .configMap src => [.configMap src.name src.isOptional true src.wanted]
  | .secret src => [.secret src.name src.isOptional src.wanted]
  | .serviceAccountToken audience expirationSeconds _ => [.token audience expirationSeconds]
  | _ => []

/-- What a volume asks for. -/
def VolumeSource.lookups : VolumeSource → List Lookup
  | .configMap src _ => [.configMap src.name src.isOptional true src.wanted]
  | .secret src _ => [.secret src.name src.isOptional src.wanted]
  | .projected sources _ => sources.flatMap VolumeProjection.lookups
  | _ => []

/-- The sources behind the mounts, in the order of the mounts: a mount without a volume is passed
over, and of two volumes with one name the later counts. -/
def mountedSources (volumes : List Volume) (mounts : List VolumeMount) : List VolumeSource :=
  mounts.filterMap fun vm =>
    (volumes.reverse.find? fun v => v.name == vm.name).map Volume.source

/-- The volumes without the default token that a node with no token issuer does not mount. -/
def keptVolumes (access : ConfigAccess) (volumes : List Volume) : List Volume :=
  volumes.filter fun v => ¬ (isDefaultProjectedToken v ∧ access.tokens.isNone)

/-- Everything an attempt asks the stores for, in order: the volumes that are mounted, then
`envFrom`, then `env`. -/
def Pod.lookups (pod : Pod) (c : ContainerEnv) (access : ConfigAccess) : List Lookup :=
  (mountedSources (keptVolumes access pod.volumes)
      ((pod.containers.head?.map Container.volumeMounts).getD [])).flatMap VolumeSource.lookups ++
    (c.envFrom.flatMap EnvFromSource.lookups ++ c.env.flatMap EnvVar.lookups)

theorem join_of_not_dots (dir : List String) {elems : List String} (hdots : ".." ∉ elems)
    (hslash : ∀ elem ∈ elems, '/' ∉ elem.toList) :
    join dir elems = dir ++ elems.filter fun elem => elem ≠ "" ∧ elem ≠ "." := by
  induction elems generalizing dir with
  | nil => exact (List.append_nil dir).symm
  | cons elem rest ih =>
    have hrest := fun dir => ih dir (List.not_mem_of_not_mem_cons hdots)
      fun e he => hslash e (List.mem_cons_of_mem _ he)
    have hsplit : split elem = [elem] := split_of_no_slash (hslash elem List.mem_cons_self)
    have hstep : join dir (elem :: rest) = join (push true dir elem) rest := by
      rw [join, List.foldl_cons, hsplit]
      rfl
    rw [hstep, hrest]
    by_cases hskip : elem = "" ∨ elem = "."
    · have hout : ¬ (elem ≠ "" ∧ elem ≠ ".") := by tauto
      rw [push_skip hskip, List.filter_cons_of_neg (by simpa using hout)]
    · have hplain : Plain elem := ⟨fun h => hskip (Or.inl h), fun h => hskip (Or.inr h),
        (List.ne_of_not_mem_cons hdots).symm, hslash elem List.mem_cons_self⟩
      have hin : elem ≠ "" ∧ elem ≠ "." := ⟨hplain.ne_empty, hplain.ne_dot⟩
      rw [push_plain hplain, List.filter_cons_of_pos (by simpa using hin), List.append_assoc]
      rfl

/-- A path without `..` leads to a place below the directory exactly when it names a file. -/
theorem below_iff_namesFile (dir : List String) {path : String} (h : ".." ∉ split path) :
    Below dir (join dir (split path)) ↔ namesFile path = true := by
  rw [join_of_not_dots dir h fun elem helem => no_slash_of_mem_split helem, Below,
    and_iff_right (List.prefix_append _ _), ne_eq, List.append_right_eq_self, namesFile,
    List.any_eq_true, List.filter_eq_nil_iff]
  simp

theorem below_of_validKey (dir : List String) {key : String} (h : ValidKey key) :
    Below dir (join dir (split key)) := by
  have hslash : '/' ∉ key.toList := by
    intro hmem
    exact absurd (h.chars _ hmem) (by decide)
  have hsplit : split key = [key] := split_of_no_slash hslash
  refine (below_iff_namesFile dir ?_).mpr ?_
  · rw [hsplit, List.mem_singleton]
    rintro rfl
    exact h.notDots (List.prefix_refl _)
  · simp [namesFile, hsplit, h.nonempty, h.notDot]

section

variable {dir : List String} {subject relPath : String}

theorem addFile_of_below (h : Below dir (join dir (split relPath))) (data : Bytes) (mode : Nat) :
    addFile dir subject relPath data mode = .ok [⟨join dir (split relPath), mode, data⟩] := by
  rw [addFile, safeJoinUnderRoot, if_pos h]

theorem below_of_addFile {data : Bytes} {mode : Nat} {files : List FileToWrite}
    (h : addFile dir subject relPath data mode = .ok files) :
    Below dir (join dir (split relPath)) := by
  unfold addFile safeJoinUnderRoot at h
  split at h
  · rename_i hdest
    split at hdest
    · assumption
    · cases hdest
  · cases h

theorem stopOf_collect (first others : Except TranslateError (List FileToWrite)) :
    stopOf (collect first others) = (stopOf first).or (stopOf others) := by
  cases first with
  | error e => rfl
  | ok files => cases others <;> rfl

theorem addFile_stop (h : ".." ∉ split relPath) (data : Bytes) (mode : Nat) :
    stopOf (addFile dir subject relPath data mode) =
      if namesFile relPath then none else some .ended := by
  by_cases hbelow : Below dir (join dir (split relPath))
  · rw [addFile_of_below hbelow, if_pos ((below_iff_namesFile dir h).mp hbelow)]
    rfl
  · rw [addFile, safeJoinUnderRoot, if_neg hbelow,
      if_neg (mt (below_iff_namesFile dir h).mpr hbelow)]
    rfl

theorem keyFiles_stop (mode : Nat) {entries : List (String × Bytes)}
    (h : ∀ entry ∈ entries, ValidKey entry.1) :
    stopOf (keyFiles dir subject mode entries) = none := by
  induction entries with
  | nil => rfl
  | cons entry rest ih =>
    rw [List.forall_mem_cons] at h
    rw [keyFiles, stopOf_collect, addFile_of_below (below_of_validKey dir h.1), ih h.2]
    rfl

/-- Where the files of listed keys stop once the stores have changed. -/
theorem itemFiles_stop {missing : String → TranslateError}
    (hmissing : ∀ key, (missing key).retryable = true) (get : String → Option Bytes)
    (optional : Bool) (mode : Nat) {items : List KeyToPath}
    (h : ∀ it ∈ items, LocalPath it.path) :
    stopOf (itemFiles dir subject missing get optional mode items) =
      (items.map fun it => (⟨it.key, some it.path⟩ : Wanted)).findSome?
        (Wanted.stop get optional) := by
  induction items with
  | nil => rfl
  | cons it rest ih =>
    rw [List.forall_mem_cons] at h
    rw [itemFiles, List.map_cons, List.findSome?_cons, ← ih h.2, Wanted.stop]
    dsimp only
    cases get it.key with
    | none =>
      cases optional with
      | true => rfl
      | false => simp [stopOf, hmissing it.key]
    | some data =>
      dsimp only
      rw [stopOf_collect, addFile_stop h.1.2, Option.all_some]
      cases namesFile it.path <;> simp

/-- The files of an object that was asked for. -/
def filesOf {α : Type} (asked : Except TranslateError (Option α))
    (files : α → Except TranslateError (List FileToWrite)) :
    Except TranslateError (List FileToWrite) :=
  match asked with
  | .error e => .error e
  | .ok none => .ok []
  | .ok (some object) => files object

/-- Where the files of a ConfigMap or Secret stop once the stores have changed. -/
theorem filesOf_stop {α : Type} {answer : Option (Except GetError α)} {unread : Stop}
    {asked : Except TranslateError (Option α)} {src : KeyedSource}
    {missing : String → TranslateError} {get : α → String → Option Bytes}
    {entries : α → List (String × Bytes)} {mode : Nat}
    (h : AnsweredBy answer unread src.isOptional asked)
    (hmissing : ∀ key, (missing key).retryable = true)
    (hentries : ∀ object, answer = some (.ok object) → ∀ entry ∈ entries object, ValidKey entry.1)
    (hpaths : ∀ it ∈ src.items, LocalPath it.path) :
    stopOf (filesOf asked fun object =>
        objectFiles dir subject missing (get object) (entries object) src mode) =
      objectStop answer unread src.isOptional get src.wanted := by
  refine h.stop ?_ ?_ ?_
  · rintro e rfl
    rfl
  · rintro rfl
    rfl
  · rintro object hanswer rfl
    rw [filesOf, objectFiles]
    split
    · rename_i hitems
      rw [keyFiles_stop mode (hentries object hanswer), KeyedSource.wanted, hitems]
      rfl
    · exact itemFiles_stop hmissing (get object) _ mode hpaths

end

section

variable {ns : String} {access : ConfigAccess} {dir : List String} {src : KeyedSource}
  {subject : String} {mode : Nat}

theorem configMapVolumeFiles_eq (defaultMode : Option Int) :
    configMapVolumeFiles ns src defaultMode dir access =
      filesOf (getConfigMap access ns src.name src.isOptional) fun cm =>
        objectFiles dir ("configMap volume " ++ quoted src.name) (configMapMissing src.name)
          cm.keyData (cm.data.entries ++ cm.binaryData.entries) src
          (fileMode defaultMode defaultFileMode) := by
  unfold configMapVolumeFiles
  split <;> rename_i hasked <;> rw [hasked] <;> rfl

theorem secretVolumeFiles_eq (defaultMode : Option Int) :
    secretVolumeFiles ns src defaultMode dir access =
      filesOf (loadSecret access ns src.name src.isOptional) fun secret =>
        objectFiles dir ("secret volume " ++ quoted src.name) (secretMissing src.name)
          secret.data.get secret.data.entries src (fileMode defaultMode defaultFileMode) := by
  unfold secretVolumeFiles
  split <;> rename_i hasked <;> rw [hasked] <;> rfl

theorem projectedConfigMapFiles_eq : projectedConfigMapFiles ns src dir mode access =
    filesOf (getConfigMap access ns src.name src.isOptional) fun cm =>
      objectFiles dir "projected volume" (configMapMissing src.name) cm.keyData cm.data.entries
        src mode := by
  unfold projectedConfigMapFiles
  split <;> rename_i hasked <;> rw [hasked] <;> rfl

theorem projectedSecretFiles_eq : projectedSecretFiles ns src dir mode access =
    filesOf (loadSecret access ns src.name src.isOptional) fun secret =>
      objectFiles dir "projected volume" (secretMissing src.name) secret.data.get
        secret.data.entries src mode := by
  unfold projectedSecretFiles
  split <;> rename_i hasked <;> rw [hasked] <;> rfl

/-- A ConfigMap of a volume; `entries` are those taken when no items are listed. -/
theorem configMap_stop {pod : Pod} {entries : ConfigMap → List (String × Bytes)}
    (hentries : ∀ cm, cm.data.Valid → cm.binaryData.Valid → ∀ entry ∈ entries cm, ValidKey entry.1)
    (hstores : Stores pod.ns access) (hpaths : ∀ it ∈ src.items, LocalPath it.path) :
    stopOf (filesOf (getConfigMap access pod.ns src.name src.isOptional) fun cm =>
      objectFiles dir subject (configMapMissing src.name) cm.keyData (entries cm) src mode) =
        Lookup.stop pod access (.configMap src.name src.isOptional true src.wanted) := by
  refine filesOf_stop (getConfigMap_answers access pod.ns _ _) (fun _ => rfl) ?_ hpaths
  intro cm hanswer
  obtain ⟨get, hget, hvalid⟩ := hstores.configMaps
  rw [hget, Option.map_some, Option.some.injEq] at hanswer
  exact hentries cm (hvalid _ cm hanswer).1 (hvalid _ cm hanswer).2

theorem secret_stop {pod : Pod} (hstores : Stores pod.ns access)
    (hpaths : ∀ it ∈ src.items, LocalPath it.path) :
    stopOf (filesOf (loadSecret access pod.ns src.name src.isOptional) fun secret =>
      objectFiles dir subject (secretMissing src.name) secret.data.get secret.data.entries src
        mode) = Lookup.stop pod access (.secret src.name src.isOptional src.wanted) := by
  refine filesOf_stop (loadSecret_answers access pod.ns _ _) (fun _ => rfl) ?_ hpaths
  intro secret hanswer
  obtain ⟨get, hget, hvalid⟩ := hstores.secrets
  rw [hget, Option.map_some, Option.some.injEq] at hanswer
  exact hvalid _ secret hanswer

end

section

variable {pod : Pod} {policy : VolumePolicy} {access access' : ConfigAccess} {dir : List String}

theorem collect_ok {first others : Except TranslateError (List FileToWrite)}
    {files : List FileToWrite} (h : collect first others = .ok files) :
    (∃ these, first = .ok these) ∧ ∃ those, others = .ok those := by
  cases first with
  | error e => cases h
  | ok these =>
    cases others with
    | error e => cases h
    | ok those => exact ⟨⟨these, rfl⟩, those, rfl⟩

/-- A projected source that gave its files once; the path of a token was checked then. -/
theorem projectionFiles_stop {source : VolumeProjection} {mode : Nat} {files : List FileToWrite}
    (hstores : Stores pod.ns access') (htokens : access'.tokens.isSome = access.tokens.isSome)
    (hpaths : ∀ src ∈ source.keyed, ∀ it ∈ src.items, LocalPath it.path)
    (h : projectionFiles pod dir mode access source = .ok files) :
    stopOf (projectionFiles pod dir mode access' source) =
      source.lookups.findSome? (Lookup.stop pod access') := by
  cases source with
  | serviceAccountToken audience expirationSeconds path =>
    rw [VolumeProjection.lookups, List.findSome?_singleton, Lookup.stop]
    rw [projectionFiles] at h ⊢
    split at h
    · cases h
    · rename_i request hrequest
      obtain ⟨request', hrequest'⟩ := Option.isSome_iff_exists.mp
        (htokens.trans (by rw [hrequest]; rfl))
      rw [hrequest']
      dsimp only
      split at h
      · cases h
      · cases request' pod.ns (serviceAccountName pod) _ expirationSeconds with
        | error e => rfl
        | ok token =>
          dsimp only
          rw [addFile_of_below (below_of_addFile h)]
          rfl
  | configMap src =>
    rw [projectionFiles, projectedConfigMapFiles_eq, VolumeProjection.lookups,
      List.findSome?_singleton]
    exact configMap_stop (fun _ hdata _ => hdata) hstores (hpaths src List.mem_cons_self)
  | secret src =>
    rw [projectionFiles, projectedSecretFiles_eq, VolumeProjection.lookups,
      List.findSome?_singleton]
    exact secret_stop hstores (hpaths src List.mem_cons_self)
  | downwardAPI items => exact congrArg stopOf h
  | other => rfl

theorem projectedVolumeFiles_stop {sources : List VolumeProjection} {defaultMode : Option Int}
    {files : List FileToWrite} (hstores : Stores pod.ns access')
    (htokens : access'.tokens.isSome = access.tokens.isSome)
    (hpaths : ∀ source ∈ sources, ∀ src ∈ source.keyed, ∀ it ∈ src.items, LocalPath it.path)
    (h : projectedVolumeFiles pod defaultMode dir access sources = .ok files) :
    stopOf (projectedVolumeFiles pod defaultMode dir access' sources) =
      (sources.flatMap VolumeProjection.lookups).findSome? (Lookup.stop pod access') := by
  induction sources generalizing files with
  | nil => rfl
  | cons source rest ih =>
    rw [List.forall_mem_cons] at hpaths
    obtain ⟨⟨these, hthese⟩, those, hthose⟩ := collect_ok h
    rw [projectedVolumeFiles, stopOf_collect, List.flatMap_cons, List.findSome?_append,
      projectionFiles_stop hstores htokens hpaths.1 hthese, ih hpaths.2 hthose]

/-- Where a volume's files stop once the stores have changed. -/
theorem volumeFiles_stop {source : VolumeSource} {files : List FileToWrite}
    (hstores : Stores pod.ns access') (htokens : access'.tokens.isSome = access.tokens.isSome)
    (hpaths : ∀ src ∈ source.keyed, ∀ it ∈ src.items, LocalPath it.path)
    (h : volumeFiles pod source dir access = .ok files) :
    stopOf (volumeFiles pod source dir access') =
      source.lookups.findSome? (Lookup.stop pod access') := by
  cases source with
  | configMap src defaultMode =>
    rw [volumeFiles, configMapVolumeFiles_eq, VolumeSource.lookups, List.findSome?_singleton]
    refine configMap_stop (fun cm hdata hbinary => ?_) hstores (hpaths src List.mem_cons_self)
    exact List.forall_mem_append.mpr ⟨hdata, hbinary⟩
  | secret src defaultMode =>
    rw [volumeFiles, secretVolumeFiles_eq, VolumeSource.lookups, List.findSome?_singleton]
    exact secret_stop hstores (hpaths src List.mem_cons_self)
  | projected sources defaultMode =>
    refine projectedVolumeFiles_stop hstores htokens (fun source hsource src hsrc => ?_) h
    exact hpaths src (List.mem_flatMap.mpr ⟨source, hsource, hsrc⟩)
  | hostPath | emptyDir | unsupported => rfl

theorem resolveMount_stop {vol : Volume} {vm : VolumeMount} {resolved : Mount × Backing}
    (hstores : Stores pod.ns access') (htokens : access'.tokens.isSome = access.tokens.isSome)
    (hpaths : ∀ src ∈ vol.source.keyed, ∀ it ∈ src.items, LocalPath it.path)
    (h : resolveMount pod vol vm policy access = .ok resolved) :
    stopOf (resolveMount pod vol vm policy access') =
      vol.source.lookups.findSome? (Lookup.stop pod access') := by
  unfold resolveMount at h ⊢
  split at h
  · cases h
  · rename_i habs
    rw [if_neg habs]
    split at h
    · cases h
    · rename_i hsub
      rw [if_neg hsub]
      split at h
      · rename_i hsource
        rw [hsource]
        rfl
      · rename_i hsource
        rw [hsource]
        rfl
      · cases h
      · split at h
        · cases h
        · split at h
          · cases h
          · rename_i files hfiles
            rw [← volumeFiles_stop hstores htokens hpaths hfiles]
            cases volumeFiles pod vol.source _ access' <;> rfl

/-- Where the mounts stop once the stores have changed. -/
theorem resolveMounts_stop {volumes : List Volume} {mounts : List VolumeMount}
    {out : ResolvedVolumes} (hstores : Stores pod.ns access')
    (htokens : access'.tokens.isSome = access.tokens.isSome)
    (hpaths : ∀ v ∈ volumes, ∀ src ∈ v.source.keyed, ∀ it ∈ src.items, LocalPath it.path)
    (h : resolveMounts pod policy access volumes mounts = .ok out) :
    stopOf (resolveMounts pod policy access' volumes mounts) =
      ((mountedSources volumes mounts).flatMap VolumeSource.lookups).findSome?
        (Lookup.stop pod access') := by
  induction mounts generalizing out with
  | nil => rfl
  | cons vm rest ih =>
    rw [resolveMounts] at h ⊢
    rw [mountedSources, List.filterMap_cons]
    cases hfind : volumes.reverse.find? fun v => v.name == vm.name with
    | none =>
      rw [hfind] at h
      exact ih h
    | some vol =>
      have hvol : vol ∈ volumes := List.mem_reverse.mp (List.mem_of_find?_eq_some hfind)
      rw [hfind] at h
      dsimp only [Option.map_some] at h ⊢
      split at h
      · cases h
      · cases h
      · rename_i mount back more hmount hmore
        rw [List.flatMap_cons, List.findSome?_append,
          ← resolveMount_stop hstores htokens (hpaths vol hvol) hmount]
        have hothers := ih hmore
        rw [mountedSources] at hothers
        rw [← hothers]
        cases resolveMount pod vol vm policy access' with
        | error e => rfl
        | ok made => cases resolveMounts pod policy access' volumes rest <;> rfl

theorem validateVolumes_congr (htokens : access'.tokens.isSome = access.tokens.isSome)
    (volumes : List Volume) :
    validateVolumes policy access' volumes = validateVolumes policy access volumes := by
  have hnone : access'.tokens.isNone = access.tokens.isNone := by
    rw [← Option.not_isSome, ← Option.not_isSome, htokens]
  induction volumes with
  | nil => rfl
  | cons v rest ih => rw [validateVolumes, validateVolumes, hnone, ih]

theorem validateVolumes_ok {volumes kept : List Volume}
    (h : validateVolumes policy access volumes = .ok kept) : kept = keptVolumes access volumes := by
  induction volumes generalizing kept with
  | nil =>
    cases h
    rfl
  | cons v rest ih =>
    rw [validateVolumes] at h
    split at h
    · rename_i hskip
      rw [keptVolumes, List.filter_cons_of_neg (by simpa using hskip)]
      exact ih h
    · rename_i hkeep
      split at h
      · cases h
      · cases h
      · rename_i others _ hothers
        cases h
        rw [keptVolumes, List.filter_cons_of_pos (by exact decide_eq_true hkeep), ih hothers]
        rfl

/-- Where the volumes stop once the stores have changed. -/
theorem resolveVolumes_stop {out : ResolvedVolumes} (hstores : Stores pod.ns access')
    (htokens : access'.tokens.isSome = access.tokens.isSome)
    (hpaths : ∀ v ∈ pod.volumes, ∀ src ∈ v.source.keyed, ∀ it ∈ src.items, LocalPath it.path)
    (h : resolveVolumes pod policy access = .ok out) :
    stopOf (resolveVolumes pod policy access') =
      ((mountedSources (keptVolumes access' pod.volumes)
        ((pod.containers.head?.map Container.volumeMounts).getD [])).flatMap
          VolumeSource.lookups).findSome? (Lookup.stop pod access') := by
  rw [resolveVolumes] at h ⊢
  rw [← validateVolumes_congr htokens] at h
  split at h
  · cases h
  · rename_i kept hkept
    obtain rfl := validateVolumes_ok hkept
    cases hcontainers : pod.containers with
    | nil => rfl
    | cons c rest =>
      rw [hcontainers] at h
      refine resolveMounts_stop hstores htokens (fun v hv => ?_) h
      exact hpaths v (List.mem_of_mem_filter hv)

theorem translateVolumes_ok {env : Except TranslateError Unit} {out : ResolvedVolumes}
    (h : translateVolumes pod policy access env = .ok out) :
    resolveVolumes pod policy access = .ok out ∧ env = .ok () := by
  unfold translateVolumes at h
  split at h
  · cases h
  · cases h
  · cases h
  · rename_i vols hvols
    cases h
    exact ⟨hvols, rfl⟩

theorem translateVolumes_stop (env : Except TranslateError Unit) :
    stopOf (translateVolumes pod policy access env) =
      (stopOf (resolveVolumes pod policy access)).or (stopOf env) := by
  unfold translateVolumes
  cases resolveVolumes pod policy access with
  | error e => cases e <;> rfl
  | ok vols => cases env <;> rfl

theorem translatePod_stop {resolved : Except TranslateError Unit}
    {result : Container × ContainerSpec} (resolved' : Except TranslateError Unit)
    (h : translatePod pod resolved = .ok result) :
    stopOf (translatePod pod resolved') = stopOf resolved' := by
  unfold translatePod at h ⊢
  cases hreasons : unsupportedReasons pod with
  | cons reason reasons =>
    rw [hreasons] at h
    cases h
  | nil =>
    rw [hreasons] at h
    cases hcontainers : pod.containers with
    | nil =>
      rw [hcontainers] at h
      cases resolved <;> cases h
    | cons c rest => cases resolved' <;> rfl

theorem translate_ok {c : ContainerEnv} {result : Container × ContainerSpec}
    (h : pod.translate c policy access = .ok result) :
    ∃ vols, resolveVolumes pod policy access = .ok vols ∧
      ∃ env, resolveEnv pod c access = .ok env := by
  unfold Pod.translate at h
  cases hvols : translateVolumes pod policy access ((resolveEnv pod c access).map fun _ => ()) with
  | error e =>
    rw [hvols] at h
    exact absurd h translatePod_error
  | ok vols =>
    obtain ⟨hresolved, henv⟩ := translateVolumes_ok hvols
    cases hresolve : resolveEnv pod c access with
    | error e =>
      rw [hresolve] at henv
      cases henv
    | ok env => exact ⟨vols, hresolved, env, rfl⟩

end

/-- A result that is no final error succeeds or is retried. -/
theorem recovered_iff {α : Type} (r : Except TranslateError α) :
    ((∃ a, r = .ok a) ∨ ∃ e, r = .error e ∧ e.retryable = true) ↔ stopOf r ≠ some .ended := by
  cases r with
  | ok a => simp [stopOf]
  | error e => cases hretryable : e.retryable <;> simp [stopOf, hretryable]

/-- Where a Pod is translated in one attempt, another attempt with other answers of the stores
succeeds or fails so that it is made again, exactly when the first of its lookups that stops it is
not one that ends the Pod: no Secret that cannot be read, and no item at the path of the volume's
own directory. -/
theorem translate_recovers_iff {pod : Pod} {c : ContainerEnv} {policy : VolumePolicy}
    {access access' : ConfigAccess} {result : Container × ContainerSpec}
    (hpaths : ∀ v ∈ pod.volumes, ∀ src ∈ v.source.keyed, ∀ it ∈ src.items, LocalPath it.path)
    (hstores : Stores pod.ns access') (htokens : access'.tokens.isSome = access.tokens.isSome)
    (h : pod.translate c policy access = .ok result) :
    ((∃ result', pod.translate c policy access' = .ok result') ∨
        ∃ e, pod.translate c policy access' = .error e ∧ e.retryable = true) ↔
      (pod.lookups c access').findSome? (Lookup.stop pod access') ≠ some .ended := by
  obtain ⟨vols, hvols, env, henv⟩ := translate_ok h
  rw [recovered_iff, Pod.lookups, List.findSome?_append,
    ← resolveVolumes_stop hstores htokens hpaths hvols, ← resolveEnv_stop henv, Pod.translate,
    translatePod_stop _ h, stopOf_map, translateVolumes_stop, stopOf_map]

namespace ConfigWitness

open Sample

def passworded : ContainerEnv where
  envFrom := []
  env := [⟨"PASSWORD", "", some ⟨none, none, none, some ⟨⟨"db", none⟩, "password"⟩⟩⟩]
  limits := ⟨none, none, none⟩
  requests := ⟨none, none, none⟩

def noEnv : ContainerEnv := ⟨[], [], ⟨none, none, none⟩, ⟨none, none, none⟩⟩

/-- A Pod with an optional ConfigMap one key of which is to be the mounted directory itself. -/
def dotted : Pod :=
  { web with
    volumes := [⟨"settings", .configMap ⟨"settings", [⟨"mode", ".", none⟩], some true⟩ none⟩]
    containers := [{ app with volumeMounts := [⟨"settings", "/etc/settings", true, "", ""⟩] }] }

/-- A Pod that declares a Secret volume and does not mount it. -/
def spare : Pod := { web with volumes := [⟨"spare", .secret ⟨"tls", [], none⟩ none⟩] }

def policy : VolumePolicy := ⟨"/var/lib/macvz/volumes", []⟩

def oneKey (key : String) (value : Bytes) : DataMap :=
  ⟨[(key, value)], List.pairwise_singleton _ _⟩

def answering (cm : Except GetError ConfigMap) (secret : Except GetError Secret) : ConfigAccess :=
  ⟨some fun _ _ => cm, some fun _ _ => secret, none⟩

/-- Nothing is found, and every Secret but `db` cannot be read. -/
def onlyTimeouts : ConfigAccess :=
  ⟨some fun _ _ => .error .notFound,
    some fun _ name => if name = "db" then .error .notFound else .error (.other "timeout"), none⟩

def password : Secret := ⟨oneKey "password" [0x68, 0x69]⟩

theorem nil_sorted : ([] : List (String × Bytes)).Pairwise fun a b => a.1 < b.1 := .nil

def settings : ConfigMap := ⟨oneKey "mode" [0x31], [], nil_sorted⟩

theorem oneKey_valid {key : String} (h : ValidKey key) (value : Bytes) :
    (oneKey key value).Valid := by
  intro entry hentry
  rw [List.mem_singleton.mp hentry]
  exact h

theorem answering_stores (ns : String) {cm : Except GetError ConfigMap}
    {secret : Except GetError Secret}
    (hcm : ∀ found, cm = .ok found → found.data.Valid ∧ found.binaryData.Valid)
    (hsecret : ∀ found, secret = .ok found → found.data.Valid) : Stores ns (answering cm secret) :=
  ⟨⟨_, rfl, fun _ found h => hcm found h⟩, _, rfl, fun _ found h => hsecret found h⟩

theorem chars_of_all {key : String}
    (h : (key.toList.all fun c => c = '-' || c = '.' || c = '_' || c.isAlphanum) = true) :
    ∀ c ∈ key.toList, c = '-' ∨ c = '.' ∨ c = '_' ∨ c.isAlphanum = true := by
  intro c hc
  simpa [or_assoc] using List.all_eq_true.mp h c hc

theorem validKey_mode : ValidKey "mode" :=
  ⟨by decide, by decide, chars_of_all (by decide), by decide, by decide⟩

theorem validKey_password : ValidKey "password" :=
  ⟨by decide, by decide, chars_of_all (by decide), by decide, by decide⟩

theorem nothing_stored (ns : String) :
    Stores ns (answering (.error .notFound) (.error .notFound)) :=
  answering_stores ns (fun _ h => by cases h) fun _ h => by cases h

theorem password_translates :
    ∃ result, web.translate passworded policy (answering (.error .notFound) (.ok password)) =
      .ok result := ⟨_, rfl⟩

theorem dotted_translates : ∃ result, dotted.translate noEnv policy
      (answering (.error .notFound) (.error .notFound)) = .ok result := by
  have hok : (dotted.translate noEnv policy
      (answering (.error .notFound) (.error .notFound))).toBool = true := by decide
  cases hresult : dotted.translate noEnv policy
      (answering (.error .notFound) (.error .notFound)) with
  | ok result => exact ⟨result, rfl⟩
  | error e =>
    rw [hresult] at hok
    cases hok

theorem dotted_local : ∀ v ∈ dotted.volumes, ∀ src ∈ v.source.keyed, ∀ it ∈ src.items,
    LocalPath it.path := by
  simp only [dotted, List.mem_singleton, forall_eq, VolumeSource.keyed]
  exact ⟨by decide, by decide⟩

def endsFailed (r : Except TranslateError (Container × ContainerSpec)) : Bool :=
  match r with
  | .ok _ => false
  | .error e => !e.retryable

theorem not_recovered {r : Except TranslateError (Container × ContainerSpec)}
    (h : endsFailed r = true) : ¬ ((∃ result, r = .ok result) ∨
      ∃ e, r = .error e ∧ e.retryable = true) := by
  rintro (⟨result, rfl⟩ | ⟨e, rfl, hretryable⟩)
  · cases h
  · simp [endsFailed, hretryable] at h

end ConfigWitness

open ConfigWitness Sample in
/-- The Secret of the environment is deleted between the two attempts, and a volume that no mount
uses refers to one that cannot be read. -/
theorem translate_recovers_secret_gone :
    ∃ e, spare.translate passworded policy onlyTimeouts = .error e ∧ e.retryable = true := by
  have hresult : ∃ result, spare.translate passworded policy
      (answering (.error .notFound) (.ok password)) = .ok result := ⟨_, rfl⟩
  obtain ⟨result, hresult⟩ := hresult
  have hpaths : ∀ v ∈ spare.volumes, ∀ src ∈ v.source.keyed, ∀ it ∈ src.items,
      LocalPath it.path := by
    simp [spare, VolumeSource.keyed]
  have hstores : Stores spare.ns onlyTimeouts := by
    refine ⟨⟨_, rfl, fun _ _ h => by cases h⟩, _, rfl, fun name secret h => ?_⟩
    split at h <;> cases h
  have htokens : onlyTimeouts.tokens.isSome =
      (answering (.error .notFound) (.ok password)).tokens.isSome := rfl
  rcases (translate_recovers_iff hpaths hstores htokens hresult).mpr (by decide) with
    ⟨result', hok⟩ | hagain
  · cases hok
  · exact hagain

open ConfigWitness Sample in
/-- A Secret that cannot be read at the moment makes the Pod fail for good, and so does, with every
Secret found or absent, the appearance of an optional ConfigMap with an item at the path of the
directory itself. -/
theorem unreadable_secret_ends_pod :
    (¬ ∀ (pod : Pod) (c : ContainerEnv) (policy : VolumePolicy) (access access' : ConfigAccess)
      (result : Container × ContainerSpec),
      (∀ v ∈ pod.volumes, ∀ src ∈ v.source.keyed, ∀ it ∈ src.items, LocalPath it.path) →
      Stores pod.ns access → Stores pod.ns access' → access'.tokens = access.tokens →
      pod.translate c policy access = .ok result →
      (∃ result', pod.translate c policy access' = .ok result') ∨
        ∃ e, pod.translate c policy access' = .error e ∧ e.retryable = true) ∧
    ¬ ∀ (pod : Pod) (c : ContainerEnv) (policy : VolumePolicy) (access access' : ConfigAccess)
      (result : Container × ContainerSpec),
      (∀ v ∈ pod.volumes, ∀ src ∈ v.source.keyed, ∀ it ∈ src.items, LocalPath it.path) →
      Stores pod.ns access → Stores pod.ns access' → access'.tokens = access.tokens →
      (∀ get name message, access'.secrets = some get →
        get pod.ns name ≠ .error (.other message)) →
      pod.translate c policy access = .ok result →
      (∃ result', pod.translate c policy access' = .ok result') ∨
        ∃ e, pod.translate c policy access' = .error e ∧ e.retryable = true := by
  have hsettings : Stores dotted.ns (answering (.ok settings) (.error .notFound)) := by
    refine answering_stores _ (fun found h => ?_) fun _ h => by cases h
    cases h
    exact ⟨oneKey_valid validKey_mode _, fun _ h => by cases h⟩
  constructor
  · intro h
    obtain ⟨result, hresult⟩ := password_translates
    have hpassword : Stores web.ns (answering (.error .notFound) (.ok password)) := by
      refine answering_stores _ (fun _ h => by cases h) fun found h => ?_
      cases h
      exact oneKey_valid validKey_password _
    have hunreadable : Stores web.ns (answering (.error .notFound) (.error (.other "timeout"))) :=
      answering_stores _ (fun _ h => by cases h) fun _ h => by cases h
    refine not_recovered ?_ (h web passworded policy _ _ result (fun _ h => by cases h) hpassword
      hunreadable rfl hresult)
    decide
  · intro h
    obtain ⟨result, hresult⟩ := dotted_translates
    refine not_recovered ?_ (h dotted noEnv policy _ _ result dotted_local
      (nothing_stored dotted.ns) hsettings rfl ?_ hresult)
    rotate_left
    · rintro get name message hget
      obtain rfl := Option.some.inj hget
      simp
    decide

end MacVz
