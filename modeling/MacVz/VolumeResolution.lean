/-
How the volumes of a Pod become directories and files on the host.  Every source is
resolved into the files to be written under the volume's own directory, which lies
under the directory of the Pod.
-/
import MacVz.FileTree
import MacVz.GoPackages
import MacVz.PodModel

namespace MacVz

open GoFilepath FileTree

/-- `VolumePolicy`. -/
structure VolumePolicy where
  root : String
  hostPathAllowedPrefixes : List String

abbrev Bytes := List UInt8

/-- `fileToWrite`. -/
abbrev FileToWrite := NewFile String UInt8

/-- A map from keys to contents, in the order of its keys. -/
structure DataMap where
  entries : List (String × Bytes)
  sorted : entries.Pairwise fun a b => a.1 < b.1

def DataMap.get (m : DataMap) (key : String) : Option Bytes :=
  (m.entries.find? fun entry => entry.1 == key).map Prod.snd

/-- A ConfigMap with its two maps. -/
structure ConfigMap where
  data : DataMap
  binaryData : DataMap

structure Secret where
  data : DataMap

/-- What a getter answers instead of an object. -/
inductive GetError where
  | notFound
  | other (message : String)

/-- What the node may ask the API for, and what it is answered during one attempt. -/
structure ConfigAccess where
  configMaps : Option (String → String → Except GetError ConfigMap)
  secrets : Option (String → String → Except GetError Secret)
  tokens : Option (String → String → List String → Option Int → Except String Bytes)

/-- A text in double quotes, as `%q` writes one in which nothing has to be escaped. -/
def quoted (s : String) : String := "\"" ++ s ++ "\""

/-- The root of `safeJoinUnderRoot`, which has to be absolute.  The paths it returns are,
so the check can fail for a configured root only. -/
def absRoot (root : String) : Except String (List String) :=
  if isAbs root then .ok (segments root)
  else .error ("volume root " ++ quoted root ++ " must be absolute")

/-- `safeJoinUnderRoot`. -/
def safeJoinUnderRoot (root : List String) (elems : List String) : Except String (List String) :=
  if Below root (join root elems) then .ok (join root elems)
  else .error ("resolved volume path " ++ quoted (absText (join root elems)) ++
    " escapes volume root " ++ quoted (absText root))

/-- `safePodRoot`. -/
def safePodRoot (root podUID : String) : Except String (List String) :=
  if root = "" then .error "emptyDir volume root is not configured"
  else if podUID = "" then .error "emptyDir volumes require a non-empty Pod UID"
  else
    match absRoot root with
    | .ok root => safeJoinUnderRoot root [podUID]
    | .error e => .error e

/-- `safeVolumeDir`. -/
def safeVolumeDir (root podUID volumeName : String) : Except String (List String) :=
  if volumeName = "" then .error "emptyDir volume name must not be empty"
  else
    match safePodRoot root podUID with
    | .ok podRoot => safeJoinUnderRoot podRoot [volumeName]
    | .error e => .error e

/-- `getConfigMap`. -/
def getConfigMap (access : ConfigAccess) (ns name : String) (optional : Bool) :
    Except TranslateError (Option ConfigMap) :=
  match access.configMaps with
  | none => .error (.unsupported ("configMap " ++ quoted name ++
      " is referenced but ConfigMap resolution is not configured on this node"))
  | some get =>
    match get ns name with
    | .ok cm => .ok (some cm)
    | .error .notFound =>
      if optional then .ok none
      else .error (.configPending ("pod configuration not ready: configMap " ++
        quoted name ++ " not found"))
    | .error (.other message) =>
      .error (.configPending ("pod configuration not ready: get configMap " ++
        quoted name ++ ": " ++ message))

/-- `loadSecret`. -/
def loadSecret (access : ConfigAccess) (ns name : String) (optional : Bool) :
    Except TranslateError (Option Secret) :=
  match access.secrets with
  | none => .error (.unsupported ("secret " ++ quoted name ++
      " is referenced but this node has no Secret access configured"))
  | some get =>
    match get ns name with
    | .ok secret => .ok (some secret)
    | .error .notFound =>
      if optional then .ok none
      else .error (.secretUnavailable ("secret unavailable: secret " ++ quoted name ++
        " not found"))
    | .error (.other message) =>
      .error (.unsupported ("read secret " ++ quoted name ++ ": " ++ message))

/-- `configMapFileMode`, `secretFileMode` and `projectedFileMode`. -/
def defaultFileMode : Nat := 0o644

/-- `os.FileMode(mode) & os.ModePerm`, where a mode is given. -/
def fileMode (mode : Option Int) (default : Nat) : Nat :=
  match mode with
  | some mode => (mode % 0o1000).toNat
  | none => default

def KeyedSource.isOptional (src : KeyedSource) : Bool := src.optional.getD false

/-- The files collected by a loop: those of its first turn and of the others, or the error
of the first turn that fails. -/
def collect (first others : Except TranslateError (List FileToWrite)) :
    Except TranslateError (List FileToWrite) :=
  match first, others with
  | .error e, _ => .error e
  | .ok _, .error e => .error e
  | .ok files, .ok more => .ok (files ++ more)

/-- The closure `add` of the volume resolvers: a path stays within the directory. -/
def addFile (dir : List String) (subject : String) (relPath : String) (data : Bytes)
    (mode : Nat) : Except TranslateError (List FileToWrite) :=
  match safeJoinUnderRoot dir (split relPath) with
  | .ok dest => .ok [⟨dest, mode, data⟩]
  | .error e => .error (.unsupported (subject ++ " path " ++ quoted relPath ++ ": " ++ e))

/-- The files of the keys a source lists. -/
def itemFiles (dir : List String) (subject : String) (missing : String → TranslateError)
    (get : String → Option Bytes) (optional : Bool) (mode : Nat) :
    List KeyToPath → Except TranslateError (List FileToWrite)
  | [] => .ok []
  | it :: items =>
    match get it.key with
    | none =>
      if optional then itemFiles dir subject missing get optional mode items
      else .error (missing it.key)
    | some data =>
      collect (addFile dir subject it.path data (fileMode it.mode mode))
        (itemFiles dir subject missing get optional mode items)

/-- The loop over the keys of an object: a file is named after its key. -/
def keyFiles (dir : List String) (subject : String) (mode : Nat) :
    List (String × Bytes) → Except TranslateError (List FileToWrite)
  | [] => .ok []
  | (key, data) :: entries =>
    collect (addFile dir subject key data mode) (keyFiles dir subject mode entries)

/-- The files of an object: those of the items, or all of them if there are none. -/
def objectFiles (dir : List String) (subject : String) (missing : String → TranslateError)
    (get : String → Option Bytes) (entries : List (String × Bytes)) (src : KeyedSource)
    (mode : Nat) : Except TranslateError (List FileToWrite) :=
  if src.items = [] then keyFiles dir subject mode entries
  else itemFiles dir subject missing get src.isOptional mode src.items

/-- The closure `keyData`: data before binary data. -/
def ConfigMap.keyData (cm : ConfigMap) (key : String) : Option Bytes :=
  (cm.data.get key).or (cm.binaryData.get key)

def configMapMissing (name key : String) : TranslateError :=
  .configPending ("pod configuration not ready: configMap " ++ quoted name ++ " has no key " ++
    quoted key)

def secretMissing (name key : String) : TranslateError :=
  .secretUnavailable ("secret unavailable: secret " ++ quoted name ++ " has no key " ++ quoted key)

/-- `configMapVolumeFiles`. -/
def configMapVolumeFiles (ns : String) (src : KeyedSource) (defaultMode : Option Int)
    (dir : List String) (access : ConfigAccess) : Except TranslateError (List FileToWrite) :=
  match getConfigMap access ns src.name src.isOptional with
  | .error e => .error e
  | .ok none => .ok []
  | .ok (some cm) =>
    objectFiles dir ("configMap volume " ++ quoted src.name) (configMapMissing src.name)
      cm.keyData (cm.data.entries ++ cm.binaryData.entries) src
      (fileMode defaultMode defaultFileMode)

/-- `secretVolumeFiles`. -/
def secretVolumeFiles (ns : String) (src : KeyedSource) (defaultMode : Option Int)
    (dir : List String) (access : ConfigAccess) : Except TranslateError (List FileToWrite) :=
  match loadSecret access ns src.name src.isOptional with
  | .error e => .error e
  | .ok none => .ok []
  | .ok (some secret) =>
    objectFiles dir ("secret volume " ++ quoted src.name) (secretMissing src.name)
      secret.data.get secret.data.entries src (fileMode defaultMode defaultFileMode)

/-- `projectedConfigMapFiles`: without items binary data is not projected. -/
def projectedConfigMapFiles (ns : String) (src : KeyedSource) (dir : List String) (mode : Nat)
    (access : ConfigAccess) : Except TranslateError (List FileToWrite) :=
  match getConfigMap access ns src.name src.isOptional with
  | .error e => .error e
  | .ok none => .ok []
  | .ok (some cm) =>
    objectFiles dir "projected volume" (configMapMissing src.name) cm.keyData cm.data.entries
      src mode

/-- `projectedSecretFiles`. -/
def projectedSecretFiles (ns : String) (src : KeyedSource) (dir : List String) (mode : Nat)
    (access : ConfigAccess) : Except TranslateError (List FileToWrite) :=
  match loadSecret access ns src.name src.isOptional with
  | .error e => .error e
  | .ok none => .ok []
  | .ok (some secret) =>
    objectFiles dir "projected volume" (secretMissing src.name) secret.data.get
      secret.data.entries src mode

/-- `subscriptKey`: the quoted key of a field path such as the one of a label. -/
def subscriptKey (path field : String) : Option String :=
  match GoStrings.cutBeginning (field ++ "[").toList path.toList with
  | none => none
  | some rest =>
    let inner := rest.dropLast
    let isQuote (c : Char) : Bool := c.toNat = 39 || c.toNat = 34
    if rest.getLast? = some ']' ∧ 2 ≤ inner.length ∧ inner.head? = inner.getLast? ∧
        inner.head?.any isQuote then some (String.ofList (inner.drop 1).dropLast)
    else none

/-- `resolveFieldRef`. -/
def resolveFieldRef (pod : Pod) (path : String) : Except TranslateError String :=
  if path = "metadata.name" then .ok pod.name
  else if path = "metadata.namespace" then .ok pod.ns
  else if path = "metadata.uid" then .ok pod.uid
  else if path = "spec.nodeName" then .ok pod.nodeName
  else if path = "spec.serviceAccountName" then .ok pod.serviceAccountName
  else
    match subscriptKey path "metadata.labels", subscriptKey path "metadata.annotations" with
    | some key, _ => .ok ((pod.labels.lookup key).getD "")
    | none, some key => .ok ((pod.annotations.lookup key).getD "")
    | none, none => .error (.unsupported ("fieldRef " ++ quoted path ++ " is not supported"))

/-- `projectedDownwardFiles`. -/
def projectedDownwardFiles (pod : Pod) (dir : List String) (mode : Nat) :
    List DownwardItem → Except TranslateError (List FileToWrite)
  | [] => .ok []
  | it :: items =>
    match it.fieldPath with
    | none => .error (.unsupported ("downwardAPI projected item " ++ quoted it.path ++
        " has no fieldRef (resourceFieldRef is not supported in projected volumes yet)"))
    | some path =>
      match resolveFieldRef pod path with
      | .error e => .error e
      | .ok value =>
        collect (addFile dir "projected volume" it.path value.toUTF8.toList
          (fileMode it.mode mode)) (projectedDownwardFiles pod dir mode items)

/-- `serviceAccountName`. -/
def serviceAccountName (pod : Pod) : String :=
  if pod.serviceAccountName = "" then "default" else pod.serviceAccountName

/-- One source of a projected volume; a source of another kind is passed over. -/
def projectionFiles (pod : Pod) (dir : List String) (mode : Nat) (access : ConfigAccess) :
    VolumeProjection → Except TranslateError (List FileToWrite)
  | .serviceAccountToken audience expirationSeconds path =>
    match access.tokens with
    | none => .error (.unsupported ("pod " ++ quoted pod.name ++
        " projects a service-account token but this node has no token issuer configured"))
    | some request =>
      match request pod.ns (serviceAccountName pod)
          (if audience = "" then [] else [audience]) expirationSeconds with
      | .error e => .error (.configPending ("pod configuration not ready: " ++ e))
      | .ok token => addFile dir "projected volume" path token mode
  | .configMap src => projectedConfigMapFiles pod.ns src dir mode access
  | .secret src => projectedSecretFiles pod.ns src dir mode access
  | .downwardAPI items => projectedDownwardFiles pod dir mode items
  | .other => .ok []

/-- `projectedVolumeFiles`. -/
def projectedVolumeFiles (pod : Pod) (defaultMode : Option Int) (dir : List String)
    (access : ConfigAccess) : List VolumeProjection → Except TranslateError (List FileToWrite)
  | [] => .ok []
  | source :: sources =>
    collect (projectionFiles pod dir (fileMode defaultMode defaultFileMode) access source)
      (projectedVolumeFiles pod defaultMode dir access sources)

/-- `withinAllowedPrefix`, over cleaned paths as text. -/
def withinAllowedPrefix (cleaned : String) (prefixes : List String) : Bool :=
  prefixes.any fun p => cleaned == clean p || (clean p ++ "/").toList <+: cleaned.toList

/-- `validateHostPath`. -/
def validateHostPath (name path type : String) (policy : VolumePolicy) : Except String Unit :=
  if isAbs path = false then
    .error ("hostPath volume " ++ quoted name ++ " path " ++ quoted path ++ " must be absolute")
  else if type ∉ ["", "Directory", "DirectoryOrCreate"] then
    .error ("hostPath volume " ++ quoted name ++ " type " ++ quoted type ++
      " is not supported (only directory types are supported in the beta)")
  else if withinAllowedPrefix (clean path) policy.hostPathAllowedPrefixes = false then
    .error ("hostPath volume " ++ quoted name ++ " path " ++ quoted (clean path) ++
      " is not within an allowed prefix [" ++ " ".intercalate policy.hostPathAllowedPrefixes ++ "]")
  else .ok ()

/-- A volume of this kind is backed by a directory under the root. -/
def needsRoot (name kind unset : String) (policy : VolumePolicy) : Except String Unit :=
  if policy.root = "" then .error ("volume " ++ quoted name ++ " is " ++ kind ++ ", but " ++ unset)
  else if isAbs policy.root = false then
    .error ("volume " ++ quoted name ++ " is " ++ kind ++ ", but node.volumes.root " ++
      quoted policy.root ++ " is not absolute")
  else .ok ()

/-- `validateVolumeSource`. -/
def validateVolumeSource (v : Volume) (policy : VolumePolicy) : Except String Unit :=
  match v.source with
  | .hostPath path type =>
    if policy.hostPathAllowedPrefixes = [] then
      .error ("volume " ++ quoted v.name ++ " is a hostPath, which is disabled on this node " ++
        "(set node.volumes.hostPathAllowedPrefixes to allow specific prefixes)")
    else validateHostPath v.name path type policy
  | .emptyDir _ => needsRoot v.name "an emptyDir"
      "no ephemeral volume root is configured (set node.volumes.root)" policy
  | .configMap _ _ => needsRoot v.name "a configMap"
      "no volume root is configured to back it (set node.volumes.root)" policy
  | .secret _ _ => needsRoot v.name "a secret"
      "no volume root is configured to back it (set node.volumes.root)" policy
  | .projected _ _ => needsRoot v.name "projected"
      "no volume root is configured to back it (set node.volumes.root)" policy
  | .unsupported => .error ("volume " ++ quoted v.name ++ " uses an unsupported source type " ++
      "(only hostPath, emptyDir, configMap, secret, and projected are supported in the beta)")

/-- `types.Mount`. -/
structure Mount where
  source : String
  target : String
  readOnly : Bool
  tmpfs : Bool

/-- `backing`. -/
structure Backing where
  dir : Option (List String)
  files : List FileToWrite

def volumeDir (policy : VolumePolicy) (pod : Pod) (name : String) :
    Except TranslateError (List String) :=
  match safeVolumeDir policy.root pod.uid name with
  | .ok dir => .ok dir
  | .error e => .error (.unsupported e)

/-- The files a volume is made of. -/
def volumeFiles (pod : Pod) (source : VolumeSource) (dir : List String) (access : ConfigAccess) :
    Except TranslateError (List FileToWrite) :=
  match source with
  | .configMap src defaultMode => configMapVolumeFiles pod.ns src defaultMode dir access
  | .secret src defaultMode => secretVolumeFiles pod.ns src defaultMode dir access
  | .projected sources defaultMode => projectedVolumeFiles pod defaultMode dir access sources
  | _ => .ok []

def VolumeSource.isMaterialized : VolumeSource → Bool
  | .configMap _ _ | .secret _ _ | .projected _ _ => true
  | _ => false

def VolumeSource.isBacked : VolumeSource → Bool
  | .emptyDir memory => !memory
  | source => source.isMaterialized

/-- `resolveMount`.  A volume whose content is written is mounted read-only. -/
def resolveMount (pod : Pod) (vol : Volume) (vm : VolumeMount) (policy : VolumePolicy)
    (access : ConfigAccess) : Except TranslateError (Mount × Backing) :=
  if isAbs vm.mountPath = false then
    .error (.unsupported ("volume " ++ quoted vm.name ++ " mountPath " ++ quoted vm.mountPath ++
      " must be absolute"))
  else if vm.subPath ≠ "" ∨ vm.subPathExpr ≠ "" then
    .error (.unsupported ("volume " ++ quoted vm.name ++
      " uses subPath, which is not supported yet"))
  else
    match vol.source with
    | .hostPath path _ => .ok (⟨clean path, clean vm.mountPath, vm.readOnly, false⟩, ⟨none, []⟩)
    | .emptyDir true => .ok (⟨"", clean vm.mountPath, false, true⟩, ⟨none, []⟩)
    | .unsupported => .error (.unsupported ("volume " ++ quoted vm.name ++
        " uses an unsupported source type"))
    | source =>
      match volumeDir policy pod vm.name with
      | .error e => .error e
      | .ok dir =>
        match volumeFiles pod source dir access with
        | .error e => .error e
        | .ok files =>
          .ok (⟨absText dir, clean vm.mountPath, source.isMaterialized || vm.readOnly,
            false⟩, ⟨some dir, files⟩)

/-- `resolvedVolumes`. -/
structure ResolvedVolumes where
  mounts : List Mount
  ephemeralDirs : List (List String)
  configFiles : List FileToWrite

def ResolvedVolumes.none : ResolvedVolumes := ⟨[], [], []⟩

/-- `isDefaultProjectedToken`. -/
def isDefaultProjectedToken (v : Volume) : Bool :=
  "kube-api-access-".toList <+: v.name.toList || match v.source with
    | .projected sources _ => sources.any fun
      | .serviceAccountToken _ _ _ => true
      | _ => false
    | _ => false

/-- The declared volumes, all of them validated, without the default token that a node
with no token issuer does not mount. -/
def validateVolumes (policy : VolumePolicy) (access : ConfigAccess) :
    List Volume → Except TranslateError (List Volume)
  | [] => .ok []
  | v :: volumes =>
    if isDefaultProjectedToken v ∧ access.tokens.isNone then
      validateVolumes policy access volumes
    else
      match validateVolumeSource v policy, validateVolumes policy access volumes with
      | .error e, _ => .error (.unsupported e)
      | .ok (), .error e => .error e
      | .ok (), .ok others => .ok (v :: others)

/-- The loop over the mounts of the container; of two volumes with one name the later
counts, and a mount of another name is passed over. -/
def resolveMounts (pod : Pod) (policy : VolumePolicy) (access : ConfigAccess)
    (volumes : List Volume) : List VolumeMount → Except TranslateError ResolvedVolumes
  | [] => .ok .none
  | vm :: mounts =>
    match volumes.reverse.find? fun v => v.name == vm.name with
    | none => resolveMounts pod policy access volumes mounts
    | some vol =>
      match resolveMount pod vol vm policy access,
        resolveMounts pod policy access volumes mounts with
      | .error e, _ => .error e
      | .ok _, .error e => .error e
      | .ok (mount, back), .ok out =>
        .ok ⟨mount :: out.mounts, back.dir.toList ++ out.ephemeralDirs,
          back.files ++ out.configFiles⟩

/-- `resolveVolumes`. -/
def resolveVolumes (pod : Pod) (policy : VolumePolicy) (access : ConfigAccess) :
    Except TranslateError ResolvedVolumes :=
  match validateVolumes policy access pod.volumes with
  | .error e => .error e
  | .ok volumes =>
    match pod.containers with
    | [] => .ok .none
    | c :: _ => resolveMounts pod policy access volumes c.volumeMounts

/-- The volumes as `translatePod` resolves them: what is not waiting for configuration is
an unsupported Pod spec, and the environment, resolved after them, may still fail. -/
def translateVolumes (pod : Pod) (policy : VolumePolicy) (access : ConfigAccess)
    (env : Except TranslateError Unit) : Except TranslateError ResolvedVolumes :=
  match resolveVolumes pod policy access, env with
  | .error (.unsupported message), _ => .error (.unsupported ("unsupported Pod spec: " ++ message))
  | .error e, _ => .error e
  | .ok _, .error e => .error e
  | .ok vols, .ok () => .ok vols

section Confinement

variable {dir : List String} {access : ConfigAccess} {pod : Pod} {policy : VolumePolicy}

theorem safeJoinUnderRoot_below {root path : List String} {elems : List String}
    (h : safeJoinUnderRoot root elems = .ok path) : Below root path := by
  unfold safeJoinUnderRoot at h
  split at h
  · obtain rfl := Except.ok.inj h
    assumption
  · cases h

/-- The files of a resolver, if it has any, lie below the directory. -/
def FilesBelow (dir : List String) (resolved : Except TranslateError (List FileToWrite)) : Prop :=
  ∀ files, resolved = .ok files → ∀ f ∈ files, Below dir f.path

/-- Every file of a resolver is at a path that was joined to the directory and checked. -/
def FilesJoined (dir : List String) (resolved : Except TranslateError (List FileToWrite)) : Prop :=
  ∀ files, resolved = .ok files → ∀ f ∈ files, ∃ elems, safeJoinUnderRoot dir elems = .ok f.path

theorem FilesJoined.below {resolved : Except TranslateError (List FileToWrite)}
    (h : FilesJoined dir resolved) : FilesBelow dir resolved := by
  intro files hfiles f hf
  obtain ⟨elems, helems⟩ := h files hfiles f hf
  exact safeJoinUnderRoot_below helems

theorem nil_joined (dir : List String) : FilesJoined dir (.ok []) := by
  intro files h
  obtain rfl := Except.ok.inj h
  simp

theorem error_joined (dir : List String) (e : TranslateError) : FilesJoined dir (.error e) := by
  intro files h
  cases h

theorem collect_joined {first others : Except TranslateError (List FileToWrite)}
    (hfirst : FilesJoined dir first) (hothers : FilesJoined dir others) :
    FilesJoined dir (collect first others) := by
  intro files h f hf
  unfold collect at h
  split at h
  · cases h
  · cases h
  · rename_i these those
    obtain rfl := Except.ok.inj h
    rcases List.mem_append.mp hf with hf | hf
    · exact hfirst these rfl f hf
    · exact hothers those rfl f hf

theorem addFile_joined (dir : List String) (subject relPath : String) (data : Bytes) (mode : Nat) :
    FilesJoined dir (addFile dir subject relPath data mode) := by
  intro files h f hf
  unfold addFile at h
  split at h
  · rename_i dest hdest
    obtain rfl := Except.ok.inj h
    rw [List.mem_singleton.mp hf]
    exact ⟨split relPath, hdest⟩
  · cases h

theorem itemFiles_joined (dir : List String) (subject : String) (missing : String → TranslateError)
    (get : String → Option Bytes) (optional : Bool) (mode : Nat) (items : List KeyToPath) :
    FilesJoined dir (itemFiles dir subject missing get optional mode items) := by
  induction items with
  | nil => exact nil_joined dir
  | cons it items ih =>
    rw [itemFiles]
    split
    · split
      · exact ih
      · exact error_joined dir _
    · exact collect_joined (addFile_joined dir subject _ _ _) ih

theorem keyFiles_joined (dir : List String) (subject : String) (mode : Nat)
    (entries : List (String × Bytes)) : FilesJoined dir (keyFiles dir subject mode entries) := by
  induction entries with
  | nil => exact nil_joined dir
  | cons entry entries ih => exact collect_joined (addFile_joined dir subject _ _ _) ih

theorem objectFiles_joined (dir : List String) (subject : String)
    (missing : String → TranslateError) (get : String → Option Bytes)
    (entries : List (String × Bytes)) (src : KeyedSource) (mode : Nat) :
    FilesJoined dir (objectFiles dir subject missing get entries src mode) := by
  unfold objectFiles
  split
  · exact keyFiles_joined dir subject mode entries
  · exact itemFiles_joined dir subject missing get _ mode src.items

theorem configMapVolumeFiles_joined (ns : String) (src : KeyedSource) (defaultMode : Option Int)
    (dir : List String) (access : ConfigAccess) :
    FilesJoined dir (configMapVolumeFiles ns src defaultMode dir access) := by
  unfold configMapVolumeFiles
  split
  · exact error_joined dir _
  · exact nil_joined dir
  · exact objectFiles_joined dir _ _ _ _ src _

theorem secretVolumeFiles_joined (ns : String) (src : KeyedSource) (defaultMode : Option Int)
    (dir : List String) (access : ConfigAccess) :
    FilesJoined dir (secretVolumeFiles ns src defaultMode dir access) := by
  unfold secretVolumeFiles
  split
  · exact error_joined dir _
  · exact nil_joined dir
  · exact objectFiles_joined dir _ _ _ _ src _

theorem projectedDownwardFiles_joined (pod : Pod) (dir : List String) (mode : Nat)
    (items : List DownwardItem) : FilesJoined dir (projectedDownwardFiles pod dir mode items) := by
  induction items with
  | nil => exact nil_joined dir
  | cons it items ih =>
    rw [projectedDownwardFiles]
    split
    · exact error_joined dir _
    · split
      · exact error_joined dir _
      · exact collect_joined (addFile_joined dir _ _ _ _) ih

theorem projectionFiles_joined (pod : Pod) (dir : List String) (mode : Nat) (access : ConfigAccess)
    (source : VolumeProjection) : FilesJoined dir (projectionFiles pod dir mode access source) := by
  cases source with
  | serviceAccountToken audience expirationSeconds path =>
    rw [projectionFiles]
    split
    · exact error_joined dir _
    · split
      · exact error_joined dir _
      · exact addFile_joined dir _ _ _ _
  | configMap src =>
    rw [projectionFiles, projectedConfigMapFiles]
    split
    · exact error_joined dir _
    · exact nil_joined dir
    · exact objectFiles_joined dir _ _ _ _ src mode
  | secret src =>
    rw [projectionFiles, projectedSecretFiles]
    split
    · exact error_joined dir _
    · exact nil_joined dir
    · exact objectFiles_joined dir _ _ _ _ src mode
  | downwardAPI items => exact projectedDownwardFiles_joined pod dir mode items
  | other => exact nil_joined dir

theorem projectedVolumeFiles_joined (pod : Pod) (defaultMode : Option Int) (dir : List String)
    (access : ConfigAccess) (sources : List VolumeProjection) :
    FilesJoined dir (projectedVolumeFiles pod defaultMode dir access sources) := by
  induction sources with
  | nil => exact nil_joined dir
  | cons source sources ih =>
    exact collect_joined (projectionFiles_joined pod dir _ access source) ih

theorem volumeFiles_joined (pod : Pod) (source : VolumeSource) (dir : List String)
    (access : ConfigAccess) : FilesJoined dir (volumeFiles pod source dir access) := by
  unfold volumeFiles
  split
  · exact configMapVolumeFiles_joined _ _ _ dir access
  · exact secretVolumeFiles_joined _ _ _ dir access
  · exact projectedVolumeFiles_joined pod _ dir access _
  · exact nil_joined dir

theorem volumeDir_below {name : String} (h : volumeDir policy pod name = .ok dir) :
    ∃ root, safePodRoot policy.root pod.uid = .ok root ∧ Below root dir := by
  unfold volumeDir safeVolumeDir at h
  split at h
  · rename_i joined hjoined
    obtain rfl := Except.ok.inj h
    split at hjoined
    · cases hjoined
    · split at hjoined
      · rename_i root hroot
        exact ⟨root, hroot, safeJoinUnderRoot_below hjoined⟩
      · cases hjoined
  · cases h

/-- All paths of the resolved volumes are below the directory of the Pod. -/
def ResolvedVolumes.Confined (vols : ResolvedVolumes) (policy : VolumePolicy) (uid : String) :
    Prop :=
  ∀ path, path ∈ vols.ephemeralDirs ∨ path ∈ vols.configFiles.map NewFile.path →
    ∃ root, safePodRoot policy.root uid = .ok root ∧ Below root path

theorem none_confined (policy : VolumePolicy) (uid : String) :
    ResolvedVolumes.none.Confined policy uid := by
  rintro path (h | h) <;> cases h

/-- A mount's directory and files lie below the Pod's own root. -/
theorem resolveMount_confined {vol : Volume} {vm : VolumeMount} {mount : Mount} {back : Backing}
    (h : resolveMount pod vol vm policy access = .ok (mount, back)) :
    ResolvedVolumes.Confined ⟨[mount], back.dir.toList, back.files⟩ policy pod.uid := by
  unfold resolveMount at h
  split at h
  · cases h
  · split at h
    · cases h
    · split at h
      · cases h
        rintro path (h | h) <;> cases h
      · cases h
        rintro path (h | h) <;> cases h
      · cases h
      · split at h
        · cases h
        · rename_i made hmade
          split at h
          · cases h
          · rename_i resolved hfiles
            cases h
            obtain ⟨root, hroot, hbelow⟩ := volumeDir_below hmade
            rintro path (hpath | hpath)
            · obtain rfl : path = made := by simpa using hpath
              exact ⟨root, hroot, hbelow⟩
            · obtain ⟨f, hf, rfl⟩ := List.mem_map.mp hpath
              exact ⟨root, hroot, hbelow.trans ((volumeFiles_joined pod _ made access).below _
                hfiles f hf)⟩

/-- Every mount's directory and files lie below the Pod's own root. -/
theorem resolveMounts_confined {volumes : List Volume} {mounts : List VolumeMount}
    {vols : ResolvedVolumes} (h : resolveMounts pod policy access volumes mounts = .ok vols) :
    vols.Confined policy pod.uid := by
  induction mounts generalizing vols with
  | nil =>
    obtain rfl := Except.ok.inj h
    exact none_confined policy pod.uid
  | cons vm mounts ih =>
    rw [resolveMounts] at h
    split at h
    · exact ih h
    · split at h
      · cases h
      · cases h
      · rename_i mount back out hmount hout
        obtain rfl := Except.ok.inj h
        have hfirst := resolveMount_confined hmount
        have hrest := ih hout
        intro path hpath
        simp only [List.mem_append, List.map_append] at hpath
        rcases hpath with (hpath | hpath) | (hpath | hpath)
        · exact hfirst path (Or.inl hpath)
        · exact hrest path (Or.inl hpath)
        · exact hfirst path (Or.inr hpath)
        · exact hrest path (Or.inr hpath)

theorem translateVolumes_confined {env : Except TranslateError Unit} {vols : ResolvedVolumes}
    (h : translateVolumes pod policy access env = .ok vols) : vols.Confined policy pod.uid := by
  have hresolved : resolveVolumes pod policy access = .ok vols := by
    unfold translateVolumes at h
    split at h
    all_goals first
      | cases h
        assumption
      | cases h
  unfold resolveVolumes at hresolved
  split at hresolved
  · cases hresolved
  · split at hresolved
    · obtain rfl := Except.ok.inj hresolved
      exact none_confined policy pod.uid
    · exact resolveMounts_confined hresolved

end Confinement

end MacVz
