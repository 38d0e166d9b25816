/-
The command line a workload is created with.  A shared directory is passed as one argument,
`source:target` or `source:target:ro`, without any quoting, so it is read back as it was meant
exactly when the source has no colon; a directory of the allowlist may have one.
-/
import MacVz.ExecErrors
import MacVz.VolumePaths

namespace MacVz.Driver

open GoFilepath

variable {c : Char} {path : List String}

/-- `types.ContainerSpec` with everything `Create` passes on; the environment in the order of
its names. -/
structure ContainerSpec extends MacVz.ContainerSpec where
  command : List String
  args : List String
  env : List (String × String)
  env_sorted : env.Pairwise fun a b => a.1 < b.1
  cpuMillis : Int64
  memoryBytes : Int64
  mounts : List Mount
  dns : List String
  dnsSearch : List String
  dnsOptions : List String
  user : String
  readOnlyRootFS : Bool
  capAdd : List String
  capDrop : List String

/-- `platformChoice`. -/
structure PlatformChoice where
  platform : String
  rosetta : Bool
deriving Repr, DecidableEq

def eachFlag (flag : String) (values : List String) : List String :=
  values.flatMap fun value => [flag, value]

/-- The value of `--volume`. -/
def volumeArg (m : Mount) : String :=
  m.source ++ ":" ++ m.target ++ if m.readOnly then ":ro" else ""

def mountArgs (m : Mount) : List String :=
  if m.tmpfs then ["--tmpfs", m.target] else ["--volume", volumeArg m]

/-- The flags for processors and memory; a part of a processor counts as a whole one. -/
def resourceArgs (spec : ContainerSpec) : List String :=
  (if 0 < spec.cpuMillis then ["--cpus", toString ((spec.cpuMillis + 999) / 1000)] else []) ++
    if 0 < spec.memoryBytes then
      ["--memory", toString ((spec.memoryBytes + 1048576 - 1) / 1048576) ++ "M"]
    else []

/-- The arguments of `Create`, with the platform where one was selected. -/
def createArgs (choice : Option PlatformChoice) (spec : ContainerSpec) : List String :=
  ["create", "--name", spec.name] ++
    (match choice with
      | none => []
      | some c => ["--platform", c.platform] ++ if c.rosetta then ["--rosetta"] else []) ++
    eachFlag "--env" (spec.env.map fun e => e.1 ++ "=" ++ e.2) ++
    eachFlag "--dns" spec.dns ++ eachFlag "--dns-search" spec.dnsSearch ++
    eachFlag "--dns-option" spec.dnsOptions ++ resourceArgs spec ++
    (if spec.user ≠ "" then ["--user", spec.user] else []) ++
    (if spec.readOnlyRootFS then ["--read-only"] else []) ++
    eachFlag "--cap-add" spec.capAdd ++ eachFlag "--cap-drop" spec.capDrop ++
    spec.mounts.flatMap mountArgs ++ ([spec.image] ++ spec.command ++ spec.args)

theorem mountArgs_within (choice : Option PlatformChoice) (spec : ContainerSpec) :
    spec.mounts.flatMap mountArgs <:+: createArgs choice spec := ⟨_, _, rfl⟩

/-- The docker-style reading: source, target and an option, separated by colons. -/
def readVolume (arg : String) : Option (String × String × Bool) :=
  match (arg.toList.splitOn ':').map String.ofList with
  | [source, target] => some (source, target, false)
  | [source, target, "ro"] => some (source, target, true)
  | _ => none

/-- The parts of a `--volume` argument. -/
def volumeParts (m : Mount) : List String :=
  [m.source, m.target] ++ if m.readOnly then ["ro"] else []

theorem volumeArg_toList (m : Mount) :
    (volumeArg m).toList = [':'].intercalate ((volumeParts m).map String.toList) := by
  cases hro : m.readOnly with
  | false => simp [volumeArg, volumeParts, hro, List.intercalate]
  | true => simp [volumeArg, volumeParts, hro, List.intercalate]

/-- A mount whose paths have no colon reads back from its argument. -/
theorem readVolume_volumeArg {m : Mount} (hsource : ':' ∉ m.source.toList)
    (htarget : ':' ∉ m.target.toList) :
    readVolume (volumeArg m) = some (m.source, m.target, m.readOnly) := by
  have hfree : ∀ part ∈ (volumeParts m).map String.toList, ':' ∉ part := by
    intro part hpart
    obtain ⟨p, hp, rfl⟩ := List.mem_map.mp hpart
    have hmem : p = m.source ∨ p = m.target ∨ p = "ro" := by
      cases hro : m.readOnly with
      | false => exact Or.imp_right Or.inl (by simpa [volumeParts, hro] using hp)
      | true => simpa [volumeParts, hro] using hp
    rcases hmem with rfl | rfl | rfl
    · exact hsource
    · exact htarget
    · decide
  have hsplit : ((volumeArg m).toList.splitOn ':').map String.ofList = volumeParts m := by
    rw [volumeArg_toList, List.splitOn_intercalate ':' hfree (by simp [volumeParts])]
    simp
  rw [readVolume, hsplit]
  cases hro : m.readOnly with
  | false => simp [volumeParts, hro]
  | true => simp [volumeParts, hro]

/-- A source read from an argument has no colon. -/
theorem no_colon_of_readVolume {arg source target : String} {readOnly : Bool}
    (h : readVolume arg = some (source, target, readOnly)) : ':' ∉ source.toList := by
  have hmem : source ∈ (arg.toList.splitOn ':').map String.ofList := by
    unfold readVolume at h
    split at h
    · rename_i hsplit
      cases h
      rw [hsplit]
      exact List.mem_cons_self
    · rename_i hsplit
      cases h
      rw [hsplit]
      exact List.mem_cons_self
    · cases h
  obtain ⟨part, hpart, rfl⟩ := List.mem_map.mp hmem
  rw [String.toList_ofList]
  exact MaximalRuns.not_mem_of_mem_splitOn hpart

theorem mem_absText (hc : c ≠ '/') (h : c ∈ (absText path).toList) :
    ∃ segment ∈ path, c ∈ segment.toList := by
  rw [absText, String.toList_append, List.mem_append] at h
  rcases h with hroot | hrest
  · exact absurd (by simpa using hroot) hc
  · induction path with
    | nil => simp at hrest
    | cons first path ih =>
      cases path with
      | nil => exact ⟨first, List.mem_cons_self, by simpa using hrest⟩
      | cons second path =>
        rw [String.intercalate_cons_cons] at hrest
        simp only [String.toList_append, List.mem_append] at hrest
        rcases hrest with (hfirst | hslash) | hmore
        · exact ⟨first, List.mem_cons_self, hfirst⟩
        · exact absurd (by simpa using hslash) hc
        · obtain ⟨segment, hsegment, hmem⟩ := ih hmore
          exact ⟨segment, List.mem_cons_of_mem first hsegment, hmem⟩

theorem free_of_foldl_push {rooted : Bool} {s : String}
    (hpath : ∀ segment ∈ path, c ∉ segment.toList) (hs : c ∉ s.toList) :
    ∀ segment ∈ (split s).foldl (push rooted) path, c ∉ segment.toList := by
  intro segment hsegment
  rcases mem_foldl_push hsegment with hold | ⟨hnew, -⟩
  · exact hpath segment hold
  · obtain ⟨part, hpart, rfl⟩ := List.mem_map.mp hnew
    rw [String.toList_ofList]
    exact fun hc => hs (MaximalRuns.subset_of_mem_splitOn '/' s.toList part hpart hc)

theorem safeJoinUnderRoot_free {root : List String} {elem : String}
    (h : safeJoinUnderRoot root [elem] = .ok path) (hroot : ∀ segment ∈ root, c ∉ segment.toList)
    (helem : c ∉ elem.toList) : ∀ segment ∈ path, c ∉ segment.toList := by
  unfold safeJoinUnderRoot at h
  split at h
  · cases h
    exact free_of_foldl_push hroot helem
  · cases h

/-- The directory of a volume has no colon where its root, the UID of its Pod and its name have
none. -/
theorem volumeDir_no_colon {policy : VolumePolicy} {pod : Pod} {name : String} {dir : List String}
    (h : volumeDir policy pod name = .ok dir) (hroot : ':' ∉ policy.root.toList)
    (huid : ':' ∉ pod.uid.toList) (hname : ':' ∉ name.toList) : ':' ∉ (absText dir).toList := by
  unfold volumeDir at h
  split at h
  · rename_i hsafe
    cases h
    obtain ⟨podRoot, hpod, hjoin⟩ := safeVolumeDir_ok hsafe
    obtain ⟨-, hpod⟩ := safePodRoot_ok hpod
    have hstart : ∀ segment ∈ segments policy.root, ':' ∉ segment.toList :=
      free_of_foldl_push (by simp) hroot
    have hfree := safeJoinUnderRoot_free hjoin (safeJoinUnderRoot_free hpod hstart huid) hname
    intro hcolon
    obtain ⟨segment, hsegment, hmem⟩ := mem_absText (by decide) hcolon
    exact hfree segment hsegment hmem
  · cases h

section

variable {pod : Pod} {vol : Volume} {vm : VolumeMount} {policy : VolumePolicy}
  {access : ConfigAccess} {mount : Mount} {back : Backing}

/-- A volume backed by files is mounted from its own directory. -/
theorem resolveMount_backed (h : resolveMount pod vol vm policy access = .ok (mount, back))
    (hbacked : vol.source.isBacked = true) :
    ∃ dir, volumeDir policy pod vm.name = .ok dir ∧ mount.source = absText dir := by
  unfold resolveMount at h
  split at h
  · cases h
  · split at h
    · cases h
    · split at h
      · rename_i hsource
        rw [hsource] at hbacked
        cases hbacked
      · rename_i hsource
        rw [hsource] at hbacked
        cases hbacked
      · cases h
      · split at h
        · cases h
        · rename_i dir hdir
          split at h
          · cases h
          · cases h
            exact ⟨dir, hdir, rfl⟩

/-- A shared directory is one argument of the command line, and is read back exactly when its
source has no colon.  The directories of the node itself have none unless the root, the UID or
the name of the volume has. -/
theorem volume_arg_reads_back_iff (h : resolveMount pod vol vm policy access = .ok (mount, back))
    (hbind : mount.tmpfs = false) (htarget : ':' ∉ mount.target.toList) :
    (∀ choice spec, mount ∈ spec.mounts →
        ["--volume", volumeArg mount] <:+: createArgs choice spec) ∧
      (readVolume (volumeArg mount) = some (mount.source, mount.target, mount.readOnly) ↔
        ':' ∉ mount.source.toList) ∧
      (vol.source.isBacked = true → ':' ∉ policy.root.toList → ':' ∉ pod.uid.toList →
        ':' ∉ vm.name.toList → ':' ∉ mount.source.toList) := by
  refine ⟨fun choice spec hmem => ?_, ⟨no_colon_of_readVolume, fun hsource =>
    readVolume_volumeArg hsource htarget⟩, fun hbacked hroot huid hname => ?_⟩
  · obtain ⟨front, rest, hsplit⟩ := List.append_of_mem hmem
    have hargs : mountArgs mount = ["--volume", volumeArg mount] := by
      rw [mountArgs, hbind]
      rfl
    have hmounts : mountArgs mount <:+: spec.mounts.flatMap mountArgs := by
      rw [hsplit, List.flatMap_append, List.flatMap_cons, ← List.append_assoc]
      exact List.infix_append _ _ _
    rw [← hargs]
    exact hmounts.trans (mountArgs_within choice spec)
  · obtain ⟨dir, hdir, hsource⟩ := resolveMount_backed h hbacked
    rw [hsource]
    exact volumeDir_no_colon hdir hroot huid hname

end

namespace Sample

open MacVz.Sample

/-- A node that lets Pods mount what is below `/srv`. -/
def srvPolicy : VolumePolicy := ⟨"/var/lib/macvz/volumes", ["/srv"]⟩

def noAccess : ConfigAccess := ⟨none, none, none⟩

def hostVolume (path : String) : Volume := ⟨"data", .hostPath path ""⟩

def dataMount : VolumeMount := ⟨"data", "/data", true, "", ""⟩

def hostMount (path : String) : Mount := ⟨path, "/data", true, false⟩

theorem resolveMount_host {path : String} (hclean : clean path = path) :
    resolveMount web (hostVolume path) dataMount srvPolicy noAccess =
      .ok (hostMount path, ⟨none, []⟩) := by
  have htarget : clean "/data" = "/data" := by decide +kernel
  have habs : isAbs "/data" = true := by decide +kernel
  simp [resolveMount, hostVolume, dataMount, hostMount, hclean, htarget, habs]

theorem plain_source_reads_back : validateVolumeSource (hostVolume "/srv/web") srvPolicy = .ok () ∧
      readVolume (volumeArg (hostMount "/srv/web")) = some ("/srv/web", "/data", true) := by
  have hclean : clean "/srv/web" = "/srv/web" := by decide
  have h := resolveMount_host hclean
  exact ⟨by decide, (volume_arg_reads_back_iff h rfl (by decide)).2.1.mpr (by decide)⟩

/-- A directory with a colon in its name is admitted, and the argument for it has a part too
many. -/
theorem colon_source_misread : validateVolumeSource (hostVolume "/srv/a:b") srvPolicy = .ok () ∧
      resolveMount web (hostVolume "/srv/a:b") dataMount srvPolicy noAccess =
        .ok (hostMount "/srv/a:b", ⟨none, []⟩) ∧
      volumeArg (hostMount "/srv/a:b") = "/srv/a:b:/data:ro" ∧
      readVolume (volumeArg (hostMount "/srv/a:b")) ≠ some ("/srv/a:b", "/data", true) := by
  exact ⟨by decide, resolveMount_host (by decide), by decide,
    by decide⟩

end Sample

end MacVz.Driver
