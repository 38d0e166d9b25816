/-
The provider with the files it writes.  `CreatePod` makes the directories of the
volumes and writes their files before it asks for an address; the tree of the Pod is
removed at the end of a rollback and at the end of `DeletePod`, and nowhere else.
-/
import MacVz.CallFrame
import MacVz.StepConditions
import MacVz.VolumeResolution

namespace MacVz

open Interleaving FileTree GoFilepath

variable {c : CreateCall} {op : Op String UInt8}

/-- `ensureVolumeDirs`. -/
def ensureVolumeDirs (dirs : List (List String)) : List (Op String UInt8) :=
  dirs.flatMap mkdirAll

/-- `writeConfigFiles`. -/
def writeConfigFiles (files : List FileToWrite) : List (Op String UInt8) := writeAll files

/-- `cleanupVolumeDirs`: nothing is removed for a Pod without a directory of its own, and
a removal that fails keeps something. -/
def cleanupVolumeDirs (policy : VolumePolicy) (pod : Pod) (kept : Option (List String → Bool))
    (disk : Tree String UInt8) : Tree String UInt8 :=
  match safePodRoot policy.root pod.uid with
  | .ok root => removeAll root (kept.getD fun _ => false) disk
  | .error _ => disk

/-- The provider and the disk; `vols` are the volumes of the `CreatePod` in flight. -/
structure DiskSys where
  sys : Sys
  disk : Tree String UInt8
  vols : ResolvedVolumes

/-- What the API answers at a step, how the resolution of the environment ends, how many
operations on files are carried out before a fault, and what a failed removal keeps. -/
structure FileOutcome where
  access : ConfigAccess
  env : Except TranslateError Unit
  done : Nat
  kept : Option (List String → Bool)

structure DiskLabel where
  label : Label
  io : FileOutcome

/-- The operations on files `CreatePod` makes at its place. -/
def DiskSys.fileOps (v : DiskSys) (c : CreateCall) : List (Op String UInt8) :=
  match c.pc with
  | .volumeDirs => ensureVolumeDirs v.vols.ephemeralDirs
  | .configFiles => writeConfigFiles v.vols.configFiles
  | _ => []

/-- The disk after these operations, and whether they all succeeded: one may fail on what
it finds, and a fault ends them anywhere. -/
def DiskSys.ran (v : DiskSys) (c : CreateCall) (o : Outcome) (io : FileOutcome) :
    Tree String UInt8 × Bool :=
  match o.fault with
  | none => applyAll v.disk (v.fileOps c)
  | some _ => ((applyAll v.disk ((v.fileOps c).take io.done)).1, false)

def diskFault : Fault := ⟨.other "files" "operation failed", false⟩

/-- The outcome of a step of `CreatePod`, as far as the volumes decide it. -/
def DiskSys.outcome (policy : VolumePolicy) (v : DiskSys) (c : CreateCall) (o : Outcome)
    (io : FileOutcome) : Outcome :=
  match c.pc with
  | .translate =>
    { o with resolved := (translateVolumes c.pod policy io.access io.env).map fun _ => () }
  | .volumeDirs | .configFiles =>
    { o with fault := if (v.ran c o io).2 then none else some (o.fault.getD diskFault) }
  | _ => o

def DiskSys.label (policy : VolumePolicy) (v : DiskSys) (l : DiskLabel) : Label :=
  match l.label, v.sys.creating with
  | .create o, some c => .create (v.outcome policy c o l.io)
  | other, _ => other

def DiskSys.createDisk (policy : VolumePolicy) (v : DiskSys) (c : CreateCall) (o : Outcome)
    (io : FileOutcome) : Tree String UInt8 :=
  match c.pc with
  | .volumeDirs | .configFiles => (v.ran c o io).1
  | .rollback [] => cleanupVolumeDirs policy c.pod io.kept v.disk
  | _ => v.disk

def DiskSys.deleteDisk (policy : VolumePolicy) (v : DiskSys) (d : DeleteCall)
    (io : FileOutcome) : Tree String UInt8 :=
  match d.pc with
  | .stop [] => cleanupVolumeDirs policy d.st.pod io.kept v.disk
  | _ => v.disk

/-- The disk after a step. -/
def DiskSys.diskAfter (policy : VolumePolicy) (v : DiskSys) (l : DiskLabel) :
    Tree String UInt8 :=
  match l.label with
  | .create o => (v.sys.creating.map fun c => v.createDisk policy c o l.io).getD v.disk
  | .delete place _ => ((v.sys.deletes[place]?).map fun d => v.deleteDisk policy d l.io).getD v.disk
  | _ => v.disk

def DiskSys.createVols (policy : VolumePolicy) (v : DiskSys) (c : CreateCall)
    (io : FileOutcome) : ResolvedVolumes :=
  match c.pc with
  | .translate => (translateVolumes c.pod policy io.access io.env).toOption.getD .none
  | _ => v.vols

/-- The volumes of the call under way after a step. -/
def DiskSys.volsAfter (policy : VolumePolicy) (v : DiskSys) (l : DiskLabel) : ResolvedVolumes :=
  match l.label with
  | .createBegin _ => .none
  | .create _ => (v.sys.creating.map fun c => v.createVols policy c l.io).getD v.vols
  | _ => v.vols

/-- A step of the provider together with its disk. -/
def diskStep (policy : VolumePolicy) (v : DiskSys) (l : DiskLabel) : Option DiskSys :=
  (step v.sys (v.label policy l)).map fun s =>
    ⟨s, v.diskAfter policy l, v.volsAfter policy l⟩

section DiskStep

variable {policy : VolumePolicy} {v v' : DiskSys} {l : DiskLabel} {o : Outcome}

theorem diskStep_step (h : diskStep policy v l = some v') :
    step v.sys (v.label policy l) = some v'.sys := by
  obtain ⟨s, hs, rfl⟩ := Option.map_eq_some_iff.mp h
  exact hs

theorem label_create (hl : l.label = .create o) (hc : v.sys.creating = some c) :
    v.label policy l = .create (v.outcome policy c o l.io) := by
  rw [DiskSys.label, hl, hc]

theorem label_eq {m : Label} (h : v.label policy l = m) (hm : ∀ o, m ≠ .create o) :
    l.label = m := by
  unfold DiskSys.label at h
  split at h
  · exact absurd h.symm (hm _)
  · exact h

/-- A step with the disk is one of `CreatePod`, or of another party: then the volumes of
the call stay as they are, and those of a call that begins are not known. -/
theorem diskStep_cases (h : diskStep policy v l = some v') :
    (∃ o c, l.label = .create o ∧ v.sys.creating = some c ∧
      v' = ⟨createStep v.sys c (v.outcome policy c o l.io), v.createDisk policy c o l.io,
        v.createVols policy c l.io⟩) ∨
    ((∀ o, l.label ≠ .create o) ∧ step v.sys l.label = some v'.sys ∧
      ((∃ pod, l.label = .createBegin pod) ∧ v'.vols = .none ∨
        (∀ pod, l.label ≠ .createBegin pod) ∧ v'.vols = v.vols)) := by
  obtain ⟨s, hs, rfl⟩ := Option.map_eq_some_iff.mp h
  cases hl : l.label with
  | create o =>
    cases hc : v.sys.creating with
    | none =>
      rw [DiskSys.label, hl, hc, step, hc] at hs
      cases hs
    | some c =>
      rw [label_create hl hc, step, hc] at hs
      obtain rfl := Option.some.inj hs
      refine Or.inl ⟨o, c, rfl, rfl, ?_⟩
      simp only [DiskSys.diskAfter, DiskSys.volsAfter, hl, hc, Option.map_some, Option.getD_some]
  | createBegin pod =>
    rw [DiskSys.label, hl] at hs
    refine Or.inr ⟨fun _ => (fun h => by cases h), hs, Or.inl ⟨⟨pod, rfl⟩, ?_⟩⟩
    simp only [DiskSys.volsAfter, hl]
  | _ =>
    rw [DiskSys.label, hl] at hs
    refine Or.inr ⟨fun _ h => (by cases h), hs, Or.inr ⟨fun _ h => (by cases h), ?_⟩⟩
    simp only [DiskSys.volsAfter, hl]

theorem createVols_eq (hpc : c.pc ≠ .translate) (io : FileOutcome) :
    v.createVols policy c io = v.vols := by
  unfold DiskSys.createVols
  split
  · contradiction
  · rfl

theorem createVols_confined (h : v.vols.Confined policy c.pod.uid) (io : FileOutcome) :
    (v.createVols policy c io).Confined policy c.pod.uid := by
  unfold DiskSys.createVols
  split
  · cases hvols : translateVolumes c.pod policy io.access io.env with
    | ok vols => exact translateVolumes_confined hvols
    | error e => exact none_confined policy c.pod.uid
  · exact h

/-- Every change a step can make to the disk. -/
inductive DiskMove (policy : VolumePolicy) (v : DiskSys) (l : DiskLabel) :
    Tree String UInt8 → Prop
  | same : DiskMove policy v l v.disk
  | files (c : CreateCall) (o : Outcome) : l.label = .create o → v.sys.creating = some c →
      c.pc = .volumeDirs ∨ c.pc = .configFiles → DiskMove policy v l (v.ran c o l.io).1
  | rolledBack (c : CreateCall) (o : Outcome) : l.label = .create o → v.sys.creating = some c →
      c.pc = .rollback [] →
      DiskMove policy v l (cleanupVolumeDirs policy c.pod l.io.kept v.disk)
  | deleted (place : Nat) (o : Outcome) (d : DeleteCall) : l.label = .delete place o →
      v.sys.deletes[place]? = some d → d.pc = .stop [] →
      DiskMove policy v l (cleanupVolumeDirs policy d.st.pod l.io.kept v.disk)

/-- What each step does to the disk. -/
theorem diskAfter_move (policy : VolumePolicy) (v : DiskSys) (l : DiskLabel) :
    DiskMove policy v l (v.diskAfter policy l) := by
  unfold DiskSys.diskAfter
  split
  · rename_i o hl
    cases hc : v.sys.creating with
    | none => exact .same
    | some c =>
      change DiskMove policy v l (v.createDisk policy c o l.io)
      unfold DiskSys.createDisk
      split
      · rename_i hpc
        exact .files c o hl hc (Or.inl hpc)
      · rename_i hpc
        exact .files c o hl hc (Or.inr hpc)
      · rename_i hpc
        exact .rolledBack c o hl hc hpc
      · exact .same
  · rename_i place o hl
    cases hd : v.sys.deletes[place]? with
    | none => exact .same
    | some d =>
      change DiskMove policy v l (v.deleteDisk policy d l.io)
      unfold DiskSys.deleteDisk
      split
      · rename_i hpc
        exact .deleted place o d hl hd hpc
      · exact .same
  · exact .same

theorem diskStep_move (h : diskStep policy v l = some v') : DiskMove policy v l v'.disk := by
  obtain ⟨s, _, rfl⟩ := Option.map_eq_some_iff.mp h
  exact diskAfter_move policy v l

theorem diskStep_deleted (h : diskStep policy v l = some v') {place : Nat} {d : DeleteCall}
    (hl : l.label = .delete place o) (hd : v.sys.deletes[place]? = some d) (hpc : d.pc = .stop []) :
    v'.disk = cleanupVolumeDirs policy d.st.pod l.io.kept v.disk := by
  obtain ⟨s, _, rfl⟩ := Option.map_eq_some_iff.mp h
  simp only [DiskSys.diskAfter, hl, hd, Option.map_some, Option.getD_some, DiskSys.deleteDisk, hpc]

end DiskStep

theorem mkdirAll_path {path : List String} (h : op ∈ mkdirAll path) : op.path <+: path := by
  obtain ⟨made, hmade, rfl⟩ := List.mem_map.mp h
  exact (List.mem_inits _ _).mp hmade

theorem fileOps_path {v : DiskSys} (h : op ∈ v.fileOps c) : ∃ path,
      (path ∈ v.vols.ephemeralDirs ∨ path ∈ v.vols.configFiles.map NewFile.path) ∧
        op.path <+: path := by
  unfold DiskSys.fileOps at h
  split at h
  · obtain ⟨dir, hdir, hop⟩ := List.mem_flatMap.mp h
    exact ⟨dir, Or.inl hdir, mkdirAll_path hop⟩
  · obtain ⟨f, hf, hop⟩ := List.mem_flatMap.mp h
    refine ⟨f.path, Or.inr (List.mem_map_of_mem hf), ?_⟩
    rcases List.mem_append.mp hop with hop | hop
    · exact (mkdirAll_path hop).trans (List.dropLast_prefix f.path)
    · simp only [writeFile, List.mem_cons, List.not_mem_nil, or_false] at hop
      rcases hop with rfl | rfl | rfl <;> exact List.prefix_refl f.path
  · cases h

/-- The tree of this Pod and the one under the path have nothing in common. -/
def ApartFrom (policy : VolumePolicy) (root : List String) (pod : Pod) : Prop :=
  ∀ other, safePodRoot policy.root pod.uid = .ok other → ¬ root <+: other ∧ ¬ other <+: root

section Apart

variable {policy : VolumePolicy} {root path : List String} {pod : Pod}

theorem ApartFrom.not_below (h : ApartFrom policy root pod) {other : List String}
    (hother : safePodRoot policy.root pod.uid = .ok other) (hpath : root <+: path) :
    ¬ other <+: path := by
  intro hbelow
  rcases List.prefix_or_prefix_of_prefix hpath hbelow with hle | hle
  · exact (h other hother).1 hle
  · exact (h other hother).2 hle

theorem cleanup_apart (h : ApartFrom policy root pod) (hpath : root <+: path)
    (kept : Option (List String → Bool)) (disk : Tree String UInt8) :
    cleanupVolumeDirs policy pod kept disk path = disk path := by
  cases hother : safePodRoot policy.root pod.uid with
  | ok other =>
    simp only [cleanupVolumeDirs, hother]
    exact removeAll_other (h.not_below hother hpath) _ disk
  | error e => simp only [cleanupVolumeDirs, hother]

theorem ran_apart {v : DiskSys} (h : ApartFrom policy root c.pod)
    (hconfined : v.vols.Confined policy c.pod.uid) (hpath : root <+: path) (o : Outcome)
    (io : FileOutcome) : (v.ran c o io).1 path = v.disk path := by
  have hops (op : Op String UInt8) (hop : op ∈ v.fileOps c) : path ≠ op.path := by
    rintro rfl
    obtain ⟨target, htarget, hle⟩ := fileOps_path hop
    obtain ⟨other, hother, hbelow⟩ := hconfined target htarget
    exact h.not_below hother (hpath.trans hle) hbelow.le
  unfold DiskSys.ran
  split
  · exact applyAll_other hops
  · exact applyAll_other fun op hop => hops op (List.mem_of_mem_take hop)

end Apart

namespace Sample

def volumePolicy : VolumePolicy := ⟨"/var/lib/macvz/volumes", []⟩

/-- A Pod that mounts the Secret `db`. -/
def secretPod : Pod :=
  { web with
    volumes := [⟨"creds", .secret ⟨"db", [], none⟩ none⟩]
    containers := [{ app with volumeMounts := [⟨"creds", "/etc/creds", false, "", ""⟩] }] }

def secretRoot : List String := ["var", "lib", "macvz", "volumes", "8f4b"]

theorem secretRoot_eq : safePodRoot volumePolicy.root secretPod.uid = .ok secretRoot := by
  decide

def servingSecret (data : DataMap) : FileOutcome where
  access := ⟨none, some fun _ _ => .ok ⟨data⟩, none⟩
  env := .ok ()
  done := 0
  kept := none

def userOnly : DataMap := ⟨[("user", [97])], by decide⟩

/-- `Pull` fails. -/
def pullFails : Outcome := { Outcome.ok with fault := some ⟨.other "pull" "timeout", false⟩ }

/-- `Start` fails. -/
def startFails : Outcome := { Outcome.ok with fault := some ⟨.other "start" "failed", false⟩ }

/-- `CreatePod` that fails at a step, up to its return. -/
def failedAttempt (before : Nat) (failure : Outcome) (after : Nat) : List Label :=
  .createBegin secretPod :: (List.replicate before (.create .ok) ++ .create failure ::
    List.replicate after (.create .ok))

def emptyNode : DiskSys := ⟨node, fun _ => none, .none⟩

end Sample

end MacVz
