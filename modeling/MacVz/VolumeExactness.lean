/-
What the directories of a Pod hold when it is committed.  An attempt makes directories,
creates files and writes over files; it removes none.  So the files it has resolved are
there with their contents and modes, and with them every file that an earlier attempt
has left under another path.
-/
import MacVz.VolumeAttempts

namespace MacVz

open Interleaving FileTree GoFilepath

/-- The places of `CreatePod` before its files are written. -/
def CreatePC.unwritten : CreatePC → Bool
  | .check | .translate | .volumeDirs | .configFiles => true
  | _ => false

/-- The places of `CreatePod` after its files were written, as long as it does not fail. -/
def CreatePC.written : CreatePC → Bool
  | .hadIP | .allocate | .lookup | .startAdopted | .credentials | .pull | .create | .start
  | .observe | .attach | .commit => true
  | _ => false

/-- The files of the volumes whose content is written by the node are these. -/
def HoldsExactly (policy : VolumePolicy) (pod : Pod) (disk : Tree String UInt8)
    (files : List FileToWrite) : Prop :=
  ∀ vol ∈ pod.volumes, vol.source.isMaterialized = true →
    ∀ dir, safeVolumeDir policy.root pod.uid vol.name = .ok dir →
      ∀ path, dir <+: path → fileAt disk path = lastFile files path

/-- Whatever file is in the directory of such a volume has the path of one of these. -/
def HoldsNoOther (policy : VolumePolicy) (pod : Pod) (disk : Tree String UInt8)
    (files : List FileToWrite) : Prop :=
  ∀ vol ∈ pod.volumes, vol.source.isMaterialized = true →
    ∀ dir, safeVolumeDir policy.root pod.uid vol.name = .ok dir →
      ∀ path, dir <+: path → (fileAt disk path).isSome = true → ∃ f ∈ files, f.path = path

/-- How far the files of an attempt are, given the disk on which it began. -/
structure CreateCall.Writes (c : CreateCall) (policy : VolumePolicy) (pod : Pod)
    (root : List String) (before : Tree String UInt8) (v : DiskSys) : Prop where
  pod_eq : c.pod = pod
  resolved : c.pc.translated = true →
    ∃ access env, translateVolumes pod policy access env = .ok v.vols
  unwritten : c.pc.unwritten = true → ∀ path, root <+: path →
    fileAt v.disk path = fileAt before path
  written : c.pc.written = true → ∀ path, root <+: path →
    fileAt v.disk path = (lastFile v.vols.configFiles path).or (fileAt before path)

section Moves

variable {s : Sys} {o : Outcome} {c c' : CreateCall}

theorem CreateMove.unwritten_cases (h : CreateMove s o c c') (hnext : c'.pc.unwritten = true) :
    c.pc = .check ∨ c.pc = .translate ∨ c.pc = .volumeDirs := by
  cases h with
  | untracked hpc _ => exact Or.inl hpc
  | translated _ _ hpc _ => exact Or.inr (Or.inl hpc)
  | dirs hpc => exact Or.inr (Or.inr hpc)
  | found rs pc _ _ hgo => rcases hgo with ⟨rfl, _⟩ | ⟨rfl, _⟩ | ⟨rfl, _⟩ <;> cases hnext
  | started pc _ _ hgo => rcases hgo with ⟨rfl, _⟩ | ⟨rfl, _⟩ <;> cases hnext
  | recorded _ _ pc _ hgo | rolledBackAll pc _ hgo | failedEarly _ pc _ hgo =>
    rcases hgo with rfl | rfl <;> cases hnext
  | failedLate e pc _ hgo => rcases hgo with rfl | rfl | rfl <;> cases hnext
  | _ => cases hnext

theorem CreateMove.written_cases (h : CreateMove s o c c') (hnext : c'.pc.written = true) :
    c.pc = .configFiles ∨ c.pc.written = true := by
  cases h with
  | files hpc => exact Or.inl hpc
  | reservation hpc | allocated _ _ hpc _ | found _ _ hpc _ _ | notFound _ hpc _
  | credentials hpc | pulled hpc | created hpc _ | observed _ hpc _ | polled hpc _
  | attached hpc _ => exact Or.inr (by rw [hpc]; rfl)
  | started _ hpc _ _ => exact Or.inr (by rcases hpc with hpc | hpc <;> rw [hpc] <;> rfl)
  | recorded _ _ pc _ hgo | rolledBackAll pc _ hgo | failedEarly _ pc _ hgo =>
    rcases hgo with rfl | rfl <;> cases hnext
  | failedLate e pc _ hgo => rcases hgo with rfl | rfl | rfl <;> cases hnext
  | _ => cases hnext

theorem CreateMove.translated_cases (h : CreateMove s o c c') (hnext : c'.pc.translated = true) :
    c.pc = .translate ∧ (∃ container spec, translatePod c.pod o.resolved = .ok (container, spec)) ∨
      c.pc ≠ .translate ∧ c.pc.translated = true := by
  cases h with
  | translated container spec hpc htranslated => exact Or.inl ⟨hpc, container, spec, htranslated⟩
  | dirs hpc | files hpc | reservation hpc | allocated _ _ hpc _ | found _ _ hpc _ _
  | notFound _ hpc _ | credentials hpc | pulled hpc | created hpc _ | observed _ hpc _
  | polled hpc _ | attached hpc _ | rolledBack _ _ hpc =>
    exact Or.inr (by rw [hpc]; exact ⟨(fun h => by cases h), rfl⟩)
  | started _ hpc _ _ =>
    exact Or.inr (by
      rcases hpc with hpc | hpc <;> rw [hpc] <;> exact ⟨fun h => (by cases h), rfl⟩)
  | recorded _ _ pc _ hgo | rolledBackAll pc _ hgo | failedEarly _ pc _ hgo =>
    rcases hgo with rfl | rfl <;> cases hnext
  | failedLate e pc hpc hgo =>
    refine Or.inr ?_
    cases hplace : c.pc <;> simp [hplace, CreatePC.late] at hpc <;>
      exact ⟨fun h => (by cases h), rfl⟩
  | _ => cases hnext

theorem configFiles_ok (hpc : c.pc = .configFiles)
    (hnext : (createNext s c o).pc.written = true) : o.fault = none := by
  cases hfault : o.fault with
  | none => rfl
  | some fault =>
    simp only [createNext, hpc, hfault] at hnext
    rcases failWith_cases c (.materializeConfigMaps c.pod.key fault.error) with heq | heq <;>
      rw [heq] at hnext <;> cases hnext

end Moves

section Writes

variable {policy : VolumePolicy} {pod : Pod} {root path : List String}
  {before : Tree String UInt8} {v v' : DiskSys} {l : DiskLabel} {c : CreateCall} {o : Outcome}

theorem ensureVolumeDirs_eq (dirs : List (List String)) :
    ensureVolumeDirs dirs = (dirs.flatMap List.inits).map .mkdir := by
  rw [List.map_flatMap]
  rfl

theorem fileAt_ran_dirs (hpc : c.pc = .volumeDirs) (o : Outcome) (io : FileOutcome) :
    fileAt (v.ran c o io).1 path = fileAt v.disk path := by
  have hops : v.fileOps c = (v.vols.ephemeralDirs.flatMap List.inits).map .mkdir := by
    simp only [DiskSys.fileOps, hpc, ensureVolumeDirs_eq]
  unfold DiskSys.ran
  split
  · rw [hops]
    exact fileAt_applyAll_mkdir v.disk path
  · rw [hops, ← List.map_take]
    exact fileAt_applyAll_mkdir v.disk path

/-- Once the files are written, each path holds the file resolved for it, or what it held. -/
theorem fileAt_ran_files (hpc : c.pc = .configFiles) {io : FileOutcome}
    (hok : (v.ran c o io).2 = true) : fileAt (v.ran c o io).1 path =
      (lastFile v.vols.configFiles path).or (fileAt v.disk path) := by
  have hops : v.fileOps c = writeAll v.vols.configFiles := by
    simp only [DiskSys.fileOps, hpc, writeConfigFiles]
  unfold DiskSys.ran at hok ⊢
  split at hok
  · rw [hops] at hok ⊢
    exact fileAt_writeAll hok path
  · cases hok

theorem CreateCall.Writes.step_unwritten (h : c.Writes policy pod root before v)
    (hnext : (createNext v.sys c (v.outcome policy c o l.io)).pc.unwritten = true)
    (hpath : root <+: path) : fileAt (v.createDisk policy c o l.io) path = fileAt before path := by
  rcases (createNext_move _ c _).unwritten_cases hnext with hpc | hpc | hpc
  · simp only [DiskSys.createDisk, hpc]
    exact h.unwritten (by rw [hpc]; rfl) path hpath
  · simp only [DiskSys.createDisk, hpc]
    exact h.unwritten (by rw [hpc]; rfl) path hpath
  · simp only [DiskSys.createDisk, hpc]
    rw [fileAt_ran_dirs hpc]
    exact h.unwritten (by rw [hpc]; rfl) path hpath

/-- Once written, the files below the root are the resolved ones over those there before. -/
theorem CreateCall.Writes.step_written (h : c.Writes policy pod root before v)
    (hnext : (createNext v.sys c (v.outcome policy c o l.io)).pc.written = true)
    (hpath : root <+: path) : fileAt (v.createDisk policy c o l.io) path =
      (lastFile (v.createVols policy c l.io).configFiles path).or (fileAt before path) := by
  rcases (createNext_move _ c _).written_cases hnext with hpc | hwritten
  · have hfault := configFiles_ok hpc hnext
    have hok : (v.ran c o l.io).2 = true := by
      by_contra hfails
      simp [DiskSys.outcome, hpc, hfails] at hfault
    have hdisk : v.createDisk policy c o l.io = (v.ran c o l.io).1 := by
      simp only [DiskSys.createDisk, hpc]
    rw [hdisk, createVols_eq (by simp [hpc]), fileAt_ran_files hpc hok,
      h.unwritten (by rw [hpc]; rfl) path hpath]
  · have hdisk : v.createDisk policy c o l.io = v.disk := by
      unfold DiskSys.createDisk
      split
      case h_4 => rfl
      all_goals
        rename_i hpc
        rw [hpc] at hwritten
        cases hwritten
    have htranslate : c.pc ≠ .translate := by
      intro hpc
      rw [hpc] at hwritten
      cases hwritten
    rw [hdisk, createVols_eq htranslate]
    exact h.written hwritten path hpath

theorem CreateCall.Writes.step_resolved (h : c.Writes policy pod root before v)
    (hnext : (createNext v.sys c (v.outcome policy c o l.io)).pc.translated = true) :
    ∃ access env, translateVolumes pod policy access env = .ok (v.createVols policy c l.io) := by
  rcases (createNext_move _ c _).translated_cases hnext with
    ⟨hpc, container, spec, htranslated⟩ | ⟨hpc, hbefore⟩
  · refine ⟨l.io.access, l.io.env, ?_⟩
    rw [← h.pod_eq]
    simp only [DiskSys.createVols, hpc]
    cases hvols : translateVolumes c.pod policy l.io.access l.io.env with
    | ok vols => rfl
    | error e =>
      simp only [DiskSys.outcome, hpc, hvols] at htranslated
      exact absurd htranslated translatePod_error
  · rw [createVols_eq hpc]
    exact h.resolved hbefore

theorem CreateCall.Writes.step (h : c.Writes policy pod root before v) :
    (createNext v.sys c (v.outcome policy c o l.io)).Writes policy pod root before
      ⟨createStep v.sys c (v.outcome policy c o l.io), v.createDisk policy c o l.io,
        v.createVols policy c l.io⟩ where
  pod_eq := (createNext_move _ c _).pod_eq.trans h.pod_eq
  resolved := h.step_resolved
  unwritten := fun hnext _ => h.step_unwritten hnext
  written := fun hnext _ => h.step_written hnext

theorem CreateCall.Writes.frame (h : c.Writes policy pod root before v)
    (hvols : v'.vols = v.vols) (hdisk : ∀ path, root <+: path → v'.disk path = v.disk path) :
    c.Writes policy pod root before v' where
  pod_eq := h.pod_eq
  resolved := by
    rw [hvols]
    exact h.resolved
  unwritten := by
    intro hpc path hpath
    rw [fileAt, hdisk path hpath]
    exact h.unwritten hpc path hpath
  written := by
    intro hpc path hpath
    rw [fileAt, hdisk path hpath, hvols]
    exact h.written hpc path hpath

def SameAttempt (pod : Pod) (l : DiskLabel) : Prop :=
  ∀ other, l.label = .createBegin other → other.key ≠ pod.key

/-- A step keeps the files of the creation under way in keeping with its stage. -/
theorem step_writes (hseparate : Separate policy pod root v)
    (h : ∀ c, v.sys.creating = some c → c.pod.key = pod.key → c.Writes policy pod root before v)
    (hsame : SameAttempt pod l) (hstep : diskStep policy v l = some v') {c' : CreateCall}
    (hc' : v'.sys.creating = some c') (hkey : c'.pod.key = pod.key) :
    c'.Writes policy pod root before v' := by
  rcases diskStep_cases hstep with ⟨o, c, _, hc, rfl⟩ | ⟨hother, hs, hvols⟩
  · obtain ⟨rfl, _⟩ := createStep_goes hc'
    rw [(createNext_move _ c _).pod_eq] at hkey
    exact (h c hc hkey).step
  · rcases step_creating hs hc' with ⟨hc, _⟩ | ⟨other, hbegin, rfl⟩ | ⟨_, o, hcreate, _⟩
    · refine (h c' hc hkey).frame ?_ (hseparate.disk_frame hstep ?_ ?_)
      · rcases hvols with ⟨⟨other, hbegin⟩, _⟩ | ⟨_, hkept⟩
        · cases (createBegin_eq (hbegin ▸ hs)).1.symm.trans hc
        · exact hkept
      · exact fun _ o hcreate => absurd hcreate (hother o)
      · exact fun _ _ d _ hd => hseparate.turn c' hc hkey d (List.mem_of_getElem? hd)
    · exact absurd hkey (hsame other hbegin)
    · exact absurd hcreate (hother o)

theorem begin_writes (policy : VolumePolicy) (pod : Pod) (root : List String)
    (hdisk : ∀ path, root <+: path → v.disk path = before path) :
    (CreateCall.begin pod).Writes policy pod root before v where
  pod_eq := rfl
  resolved := fun h => by cases h
  unwritten := by
    intro _ path hpath
    rw [fileAt, hdisk path hpath]
    rfl
  written := fun h => by cases h

theorem begun_call {io : FileOutcome} (hbegin : diskStep policy v ⟨.createBegin pod, io⟩ = some v')
    (hc : v'.sys.creating = some c) : c = CreateCall.begin pod := by
  obtain ⟨_, hsys⟩ := createBegin_eq (diskStep_step hbegin)
  rw [hsys] at hc
  exact (Option.some.inj hc).symm

end Writes

theorem safeVolumeDir_under {policy : VolumePolicy} {pod : Pod} {root dir : List String}
    {name : String} (hroot : safePodRoot policy.root pod.uid = .ok root)
    (hdir : safeVolumeDir policy.root pod.uid name = .ok dir) : root <+: dir := by
  unfold safeVolumeDir at hdir
  split at hdir
  · cases hdir
  · rw [hroot] at hdir
    exact (safeJoinUnderRoot_below hdir).le

/-- The files are exact precisely where no other file was there before. -/
theorem holdsExactly_iff {policy : VolumePolicy} {pod : Pod} {root : List String}
    {before disk : Tree String UInt8} {files : List FileToWrite}
    (hroot : safePodRoot policy.root pod.uid = .ok root) (hdisk : ∀ path, root <+: path →
      fileAt disk path = (lastFile files path).or (fileAt before path)) :
    HoldsExactly policy pod disk files ↔ HoldsNoOther policy pod before files := by
  refine forall₄_congr fun vol _ _ dir => forall_congr' fun hdir => ?_
  refine forall₂_congr fun path hpath => ?_
  rw [hdisk path ((safeVolumeDir_under hroot hdir).trans hpath), ← lastFile_isSome]
  cases lastFile files path with
  | some file => simp
  | none => simp [Option.isSome_iff_exists, Option.eq_none_iff_forall_ne_some]

/-- When an attempt commits its Pod, the directories of its configMap, secret and projected
volumes hold exactly the files the attempt has resolved if and only if, when it began, they
held no file under another path. -/
theorem committed_files_exact_iff {policy : VolumePolicy} {pod : Pod} {root : List String}
    (hroot : safePodRoot policy.root pod.uid = .ok root) {podNet : Bool} {hostIP : String}
    {base : Int} {ipam : Option PodIPAM} {vms : VMTable} {nextInst : Nat} {disk : Tree String UInt8}
    {ls ms : List DiskLabel} {v₀ v₁ v v' : DiskSys} {io : FileOutcome} {l : DiskLabel}
    {c : CreateCall} {o : Outcome} (hrun₀ : Run (diskStep policy) (Attempts policy pod root)
      ⟨Sys.fresh podNet hostIP base ipam vms nextInst, disk, .none⟩ ls v₀)
    (hl₀ : Attempts policy pod root v₀ ⟨.createBegin pod, io⟩)
    (hbegin : diskStep policy v₀ ⟨.createBegin pod, io⟩ = some v₁)
    (hrun : Run (diskStep policy) (fun v l => Attempts policy pod root v l ∧ SameAttempt pod l)
      v₁ ms v) (hc : v.sys.creating = some c) (hkey : c.pod.key = pod.key) (hpc : c.pc = .commit)
    (hl : l.label = .create o) (hstep : diskStep policy v l = some v') :
    (∃ access env, translateVolumes pod policy access env = .ok v'.vols) ∧
      (HoldsExactly policy pod v'.disk v'.vols.configFiles ↔
        HoldsNoOther policy pod v₀.disk v'.vols.configFiles) := by
  have hseparate₀ : Separate policy pod root v₀ := by
    apply hrun₀.invariant (I := Separate policy pod root)
    · exact fresh_separate policy pod root podNet hostIP base ipam vms nextInst disk
    · intro v v' l h hl hstep
      exact step_separate h hl hstep
  have hinv : Separate policy pod root v ∧ ∀ c, v.sys.creating = some c →
      c.pod.key = pod.key → c.Writes policy pod root v₀.disk v := by
    apply hrun.invariant (I := fun v => Separate policy pod root v ∧
      ∀ c, v.sys.creating = some c → c.pod.key = pod.key → c.Writes policy pod root v₀.disk v)
    · refine ⟨step_separate hseparate₀ hl₀ hbegin, fun c hc _ => ?_⟩
      obtain rfl := begun_call hbegin hc
      apply begin_writes
      exact hseparate₀.disk_frame hbegin (fun _ _ h => by cases h) (fun _ _ _ h => by cases h)
    · intro v v' l h hl hstep
      exact ⟨step_separate h.1 hl.1 hstep, fun _ => step_writes h.1 h.2 hl.2 hstep⟩
  have hwrites := hinv.2 c hc hkey
  rcases diskStep_cases hstep with ⟨_, c₀, _, hc₀, rfl⟩ | ⟨hother, _⟩
  · obtain rfl := Option.some.inj (hc₀.symm.trans hc)
    simp only [createVols_eq (show c₀.pc ≠ .translate by simp [hpc])]
    refine ⟨hwrites.resolved (by rw [hpc]; rfl), holdsExactly_iff hroot fun path hpath => ?_⟩
    simp only [DiskSys.createDisk, hpc]
    exact hwrites.written (by rw [hpc]; rfl) path hpath
  · exact absurd hl (hother o)

namespace ExactnessWitness

open Sample

def passAndUser : DataMap := ⟨[("pass", [98]), ("user", [97])], by decide⟩

def serving (data : DataMap) (l : Label) : DiskLabel := ⟨l, servingSecret data⟩

/-- `CreatePod` up to the step that stores the Pod. -/
def untilCommit : List Label := List.replicate 13 (.create (okAt "192.168.64.5"))

def committing (v : DiskSys) : Bool :=
  v.sys.creating.any fun c => c.pod = secretPod && c.pc = .commit && !c.adopted

def isCreate (l : DiskLabel) : Bool :=
  match l.label with
  | .create _ => true
  | _ => false

theorem committing_call {v : DiskSys} (h : committing v = true) :
    ∃ c, v.sys.creating = some c ∧ c.pod = secretPod ∧ c.pc = .commit ∧ c.adopted = false := by
  simp only [committing, Option.any_eq_true, Bool.and_eq_true, decide_eq_true_eq,
    Bool.not_eq_true'] at h
  obtain ⟨c, hc, ⟨hpod, hpc⟩, hadopted⟩ := h
  exact ⟨c, hc, hpod, hpc, hadopted⟩

/-- `CreatePod` has begun on an empty disk. -/
def begunNode : DiskSys :=
  ⟨{ node with creating := some (CreateCall.begin secretPod) }, fun _ => none, .none⟩

def commitStep : DiskLabel := serving userOnly (.create .ok)

def passFile : List String := secretRoot ++ ["creds", "pass"]

end ExactnessWitness

open ExactnessWitness Sample in
/-- The first attempt on an empty disk commits exactly the file of the Secret. -/
theorem committed_files_exact_first : ∃ v v' : DiskSys,
    Run (diskStep volumePolicy)
      (fun v l => Attempts volumePolicy secretPod secretRoot v l ∧ SameAttempt secretPod l)
      begunNode (untilCommit.map (serving userOnly)) v ∧
    diskStep volumePolicy v commitStep = some v' ∧
    v'.vols.configFiles = [⟨secretRoot ++ ["creds", "user"], 0o644, [97]⟩] ∧
    HoldsExactly volumePolicy secretPod v'.disk v'.vols.configFiles := by
  have hexec : ∃ v, Run (diskStep volumePolicy)
      (fun v l => Attempts volumePolicy secretPod secretRoot v l ∧ SameAttempt secretPod l)
      begunNode (untilCommit.map (serving userOnly)) v ∧
      (committing v && (diskStep volumePolicy v commitStep).any fun v' =>
        v'.vols.configFiles = [⟨secretRoot ++ ["creds", "user"], 0o644, [97]⟩]) = true := by
    refine exists_run_of_check (fun _ l => isCreate l) ?_ (by decide)
    intro v l h
    unfold isCreate at h
    split at h
    · rename_i o hl
      exact ⟨attempts_of_ofPod secretRoot (by rw [ofPod, hl]), fun other hother => by
        cases hl.symm.trans hother⟩
    · cases h
  obtain ⟨v, hrun, hcheck⟩ := hexec
  rw [Bool.and_eq_true, Option.any_eq_true] at hcheck
  obtain ⟨hcommitting, v', hstep, hfiles⟩ := hcheck
  obtain ⟨c, hc, hpod, hpc, _⟩ := committing_call hcommitting
  have hbegins : Attempts volumePolicy secretPod secretRoot emptyNode
      (serving userOnly (.createBegin secretPod)) := attempts_of_ofPod secretRoot (by decide)
  have hiff := (committed_files_exact_iff secretRoot_eq .nil hbegins rfl hrun hc (by rw [hpod])
    hpc rfl hstep).2
  exact ⟨v, v', hrun, hstep, of_decide_eq_true hfiles, hiff.mpr fun _ _ _ _ _ _ _ h => by cases h⟩

open ExactnessWitness Sample in
/-- An attempt writes the files of a Secret with two keys and fails at `Pull`; the Secret
loses a key, the next attempt commits the Pod, and the file of the lost key is still
there. -/
theorem retried_create_keeps_stale_secret_file :
    ¬ ∀ (policy : VolumePolicy) (pod : Pod) (root : List String),
      safePodRoot policy.root pod.uid = .ok root →
      ∀ (podNet : Bool) (hostIP : String) (base : Int) (ipam : Option PodIPAM) (vms : VMTable)
      (nextInst : Nat) (disk : Tree String UInt8), (∀ path, root <+: path → disk path = none) →
      ∀ (ls : List DiskLabel) (v v' : DiskSys) (l : DiskLabel) (c : CreateCall) (o : Outcome),
      Run (diskStep policy) (Attempts policy pod root)
        ⟨Sys.fresh podNet hostIP base ipam vms nextInst, disk, .none⟩ ls v →
      v.sys.creating = some c → c.pod = pod → c.pc = .commit → c.adopted = false →
      l.label = .create o → diskStep policy v l = some v' →
      HoldsExactly policy pod v'.disk v'.vols.configFiles := by
  intro hall
  have hexec : ∃ v, Run (diskStep volumePolicy) (Attempts volumePolicy secretPod secretRoot)
      emptyNode ((failedAttempt 8 pullFails 1).map (serving passAndUser) ++
        (.createBegin secretPod :: untilCommit).map (serving userOnly)) v ∧
      (committing v && (diskStep volumePolicy v commitStep).any fun v' =>
        fileAt v'.disk passFile = some ([98], 0o644) &&
          (lastFile v'.vols.configFiles passFile).isNone) = true :=
    exists_run_of_check (ofPod secretPod) (fun _ _ => attempts_of_ofPod secretRoot)
      (by decide +kernel)
  obtain ⟨v, hrun, hcheck⟩ := hexec
  rw [Bool.and_eq_true, Option.any_eq_true] at hcheck
  obtain ⟨hcommitting, v', hstep, hcheck⟩ := hcheck
  rw [Bool.and_eq_true, decide_eq_true_eq, Option.isNone_iff_eq_none] at hcheck
  obtain ⟨hfile, hnone⟩ := hcheck
  obtain ⟨c, hc, hpod, hpc, hadopted⟩ := committing_call hcommitting
  have hexact := hall volumePolicy secretPod secretRoot secretRoot_eq _ _ _ _ _ _ _
    (fun _ _ => rfl) _ v v' _ c _ hrun hc hpod hpc hadopted rfl hstep
  have hstale := hexact ⟨"creds", .secret ⟨"db", [], none⟩ none⟩ (by decide) rfl
    (secretRoot ++ ["creds"]) (by decide +kernel) passFile (by decide)
  rw [hfile, hnone] at hstale
  cases hstale

end MacVz
