/-
Whether the files of a Pod are gone once it is deleted.  `DeletePod` removes the tree of
a tracked Pod, and a rollback removes the one of the attempt; an attempt that fails
without a rollback leaves what it has written, and `DeletePod` of the Pod, which is then
not tracked, does not look for it.
-/
import MacVz.VolumeAttempts
import MacVz.VolumePaths

namespace MacVz

open Interleaving FileTree GoFilepath

def ResolvedVolumes.isEmpty (vols : ResolvedVolumes) : Bool :=
  vols.ephemeralDirs.isEmpty && vols.configFiles.isEmpty

/-- Below the root only what was there before. -/
def NothingNew (root : List String) (before disk : Tree String UInt8) : Prop :=
  ∀ path, root <+: path → disk path ≠ none → disk path = before path

/-- The calls on a Pod follow each other, and files can be removed. -/
structure CleanAttempts (policy : VolumePolicy) (pod : Pod) (root : List String) (v : DiskSys)
    (l : DiskLabel) : Prop extends Attempts policy pod root v l where
  removes : l.io.kept = none

def CreatePC.left : CreatePC → Bool
  | .release | .done => true
  | _ => false

/-- `CreatePod` of the key fails at this step without a rollback only if its volumes need
neither a directory nor a file. -/
def failsEmpty (policy : VolumePolicy) (key : String) (v : DiskSys) (l : DiskLabel) : Bool :=
  match v.label policy l, v.sys.creating with
  | .create o, some c =>
    !(c.pod.key = key && (c.pc.early || c.pc.late) && (createNext v.sys c o).pc.left) ||
      v.vols.isEmpty
  | _, _ => true

def CreatePC.swept : CreatePC → Bool
  | .check | .translate | .release | .done => true
  | _ => false

/-- Where the files of a Pod are after a history of attempts. -/
structure Tidy (policy : VolumePolicy) (pod : Pod) (root : List String)
    (before : Tree String UInt8) (v : DiskSys) : Prop extends Separate policy pod root v where
  attempt : ∀ c, v.sys.creating = some c → c.pod.key = pod.key → v.sys.pods pod.key = none →
    c.pc.swept = true ∨ v.vols.isEmpty = true → NothingNew root before v.disk
  idle : v.sys.pods pod.key = none → (∀ c, v.sys.creating = some c → c.pod.key ≠ pod.key) →
    (∀ d ∈ v.sys.deletes, d.key ≠ pod.key) → NothingNew root before v.disk

section Files

variable {policy : VolumePolicy} {pod : Pod} {root : List String} {before : Tree String UInt8}
  {v v' : DiskSys} {l : DiskLabel} {o : Outcome} {c : CreateCall}

theorem NothingNew.congr {disk disk' : Tree String UInt8} (h : NothingNew root before disk)
    (hsame : ∀ path, root <+: path → disk' path = disk path) : NothingNew root before disk' := by
  intro path hpath hsome
  rw [hsame path hpath] at hsome ⊢
  exact h path hpath hsome

theorem cleanup_nothingNew {other : Pod} (hroot : safePodRoot policy.root other.uid = .ok root)
    (before disk : Tree String UInt8) :
    NothingNew root before (cleanupVolumeDirs policy other none disk) := by
  intro path hpath hsome
  simp only [cleanupVolumeDirs, hroot, Option.getD_none, removeAll_of_prefix hpath] at hsome
  exact absurd rfl hsome

theorem fileOps_empty (h : v.vols.isEmpty = true) (c : CreateCall) : v.fileOps c = [] := by
  simp only [ResolvedVolumes.isEmpty, Bool.and_eq_true, List.isEmpty_iff] at h
  unfold DiskSys.fileOps
  split
  · rw [h.1]
    rfl
  · rw [h.2]
    rfl
  · rfl

theorem ran_empty (h : v.vols.isEmpty = true) (c : CreateCall) (o : Outcome) (io : FileOutcome) :
    (v.ran c o io).1 = v.disk := by
  have hops := fileOps_empty h c
  unfold DiskSys.ran
  split
  · rw [hops]
    rfl
  · rw [hops, List.take_nil]
    rfl

/-- A call that is swept after its step was so before, has just removed its files, or has
failed without a rollback. -/
theorem CreateMove.swept_cases {s : Sys} {c' : CreateCall} (h : CreateMove s o c c')
    (hstores : c.pc.stores = false) (hswept : c'.pc.swept = true) :
    c.pc.swept = true ∨ c.pc = .rollback [] ∨
      (c.pc.early = true ∨ c.pc.late = true) ∧ c'.pc.left = true := by
  cases h with
  | tracked hpc _ | untracked hpc _ => exact Or.inl (by rw [hpc]; rfl)
  | committed hpc | recorded _ _ _ hpc _ =>
    rw [hpc] at hstores
    cases hstores
  | rolledBackAll pc hpc _ => exact Or.inr (Or.inl hpc)
  | released hpc => exact Or.inl (by rcases hpc with hpc | hpc <;> rw [hpc] <;> rfl)
  | failedEarly e pc hpc hgo =>
    exact Or.inr (Or.inr ⟨Or.inl hpc, by rcases hgo with rfl | rfl <;> rfl⟩)
  | failedLate e pc hpc hgo =>
    rcases hgo with rfl | rfl | rfl
    · exact Or.inr (Or.inr ⟨Or.inr hpc, rfl⟩)
    · exact Or.inr (Or.inr ⟨Or.inr hpc, rfl⟩)
    · cases hswept
  | found rs pc _ _ hgo => rcases hgo with ⟨rfl, _⟩ | ⟨rfl, _⟩ | ⟨rfl, _⟩ <;> cases hswept
  | started pc _ _ hgo => rcases hgo with ⟨rfl, _⟩ | ⟨rfl, _⟩ <;> cases hswept
  | _ => cases hswept

theorem createDisk_same (h : c.pc.swept = true ∨ v.vols.isEmpty = true) (hpc : c.pc ≠ .rollback [])
    (o : Outcome) (io : FileOutcome) : v.createDisk policy c o io = v.disk := by
  have hran (hplace : c.pc = .volumeDirs ∨ c.pc = .configFiles) : (v.ran c o io).1 = v.disk := by
    rcases h with hswept | hempty
    · rcases hplace with hplace | hplace <;> rw [hplace] at hswept <;> cases hswept
    · exact ran_empty hempty c o io
  unfold DiskSys.createDisk
  split
  · rename_i hplace
    exact hran (Or.inl hplace)
  · rename_i hplace
    exact hran (Or.inr hplace)
  · contradiction
  · rfl

/-- A creation's step that ends swept, or without volumes, leaves nothing new below the root. -/
theorem Tidy.attempt_step (h : Tidy policy pod root before v)
    (hroot : safePodRoot policy.root pod.uid = .ok root) (hl : l.label = .create o)
    (hc : v.sys.creating = some c) (hkey : c.pod.key = pod.key) (hkept : l.io.kept = none)
    (hfails : failsEmpty policy pod.key v l = true) (huntracked : v.sys.pods pod.key = none)
    (hstores : c.pc.stores = false)
    (hafter : (createNext v.sys c (v.outcome policy c o l.io)).pc.swept = true ∨
      (v.createVols policy c l.io).isEmpty = true) :
    NothingNew root before (v.createDisk policy c o l.io) := by
  by_cases hrollback : c.pc = .rollback []
  · have hdisk : v.createDisk policy c o l.io = cleanupVolumeDirs policy c.pod none v.disk := by
      simp only [DiskSys.createDisk, hrollback, hkept]
    rw [hdisk]
    apply cleanup_nothingNew
    rw [(h.call c hc).1.1 hkey]
    exact hroot
  · have hclear : c.pc.swept = true ∨ v.vols.isEmpty = true := by
      rcases hafter with hswept | hempty
      · rcases (createNext_move _ c _).swept_cases hstores hswept with hswept | hpc | ⟨hpc, hleft⟩
        · exact Or.inl hswept
        · exact absurd hpc hrollback
        · have hplace : (c.pc.early || c.pc.late) = true := by simpa using hpc
          rw [failsEmpty, label_create hl hc, hc] at hfails
          simp only [hkey, hplace, hleft, decide_true, Bool.and_self, Bool.not_true,
            Bool.false_or] at hfails
          exact Or.inr hfails
      · by_cases hpc : c.pc = .translate
        · exact Or.inl (by rw [hpc]; rfl)
        · rw [createVols_eq hpc] at hempty
          exact Or.inr hempty
    rw [createDisk_same hclear hrollback]
    exact h.attempt c hc hkey huntracked hclear

theorem Tidy.step_attempt (h : Tidy policy pod root before v)
    (hroot : safePodRoot policy.root pod.uid = .ok root) (hl : CleanAttempts policy pod root v l)
    (hfails : failsEmpty policy pod.key v l = true) (hstep : diskStep policy v l = some v')
    {c' : CreateCall} (hc' : v'.sys.creating = some c') (hkey : c'.pod.key = pod.key)
    (hnone : v'.sys.pods pod.key = none)
    (hafter : c'.pc.swept = true ∨ v'.vols.isEmpty = true) : NothingNew root before v'.disk := by
  have huntracked : v.sys.pods pod.key = none :=
    untracked_before (diskStep_step hstep) hnone fun _ => h.step_turn hl.toAttempts hstep hc' hkey
  rcases diskStep_cases hstep with ⟨o, c, hlabel, hc, rfl⟩ | ⟨hother, hs, hvols⟩
  · obtain ⟨rfl, _⟩ := createStep_goes hc'
    rw [(createNext_move _ c _).pod_eq] at hkey
    have hstores : c.pc.stores = false := stores_of_untracked (hkey ▸ hnone)
    exact h.attempt_step hroot hlabel hc hkey hl.removes hfails huntracked hstores hafter
  · rcases step_creating hs hc' with ⟨hc, _⟩ | ⟨other, hbegin, rfl⟩ | ⟨_, o, hcreate, _⟩
    · have hframe := h.disk_frame hstep (fun _ o hcreate => absurd hcreate (hother o))
        fun place o d _ hd => h.turn c' hc hkey d (List.mem_of_getElem? hd)
      refine (h.attempt c' hc hkey huntracked ?_).congr hframe
      rcases hvols with ⟨⟨other, hbegin⟩, _⟩ | ⟨_, hsame⟩
      · cases (createBegin_eq (hbegin ▸ hs)).1.symm.trans hc
      · rw [hsame] at hafter
        exact hafter
    · have hfree := (createBegin_eq (hbegin ▸ hs)).1
      have hidle := h.idle huntracked (by simp [hfree]) (hl.creates other hbegin hkey)
      refine hidle.congr (h.disk_frame hstep ?_ ?_)
      · exact fun _ o hcreate => absurd hcreate (hother o)
      · intro _ _ _ hdelete
        cases hbegin.symm.trans hdelete
    · exact absurd hcreate (hother o)

/-- `DeletePod` of the tracked Pod removes its files before it returns. -/
theorem Tidy.deletion_returned (h : Tidy policy pod root before v)
    (hroot : safePodRoot policy.root pod.uid = .ok root) (hkept : l.io.kept = none)
    (hstep : diskStep policy v l = some v') {place : Nat} {d : DeleteCall}
    (hlabel : l.label = .delete place o) (hd : v.sys.deletes[place]? = some d)
    (hpc : d.pc = .stop []) (hkey : d.key = pod.key) : NothingNew root before v'.disk := by
  obtain ⟨hown, hfits⟩ := h.teardown d (List.mem_of_getElem? hd)
  have hdisk := diskStep_deleted hstep hlabel hd hpc
  rw [hkept] at hdisk
  rw [hdisk]
  apply cleanup_nothingNew
  rw [hfits.1 (hown.trans hkey)]
  exact hroot

/-- With no call under way, an untracked Pod's root has nothing new. -/
theorem Tidy.step_idle (h : Tidy policy pod root before v)
    (hroot : safePodRoot policy.root pod.uid = .ok root) (hl : CleanAttempts policy pod root v l)
    (hfails : failsEmpty policy pod.key v l = true) (hstep : diskStep policy v l = some v')
    (hnone : v'.sys.pods pod.key = none)
    (hcalls : ∀ c, v'.sys.creating = some c → c.pod.key ≠ pod.key)
    (hdeletes : ∀ d ∈ v'.sys.deletes, d.key ≠ pod.key) : NothingNew root before v'.disk := by
  have huntracked : v.sys.pods pod.key = none :=
    untracked_before (diskStep_step hstep) hnone hdeletes
  by_cases hcall : ∃ c, v.sys.creating = some c ∧ c.pod.key = pod.key
  · -- the attempt has returned
    obtain ⟨c, hc, hkey⟩ := hcall
    rcases diskStep_cases hstep with ⟨o, c₀, hlabel, hc₀, rfl⟩ | ⟨hother, hs, _⟩
    · obtain rfl := Option.some.inj (hc₀.symm.trans hc)
      have hdone : (createNext v.sys c₀ (v.outcome policy c₀ o l.io)).pc = .done := by
        cases hnext : (createStep v.sys c₀ (v.outcome policy c₀ o l.io)).creating with
        | none => exact createStep_done hnext
        | some c' =>
          obtain ⟨rfl, _⟩ := createStep_goes hnext
          have hown := hcalls _ hnext
          rw [(createNext_move _ c₀ _).pod_eq] at hown
          exact absurd hkey hown
      have hstores : c₀.pc.stores = false := stores_of_untracked (hkey ▸ hnone)
      exact h.attempt_step hroot hlabel hc hkey hl.removes hfails huntracked hstores
        (Or.inl (by rw [hdone]; rfl))
    · exact absurd hkey (hcalls c (step_creating_kept hs hc hother))
  · have hnocall (c : CreateCall) (hc : v.sys.creating = some c) : c.pod.key ≠ pod.key :=
      fun hkey => hcall ⟨c, hc, hkey⟩
    by_cases hdelete : ∃ d ∈ v.sys.deletes, d.key = pod.key
    · -- the deletion has returned
      obtain ⟨d, hd, hkey⟩ := hdelete
      obtain ⟨place, o, hlabel, hplace, hpc⟩ :=
        step_deletion_over (diskStep_step hstep) hd (by simpa only [hkey] using hdeletes)
      exact h.deletion_returned hroot hl.removes hstep
        (label_eq hlabel fun _ h => by cases h) hplace hpc hkey
    · have hnodelete (d : DeleteCall) (hd : d ∈ v.sys.deletes) : d.key ≠ pod.key :=
        fun hkey => hdelete ⟨d, hd, hkey⟩
      refine (h.idle huntracked hnocall hnodelete).congr (h.disk_frame hstep ?_ ?_)
      · exact fun c _ _ hc => hnocall c hc
      · exact fun _ _ d _ hd => hnodelete d (List.mem_of_getElem? hd)

theorem step_tidy (h : Tidy policy pod root before v)
    (hroot : safePodRoot policy.root pod.uid = .ok root) (hl : CleanAttempts policy pod root v l)
    (hfails : failsEmpty policy pod.key v l = true)
    (hstep : diskStep policy v l = some v') : Tidy policy pod root before v' where
  toSeparate := step_separate h.toSeparate hl.toAttempts hstep
  attempt := fun _ => h.step_attempt hroot hl hfails hstep
  idle := h.step_idle hroot hl hfails hstep

theorem fresh_tidy (policy : VolumePolicy) (pod : Pod) (root : List String) (podNet : Bool)
    (hostIP : String) (base : Int) (ipam : Option PodIPAM) (vms : VMTable) (nextInst : Nat)
    (before : Tree String UInt8) : Tidy policy pod root before
      ⟨Sys.fresh podNet hostIP base ipam vms nextInst, before, .none⟩ where
  toSeparate := fresh_separate policy pod root podNet hostIP base ipam vms nextInst before
  attempt := fun _ h => by cases h
  idle := fun _ _ _ _ _ _ => rfl

/-- When `DeletePod` returns, nothing under the directory of the Pod is new. -/
theorem Tidy.deleted (h : Tidy policy pod root before v)
    (hroot : safePodRoot policy.root pod.uid = .ok root) (hl : CleanAttempts policy pod root v l)
    (hstep : diskStep policy v l = some v') {found : Bool}
    (hreturned : v'.sys.returned = .deleted pod.key found :: v.sys.returned) :
    NothingNew root before v'.disk := by
  rcases step_deleted (diskStep_step hstep) hreturned with
    ⟨other, hlabel, hkey, hnone, _⟩ | ⟨place, o, d, hlabel, hd, hpc, hkey, _⟩
  · have hdelete : l.label = .deleteBegin other := label_eq hlabel fun _ h => by cases h
    obtain ⟨hnocall, hnodelete⟩ := hl.deletes other hdelete hkey
    refine (h.idle hnone hnocall hnodelete).congr (h.disk_frame hstep ?_ ?_)
    · exact fun c _ _ hc => hnocall c hc
    · exact fun _ _ d _ hd => hnodelete d (List.mem_of_getElem? hd)
  · exact h.deletion_returned hroot hl.removes hstep (label_eq hlabel fun _ h => by cases h) hd
      hpc hkey

end Files

/-- Over every run in which no attempt on the Pod fails without a rollback once its volumes
need a directory or a file: when `DeletePod` returns nil or NotFound, whatever is left under
the directory of the Pod was there before the attempts. -/
theorem deleted_pod_files_removed {policy : VolumePolicy} {pod : Pod} {root : List String}
    (hroot : safePodRoot policy.root pod.uid = .ok root) {podNet : Bool} {hostIP : String}
    {base : Int} {ipam : Option PodIPAM} {vms : VMTable} {nextInst : Nat}
    {before : Tree String UInt8} {ls : List DiskLabel} {v v' : DiskSys} {l : DiskLabel}
    (hrun : Run (diskStep policy)
      (fun v l => CleanAttempts policy pod root v l ∧ failsEmpty policy pod.key v l = true)
      ⟨Sys.fresh podNet hostIP base ipam vms nextInst, before, .none⟩ ls v)
    (hl : CleanAttempts policy pod root v l) (hstep : diskStep policy v l = some v') {found : Bool}
    (hreturned : v'.sys.returned = .deleted pod.key found :: v.sys.returned) :
    ∀ path, root <+: path → v'.disk path ≠ none → v'.disk path = before path := by
  have htidy : Tidy policy pod root before v := by
    apply hrun.invariant (I := Tidy policy pod root before)
    · exact fresh_tidy policy pod root podNet hostIP base ipam vms nextInst before
    · intro v v' l h hl hstep
      exact step_tidy h hroot hl.1 hl.2 hstep
  exact htidy.deleted hroot hl hstep hreturned

namespace CleanupWitness

open Sample

def withSecret (l : Label) : DiskLabel := ⟨l, servingSecret userOnly⟩

def userFile : List String := secretRoot ++ ["creds", "user"]

/-- An attempt that fails at `Start`, one that succeeds, and `DeletePod` up to its last
step. -/
def retriedAndDeleted : List Label :=
  failedAttempt 10 startFails 3 ++ createPod secretPod "192.168.64.5" ++
    .deleteBegin secretPod :: List.replicate 4 (.delete 0 .ok)

def cleanly (v : DiskSys) (l : DiskLabel) : Bool := ofPod secretPod v l && l.io.kept.isNone

theorem cleanly_attempts {v : DiskSys} {l : DiskLabel} (h : cleanly v l = true) :
    CleanAttempts volumePolicy secretPod secretRoot v l := by
  rw [cleanly, Bool.and_eq_true] at h
  exact ⟨attempts_of_ofPod secretRoot h.1, Option.isNone_iff_eq_none.mp h.2⟩

/-- The next step of `DeletePod` returns. -/
def returns (l : Label) (found : Bool) (v : DiskSys) : Bool :=
  (diskStep volumePolicy v (withSecret l)).any fun v' =>
    v'.sys.returned = .deleted secretPod.key found :: v.sys.returned

end CleanupWitness

open CleanupWitness Sample in
/-- The attempt that fails at `Start` is rolled back, and `DeletePod` removes what the one
that succeeds has written. -/
theorem deleted_pod_files_removed_retried : ∃ v v' : DiskSys,
    Run (diskStep volumePolicy) (CleanAttempts volumePolicy secretPod secretRoot) emptyNode
      (retriedAndDeleted.map withSecret) v ∧
    v.disk userFile = some (.file [97] 0o644) ∧
    diskStep volumePolicy v (withSecret (.delete 0 .ok)) = some v' ∧
    ∀ path, secretRoot <+: path → v'.disk path = none := by
  have hexec : ∃ v, Run (diskStep volumePolicy)
      (fun v l => CleanAttempts volumePolicy secretPod secretRoot v l ∧
        failsEmpty volumePolicy secretPod.key v l = true) emptyNode
      (retriedAndDeleted.map withSecret) v ∧
      (returns (.delete 0 .ok) true v && v.disk userFile = some (.file [97] 0o644)) = true := by
    refine exists_run_of_check
      (fun v l => cleanly v l && failsEmpty volumePolicy secretPod.key v l) ?_
      (by decide +kernel)
    intro v l h
    rw [Bool.and_eq_true] at h
    exact ⟨cleanly_attempts h.1, h.2⟩
  obtain ⟨v, hrun, hcheck⟩ := hexec
  rw [Bool.and_eq_true, decide_eq_true_eq, returns, Option.any_eq_true] at hcheck
  obtain ⟨⟨v', hstep, hreturned⟩, hfile⟩ := hcheck
  have hlast : CleanAttempts volumePolicy secretPod secretRoot v (withSecret (.delete 0 .ok)) :=
    cleanly_attempts rfl
  have hremoved := deleted_pod_files_removed secretRoot_eq hrun hlast hstep
    (of_decide_eq_true hreturned)
  refine ⟨v, v', hrun.mono fun _ _ h => h.1, hfile, hstep, fun path hpath => ?_⟩
  by_contra hsome
  exact hsome (hremoved path hpath hsome)

open CleanupWitness Sample in
/-- An attempt writes the file of a Secret and fails at `Pull`.  The Pod is not tracked
then: `DeletePod` returns NotFound, and the file stays. -/
theorem failed_pull_leaves_secret_file :
    ¬ ∀ (policy : VolumePolicy) (pod : Pod) (root : List String),
      safePodRoot policy.root pod.uid = .ok root →
      ∀ (podNet : Bool) (hostIP : String) (base : Int) (ipam : Option PodIPAM) (vms : VMTable)
      (nextInst : Nat) (before : Tree String UInt8) (ls : List DiskLabel) (v v' : DiskSys)
      (l : DiskLabel) (found : Bool),
      Run (diskStep policy) (CleanAttempts policy pod root)
        ⟨Sys.fresh podNet hostIP base ipam vms nextInst, before, .none⟩ ls v →
      CleanAttempts policy pod root v l → diskStep policy v l = some v' →
      v'.sys.returned = .deleted pod.key found :: v.sys.returned →
      ∀ path, root <+: path → before path = none → v'.disk path = none := by
  intro hall
  have hexec : ∃ v, Run (diskStep volumePolicy) (CleanAttempts volumePolicy secretPod secretRoot)
      emptyNode ((failedAttempt 8 pullFails 1).map withSecret) v ∧
      (diskStep volumePolicy v (withSecret (.deleteBegin secretPod))).any (fun v' =>
        v'.sys.returned = .deleted secretPod.key false :: v.sys.returned &&
          cleanly v (withSecret (.deleteBegin secretPod)) &&
          v'.disk userFile = some (.file [97] 0o644)) = true :=
    exists_run_of_check cleanly (fun _ _ => cleanly_attempts) (by decide)
  obtain ⟨v, hrun, hcheck⟩ := hexec
  rw [Option.any_eq_true] at hcheck
  obtain ⟨v', hstep, hcheck⟩ := hcheck
  simp only [Bool.and_eq_true, decide_eq_true_eq] at hcheck
  obtain ⟨⟨hreturned, hlast⟩, hfile⟩ := hcheck
  have hgone := hall volumePolicy secretPod secretRoot secretRoot_eq _ _ _ _ _ _ _ _ v v' _ false
    hrun (cleanly_attempts hlast) hstep hreturned userFile (by decide) rfl
  rw [hfile] at hgone
  cases hgone

section Outside

variable {policy : VolumePolicy} {path : List String} {v v' : DiskSys} {l : DiskLabel}

theorem apartFrom_of_outside (hout : ¬ segments policy.root <+: path)
    (habove : ¬ path <+: segments policy.root) (pod : Pod) : ApartFrom policy path pod := by
  intro other hother
  have hbelow := (safeJoinUnderRoot_below (safePodRoot_ok hother).2).le
  refine ⟨fun hle => ?_, fun hle => hout (hbelow.trans hle)⟩
  rcases List.prefix_or_prefix_of_prefix hbelow hle with hroot | hroot
  · exact hout hroot
  · exact habove hroot

theorem diskStep_outside (hconfined : v.Confined policy) (hout : ¬ segments policy.root <+: path)
    (habove : ¬ path <+: segments policy.root) (hstep : diskStep policy v l = some v') :
    v'.disk path = v.disk path := by
  have hapart := apartFrom_of_outside hout habove
  have hmove := diskStep_move hstep
  generalize v'.disk = disk' at hmove ⊢
  cases hmove with
  | same => rfl
  | files c o _ hc _ =>
    exact ran_apart (hapart c.pod) (hconfined c hc) (List.prefix_refl path) o l.io
  | rolledBack c o _ _ _ => exact cleanup_apart (hapart c.pod) (List.prefix_refl path) _ _
  | deleted place o d _ _ _ => exact cleanup_apart (hapart d.st.pod) (List.prefix_refl path) _ _

/-- However calls interleave, whatever the Pods are named, whatever they mount and wherever an
operation on files fails, nothing is written or removed at a path that is neither below the root
of the volumes nor above it.  A path is what it says: there are no symbolic links. -/
theorem disk_outside_root_unchanged {start : DiskSys} (hstart : start.sys.creating = none)
    {ls : List DiskLabel} (hrun : Run (diskStep policy) (fun _ _ => True) start ls v)
    (hout : ¬ segments policy.root <+: path) (habove : ¬ path <+: segments policy.root) :
    v.disk path = start.disk path := by
  have hkept : v.Confined policy ∧ v.disk path = start.disk path := by
    refine hrun.invariant (I := fun v => v.Confined policy ∧ v.disk path = start.disk path)
      ⟨fun c hc => ?_, rfl⟩ fun h _ hstep => ?_
    · rw [hstart] at hc
      cases hc
    · exact ⟨step_confined h.1 hstep, (diskStep_outside h.1 hout habove hstep).trans h.2⟩
  exact hkept.2

end Outside

open CleanupWitness Sample in
/-- A node with a file of its own. -/
def CleanupWitness.nodeWithHosts : DiskSys :=
  { emptyNode with
    disk := fun path => if path = ["etc", "hosts"] then some (.file [49] 0o644) else none }

open CleanupWitness Sample in
/-- The attempts write the file of the Secret, and leave `/etc/hosts` as it is. -/
theorem disk_outside_root_unchanged_retried : ∃ v : DiskSys,
    v.disk userFile = some (.file [97] 0o644) ∧
    v.disk ["etc", "hosts"] = some (.file [49] 0o644) := by
  have hexec : ∃ v, Run (diskStep volumePolicy) (fun _ _ => True) nodeWithHosts
      (retriedAndDeleted.map withSecret) v ∧
      decide (v.disk userFile = some (.file [97] 0o644)) = true :=
    exists_run_of_check (fun _ _ => true) (fun _ _ _ => trivial) (by decide +kernel)
  obtain ⟨v, hrun, hfile⟩ := hexec
  exact ⟨v, of_decide_eq_true hfile,
    disk_outside_root_unchanged rfl hrun
      (by decide +kernel : ¬ GoFilepath.segments volumePolicy.root <+: ["etc", "hosts"])
      (by decide +kernel)⟩

end MacVz
