/-
Attempts on one Pod.  `CreatePod` and `DeletePod` of the Pod follow each other, each
attempt carries its UID, and the other Pods have trees of their own; then nothing that
another party does reaches the directory of the Pod.
-/
import MacVz.VolumeDisk

namespace MacVz

open Interleaving FileTree

/-- The attempts on a Pod carry its UID, and the trees of the other Pods are apart. -/
def Fits (policy : VolumePolicy) (pod : Pod) (root : List String) (other : Pod) : Prop :=
  (other.key = pod.key → other.uid = pod.uid) ∧
    (other.key ≠ pod.key → ApartFrom policy root other)

/-- The calls at the key of the Pod come one after the other, and no other Pod has its tree. -/
structure Attempts (policy : VolumePolicy) (pod : Pod) (root : List String) (v : DiskSys)
    (l : DiskLabel) : Prop where
  fits : ∀ other, l.label = .createBegin other → Fits policy pod root other
  creates : ∀ other, l.label = .createBegin other → other.key = pod.key →
    ∀ d ∈ v.sys.deletes, d.key ≠ pod.key
  deletes : ∀ other, l.label = .deleteBegin other → other.key = pod.key →
    (∀ c, v.sys.creating = some c → c.pod.key ≠ pod.key) ∧ ∀ d ∈ v.sys.deletes, d.key ≠ pod.key

/-- What keeps the tree of a Pod apart from the calls on the others. -/
structure Separate (policy : VolumePolicy) (pod : Pod) (root : List String) (v : DiskSys) :
    Prop where
  keyed : Keyed v.sys
  stored : ∀ key st, v.sys.pods key = some st → Fits policy pod root st.pod
  call : ∀ c, v.sys.creating = some c →
    Fits policy pod root c.pod ∧ v.vols.Confined policy c.pod.uid
  teardown : ∀ d ∈ v.sys.deletes, d.st.pod.key = d.key ∧ Fits policy pod root d.st.pod
  turn : ∀ c, v.sys.creating = some c → c.pod.key = pod.key →
    ∀ d ∈ v.sys.deletes, d.key ≠ pod.key

section Separate

variable {policy : VolumePolicy} {pod : Pod} {root : List String} {v v' : DiskSys} {l : DiskLabel}
  {d' : DeleteCall} {c' : CreateCall}

theorem fresh_separate (policy : VolumePolicy) (pod : Pod) (root : List String) (podNet : Bool)
    (hostIP : String) (base : Int) (ipam : Option PodIPAM) (vms : VMTable) (nextInst : Nat)
    (disk : Tree String UInt8) :
    Separate policy pod root ⟨Sys.fresh podNet hostIP base ipam vms nextInst, disk, .none⟩ where
  keyed := fun _ _ h => by cases h
  stored := fun _ _ h => by cases h
  call := fun _ h => by cases h
  teardown := fun _ h => by cases h
  turn := fun _ h => by cases h

/-- A step of another Pod leaves the files below this Pod's root alone. -/
theorem Separate.disk_frame (h : Separate policy pod root v) (hstep : diskStep policy v l = some v')
    (hcreate : ∀ c o, l.label = .create o → v.sys.creating = some c → c.pod.key ≠ pod.key)
    (hdelete : ∀ place o d, l.label = .delete place o → v.sys.deletes[place]? = some d →
      d.key ≠ pod.key) : ∀ path, root <+: path → v'.disk path = v.disk path := by
  intro path hpath
  have hmove := diskStep_move hstep
  generalize v'.disk = disk' at hmove ⊢
  cases hmove with
  | same => rfl
  | files c o hl hc hpc =>
    obtain ⟨hfits, hconfined⟩ := h.call c hc
    exact ran_apart (hfits.2 (hcreate c o hl hc)) hconfined hpath o l.io
  | rolledBack c o hl hc hpc =>
    exact cleanup_apart ((h.call c hc).1.2 (hcreate c o hl hc)) hpath _ _
  | deleted place o d hl hd hpc =>
    obtain ⟨hkey, hfits⟩ := h.teardown d (List.mem_of_getElem? hd)
    refine cleanup_apart (hfits.2 ?_) hpath _ _
    rw [hkey]
    exact hdelete place o d hl hd

theorem Separate.step_teardown (h : Separate policy pod root v)
    (hstep : diskStep policy v l = some v') (hd' : d' ∈ v'.sys.deletes) :
    d'.st.pod.key = d'.key ∧ Fits policy pod root d'.st.pod := by
  rcases step_deletion (diskStep_step hstep) hd' with ⟨d, hd, hkey, hst⟩ | ⟨other, st, _, hst, rfl⟩
  · rw [hkey, hst]
    exact h.teardown d hd
  · exact ⟨h.keyed other.key st hst, h.stored other.key st hst⟩

/-- The volumes of the call in flight are below the directory of its Pod. -/
def DiskSys.Confined (policy : VolumePolicy) (v : DiskSys) : Prop :=
  ∀ c, v.sys.creating = some c → v.vols.Confined policy c.pod.uid

/-- A step keeps the volumes of the creation under way within its Pod's root. -/
theorem step_confined (h : v.Confined policy) (hstep : diskStep policy v l = some v') :
    v'.Confined policy := by
  intro c' hc'
  rcases diskStep_cases hstep with ⟨o, c, _, hc, rfl⟩ | ⟨hother, hs, hvols⟩
  · obtain ⟨rfl, _⟩ := createStep_goes hc'
    rw [(createNext_move _ c _).pod_eq]
    exact createVols_confined (h c hc) l.io
  · rcases hvols with ⟨_, hnone⟩ | ⟨hno, hsame⟩
    · rw [hnone]
      exact none_confined policy _
    · rw [hsame]
      rcases step_creating hs hc' with ⟨hc, _⟩ | ⟨other, hbegin, rfl⟩ | ⟨_, o, hcreate, _⟩
      · exact h c' hc
      · exact absurd hbegin (hno other)
      · exact absurd hcreate (hother o)

theorem Separate.step_call (h : Separate policy pod root v) (hl : Attempts policy pod root v l)
    (hstep : diskStep policy v l = some v') (hc' : v'.sys.creating = some c') :
    Fits policy pod root c'.pod ∧ v'.vols.Confined policy c'.pod.uid := by
  refine ⟨?_, step_confined (fun c hc => (h.call c hc).2) hstep c' hc'⟩
  rcases diskStep_cases hstep with ⟨o, c, _, hc, rfl⟩ | ⟨hother, hs, _⟩
  · obtain ⟨rfl, _⟩ := createStep_goes hc'
    rw [(createNext_move _ c _).pod_eq]
    exact (h.call c hc).1
  · rcases step_creating hs hc' with ⟨hc, _⟩ | ⟨other, hbegin, rfl⟩ | ⟨_, o, hcreate, _⟩
    · exact (h.call c' hc).1
    · exact hl.fits other hbegin
    · exact absurd hcreate (hother o)

/-- The Pod's creation and its teardown do not overlap after a step. -/
theorem Separate.step_turn (h : Separate policy pod root v) (hl : Attempts policy pod root v l)
    (hstep : diskStep policy v l = some v') (hc' : v'.sys.creating = some c')
    (hkey : c'.pod.key = pod.key) (hd' : d' ∈ v'.sys.deletes) : d'.key ≠ pod.key := by
  rcases diskStep_cases hstep with ⟨o, c, _, hc, rfl⟩ | ⟨hother, hs, _⟩
  · obtain ⟨rfl, _⟩ := createStep_goes hc'
    rw [(createNext_move _ c _).pod_eq] at hkey
    rw [createStep_deletes, createEffect_deletes] at hd'
    exact h.turn c hc hkey d' hd'
  · have hbefore (d : DeleteCall) (hd : d ∈ v.sys.deletes) : d.key ≠ pod.key := by
      rcases step_creating hs hc' with ⟨hc, _⟩ | ⟨other, hbegin, rfl⟩ | ⟨_, o, hcreate, _⟩
      · exact h.turn c' hc hkey d hd
      · exact hl.creates other hbegin hkey d hd
      · exact absurd hcreate (hother o)
    rcases step_deletion hs hd' with ⟨d, hd, hkey', _⟩ | ⟨other, st, hdelete, _, rfl⟩
    · rw [hkey']
      exact hbefore d hd
    · intro hown
      -- a deletion begins only once no attempt is in flight
      rcases step_creating hs hc' with ⟨hc, _⟩ | ⟨_, hbegin, _⟩ | ⟨_, o, hcreate, _⟩
      · exact (hl.deletes other hdelete hown).1 c' hc hkey
      · cases hdelete.symm.trans hbegin
      · exact hother o hcreate

theorem step_separate (h : Separate policy pod root v) (hl : Attempts policy pod root v l)
    (hstep : diskStep policy v l = some v') : Separate policy pod root v' where
  keyed := step_keyed h.keyed (diskStep_step hstep)
  stored := by
    intro key st' hst'
    rcases step_pod (diskStep_step hstep) hst' with ⟨st, hst, hpod⟩ | ⟨c, o, _, hc, _, hpod⟩
    · rw [hpod]
      exact h.stored key st hst
    · rw [hpod]
      exact (h.call c hc).1
  call := fun _ => h.step_call hl hstep
  teardown := fun _ => h.step_teardown hstep
  turn := fun _ hc' hkey _ => h.step_turn hl hstep hc' hkey

end Separate

def ofPod (pod : Pod) (v : DiskSys) (l : DiskLabel) : Bool :=
  match l.label with
  | .createBegin other => other = pod && v.sys.deletes.isEmpty
  | .deleteBegin _ => v.sys.creating.isNone && v.sys.deletes.isEmpty
  | _ => true

theorem attempts_of_ofPod {policy : VolumePolicy} {pod : Pod} {v : DiskSys} {l : DiskLabel}
    (root : List String) (h : ofPod pod v l = true) : Attempts policy pod root v l := by
  have hcreates (other : Pod) (hl : l.label = .createBegin other) :
      other = pod ∧ v.sys.deletes = [] := by
    simpa [ofPod, hl] using h
  have hdeletes (other : Pod) (hl : l.label = .deleteBegin other) :
      v.sys.creating = none ∧ v.sys.deletes = [] := by
    simpa [ofPod, hl] using h
  refine ⟨?_, ?_, ?_⟩
  · intro other hl
    rw [(hcreates other hl).1]
    exact ⟨fun _ => rfl, fun hne => absurd rfl hne⟩
  · intro other hl _
    simp [(hcreates other hl).2]
  · intro other hl _
    simp [hdeletes other hl]

end MacVz
