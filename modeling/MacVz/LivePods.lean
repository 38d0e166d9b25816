/-
The micro-VMs of live Pods.  The provider decides on the shape of a Pod once,
when the Pod arrives; the reaper and the cleanup command decide again on every
look at the API, where the object may have changed since.
-/
import MacVz.OrphanReaper
import MacVz.WorkloadReaping

namespace MacVz

open Interleaving Drain

variable {c : Container} {version : PodObject} {pod : Pod}

/-- A Pod as the API server lists it. -/
structure PodObject extends Pod where
  deletionTimestamp : Option Int
deriving Repr, DecidableEq

/-- `expectedWorkloadIDs`. -/
def expectedWorkloadIDs (pod : PodObject) : List String :=
  if pod.deletionTimestamp.isSome then []
  else
    match pod.containers with
    | [c] =>
      if pod.initContainers ≠ 0 ∨ pod.ephemeralContainers ≠ 0 then []
      else [pod.toPod.workloadID c.name]
    | _ => []

/-- `expectedWorkloads`, and the expected set of the reaper. -/
def expectedWorkloads (pods : List PodObject) (id : String) : Bool :=
  pods.any fun pod => id ∈ expectedWorkloadIDs pod

/-- A version of the Pod's object: its name and the names of its containers are
immutable. -/
structure PodObject.VersionOf (version : PodObject) (pod : Pod) : Prop where
  ns : version.ns = pod.ns
  name : version.name = pod.name
  containers : version.containers.map Container.name = pod.containers.map Container.name

theorem PodObject.VersionOf.workloadID_eq (h : version.VersionOf pod) (container : String) :
    version.toPod.workloadID container = pod.workloadID container := by
  simp only [Pod.workloadID, h.ns, h.name]

/-- A live object with one regular container expects the workload of that container
unless it has others. -/
theorem mem_expectedWorkloadIDs_iff {pod : PodObject} (hlive : pod.deletionTimestamp = none)
    (hone : pod.containers = [c]) : pod.toPod.workloadID c.name ∈ expectedWorkloadIDs pod ↔
      pod.initContainers = 0 ∧ pod.ephemeralContainers = 0 := by
  simp [expectedWorkloadIDs, hlive, hone]

theorem PodObject.VersionOf.container (h : version.VersionOf pod) (hone : pod.containers = [c]) :
    ∃ c', version.containers = [c'] ∧ c'.name = c.name := by
  have hnames := h.containers
  rw [hone] at hnames
  exact List.map_eq_singleton_iff.mp hnames

theorem expected_not_orphan {pods : List PodObject} {pod : PodObject} {id : String}
    (hpod : pod ∈ pods) (hid : id ∈ expectedWorkloadIDs pod) (all : List String) :
    id ∉ scan (expectedWorkloads pods) all := by
  intro horphan
  obtain ⟨-, -, habsent⟩ := mem_scan.mp horphan
  have hexpected : expectedWorkloads pods id = true :=
    List.any_eq_true.mpr ⟨pod, hpod, decide_eq_true hid⟩
  rw [hexpected] at habsent
  cases habsent

theorem Settled.workload_translated {st : PodState} (hsettled : Settled st)
    {resolved : Except TranslateError Unit} {spec : ContainerSpec}
    (h : translatePod st.pod resolved = .ok (c, spec)) {w : Workload} (hw : w ∈ st.workloads) :
    w.id = spec.name := by
  obtain ⟨hone, hname⟩ := translatePod_ok h
  rcases hsettled with ⟨x, hx⟩ | ⟨hempty, -⟩
  · rw [hx.containers, List.singleton_inj] at hone
    rw [hx.workloads, List.mem_singleton] at hw
    rw [hw, hx.named, hname, hone]
  · rw [hempty] at hw
    cases hw

/-- A Pod was translated, and its object lives on: the workload of its micro-VM is
expected, and so no orphan in any listing, exactly while the object has no init and no
ephemeral containers.  It is the workload under which the provider tracks the Pod. -/
theorem live_workload_expected_iff {pod : Pod} {resolved : Except TranslateError Unit}
    {c : Container} {spec : ContainerSpec} (h : translatePod pod resolved = .ok (c, spec))
    {version : PodObject} (hversion : version.VersionOf pod)
    (hlive : version.deletionTimestamp = none) : (spec.name ∈ expectedWorkloadIDs version ↔
        version.initContainers = 0 ∧ version.ephemeralContainers = 0) ∧
      (spec.name ∈ expectedWorkloadIDs version → ∀ pods all, version ∈ pods →
        spec.name ∉ scan (expectedWorkloads pods) all) ∧
      ∀ podNet hostIP base ipam vms nextInst ls s st,
        Run step (fun _ l => keepsKey pod.key l = true)
          (Sys.fresh podNet hostIP base ipam vms nextInst) ls s →
        s.pods pod.key = some st → st.pod = pod → ∀ w ∈ st.workloads, w.id = spec.name := by
  obtain ⟨hone, hname⟩ := translatePod_ok h
  obtain ⟨c', hcontainers, hsame⟩ := hversion.container hone
  have hid : version.toPod.workloadID c'.name = spec.name := by
    rw [hversion.workloadID_eq, hsame, hname]
  refine ⟨?_, ?_, ?_⟩
  · rw [← hid]
    exact mem_expectedWorkloadIDs_iff hlive hcontainers
  · intro hexpected pods all hmem
    exact expected_not_orphan hmem hexpected all
  · intro podNet hostIP base ipam vms nextInst ls s st hrun hst hpod w hw
    have hbound : Bound pod.key s := run_bound (fun _ _ hkeeps => hkeeps) hrun
    subst hpod
    exact (hbound.settled st hst).workload_translated h hw

namespace LiveWitness

open Sample

def asCreated : PodObject := { web with deletionTimestamp := none }

def debugged : PodObject := { web with ephemeralContainers := 1, deletionTimestamp := none }

theorem translated : translatePod web (.ok ()) = .ok (app, ⟨webID, "nginx:1.27"⟩) := by
  decide

end LiveWitness

open LiveWitness Sample in
/-- The Pod is created and its object does not change. -/
theorem live_workload_expected_as_created : webID ∈ expectedWorkloadIDs asCreated ∧
    ∃ (s : Sys) (st : PodState), s.pods "default/web" = some st ∧ st.workloads ≠ [] ∧
      ∀ w ∈ st.workloads, w.id = webID := by
  have hversion : asCreated.VersionOf web := ⟨rfl, rfl, rfl⟩
  obtain ⟨hexpected, -, htracked⟩ := live_workload_expected_iff translated hversion rfl
  have hexec : ∃ s, Run step (fun _ l => keepsKey "default/web" l = true) node
      (createPod web "192.168.64.5") s ∧ (s.pods "default/web").any (fun st =>
        st.pod = web && st.workloads ≠ []) = true :=
    exists_run_of_check (fun _ l => keepsKey "default/web" l) (fun _ _ h => h) (by decide)
  obtain ⟨s, hrun, hcheck⟩ := hexec
  obtain ⟨st, hst, hboth⟩ := (Option.any_eq_true _ _).mp hcheck
  simp only [Bool.and_eq_true, decide_eq_true_eq] at hboth
  exact ⟨hexpected.mpr ⟨rfl, rfl⟩, s, st, hst, hboth.2,
    htracked _ _ _ _ _ _ _ s st hrun hst hboth.1⟩

open LiveWitness Sample Orphan ReaperWitness in
/-- Once a debug container is attached to a running Pod, its micro-VM is expected no
more, and ten minutes later the reaper destroys it. -/
theorem debugged_pod_destroyed :
    translatePod web (.ok ()) = .ok (app, ⟨webID, "nginx:1.27"⟩) ∧ debugged.VersionOf web ∧
      debugged.deletionTimestamp = none ∧ webID ∉ expectedWorkloadIDs debugged ∧
      VMCall.destroy webID ∈ (reapOnce kubeletCleaner tenMinutes
        (passAt 600 (.ok (expectedWorkloadIDs debugged)))
        (after kubeletCleaner tenMinutes [passAt 0 (.ok (expectedWorkloadIDs debugged))])).calls :=
  ⟨translated, ⟨rfl, rfl, rfl⟩, rfl, by decide, by decide⟩

end MacVz
