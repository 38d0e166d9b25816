/-
The workload `CreatePod` adopts and the one it rolls back.  It adopts whatever the runtime has under
the workload ID of its Pod, so two Pods are kept apart exactly when their workload IDs are.  The
rollback destroys the workload that the call has not adopted, and whether a workload counts as
adopted is decided by one early lookup: a micro-VM that was there before the call is spared as long
as the lookup has found it.
-/
import MacVz.Evolution
import MacVz.StepConditions

namespace MacVz

open Interleaving

/-- An adopted workload is never rolled back, and an address is released only if the
call has assigned it. -/
def CreateCall.Staged (c : CreateCall) : Prop :=
  match c.pc with
  | .check | .translate | .volumeDirs | .configFiles | .hadIP | .allocate =>
    c.adopted = false ∧ c.podIP = ""
  | .lookup | .credentials | .pull | .create | .start | .rollback _ => c.adopted = false
  | .startAdopted => c.adopted = true
  | .release => c.podIP ≠ "" ∧ c.hadPodIP = false
  | _ => True

theorem begin_staged (pod : Pod) : (CreateCall.begin pod).Staged := ⟨rfl, rfl⟩

section Staged

variable {c : CreateCall}

theorem leave_staged (c : CreateCall) : c.leave.Staged := by
  unfold CreateCall.leave
  split
  · assumption
  · trivial

theorem failWith_staged (c : CreateCall) (e : CreateError) : (c.failWith e).Staged :=
  leave_staged { c with err := some e }

theorem unwind_staged (c : CreateCall) (e : CreateError) : (c.unwind e).Staged := by
  unfold CreateCall.unwind
  split
  · exact failWith_staged c e
  · rename_i hadopted
    exact Bool.eq_false_iff.mpr hadopted

theorem toNetwork_staged (c : CreateCall) (podNet : Bool) : (c.toNetwork podNet).Staged := by
  unfold CreateCall.toNetwork
  split <;> trivial

/-- A step of a creation keeps what it adopted and allocated in keeping with its stage. -/
theorem createNext_staged (s : Sys) (o : Outcome) (h : c.Staged) : (createNext s c o).Staged := by
  unfold CreateCall.Staged at h
  cases hpc : c.pc with
  | check =>
    simp only [hpc] at h
    simp only [createNext, hpc]
    split
    · trivial
    · exact h
  | translate =>
    simp only [hpc] at h
    simp only [createNext, hpc]
    split
    · trivial
    · exact failWith_staged c _
    · exact h
  | volumeDirs | configFiles =>
    simp only [hpc] at h
    simp only [createNext, hpc]
    split
    · exact failWith_staged c _
    · exact h
  | hadIP =>
    simp only [hpc] at h
    simp only [createNext, hpc]
    exact h
  | allocate =>
    simp only [hpc] at h
    simp only [createNext, hpc]
    split
    · exact h.1
    · exact failWith_staged c _
  | lookup =>
    simp only [hpc] at h
    simp only [createNext, hpc]
    split
    · split
      · rfl
      · exact toNetwork_staged _ s.podNet
    · exact h
  | startAdopted =>
    simp only [createNext, hpc]
    split
    · exact failWith_staged c _
    · exact toNetwork_staged c s.podNet
  | credentials =>
    simp only [hpc] at h
    simp only [createNext, hpc]
    split
    · exact failWith_staged c _
    · exact h
  | pull =>
    simp only [hpc] at h
    simp only [createNext, hpc]
    split
    · split
      · trivial
      · exact failWith_staged c _
    · exact h
  | create =>
    simp only [hpc] at h
    simp only [createNext, hpc]
    split <;> exact h
  | start =>
    simp only [hpc] at h
    simp only [createNext, hpc]
    split
    · exact h
    · exact toNetwork_staged c s.podNet
  | observe =>
    simp only [createNext, hpc]
    split
    · trivial
    · split
      · exact unwind_staged c _
      · simp [CreateCall.Staged]
  | attach =>
    simp only [createNext, hpc]
    split
    · exact unwind_staged c _
    · trivial
  | commit =>
    simp only [createNext, hpc]
    trivial
  | terminal reason message =>
    simp only [createNext, hpc]
    exact leave_staged c
  | rollback remaining =>
    simp only [hpc] at h
    cases remaining with
    | nil =>
      simp only [createNext, hpc]
      exact leave_staged c
    | cons w rest =>
      simp only [createNext, hpc]
      exact h
  | release =>
    simp only [createNext, hpc]
    trivial
  | done => simp [createNext, hpc, CreateCall.Staged]

end Staged

/-- The places of `CreatePod` after it has looked for an existing workload. -/
def CreatePC.looked : CreatePC → Bool
  | .credentials | .pull | .create | .startAdopted | .start | .observe | .attach | .commit
  | .rollback _ => true
  | _ => false

theorem CreateMove.looked_cases {s : Sys} {o : Outcome} {c c' : CreateCall}
    (h : CreateMove s o c c') (hlooked : c'.pc.looked = true) (hnew : c'.adopted = false) :
    c'.spec = c.spec ∧ (c.pc.looked = true ∧ c.adopted = false ∨
      ∃ e, c.pc = .lookup ∧ s.vms.status c.spec.name o.status = .error e) := by
  cases h with
  | notFound e hpc herror => exact ⟨rfl, Or.inr ⟨e, hpc, herror⟩⟩
  | found rs pc hpc _ _ => cases hnew
  | started pc hpc _ _ =>
    exact ⟨rfl, Or.inl ⟨by rcases hpc with hpc | hpc <;> rw [hpc] <;> rfl, hnew⟩⟩
  | recorded _ _ pc _ hgo | rolledBackAll pc _ hgo | failedEarly _ pc _ hgo =>
    rcases hgo with rfl | rfl <;> cases hlooked
  | failedLate e pc hpc _ =>
    refine ⟨rfl, Or.inl ⟨?_, hnew⟩⟩
    cases hplace : c.pc <;> simp [hplace, CreatePC.late] at hpc <;> rfl
  | credentials hpc | pulled hpc | created hpc _ | observed _ hpc _ | polled hpc _
  | attached hpc _ | rolledBack _ _ hpc => exact ⟨rfl, Or.inl ⟨by rw [hpc]; rfl, hnew⟩⟩
  | _ => cases hlooked

/-- `CreatePod` looks for an existing workload and finds the one that is there. -/
def findsExisting (s : Sys) : Label → Bool
  | .create o => s.creating.all fun c => c.pc ≠ .lookup || (s.vms c.spec.name).isNone ||
      (s.vms.status c.spec.name o.status).toOption.isSome
  | _ => true

/-- A call that has found no workload works on no micro-VM of this instance number. -/
structure Spared (inst : Nat) (s : Sys) : Prop where
  old : inst < s.nextInst
  placed : ∀ c, s.creating = some c → c.Placed ∧ c.Staged
  other : ∀ c vm, s.creating = some c → c.pc.looked = true → c.adopted = false →
    s.vms c.spec.name = some vm → vm.inst ≠ inst

section Spared

variable {s s' : Sys} {l : Label} {inst : Nat}

theorem VMFrom.of_inst {id : String} {vm' : VM} (h : VMFrom s l id vm') (hold : inst < s.nextInst)
    (hinst : vm'.inst = inst) : ∃ vm, s.vms id = some vm ∧ vm.inst = inst := by
  rcases h with ⟨vm, hvm, hsame, _⟩ | ⟨_, _, hnew⟩
  · exact ⟨vm, hvm, hsame.symm.trans hinst⟩
  · omega

/-- A lookup that finds what exists keeps the instance apart from what the creation makes. -/
theorem step_spared (h : Spared inst s) (hl : findsExisting s l = true)
    (hstep : step s l = some s') : Spared inst s' := by
  have hnext : s.nextInst ≤ s'.nextInst := step_nextInst_le hstep
  refine ⟨lt_of_lt_of_le h.old hnext, fun c' hc' => ?_, fun c' vm' hc' hlooked hnew hvm' => ?_⟩
  · rcases step_creating hstep hc' with ⟨hc, _⟩ | ⟨pod, _, rfl⟩ | ⟨c, o, _, hc, rfl⟩
    · exact h.placed c' hc
    · exact ⟨begin_placed pod, begin_staged pod⟩
    · obtain ⟨hplaced, hstaged⟩ := h.placed c hc
      exact ⟨(createNext_move s c o).placed hplaced, createNext_staged s o hstaged⟩
  · intro hinst
    obtain ⟨vm, hvm, hsame⟩ := (step_vms hstep hvm').of_inst h.old hinst
    rcases step_creating hstep hc' with ⟨hc, _⟩ | ⟨pod, _, rfl⟩ | ⟨c, o, rfl, hc, rfl⟩
    · exact h.other c' vm hc hlooked hnew hvm hsame
    · cases hlooked
    · obtain ⟨hspec, ⟨hbefore, hfresh⟩ | ⟨e, hpc, herror⟩⟩ :=
        (createNext_move s c o).looked_cases hlooked hnew
      · exact h.other c vm hc hbefore hfresh (hspec ▸ hvm) hsame
      · -- it has looked and found nothing
        rw [hspec] at hvm
        simp [findsExisting, hc, hpc, hvm, herror, Except.toOption] at hl

/-- Along a run, every micro-VM has an instance already handed out. -/
theorem run_instances {P : Sys → Label → Prop} {start : Sys} {ls : List Label}
    (hstart : ∀ id vm, start.vms id = some vm → vm.inst < start.nextInst)
    (hrun : Run step P start ls s) : ∀ id vm, s.vms id = some vm → vm.inst < s.nextInst :=
  hrun.invariant (I := fun s => ∀ id vm, s.vms id = some vm → vm.inst < s.nextInst) hstart
    fun h _ hstep id vm' hvm' => by
      have hnext := step_nextInst_le hstep
      rcases step_vms hstep hvm' with ⟨vm, hvm, hsame, _⟩ | ⟨_, hmakes, hnew⟩
      · have hold := h id vm hvm
        omega
      · have hmore := makes_nextInst hstep hmakes
        omega

end Spared

/-- A `Destroy` of `CreatePod` is one of a workload that it has not adopted. -/
theorem create_destroys {s : Sys} {o : Outcome} {call : RuntimeCall}
    (hcall : runtimeCall s (.create o) = some call) (hdestroy : call.change = .destroy) :
    ∃ c w rest, s.creating = some c ∧ c.pc = .rollback (w :: rest) ∧ call.id = w.id := by
  obtain ⟨c, hc, hrequest⟩ := Option.bind_eq_some_iff.mp hcall
  unfold CreateCall.request at hrequest
  split at hrequest
  case h_3 =>
      unfold createRequest at hrequest
      split at hrequest <;> cases hrequest
      cases hdestroy
  case h_4 w rest hpc =>
      cases hrequest
      exact ⟨c, w, rest, hc, hpc, rfl⟩
  all_goals cases hrequest <;> cases hdestroy

/-- Over every run in which the lookups of `CreatePod` find the micro-VMs that are
there: one that existed when `CreatePod` was called, under the Pod's workload ID or
any other, is not destroyed by it. -/
theorem create_spares_existing_vm {podNet : Bool} {hostIP : String} {base : Int}
    {ipam : Option PodIPAM} {vms : VMTable} {nextInst : Nat}
    (hinsts : ∀ id vm, vms id = some vm → vm.inst < nextInst) {ls ms : List Label} {s₀ s₁ s : Sys}
    (hrun : Run step (fun _ _ => True) (Sys.fresh podNet hostIP base ipam vms nextInst) ls s₀)
    {id : String} {vm₀ : VM} (hvm₀ : s₀.vms id = some vm₀) {pod : Pod}
    (hbegin : step s₀ (.createBegin pod) = some s₁)
    (hafter : Run step (fun s l => findsExisting s l = true) s₁ ms s) {o : Outcome}
    {call : RuntimeCall} (hcall : runtimeCall s (.create o) = some call)
    (hdestroy : call.change = .destroy) : ∀ vm, s.vms call.id = some vm → vm.inst ≠ vm₀.inst := by
  have hold : vm₀.inst < s₀.nextInst := run_instances hinsts hrun id vm₀ hvm₀
  obtain ⟨_, rfl⟩ := createBegin_eq hbegin
  have hspared₁ : Spared vm₀.inst { s₀ with creating := some (CreateCall.begin pod) } := by
    refine ⟨hold, fun c hc => ?_, fun c vm hc hlooked => ?_⟩
    · obtain rfl := Option.some.inj hc
      exact ⟨begin_placed pod, begin_staged pod⟩
    · obtain rfl := Option.some.inj hc
      cases hlooked
  have hspared : Spared vm₀.inst s :=
    hafter.invariant hspared₁ fun h hl hstep => step_spared h hl hstep
  obtain ⟨c, w, rest, hc, hpc, hid⟩ := create_destroys hcall hdestroy
  obtain ⟨hplaced, hstaged⟩ := hspared.placed c hc
  have hnew : c.adopted = false := by
    rw [CreateCall.Staged, hpc] at hstaged
    exact hstaged
  intro vm hvm
  rw [hid, hplaced.remaining _ hpc w List.mem_cons_self] at hvm
  exact hspared.other c vm hc (by rw [hpc]; rfl) hnew hvm

namespace RollbackWitness

open Sample

def survivingVM : VM := ⟨0, .running, 0, "", 0, "192.168.64.5"⟩

def surviving : VMTable := fun id => if id = webID then some survivingVM else none

theorem surviving_instances (id : String) (vm : VM) (h : surviving id = some vm) : vm.inst < 1 := by
  unfold surviving at h
  split at h
  · obtain rfl := Option.some.inj h
    exact Nat.zero_lt_one
  · cases h

def survivor : Sys :=
  Sys.fresh true "192.168.1.10" defaultRestartBackoffBase (some (newPodIPAM podCIDR))
    surviving 1

def failing (call : String) : Outcome :=
  { Outcome.ok with fault := some ⟨.other call "failed", false⟩ }

/-- `CreatePod` looks for its workload, gets this answer, and goes on until `Start`
fails. -/
def startFails (answer : StatusAnswer) : List Label :=
  List.replicate 6 (.create .ok) ++ [.create { Outcome.ok with status := answer }] ++
    List.replicate 3 (.create .ok) ++ [.create (failing "start")]

/-- A `Status` that fails for another reason than a missing workload. -/
def timeout : StatusAnswer := .given (.error (.other "status" "timeout"))

/-- `CreatePod` is about to destroy the micro-VM of this instance number. -/
def destroying (inst : Nat) (s : Sys) : Bool :=
  (runtimeCall s (.create .ok)).any fun call => call.change = .destroy &&
    (s.vms call.id).any fun vm => vm.inst = inst

theorem destroying_spec {inst : Nat} {s : Sys} (h : destroying inst s = true) :
    ∃ call vm, runtimeCall s (.create .ok) = some call ∧ call.change = .destroy ∧
      s.vms call.id = some vm ∧ vm.inst = inst := by
  simp only [destroying, Option.any_eq_true, Bool.and_eq_true, decide_eq_true_eq] at h
  obtain ⟨call, hcall, hdestroy, vm, hvm, hinst⟩ := h
  exact ⟨call, vm, hcall, hdestroy, hvm, hinst⟩

/-- The state in which `CreatePod` has begun. -/
def begun : Sys := { survivor with creating := some (CreateCall.begin web) }

end RollbackWitness

open RollbackWitness Sample in
/-- The surviving micro-VM is lost before `CreatePod` looks for it, and the one that
`CreatePod` destroys is its own. -/
theorem create_spares_existing_vm_lost : ∃ (s : Sys) (call : RuntimeCall) (vm : VM),
    runtimeCall s (.create .ok) = some call ∧ call.change = .destroy ∧
      s.vms call.id = some vm ∧ vm.inst ≠ survivingVM.inst := by
  have hexec : ∃ s, Run step (fun s l => findsExisting s l = true) begun
      (.vmLost webID :: startFails (.actual true)) s ∧ destroying 1 s = true :=
    exists_run_of_check findsExisting (fun _ _ h => h) (by decide)
  obtain ⟨s, hrun, hcheck⟩ := hexec
  obtain ⟨call, vm, hcall, hdestroy, hvm, _⟩ := destroying_spec hcheck
  have hvm₀ : survivor.vms webID = some survivingVM := rfl
  exact ⟨s, call, vm, hcall, hdestroy, hvm, create_spares_existing_vm surviving_instances .nil
    hvm₀ rfl hrun hcall hdestroy vm hvm⟩

open RollbackWitness Sample in
/-- A lookup that fails hides the surviving micro-VM; when `Start` fails as well,
`CreatePod` destroys it and returns the error. -/
theorem failed_lookup_destroys_existing_vm :
    ¬ ∀ (podNet : Bool) (hostIP : String) (base : Int) (ipam : Option PodIPAM) (vms : VMTable)
      (nextInst : Nat), (∀ id vm, vms id = some vm → vm.inst < nextInst) →
      ∀ (ls ms rest : List Label) (s₀ s₁ s s' : Sys),
      Run step (fun _ _ => True) (Sys.fresh podNet hostIP base ipam vms nextInst) ls s₀ →
      ∀ (pod : Pod) (x : Container) (vm₀ : VM), pod.containers = [x] →
      s₀.vms (pod.workloadID x.name) = some vm₀ → step s₀ (.createBegin pod) = some s₁ →
      Run step (fun _ _ => True) s₁ ms s →
      ∀ (o : Outcome) (call : RuntimeCall), runtimeCall s (.create o) = some call →
      call.change = .destroy → exec step s (.create o :: rest) = some s' →
      (∃ e, .created pod.key (some e) ∈ s'.returned) →
      ∀ vm, s.vms call.id = some vm → vm.inst ≠ vm₀.inst := by
  intro hall
  have hexec : ∃ s, Run step (fun _ _ => True) begun (startFails timeout) s ∧
      (destroying 0 s && (exec step s (List.replicate 3 (.create .ok))).any fun s' =>
        s'.returned = [.created "default/web"
          (some (.start "app" (.other "start" "failed")))]) = true :=
    exists_run_of_check (fun _ _ => true) (fun _ _ _ => trivial) (by decide)
  obtain ⟨s, hrun, hcheck⟩ := hexec
  rw [Bool.and_eq_true, Option.any_eq_true] at hcheck
  obtain ⟨hdestroying, s', hs', hreturned⟩ := hcheck
  obtain ⟨call, vm, hcall, hdestroy, hvm, hinst⟩ := destroying_spec hdestroying
  refine hall true "192.168.1.10" defaultRestartBackoffBase (some (newPodIPAM podCIDR)) _ 1
    surviving_instances [] _ _ survivor begun s s' .nil web app survivingVM rfl
    (by decide) rfl hrun .ok call hcall hdestroy hs' ?_ vm hvm hinst
  rw [of_decide_eq_true hreturned]
  exact ⟨_, List.mem_cons_self⟩

/-- `CreatePod` at its lookup records, if it adopts anything, a micro-VM under its
own workload ID. -/
theorem adopted_workload {s : Sys} {c : CreateCall} {o : Outcome} (hpc : c.pc = .lookup)
    (hnew : c.adopted = false) (hadopted : (createNext s c o).adopted = true) :
    (createNext s c o).workloads = [⟨c.pod.firstContainer, c.spec.name⟩] := by
  simp only [createNext, hpc] at hadopted ⊢
  split at hadopted
  · rename_i rs hrs
    have hid := VMTable.status_id hrs
    split
    · rw [← hid]
    · unfold CreateCall.toNetwork
      split <;> rw [← hid]
  · rw [hnew] at hadopted
    cases hadopted

/-- The workload IDs of two containers differ, and `CreatePod` of the one never
adopts the micro-VM of the other. -/
def KeptApart (own other : ContainerIdentity) : Prop :=
  own.workloadID ≠ other.workloadID ∧
    ∀ (s : Sys) (c : CreateCall) (o : Outcome), c.pc = .lookup → c.adopted = false →
      c.spec.name = own.workloadID → (createNext s c o).adopted = true →
      ∀ w ∈ (createNext s c o).workloads, w.id ≠ other.workloadID

/-- Two containers with names within the label limit are kept apart exactly when
the words of their names, read in one sequence, differ. -/
theorem keptApart_iff {own other : ContainerIdentity} (hfits : own.Fits) (hfits' : other.Fits) :
    KeptApart own other ↔ own.words ≠ other.words := by
  have hiff := ContainerIdentity.workloadID_eq_iff hfits hfits'
  constructor
  · intro h hwords
    exact h.1 (hiff.mpr hwords)
  · intro hwords
    have hid : own.workloadID ≠ other.workloadID := fun heq => hwords (hiff.mp heq)
    refine ⟨hid, ?_⟩
    intro s c o hpc hnew hname hadopted w hw
    rw [adopted_workload hpc hnew hadopted, List.mem_singleton] at hw
    rw [hw]
    change c.spec.name ≠ other.workloadID
    rw [hname]
    exact hid

theorem keptApart_iff_default_pods : KeptApart ⟨"default", "web", "app"⟩ ⟨"default", "db", "app"⟩ :=
  (keptApart_iff (by decide) (by decide)).mpr (by decide)

/-- Two different Pods with valid short names and one workload ID: they differ in
where a hyphen stands. -/
theorem namesakes_share_workloadID :
    ¬ ∀ own other : ContainerIdentity, own.Valid → other.Valid → own ≠ other → own.Fits →
      other.Fits → own.workloadID ≠ other.workloadID := by
  intro hall
  exact hall ⟨"a-b", "c", "d"⟩ ⟨"a", "b-c", "d"⟩ (by decide) (by decide) (by decide) (by decide)
    (by decide) (by decide)

end MacVz
