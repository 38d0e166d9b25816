/-
What the steps of the provider leave alone.  Each party touches a few components
of the shared state, and of a tracked Pod only its status, its in-flight flag
and its probe state change between creation, the end of a restart and deletion.
-/
import MacVz.ProviderStep
import Mathlib.Data.Option.Defs

namespace MacVz

open Interleaving

variable {st : PodState} {t t' : RestartTask} {p : Prober} {ok : Bool}

theorem flag_off {P : Prop} (h : false = true) : P := Bool.noConfusion h

section Locked

variable (s : Sys) (key : String) (f : PodState → Update)

@[simp]
theorem locked_podNet : (s.locked key f).podNet = s.podNet := by
  unfold Sys.locked
  split <;> rfl

@[simp]
theorem locked_net : (s.locked key f).net = s.net := by
  unfold Sys.locked
  split <;> rfl

@[simp]
theorem locked_vms : (s.locked key f).vms = s.vms := by
  unfold Sys.locked
  split <;> rfl

@[simp]
theorem locked_ipam : (s.locked key f).ipam = s.ipam := by
  unfold Sys.locked
  split <;> rfl

@[simp]
theorem locked_creating : (s.locked key f).creating = s.creating := by
  unfold Sys.locked
  split <;> rfl

@[simp]
theorem locked_deletes : (s.locked key f).deletes = s.deletes := by
  unfold Sys.locked
  split <;> rfl

@[simp]
theorem locked_attempts : (s.locked key f).attempts = s.attempts := by
  unfold Sys.locked
  split <;> rfl

@[simp]
theorem locked_returned : (s.locked key f).returned = s.returned := by
  unfold Sys.locked
  split <;> rfl

@[simp]
theorem locked_nextInst : (s.locked key f).nextInst = s.nextInst := by
  unfold Sys.locked
  split <;> rfl

variable {s key f}

theorem locked_none (h : s.pods key = none) : s.locked key f = s := by
  unfold Sys.locked
  rw [h]

theorem locked_pods_other {other : String} (h : other ≠ key) :
    (s.locked key f).pods other = s.pods other := by
  unfold Sys.locked
  split
  · rfl
  · exact Function.update_of_ne h _ _

theorem locked_pods_self (h : s.pods key = some st) :
    (s.locked key f).pods key = some (f st).st := by
  unfold Sys.locked
  rw [h]
  exact Function.update_self _ _ _

theorem locked_restarts (h : s.pods key = some st) : (s.locked key f).restarts =
      s.restarts ++ (f st).launched.map (RestartTask.begin key st.inc) := by
  unfold Sys.locked
  rw [h]

theorem locked_probers (h : s.pods key = some st) :
    (s.locked key f).probers = s.probers ++ (f st).probers := by
  unfold Sys.locked
  rw [h]

theorem locked_probers_nil (h : ∀ st, (f st).probers = []) :
    (s.locked key f).probers = s.probers := by
  cases hpod : s.pods key with
  | none => rw [locked_none hpod]
  | some st =>
    rw [locked_probers hpod, h st]
    exact List.append_nil _

end Locked

/-- The two states differ at most in status, terminal status, in-flight flag and
probe state. -/
structure SameCore (st st' : PodState) : Prop where
  inc : st'.inc = st.inc
  pod : st'.pod = st.pod
  workloads : st'.workloads = st.workloads
  vmIP : st'.vmIP = st.vmIP
  attached : st'.attached = st.attached
  spec : st'.spec = st.spec
  restartPolicy : st'.restartPolicy = st.restartPolicy

theorem SameCore.refl (st : PodState) : SameCore st st :=
  ⟨rfl, rfl, rfl, rfl, rfl, rfl, rfl⟩

theorem read_eq (s : Sys) (st : PodState) (o : Outcome) : (s.read st o).1 = { st with
      restarting := (s.read st o).1.restarting
      status := (s.read st o).1.status } := by
  have hreads := reconcileStatus_reads s.hostIP s.restartBackoffBase
    (fun id => s.vms.status id o.status) st
  exact congrArg (fun st' : PodState => { st' with status := (s.read st o).1.status }) hreads.state

theorem read_sameCore (s : Sys) (st : PodState) (o : Outcome) : SameCore st (s.read st o).1 := by
  rw [read_eq]
  exact ⟨rfl, rfl, rfl, rfl, rfl, rfl, rfl⟩

theorem read_probes (s : Sys) (st : PodState) (o : Outcome) :
    (s.read st o).1.probes = st.probes := by
  rw [read_eq]

theorem read_terminal (s : Sys) (st : PodState) (o : Outcome) :
    (s.read st o).1.terminalStatus = st.terminalStatus := by
  rw [read_eq]

theorem startProbes_eq (st : PodState) (arm : Nat) (inst : Option Nat) :
    (startProbes st arm inst).1 =
      { st with probes := (startProbes st arm inst).1.probes } := by
  unfold startProbes
  split
  · rfl
  · split <;> rfl

theorem startProbes_sameCore (st : PodState) (arm : Nat) (inst : Option Nat) :
    SameCore st (startProbes st arm inst).1 := by
  rw [startProbes_eq]
  exact ⟨rfl, rfl, rfl, rfl, rfl, rfl, rfl⟩

theorem committed_eq (s : Sys) (c : CreateCall) (o : Outcome) : (c.committed s o).1 =
      { (s.read c.state o).1 with probes := (c.committed s o).1.probes } := by
  unfold CreateCall.committed
  dsimp only
  split
  · exact startProbes_eq _ _ _
  · rfl

theorem committed_sameCore (s : Sys) (c : CreateCall) (o : Outcome) :
    SameCore c.state (c.committed s o).1 := by
  rw [committed_eq, read_eq]
  exact ⟨rfl, rfl, rfl, rfl, rfl, rfl, rfl⟩

/-- A restart that ends leaves the Pod as it is or swaps the new workload in, but for the probe
state. -/
theorem finished_eq (t : RestartTask) (s : Sys) (st : PodState) : (t.finished s st).1 =
      { if t.newID = "" then st.idle else t.swapIn st with
        probes := (t.finished s st).1.probes } := by
  unfold RestartTask.finished
  split
  · rfl
  · exact startProbes_eq _ _ _

theorem snapshotUpdate_eq (st : PodState) : (snapshotUpdate st).st = { st with
      restarting := (snapshotUpdate st).st.restarting
      probes := (snapshotUpdate st).st.probes } := by
  unfold snapshotUpdate
  split <;> rfl

theorem snapshotUpdate_sameCore (st : PodState) : SameCore st (snapshotUpdate st).st := by
  rw [snapshotUpdate_eq]
  exact ⟨rfl, rfl, rfl, rfl, rfl, rfl, rfl⟩

theorem snapshotUpdate_probers (st : PodState) : (snapshotUpdate st).probers = [] := by
  unfold snapshotUpdate
  split <;> rfl

theorem setProbeUpdate_sameCore (g : ProbeState → ProbeState) (st : PodState) :
    SameCore st (setProbeUpdate g st).st :=
  ⟨rfl, rfl, rfl, rfl, rfl, rfl, rfl⟩

/-- What a prober does about an attempt, once it is counted. -/
inductive Acts (p : Prober) (base : Int) (ok : Bool) (st : PodState) : Update → Prop
  | nothing : Acts p base ok st (.only st)
  | startup : ok = true → p.successThreshold ≤ p.successes → p.kind = .startup →
      Acts p base ok st (setProbeUpdate ProbeState.setStartupDone st)
  | ready : ok = true → p.successThreshold ≤ p.successes → p.kind = .readiness →
      Acts p base ok st (setProbeUpdate (ProbeState.setReady true) st)
  | unready : ok = false → p.failureThreshold ≤ p.failures → p.kind = .readiness →
      Acts p base ok st (setProbeUpdate (ProbeState.setReady false) st)
  | restart : ok = false → p.failureThreshold ≤ p.failures → p.kind ≠ .readiness →
      st.terminalStatus = none → shouldRestart st.restartPolicy 1 = true →
      st.restarting = false →
      Acts p base ok st { Update.only { st with restarting := true } with
        launched := [⟨p.workload st, restartBackoff base (st.restarts p.container.name)⟩] }
  | fail : ok = false → p.failureThreshold ≤ p.failures → p.kind ≠ .readiness →
      st.terminalStatus = none → shouldRestart st.restartPolicy 1 = false →
      Acts p base ok st { Update.only { st.withoutProbes with
        terminalStatus := some (probeFailureStatus st (p.workload st))
        status := probeFailureStatus st (p.workload st) } with
          stopped := true }

theorem failUpdate_acts (base : Int) (hok : ok = false) (hreached : p.failureThreshold ≤ p.failures)
    (hkind : p.kind ≠ .readiness) : Acts p base ok st (p.failUpdate base st) := by
  unfold Prober.failUpdate
  split
  · exact .nothing
  · rename_i hlive
    have hnone : st.terminalStatus = none := by simpa using hlive
    unfold maybeTriggerRestart
    cases hpolicy : shouldRestart st.restartPolicy 1 with
    | false => exact .fail hok hreached hkind hnone hpolicy
    | true =>
      cases hflag : st.restarting with
      | true => exact .nothing
      | false => exact .restart hok hreached hkind hnone hpolicy hflag

theorem actUpdate_acts (p : Prober) (base : Int) (ok : Bool) (st : PodState) :
    Acts p base ok st (p.actUpdate base ok st) := by
  unfold Prober.actUpdate
  split
  · rename_i hok
    split
    · rename_i hreached
      split
      · rename_i hkind
        exact .startup hok hreached hkind
      · rename_i hkind
        exact .ready hok hreached hkind
      · exact .nothing
    · exact .nothing
  · rename_i hok
    rw [Bool.not_eq_true] at hok
    split
    · rename_i hreached
      split
      · rename_i hkind
        exact .unready hok hreached hkind
      · rename_i hkind
        exact failUpdate_acts base hok hreached hkind
    · exact .nothing

theorem Acts.sameCore {base : Int} {u : Update} (h : Acts p base ok st u) : SameCore st u.st := by
  cases h <;> exact ⟨rfl, rfl, rfl, rfl, rfl, rfl, rfl⟩

theorem netCall_other {net : String → Option Mapping} {key other : String}
    (h : other ≠ key) (mapping : Option Mapping) (fault : Option Fault) :
    netCall net key mapping fault other = net other := by
  unfold netCall
  split
  · exact Function.update_of_ne h _ _
  · rfl

section Effects

variable (s : Sys) (o : Outcome)

@[simp]
theorem createEffect_podNet (c : CreateCall) : (createEffect s c o).podNet = s.podNet := by
  unfold createEffect
  split <;> rfl

@[simp]
theorem createEffect_deletes (c : CreateCall) : (createEffect s c o).deletes = s.deletes := by
  unfold createEffect
  split <;> rfl

theorem createEffect_net {c : CreateCall} (h : c.pc ≠ .attach) :
    (createEffect s c o).net = s.net := by
  unfold createEffect
  split
  case h_6 hattach => exact absurd hattach h
  all_goals rfl

theorem createEffect_pods_other {c : CreateCall} {key : String} (h : key ≠ c.pod.key) :
    (createEffect s c o).pods key = s.pods key := by
  unfold createEffect
  split
  case h_7 => exact Function.update_of_ne h _ _
  case h_8 => exact Function.update_of_ne h _ _
  all_goals rfl

/-- The two steps of `CreatePod` that write the store. -/
def CreatePC.stores : CreatePC → Bool
  | .commit => true
  | .terminal _ _ => true
  | _ => false

theorem createEffect_pods {c : CreateCall} (h : c.pc.stores = false) :
    (createEffect s c o).pods = s.pods := by
  unfold createEffect
  split
  case h_7 hpc => simp [hpc, CreatePC.stores] at h
  case h_8 hpc => simp [hpc, CreatePC.stores] at h
  all_goals rfl

theorem createEffect_restarts {c : CreateCall} (h : c.pc ≠ .commit) :
    (createEffect s c o).restarts = s.restarts := by
  unfold createEffect
  split
  case h_7 hpc => exact absurd hpc h
  case h_8 => exact List.append_nil _
  all_goals rfl

theorem createEffect_probers {c : CreateCall} (h : c.pc ≠ .commit) :
    (createEffect s c o).probers = s.probers := by
  unfold createEffect
  split
  case h_7 hpc => exact absurd hpc h
  all_goals rfl

@[simp]
theorem deleteEffect_podNet (d : DeleteCall) : (deleteEffect s d o).podNet = s.podNet := by
  unfold deleteEffect
  split <;> rfl

@[simp]
theorem deleteEffect_pods (d : DeleteCall) : (deleteEffect s d o).pods = s.pods := by
  unfold deleteEffect
  split <;> rfl

@[simp]
theorem deleteEffect_creating (d : DeleteCall) : (deleteEffect s d o).creating = s.creating := by
  unfold deleteEffect
  split <;> rfl

@[simp]
theorem deleteEffect_restarts (d : DeleteCall) : (deleteEffect s d o).restarts = s.restarts := by
  unfold deleteEffect
  split <;> rfl

@[simp]
theorem deleteEffect_probers (d : DeleteCall) : (deleteEffect s d o).probers = s.probers := by
  unfold deleteEffect
  split <;> rfl

theorem deleteEffect_net {d : DeleteCall} (h : d.pc ≠ .detach) :
    (deleteEffect s d o).net = s.net := by
  unfold deleteEffect
  split
  case h_1 hdetach => exact absurd hdetach h
  all_goals rfl

@[simp]
theorem restartEffect_podNet (t : RestartTask) : (restartEffect s t o).podNet = s.podNet := by
  unfold restartEffect
  split <;> simp

@[simp]
theorem restartEffect_creating (t : RestartTask) : (restartEffect s t o).creating = s.creating := by
  unfold restartEffect
  split <;> simp

@[simp]
theorem restartEffect_deletes (t : RestartTask) : (restartEffect s t o).deletes = s.deletes := by
  unfold restartEffect
  split <;> simp

theorem restartEffect_net (hdetach : t.pc ≠ .detach) (hattach : t.pc ≠ .attach) :
    (restartEffect s t o).net = s.net := by
  unfold restartEffect
  split
  case h_2 hpc => exact absurd hpc hdetach
  case h_9 hpc => exact absurd hpc hattach
  all_goals simp

theorem restartEffect_pods (hwaiting : t.pc ≠ .waiting) (hfinish : t.pc ≠ .finish) :
    (restartEffect s t o).pods = s.pods := by
  unfold restartEffect
  split
  case h_1 hpc => exact absurd hpc hwaiting
  case h_10 hpc => exact absurd hpc hfinish
  all_goals rfl

theorem restartEffect_probers (hfinish : t.pc ≠ .finish) :
    (restartEffect s t o).probers = s.probers := by
  unfold restartEffect
  split
  case h_1 => exact locked_probers_nil snapshotUpdate_probers
  case h_10 hpc => exact absurd hpc hfinish
  all_goals rfl

@[simp]
theorem probeEffect_podNet (p : Prober) : (probeEffect s p o).podNet = s.podNet := by
  unfold probeEffect
  split
  · split <;> simp
  all_goals simp

@[simp]
theorem probeEffect_creating (p : Prober) : (probeEffect s p o).creating = s.creating := by
  unfold probeEffect
  split
  · split <;> simp
  all_goals simp

@[simp]
theorem probeEffect_deletes (p : Prober) : (probeEffect s p o).deletes = s.deletes := by
  unfold probeEffect
  split
  · split <;> simp
  all_goals simp

@[simp]
theorem probeEffect_net (p : Prober) : (probeEffect s p o).net = s.net := by
  unfold probeEffect
  split
  · split <;> simp
  all_goals simp

end Effects

section CreateFlow

variable (c : CreateCall)

theorem leave_cases : c.leave = { c with pc := .release } ∨ c.leave = { c with pc := .done } := by
  unfold CreateCall.leave
  split
  · exact Or.inl rfl
  · exact Or.inr rfl

theorem failWith_cases (e : CreateError) : c.failWith e = { c with pc := .release, err := some e } ∨
      c.failWith e = { c with pc := .done, err := some e } :=
  leave_cases { c with err := some e }

theorem unwind_cases (e : CreateError) : c.unwind e = { c with pc := .release, err := some e } ∨
      c.unwind e = { c with pc := .done, err := some e } ∨
      c.unwind e = { c with pc := .rollback c.workloads, err := some e } := by
  unfold CreateCall.unwind
  split
  · rcases failWith_cases c e with h | h
    · exact Or.inl h
    · exact Or.inr (Or.inl h)
  · exact Or.inr (Or.inr rfl)

theorem toNetwork_cases (podNet : Bool) :
    (podNet = true ∧ c.podIP ≠ "" ∧ c.toNetwork podNet = { c with pc := .observe }) ∨
      ((podNet = false ∨ c.podIP = "") ∧
        c.toNetwork podNet = { c with pc := .commit }) := by
  unfold CreateCall.toNetwork
  split
  · rename_i h
    exact Or.inl ⟨h.1, h.2, rfl⟩
  · rename_i h
    refine Or.inr ⟨?_, rfl⟩
    rw [not_and_or, not_ne_iff, Bool.not_eq_true] at h
    exact h

end CreateFlow

def CreatePC.early : CreatePC → Bool
  | .translate | .volumeDirs | .configFiles | .allocate | .startAdopted | .credentials
  | .pull => true
  | _ => false

def CreatePC.late : CreatePC → Bool
  | .create | .start | .observe | .attach => true
  | _ => false

/-- The ways one step of `CreatePod` can go on. -/
inductive CreateMove (s : Sys) (o : Outcome) (c : CreateCall) : CreateCall → Prop
  | tracked : c.pc = .check → (s.pods c.pod.key).isSome → CreateMove s o c { c with pc := .done }
  | untracked : c.pc = .check → s.pods c.pod.key = none →
      CreateMove s o c { c with pc := .translate, inc := s.nextInc }
  | unsupported (message : String) : c.pc = .translate →
      CreateMove s o c { c with pc := .terminal "UnsupportedPodSpec" message }
  | translated (container : Container) (spec : ContainerSpec) : c.pc = .translate →
      translatePod c.pod o.resolved = .ok (container, spec) →
      CreateMove s o c { c with pc := .volumeDirs, spec := spec }
  | dirs : c.pc = .volumeDirs → CreateMove s o c { c with pc := .configFiles }
  | files : c.pc = .configFiles → CreateMove s o c { c with pc := .hadIP }
  | reservation : c.pc = .hadIP →
      CreateMove s o c { c with pc := .allocate, hadPodIP := hasAllocatedIP s.ipam c.pod.key }
  | allocated (ip : String) (ipam : Option PodIPAM) : c.pc = .allocate →
      allocateIP s.ipam c.pod.key = .ok (ip, ipam) →
      CreateMove s o c { c with pc := .lookup, podIP := ip, startTime := o.now }
  | found (rs : VMStatus) (pc : CreatePC) : c.pc = .lookup →
      s.vms.status c.spec.name o.status = .ok rs →
      pc = .startAdopted ∧ rs.phase = .created ∨
        pc = .observe ∧ s.podNet = true ∧ c.podIP ≠ "" ∨
        pc = .commit ∧ (s.podNet = false ∨ c.podIP = "") →
      CreateMove s o c { c with
        pc := pc, adopted := true, workloads := [⟨c.pod.firstContainer, rs.id⟩] }
  | notFound (e : RuntimeError) : c.pc = .lookup →
      s.vms.status c.spec.name o.status = .error e →
      CreateMove s o c { c with pc := .credentials }
  | credentials : c.pc = .credentials → CreateMove s o c { c with pc := .pull }
  | wrongArch (message : String) : c.pc = .pull →
      CreateMove s o c { c with pc := .terminal "ImageArchitectureMismatch" message }
  | pulled : c.pc = .pull → CreateMove s o c { c with pc := .create }
  | created : c.pc = .create → createError c.spec o.fault = none →
      CreateMove s o c
        { c with pc := .start, workloads := [⟨c.pod.firstContainer, c.spec.name⟩] }
  | started (pc : CreatePC) : c.pc = .startAdopted ∨ c.pc = .start →
      startError s.vms c.id o.fault = none →
      pc = .observe ∧ s.podNet = true ∧ c.podIP ≠ "" ∨
        pc = .commit ∧ (s.podNet = false ∨ c.podIP = "") →
      CreateMove s o c { c with pc := pc }
  | observed (ip : String) : c.pc = .observe → pollVMIP s.vms c.id o = some ip →
      CreateMove s o c { c with pc := .attach, vmIP := ip }
  | polled : c.pc = .observe → pollVMIP s.vms c.id o = none →
      CreateMove s o c { c with pc := .observe, polls := c.polls + 1 }
  | attached : c.pc = .attach → o.fault = none →
      CreateMove s o c { c with pc := .commit, attached := true }
  | committed : c.pc = .commit → CreateMove s o c { c with pc := .done }
  | recorded (reason message : String) (pc : CreatePC) : c.pc = .terminal reason message →
      pc = .release ∨ pc = .done → CreateMove s o c { c with pc := pc }
  | rolledBack (w : Workload) (remaining : List Workload) :
      c.pc = .rollback (w :: remaining) → CreateMove s o c { c with pc := .rollback remaining }
  | rolledBackAll (pc : CreatePC) : c.pc = .rollback [] → pc = .release ∨ pc = .done →
      CreateMove s o c { c with pc := pc }
  | released : c.pc = .release ∨ c.pc = .done → CreateMove s o c { c with pc := .done }
  | failedEarly (e : CreateError) (pc : CreatePC) : c.pc.early → pc = .release ∨ pc = .done →
      CreateMove s o c { c with pc := pc, err := some e }
  | failedLate (e : CreateError) (pc : CreatePC) : c.pc.late →
      pc = .release ∨ pc = .done ∨ pc = .rollback c.workloads →
      CreateMove s o c { c with pc := pc, err := some e }

theorem move_failWith {s : Sys} {o : Outcome} {c : CreateCall} (h : c.pc.early)
    (e : CreateError) : CreateMove s o c (c.failWith e) := by
  rcases failWith_cases c e with heq | heq
  · rw [heq]
    exact .failedEarly e _ h (Or.inl rfl)
  · rw [heq]
    exact .failedEarly e _ h (Or.inr rfl)

theorem move_unwind {s : Sys} {o : Outcome} {c : CreateCall} (h : c.pc.late)
    (e : CreateError) : CreateMove s o c (c.unwind e) := by
  rcases unwind_cases c e with heq | heq | heq
  · rw [heq]
    exact .failedLate e _ h (Or.inl rfl)
  · rw [heq]
    exact .failedLate e _ h (Or.inr (Or.inl rfl))
  · rw [heq]
    exact .failedLate e _ h (Or.inr (Or.inr rfl))

theorem move_started {s : Sys} {o : Outcome} {c : CreateCall}
    (h : c.pc = .startAdopted ∨ c.pc = .start) (hok : startError s.vms c.id o.fault = none) :
    CreateMove s o c (c.toNetwork s.podNet) := by
  rcases toNetwork_cases c s.podNet with ⟨hnet, hip, heq⟩ | ⟨hskip, heq⟩
  · rw [heq]
    exact .started _ h hok (Or.inl ⟨rfl, hnet, hip⟩)
  · rw [heq]
    exact .started _ h hok (Or.inr ⟨rfl, hskip⟩)

theorem move_found {s : Sys} {o : Outcome} {c : CreateCall} {rs : VMStatus} (h : c.pc = .lookup)
    (hok : s.vms.status c.spec.name o.status = .ok rs) : CreateMove s o c
      (if rs.phase = .created then
        { c with
          pc := .startAdopted, adopted := true,
          workloads := [⟨c.pod.firstContainer, rs.id⟩] }
      else
        { c with
          adopted := true,
          workloads := [⟨c.pod.firstContainer, rs.id⟩] }.toNetwork s.podNet) := by
  split
  · rename_i hphase
    exact .found rs _ h hok (Or.inl ⟨rfl, hphase⟩)
  · rcases toNetwork_cases { c with
        adopted := true, workloads := [⟨c.pod.firstContainer, rs.id⟩] } s.podNet with
      ⟨hnet, hip, heq⟩ | ⟨hskip, heq⟩
    · rw [heq]
      exact .found rs _ h hok (Or.inr (Or.inl ⟨rfl, hnet, hip⟩))
    · rw [heq]
      exact .found rs _ h hok (Or.inr (Or.inr ⟨rfl, hskip⟩))

/-- The steps of `CreatePod`, by its program counter. -/
theorem createNext_move (s : Sys) (c : CreateCall) (o : Outcome) :
    CreateMove s o c (createNext s c o) := by
  unfold createNext
  cases hpc : c.pc with
  | check =>
    dsimp only
    split
    · rename_i hsome
      exact .tracked hpc hsome
    · rename_i hnone
      exact .untracked hpc (by simpa using hnone)
  | translate =>
    dsimp only
    split
    · exact .unsupported _ hpc
    · exact move_failWith (by simp [hpc, CreatePC.early]) _
    · rename_i container spec hok
      exact .translated container spec hpc hok
  | volumeDirs =>
    dsimp only
    split
    · exact move_failWith (by simp [hpc, CreatePC.early]) _
    · exact .dirs hpc
  | configFiles =>
    dsimp only
    split
    · exact move_failWith (by simp [hpc, CreatePC.early]) _
    · exact .files hpc
  | hadIP => exact .reservation hpc
  | allocate =>
    dsimp only
    split
    · rename_i ip ipam hok
      exact .allocated ip ipam hpc hok
    · exact move_failWith (by simp [hpc, CreatePC.early]) _
  | lookup =>
    dsimp only
    split
    · rename_i rs hok
      exact move_found hpc hok
    · rename_i e herror
      exact .notFound e hpc herror
  | startAdopted =>
    dsimp only
    split
    · exact move_failWith (by simp [hpc, CreatePC.early]) _
    · rename_i hok
      exact move_started (Or.inl hpc) hok
  | credentials =>
    dsimp only
    split
    · exact move_failWith (by simp [hpc, CreatePC.early]) _
    · exact .credentials hpc
  | pull =>
    dsimp only
    split
    · split
      · exact .wrongArch _ hpc
      · exact move_failWith (by simp [hpc, CreatePC.early]) _
    · exact .pulled hpc
  | create =>
    dsimp only
    split
    · exact .failedLate _ _ (by simp [hpc, CreatePC.late]) (Or.inr (Or.inr rfl))
    · rename_i hok
      exact .created hpc hok
  | start =>
    dsimp only
    split
    · exact .failedLate _ _ (by simp [hpc, CreatePC.late]) (Or.inr (Or.inr rfl))
    · rename_i hok
      exact move_started (Or.inr hpc) hok
  | observe =>
    dsimp only
    split
    · rename_i ip hip
      exact .observed ip hpc hip
    · rename_i hnone
      split
      · exact move_unwind (by simp [hpc, CreatePC.late]) _
      · exact .polled hpc hnone
  | attach =>
    dsimp only
    split
    · exact move_unwind (by simp [hpc, CreatePC.late]) _
    · rename_i hok
      exact .attached hpc hok
  | commit => exact .committed hpc
  | terminal reason message =>
    rcases leave_cases c with heq | heq
    · rw [heq]
      exact .recorded reason message _ hpc (Or.inl rfl)
    · rw [heq]
      exact .recorded reason message _ hpc (Or.inr rfl)
  | rollback remaining =>
    cases remaining with
    | nil =>
      rcases leave_cases c with heq | heq
      · rw [heq]
        exact .rolledBackAll _ hpc (Or.inl rfl)
      · rw [heq]
        exact .rolledBackAll _ hpc (Or.inr rfl)
    | cons w remaining => exact .rolledBack w remaining hpc
  | release => exact .released (Or.inl hpc)
  | done =>
    have hsame : c = { c with pc := .done } := by rw [← hpc]
    rw [hsame]
    exact .released (Or.inr rfl)

theorem CreateMove.pod_eq {s : Sys} {o : Outcome} {c c' : CreateCall}
    (h : CreateMove s o c c') : c'.pod = c.pod := by
  cases h <;> rfl

/-- The places of `CreatePod` after its Pod was found untracked and before it is
stored or given up. -/
def CreatePC.pending : CreatePC → Bool
  | .check | .release | .done => false
  | _ => true

/-- The places of `CreatePod` after it has an address. -/
def CreatePC.addressed : CreatePC → Bool
  | .lookup | .startAdopted | .credentials | .pull | .create | .start | .observe | .attach
  | .commit => true
  | _ => false

theorem CreateMove.pending_cases {s : Sys} {o : Outcome} {c c' : CreateCall}
    (h : CreateMove s o c c') (hpending : c'.pc.pending = true) :
    s.pods c.pod.key = none ∧ c.pc = .check ∨ c.pc.pending = true ∧ c.pc.stores = false := by
  cases h with
  | untracked hpc hnone => exact Or.inl ⟨hnone, hpc⟩
  | started pc hpc _ _ =>
    rcases hpc with hpc | hpc <;> exact Or.inr (by simp [hpc, CreatePC.pending, CreatePC.stores])
  | recorded _ _ pc _ hgo | rolledBackAll pc _ hgo | failedEarly _ pc _ hgo =>
    rcases hgo with rfl | rfl <;> cases hpending
  | failedLate e pc hpc hgo =>
    cases hplace : c.pc <;> simp [hplace, CreatePC.late] at hpc <;>
      simp [CreatePC.pending, CreatePC.stores]
  | tracked | committed | released => cases hpending
  | _ => exact Or.inr (by simp [*, CreatePC.pending, CreatePC.stores])

/-- The call is attached if it was, or `Attach` has just returned. -/
theorem CreateMove.attached_cases {s : Sys} {o : Outcome} {c c' : CreateCall}
    (h : CreateMove s o c c') (hattached : c'.attached = true) :
    c.attached = true ∨ c.pc = .attach ∧ c'.pc = .commit := by
  cases h with
  | attached hpc _ => exact Or.inr ⟨hpc, rfl⟩
  | _ => exact Or.inl hattached

/-- Every step a restart task can take. -/
inductive RestartMove (s : Sys) (o : Outcome) (t : RestartTask) : Option RestartTask → Prop
  | gone : t.pc = .waiting → s.pods t.key = none → RestartMove s o t none
  | terminal (st : PodState) : t.pc = .waiting → s.pods t.key = some st →
      st.terminalStatus.isSome → RestartMove s o t none
  | snapshot (st : PodState) : t.pc = .waiting → s.pods t.key = some st →
      st.terminalStatus = none →
      RestartMove s o t (some { t with
        pc := .detach, spec := st.spec, podIP := st.status.podIP, wasAttached := st.attached })
  | detached : t.pc = .detach → RestartMove s o t (some { t with pc := .stop })
  | stopped : t.pc = .stop → RestartMove s o t (some { t with pc := .destroy })
  | destroyed : t.pc = .destroy → RestartMove s o t (some { t with pc := .create })
  | created : t.pc = .create → createError t.spec o.fault = none →
      RestartMove s o t (some { t with
        pc := .start
        newID := t.spec.name
        inst := (createVM s.nextInst o.addr (s.vms t.spec.name)).map VM.inst })
  | createFailed : t.pc = .create → createError t.spec o.fault ≠ none →
      RestartMove s o t (some t.giveUp)
  | started (pc : RestartPC) : t.pc = .start → startError s.vms t.newID o.fault = none →
      pc = .observe ∧ s.podNet = true ∧ t.podIP ≠ "" ∨
        pc = .finish ∧ (s.podNet = false ∨ t.podIP = "") →
      RestartMove s o t (some { t with pc := pc })
  | startFailed : t.pc = .start → startError s.vms t.newID o.fault ≠ none →
      RestartMove s o t (some { t with pc := .destroyHalf })
  | halfDestroyed : t.pc = .destroyHalf → RestartMove s o t (some t.giveUp)
  | observed (ip : String) : t.pc = .observe → pollVMIP s.vms t.newID o = some ip →
      RestartMove s o t (some { t with pc := .attach, vmIP := ip })
  | polled : t.pc = .observe → pollVMIP s.vms t.newID o = none →
      RestartMove s o t (some { t with pc := .observe, polls := t.polls + 1 })
  | unobserved : t.pc = .observe → pollVMIP s.vms t.newID o = none →
      RestartMove s o t (some { t with pc := .finish })
  | attached : t.pc = .attach → o.fault = none →
      RestartMove s o t (some { t with pc := .finish, attached := true })
  | attachFailed : t.pc = .attach → o.fault ≠ none →
      RestartMove s o t (some { t with pc := .finish, vmIP := "" })
  | finished (st : PodState) : t.pc = .finish → s.pods t.key = some st → RestartMove s o t none
  | nothingNew : t.pc = .finish → s.pods t.key = none → t.newID = "" → RestartMove s o t none
  | orphaned : t.pc = .finish → s.pods t.key = none → t.newID ≠ "" →
      RestartMove s o t (some { t with pc := .orphan })
  | reaped : t.pc = .orphan → RestartMove s o t none

/-- The steps of a restart, by its program counter. -/
theorem restartNext_move (s : Sys) (t : RestartTask) (o : Outcome) :
    RestartMove s o t (restartNext s t o) := by
  unfold restartNext
  cases hpc : t.pc with
  | waiting =>
    dsimp only
    split
    · rename_i hnone
      exact .gone hpc hnone
    · rename_i st hst
      split
      · rename_i hterminal
        exact .terminal st hpc hst hterminal
      · rename_i hlive
        exact .snapshot st hpc hst (by simpa using hlive)
  | detach => exact .detached hpc
  | stop => exact .stopped hpc
  | destroy => exact .destroyed hpc
  | create =>
    dsimp only
    split
    · rename_i e herror
      exact .createFailed hpc (by simp [herror])
    · rename_i hok
      exact .created hpc hok
  | start =>
    dsimp only
    split
    · rename_i e herror
      exact .startFailed hpc (by simp [herror])
    · rename_i hok
      split
      · rename_i hnet
        exact .started _ hpc hok (Or.inl ⟨rfl, hnet⟩)
      · rename_i hskip
        rw [not_and_or, not_ne_iff, Bool.not_eq_true] at hskip
        exact .started _ hpc hok (Or.inr ⟨rfl, hskip⟩)
  | destroyHalf => exact .halfDestroyed hpc
  | observe =>
    dsimp only
    split
    · rename_i ip hip
      exact .observed ip hpc hip
    · rename_i hnone
      split
      · exact .unobserved hpc hnone
      · exact .polled hpc hnone
  | attach =>
    dsimp only
    split
    · rename_i fault hfault
      exact .attachFailed hpc (by simp [hfault])
    · rename_i hok
      exact .attached hpc hok
  | finish =>
    dsimp only
    split
    · rename_i hnone
      split
      · rename_i hnew
        exact .nothingNew hpc hnone hnew
      · rename_i hnew
        exact .orphaned hpc hnone hnew
    · rename_i st hst
      exact .finished st hpc hst
  | orphan => exact .reaped hpc

theorem RestartMove.key_eq {s : Sys} {o : Outcome} (h : RestartMove s o t (some t')) :
    t'.key = t.key := by
  cases h <;> rfl

theorem RestartMove.inc_eq {s : Sys} {o : Outcome} (h : RestartMove s o t (some t')) :
    t'.inc = t.inc := by
  cases h <;> rfl

theorem createError_none {spec : ContainerSpec} {fault : Option Fault}
    (h : createError spec fault = none) : spec.name ≠ "" ∧ spec.image ≠ "" ∧ fault = none := by
  unfold createError at h
  split at h
  · cases h
  · rename_i hname
    split at h
    · cases h
    · rename_i himage
      exact ⟨hname, himage, by simpa using h⟩

def RestartPC.renewed : RestartPC → Bool
  | .start | .destroyHalf | .observe | .attach => true
  | _ => false

theorem RestartMove.renewed_cases {s : Sys} {o : Outcome} (h : RestartMove s o t (some t'))
    (hrenewed : t'.pc.renewed = true) :
    t'.newID ≠ "" ∨ t.pc.renewed = true ∧ t'.newID = t.newID := by
  cases h with
  | created hpc hok => exact Or.inl (createError_none hok).1
  | started _ hpc _ _ | startFailed hpc _ | observed _ hpc _ | polled hpc _ =>
    exact Or.inr ⟨by simp [hpc, RestartPC.renewed], rfl⟩
  | _ => cases hrenewed

/-- A restart is attached if it was, or `Attach` has just returned. -/
theorem RestartMove.attached_cases {s : Sys} {o : Outcome} (h : RestartMove s o t (some t'))
    (hattached : t'.attached = true) :
    t.attached = true ∨ t.pc = .attach ∧ t'.pc = .finish ∧ t'.newID = t.newID := by
  cases h with
  | attached hpc _ => exact Or.inr ⟨hpc, rfl, rfl⟩
  | createFailed hpc _ => cases hattached
  | halfDestroyed hpc => cases hattached
  | _ => exact Or.inl hattached

def ProbePC.result : ProbePC → Option Bool
  | .act ok => some ok
  | _ => none

/-- Every step a prober can take. -/
inductive ProbeMove (s : Sys) (o : Outcome) (p : Prober) : Option Prober → Prop
  | ended : attemptAt s o p.pc = none → ProbeMove s o p none
  | attempted (met : Option Nat × Bool) : attemptAt s o p.pc = some met → p.pc.result = none →
      ProbeMove s o p (some { p with pc := .act met.2 })
  | counted (ok : Bool) (pc : ProbePC) : p.pc = .act ok → pc.result = none →
      ProbeMove s o p (some { p.count ok with pc := pc })
  | moved (pc : ProbePC) : p.pc.result = none → attemptAt s o p.pc = none →
      pc.result ≠ some true → ProbeMove s o p (some { p with pc := pc })

theorem actNext_move {s : Sys} {o : Outcome} (hpc : p.pc = .act ok) :
    ProbeMove s o p (actNext s (p.count ok) ok) := by
  have hended : attemptAt s o p.pc = none := by rw [hpc]; rfl
  unfold actNext
  split
  · split
    · exact .ended hended
    · exact .counted ok _ hpc rfl
  · split
    · unfold failProbeNext
      split
      · exact .ended hended
      · split
        · exact .ended hended
        · split
          · exact .ended hended
          · exact .counted ok _ hpc rfl
    · exact .counted ok _ hpc rfl

/-- The steps of a prober, by its program counter. -/
theorem probeNext_move (s : Sys) (p : Prober) (o : Outcome) :
    ProbeMove s o p (probeNext s p o) := by
  -- the places where nothing is attempted or counted
  have hended : p.pc.result = none → attemptAt s o p.pc = none → ProbeMove s o p none :=
    fun _ hnone => .ended hnone
  have hmoved : p.pc.result = none → attemptAt s o p.pc = none → ∀ pc : ProbePC,
      pc.result ≠ some true → ProbeMove s o p (some { p with pc := pc }) :=
    fun hresult hnone pc hpc => .moved pc hresult hnone hpc
  unfold probeNext
  cases hpc : p.pc with
  | exec id => exact .attempted _ (congrArg (attemptAt s o) hpc) (congrArg ProbePC.result hpc)
  | dial addr => exact .attempted _ (congrArg (attemptAt s o) hpc) (congrArg ProbePC.result hpc)
  | act ok => exact actNext_move hpc
  | resolve =>
    rw [hpc] at hended hmoved
    dsimp only
    split
    · split
      · exact hmoved rfl rfl _ (fun h => by cases h)
      · exact hmoved rfl rfl _ (fun h => by cases h)
    · exact hmoved rfl rfl _ (fun h => by cases h)
    · exact hmoved rfl rfl _ (fun h => by cases h)
    · exact hended rfl rfl
  | stop id =>
    rw [hpc] at hmoved
    exact hmoved rfl rfl _ (fun h => by cases h)
  | destroy id =>
    rw [hpc] at hended
    exact hended rfl rfl
  | start | delay | gateDeclared | gateDone | sleep =>
    rw [hpc] at hended hmoved
    dsimp only
    split
    all_goals first
      | exact hended rfl rfl
      | exact hmoved rfl rfl _ (fun h => by cases h)

/-- Two probers that differ in place and counters only. -/
structure SameProber (p p' : Prober) : Prop where
  key : p'.key = p.key
  arm : p'.arm = p.arm
  kind : p'.kind = p.kind
  container : p'.container = p.container
  probe : p'.probe = p.probe
  inc : p'.inc = p.inc

theorem ProbeMove.same {s : Sys} {o : Outcome} {p' : Prober} (h : ProbeMove s o p (some p')) :
    SameProber p p' := by
  cases h with
  | counted ok pc _ _ => cases ok <;> exact ⟨rfl, rfl, rfl, rfl, rfl, rfl⟩
  | _ => exact ⟨rfl, rfl, rfl, rfl, rfl, rfl⟩

end MacVz
