/-
The reported Pod address on a node without an allocator.  The first address seen
is stored with the status and never replaced, while a restart gives the Pod a
new micro-VM with an address of its own: the report is right as long as each new
micro-VM gets the address that is already stored.
-/
import MacVz.Evolution
import MacVz.StepConditions

namespace MacVz

open Interleaving

/-- A micro-VM made under the workload ID of this Pod, while the Pod has an
address stored, gets that address. -/
def keepsAddress (key : String) (s : Sys) (l : Label) : Bool :=
  (makes s l).all fun (id, addr) => (s.pods key).all fun st =>
    st.terminalStatus.isSome || st.spec.name ≠ id || st.status.podIP = "" ||
      addr = st.status.podIP

/-- The steps of a run in which the reported address stays right. -/
structure AddressKept (key : String) (s : Sys) (l : Label) : Prop where
  keeps : keepsKey key l = true
  truth : readsTruth key s l = true
  address : keepsAddress key s l = true

/-- The address stored for a live Pod is the one of its micro-VM. -/
structure Latched (key : String) (s : Sys) : Prop where
  bound : Bound key s
  ipam : s.ipam = none
  unset : ∀ c, s.creating = some c → c.pod.key = key → c.podIP = ""
  latched : ∀ st, s.pods key = some st → st.terminalStatus = none → st.status.podIP ≠ "" →
    ∀ vm, s.vms st.spec.name = some vm → vm.addr = st.status.podIP

section Latched

variable {s : Sys} {key : String} {l : Label} {st : PodState} {o : Outcome} {s' : Sys}

theorem read_latches {x : Container} (hx : Running st x) (hlive : st.terminalStatus = none)
    (htrue : o.truthful = true) (hip : (s.read st o).1.status.podIP ≠ "") :
    (s.read st o).1.status.podIP = st.status.podIP ∨
      ∃ vm, s.vms st.spec.name = some vm ∧ vm.addr = (s.read st o).1.status.podIP := by
  rcases hx.podIP_cases hlive s.hostIP s.restartBackoffBase
    (fun id => s.vms.status id o.status) with hsame | ⟨rs, hrs, hseen⟩
  · exact Or.inl hsame
  · obtain ⟨vm, hvm, _, haddr⟩ := truthful_status htrue hrs
    have hseen' : (s.read st o).1.status.podIP = rs.ip := hseen
    exact Or.inr ⟨vm, hvm, by rw [hseen', haddr (hseen' ▸ hip)]⟩

theorem CreateMove.podIP_unset {c c' : CreateCall} (h : CreateMove s o c c') (hipam : s.ipam = none)
    (hunset : c.podIP = "") : c'.podIP = "" := by
  cases h with
  | allocated ip ipam _ hok =>
    rw [hipam] at hok
    cases hok
    rfl
  | _ => exact hunset

theorem step_unset (h : Latched key s) (hstep : step s l = some s') :
    ∀ c, s'.creating = some c → c.pod.key = key → c.podIP = "" := by
  intro c' hc' hkey
  rcases step_creating hstep hc' with ⟨hc, _⟩ | ⟨pod, _, rfl⟩ | ⟨c, o, _, hc, rfl⟩
  · exact h.unset c' hc hkey
  · rfl
  · have hmove := createNext_move s c o
    rw [hmove.pod_eq] at hkey
    exact hmove.podIP_unset h.ipam (h.unset c hc hkey)

/-- A micro-VM under the ID of a live Pod with an address has that address, also
when it has just been made. -/
theorem VMFrom.addr_eq {vm' : VM} (hfrom : VMFrom s l st.spec.name vm') (h : Latched key s)
    (haddress : keepsAddress key s l = true) (hst : s.pods key = some st)
    (hlive : st.terminalStatus = none) (hip : st.status.podIP ≠ "") :
    vm'.addr = st.status.podIP := by
  rcases hfrom with ⟨vm, hvm, _, haddr⟩ | ⟨_, hmakes, _⟩
  · exact haddr.trans (h.latched st hst hlive hip vm hvm)
  · simpa [keepsAddress, hmakes, hst, hlive, hip] using haddress

/-- A step that keeps the address keeps a live Pod reporting its micro-VM's address. -/
theorem step_latched (h : Latched key s) (hkept : AddressKept key s l)
    (hstep : step s l = some s') : Latched key s' := by
  have hipam : s'.ipam = none := by
    simpa [h.ipam] using (step_config hstep).2
  refine ⟨step_bound h.bound hkept.keeps hstep, hipam, step_unset h hstep, ?_⟩
  intro st' hst' hlive' hip' vm' hvm'
  have hfrom := step_vms hstep hvm'
  cases hst : s.pods key with
  | some st =>
    have hevolves := step_evolves_to h.bound hstep hst hst'
    rw [(hevolves.work h.bound hst).spec] at hfrom hvm'
    obtain ⟨hlive, hstatus | ⟨o, rfl, rfl⟩⟩ := hevolves.status_cases hlive'
    · rw [hstatus] at hip' ⊢
      exact hfrom.addr_eq h hkept.address hst hlive hip'
    · -- a read: the micro-VMs are as they were
      obtain rfl := Option.some.inj hstep
      rw [locked_vms] at hvm'
      have htrue : o.truthful = true := by simpa [readsTruth] using hkept.truth
      rcases h.bound.settled st hst with ⟨x, hx⟩ | ⟨_, hterminal, _⟩
      · rcases read_latches hx hlive htrue hip' with hsame | ⟨vm, hvm, haddr⟩
        · rw [hsame] at hip' ⊢
          exact h.latched st hst hlive hip' vm' hvm'
        · obtain rfl := Option.some.inj (hvm.symm.trans hvm')
          exact haddr
      · rw [hlive] at hterminal
        cases hterminal
  | none =>
    obtain ⟨c, o, rfl, hc, hkey, hborn⟩ := step_born hstep hst hst'
    rcases hborn with ⟨hpc, rfl⟩ | ⟨reason, message, _, rfl⟩
    · obtain ⟨x, hx⟩ := (h.bound.placed c hc hkey).running hpc
      have htrue : o.truthful = true := by
        simpa [readsTruth, hc, hkey, hpc] using hkept.truth
      have hvms : s'.vms = s.vms := by
        obtain ⟨c₁, hc₁, rfl⟩ := Option.map_eq_some_iff.mp hstep
        obtain rfl := Option.some.inj (hc.symm.trans hc₁)
        rw [createStep_vms]
        simp only [createEffect, hpc]
        rfl
      have hstatus := (committed_sameStatus s c o hlive').2
      rw [hvms, (committed_sameCore s c o).spec] at hvm'
      rw [hstatus] at hip' ⊢
      rcases read_latches hx rfl htrue hip' with hsame | ⟨vm, hvm, haddr⟩
      · have hunset : c.state.status.podIP = "" := h.unset c hc hkey
        rw [hsame, hunset] at hip'
        exact absurd rfl hip'
      · obtain rfl := Option.some.inj (hvm.symm.trans hvm')
        exact haddr
    · cases hlive'

theorem fresh_latched (podNet : Bool) (hostIP : String) (base : Int) (vms : VMTable)
    (nextInst : Nat) (key : String) :
    Latched key (Sys.fresh podNet hostIP base none vms nextInst) where
  bound := fresh_bound podNet hostIP base none vms nextInst key
  ipam := rfl
  unset := fun _ h => by cases h
  latched := fun _ h => by cases h

end Latched

/-- Without an allocator, over every run in which each micro-VM made for the Pod
gets the address already stored for it: a read that observes the container
running with an address reports exactly that address. -/
theorem reported_address_current {podNet : Bool} {hostIP : String} {base : Int}
    {vms : VMTable} {nextInst : Nat} {key : String} {ls : List Label} {s : Sys}
    (hrun : Run step (AddressKept key) (Sys.fresh podNet hostIP base none vms nextInst) ls s)
    {st : PodState} (hst : s.pods key = some st) (hlive : st.terminalStatus = none)
    {o : Outcome} (htrue : o.truthful = true) {w : Workload} (hw : w ∈ st.workloads)
    {rs : VMStatus} (hrs : s.vms.status w.id o.status = .ok rs)
    (hrunning : rs.phase = .running) (hip : rs.ip ≠ "") :
    (s.read st o).1.status.podIP = rs.ip ∧ (s.read st o).1.status.podIPs = [rs.ip] := by
  have h : Latched key s :=
    hrun.invariant (fresh_latched podNet hostIP base vms nextInst key)
      fun h hkept hstep => step_latched h hkept hstep
  rcases h.bound.settled st hst with ⟨x, hx⟩ | ⟨_, hterminal, _⟩
  · rw [hx.workloads, List.mem_singleton] at hw
    subst hw
    obtain ⟨vm, hvm, _, haddr⟩ := truthful_status htrue hrs
    obtain ⟨hpodIP, hpodIPs⟩ := hx.podIP_of_observed hlive s.hostIP s.restartBackoffBase
      (fun id => s.vms.status id o.status) hrs hrunning
    have hreported : (s.read st o).1.status.podIP = rs.ip := by
      refine hpodIP.trans ?_
      split
      · rfl
      · rename_i hstored
        have hne : st.status.podIP ≠ "" := fun hempty => hstored ⟨hempty, hip⟩
        rw [haddr hip]
        exact (h.latched st hst hlive hne vm hvm).symm
    refine ⟨hreported, hpodIPs.trans ?_⟩
    have hreported' : (reconcileStatus s.hostIP s.restartBackoffBase
        (fun id => s.vms.status id o.status) st).1.podIP = rs.ip := hreported
    rw [hreported', if_neg hip]
  · rw [hlive] at hterminal
    cases hterminal

namespace LatchWitness

open Sample

def bareNode : Sys :=
  Sys.fresh false "192.168.1.10" defaultRestartBackoffBase none (fun _ => none) 0

/-- The Pod is created, its workload ends, and the restart makes a new one with
this address. -/
def restarted (addr : String) : List Label :=
  .createBegin web :: List.replicate 12 (.create (okAt "192.168.64.5")) ++
    [.vmExit webID false 1, .status "default/web" .ok] ++
    List.replicate 7 (.restart 0 (okAt addr))

/-- The micro-VM runs at the address and its Pod is tracked, with no restart under way. -/
def runsAt (addr : String) (s : Sys) : Bool :=
  s.restarts.isEmpty && (s.vms webID).any (fun vm => vm.phase = .running && vm.addr = addr) &&
    (s.pods "default/web").any fun st =>
      st.terminalStatus = none && st.workloads = [⟨"app", webID⟩]

def reports (addr : String) (s : Sys) : Bool :=
  (s.pods "default/web").any fun st => (s.read st .ok).1.status.podIP = addr

theorem runsAt_observed {addr : String} {s : Sys} (h : runsAt addr s = true) :
    ∃ st rs, s.pods "default/web" = some st ∧ st.terminalStatus = none ∧
      (⟨"app", webID⟩ : Workload) ∈ st.workloads ∧
      s.vms.status webID Outcome.ok.status = .ok rs ∧ rs.phase = .running ∧ rs.ip = addr := by
  simp only [runsAt, Bool.and_eq_true, Option.any_eq_true] at h
  obtain ⟨⟨_, vm, hvm, hup⟩, st, hst, hlive, hworkloads⟩ := h
  simp only [decide_eq_true_eq] at hup hlive hworkloads
  refine ⟨st, vm.status webID true, hst, hlive, ?_, ?_, hup.1, hup.2⟩
  · rw [hworkloads]
    exact List.mem_cons_self
  · simp [Outcome.ok, VMTable.status, hvm]

end LatchWitness

open LatchWitness Sample in
/-- A restart whose new micro-VM gets the old address keeps the report right. -/
theorem reported_address_current_after_restart :
    ∃ (s : Sys) (st : PodState), s.pods "default/web" = some st ∧
      (s.read st .ok).1.status.podIP = "192.168.64.5" ∧
      (s.read st .ok).1.status.podIPs = ["192.168.64.5"] := by
  have hexec : ∃ s, Run step (AddressKept "default/web") bareNode (restarted "192.168.64.5") s ∧
      runsAt "192.168.64.5" s = true := by
    refine exists_run_of_check (fun s l => keepsKey "default/web" l &&
      readsTruth "default/web" s l && keepsAddress "default/web" s l) ?_ (by decide)
    intro s l h
    simp only [Bool.and_eq_true] at h
    exact ⟨h.1.1, h.1.2, h.2⟩
  obtain ⟨s, hrun, hcheck⟩ := hexec
  obtain ⟨st, rs, hst, hlive, hw, hrs, hphase, hip⟩ := runsAt_observed hcheck
  have hreport := reported_address_current hrun hst hlive (o := .ok) rfl hw hrs hphase
    (by rw [hip]; decide)
  rw [hip] at hreport
  exact ⟨s, st, hst, hreport⟩

open LatchWitness Sample in
/-- After a restart with a new address the old one is still reported. -/
theorem restart_leaves_reported_address_stale :
    ¬ ∀ (podNet : Bool) (hostIP : String) (base : Int) (vms : VMTable) (nextInst : Nat)
      (key : String) (ls : List Label) (s : Sys),
      Run step (fun s l => keepsKey key l = true ∧ readsTruth key s l = true)
        (Sys.fresh podNet hostIP base none vms nextInst) ls s →
      ∀ (st : PodState), s.pods key = some st → st.terminalStatus = none →
      ∀ (o : Outcome), o.truthful = true → ∀ w ∈ st.workloads, ∀ rs : VMStatus,
      s.vms.status w.id o.status = .ok rs → rs.phase = .running → rs.ip ≠ "" →
      (s.read st o).1.status.podIP = rs.ip ∧ (s.read st o).1.status.podIPs = [rs.ip] := by
  intro hall
  have hexec : ∃ s, Run step (fun s l => keepsKey "default/web" l = true ∧
      readsTruth "default/web" s l = true) bareNode (restarted "192.168.64.6") s ∧
      (runsAt "192.168.64.6" s && reports "192.168.64.5" s) = true := by
    refine exists_run_of_check (fun s l => keepsKey "default/web" l &&
      readsTruth "default/web" s l) ?_ (by decide)
    intro s l h
    simpa only [Bool.and_eq_true] using h
  obtain ⟨s, hrun, hcheck⟩ := hexec
  rw [Bool.and_eq_true, reports, Option.any_eq_true] at hcheck
  obtain ⟨hruns, st₁, hst₁, hold⟩ := hcheck
  obtain ⟨st, rs, hst, hlive, hw, hrs, hphase, hip⟩ := runsAt_observed hruns
  obtain rfl := Option.some.inj (hst.symm.trans hst₁)
  have hnew := hall _ _ _ _ _ _ _ s hrun st hst hlive .ok rfl _ hw rs hrs hphase
    (by rw [hip]; decide)
  rw [of_decide_eq_true hold, hip] at hnew
  exact absurd hnew.1 (by decide)

end MacVz
