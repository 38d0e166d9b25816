/-
Whether a Pod reported ready can be reached.  Readiness follows phase, probes
and address and never asks for the endpoint, so it is right as long as every
restart that leaves a micro-VM behind has attached it.
-/
import MacVz.Evolution
import MacVz.StepConditions

namespace MacVz

open Interleaving

/-- An address this key's `CreatePod` or restart polls comes from a truthful
answer. -/
def pollsTruth (key : String) (s : Sys) : Label → Bool
  | .create o => s.creating.all fun c => c.pod.key ≠ key || c.pc ≠ .observe || o.truthful
  | .restart place o =>
    (s.restarts[place]?).all fun t => t.key ≠ key || t.pc ≠ .observe || o.truthful
  | _ => true

/-- A restart of the key ends with its new micro-VM attached, or with none. -/
def endsReachable (key : String) (s : Sys) : Label → Bool
  | .restart place _ => (s.restarts[place]?).all fun t =>
    t.key ≠ key || t.pc ≠ .finish || t.attached ||
      (s.pods key).all fun st => (s.vms st.spec.name).isNone
  | _ => true

/-- The steps of a run in which a ready Pod stays reachable. -/
structure ReachableStep (key : String) (s : Sys) (l : Label) : Prop where
  keeps : keepsKey key l = true
  own : ownsVM key s l = true
  polls : pollsTruth key s l = true
  ends : endsReachable key s l = true

/-- What `CreatePod` has of its endpoint so far. -/
structure CreateReach (s : Sys) (c : CreateCall) : Prop where
  podIP : c.pc.addressed = true → c.podIP ≠ ""
  vmIP : c.pc = .attach ∨ c.pc = .commit → ∀ vm, s.vms c.spec.name = some vm → vm.addr = c.vmIP
  net : c.pc = .commit → s.net c.pod.key = some ⟨c.podIP, c.vmIP⟩

/-- A restart task has what it needs to give the Pod its endpoint back. -/
structure RestartReach (s : Sys) (st : PodState) (t : RestartTask) : Prop where
  place : t.pc ≠ .orphan
  podIP : t.pc ≠ .waiting → st.terminalStatus = none → t.podIP = st.status.podIP
  attached : t.attached = true → t.pc = .finish
  vmIP : t.pc = .attach ∨ t.attached = true →
    ∀ vm, s.vms st.spec.name = some vm → vm.addr = t.vmIP
  net : t.attached = true → s.net t.key = some ⟨t.podIP, t.vmIP⟩

/-- The invariant over runs behind a Pod that is reported ready. -/
structure Reachable (key : String) (s : Sys) : Prop where
  bound : Bound key s
  undeleted : Undeleted key s
  unready : Unready key s
  podNet : s.podNet = true
  ipam : s.ipam.isSome = true
  addressed : ∀ st, s.pods key = some st → st.terminalStatus = none → st.status.podIP ≠ ""
  creating : ∀ c, s.creating = some c → c.pod.key = key → CreateReach s c
  restarting : ∀ t ∈ s.restarts, t.key = key → ∀ st, s.pods key = some st →
    RestartReach s st t
  reachable : ∀ st, s.pods key = some st → st.terminalStatus = none →
    (∀ t ∈ s.restarts, t.key = key → t.pc = .waiting) →
    ∀ vm, s.vms st.spec.name = some vm → s.net key = some ⟨st.status.podIP, vm.addr⟩

section Reachable

variable {s s' : Sys} {key : String} {l : Label} {st : PodState} {o : Outcome} {t : RestartTask}
  {c : CreateCall}

theorem read_podIP (hlive : st.terminalStatus = none) (hip : st.status.podIP ≠ "") (o : Outcome) :
    (s.read st o).1.status.podIP = st.status.podIP :=
  reconcileStatus_podIP s.hostIP s.restartBackoffBase (fun id => s.vms.status id o.status)
    hlive hip

theorem Reachable.podIP_kept (h : Reachable key s) {st' : PodState} (hst : s.pods key = some st)
    (hevolves : Evolves key s st l st') (hlive' : st'.terminalStatus = none) :
    st.terminalStatus = none ∧ st'.status.podIP = st.status.podIP := by
  obtain ⟨hlive, hsame | ⟨o, _, rfl⟩⟩ := hevolves.status_cases hlive'
  · exact ⟨hlive, by rw [hsame]⟩
  · exact ⟨hlive, read_podIP hlive (h.addressed st hst hlive) o⟩

theorem CreateReach.committed_podIP (h : CreateReach s c) (hpc : c.pc = .commit)
    (hlive : (c.committed s o).1.terminalStatus = none) :
    (c.committed s o).1.status.podIP = c.podIP := by
  rw [(committed_sameStatus s c o hlive).2]
  have hne : c.state.status.podIP ≠ "" := h.podIP (by simp [hpc, CreatePC.addressed])
  exact read_podIP rfl hne o

/-- A Pod that has not ended reports an address after a step. -/
theorem step_addressed (h : Reachable key s) (hstep : step s l = some s') :
    ∀ st, s'.pods key = some st → st.terminalStatus = none → st.status.podIP ≠ "" := by
  intro st' hst' hlive'
  cases hst : s.pods key with
  | some st =>
    have hevolves := step_evolves_to h.bound hstep hst hst'
    obtain ⟨hlive, hsame⟩ := h.podIP_kept hst hevolves hlive'
    rw [hsame]
    exact h.addressed st hst hlive
  | none =>
    obtain ⟨c, o, _, hc, hkey, ⟨hpc, rfl⟩ | ⟨_, _, _, rfl⟩⟩ := step_born hstep hst hst'
    · have hreach := h.creating c hc hkey
      rw [hreach.committed_podIP hpc hlive']
      exact hreach.podIP (by simp [hpc, CreatePC.addressed])
    · cases hlive'

theorem allocateIP_ne_empty {ipam ipam' : Option PodIPAM} (hipam : ipam.isSome = true)
    {ip : String} (h : allocateIP ipam key = .ok (ip, ipam')) : ip ≠ "" := by
  obtain ⟨a, rfl⟩ := Option.isSome_iff_exists.mp hipam
  cases hallocate : a.allocate key with
  | error e => simp [allocateIP, hallocate, Except.map] at h
  | ok result =>
    have hne := PodIPAM.allocate_ne_empty hallocate
    simp only [allocateIP, hallocate, Except.map, Except.ok.injEq, Prod.mk.injEq] at h
    rw [← h.1]
    exact hne

theorem CreateReach.at (hip : c.pc.addressed = true → c.podIP ≠ "") (hattach : c.pc ≠ .attach)
    (hcommit : c.pc ≠ .commit) : CreateReach s c where
  podIP := hip
  vmIP := by
    intro hpc
    rcases hpc with hpc | hpc
    · exact absurd hpc hattach
    · exact absurd hpc hcommit
  net := fun hpc => absurd hpc hcommit

/-- A step of the creation keeps its addresses those of the micro-VM and the endpoint. -/
theorem CreateMove.reach {c' : CreateCall} (hmove : CreateMove s o c c') (hreach : CreateReach s c)
    (hplaced : c.Placed) (hpodNet : s.podNet = true) (hipam : s.ipam.isSome = true)
    (htrue : c.pc = .observe → o.truthful = true)
    (hvms : c.pc = .observe ∨ c.pc = .attach → s'.vms = s.vms)
    (hnet : c.pc = .attach → s'.net = netCall s.net c.pod.key (some ⟨c.podIP, c.vmIP⟩) o.fault) :
    CreateReach s' c' := by
  have hip : c.pc.addressed = true → c.podIP ≠ "" := hreach.podIP
  -- with a network and an address the call does not skip the network path
  have hskip : c.pc.addressed = true → ¬ (s.podNet = false ∨ c.podIP = "") := by
    intro hpc hskip
    rcases hskip with hoff | hempty
    · rw [hpodNet] at hoff
      cases hoff
    · exact hip hpc hempty
  cases hmove with
  | allocated ip ipam hpc hok =>
    exact .at (fun _ => allocateIP_ne_empty hipam hok) (by simp) (by simp)
  | found rs pc hpc hok hgo =>
    have hpc' : c.pc.addressed = true := by simp [hpc, CreatePC.addressed]
    rcases hgo with ⟨rfl, _⟩ | ⟨rfl, _⟩ | ⟨_, hoff⟩
    · exact .at (fun _ => hip hpc') (by simp) (by simp)
    · exact .at (fun _ => hip hpc') (by simp) (by simp)
    · exact absurd hoff (hskip hpc')
  | started pc hpc hok hgo =>
    have hpc' : c.pc.addressed = true := by
      rcases hpc with hpc | hpc <;> simp [hpc, CreatePC.addressed]
    rcases hgo with ⟨rfl, _⟩ | ⟨_, hoff⟩
    · exact .at (fun _ => hip hpc') (by simp) (by simp)
    · exact absurd hoff (hskip hpc')
  | observed ip hpc hpoll =>
    have hid : c.id = c.spec.name := hplaced.id_eq (by simp [hpc, CreatePC.placed])
    obtain ⟨vm, hvm, haddr⟩ := truthful_poll (htrue hpc) hpoll
    refine ⟨fun _ => hip (by simp [hpc, CreatePC.addressed]), fun _ vm' hvm' => ?_, (by simp)⟩
    rw [hvms (Or.inl hpc), ← hid, hvm] at hvm'
    obtain rfl := Option.some.inj hvm'
    exact haddr
  | attached hpc hfault =>
    refine ⟨fun _ => hip (by simp [hpc, CreatePC.addressed]), fun _ vm' hvm' => ?_, fun _ => ?_⟩
    · rw [hvms (Or.inr hpc)] at hvm'
      exact hreach.vmIP (Or.inl hpc) vm' hvm'
    · rw [hnet hpc, hfault]
      simp [netCall]
  | recorded _ _ pc _ hgo | rolledBackAll pc _ hgo | failedEarly _ pc _ hgo =>
    rcases hgo with rfl | rfl <;> exact .at flag_off (by simp) (by simp)
  | failedLate e pc hpc hgo =>
    rcases hgo with rfl | rfl | rfl <;> exact .at flag_off (by simp) (by simp)
  | notFound e hpc _ | credentials hpc | pulled hpc | created hpc _ | polled hpc _ =>
    exact .at (fun _ => hip (by simp [hpc, CreatePC.addressed])) (by simp) (by simp)
  | _ => exact .at flag_off (by simp) (by simp)

/-- The creation under way after a step has its micro-VM's and its endpoint's addresses. -/
theorem step_create_reach (h : Reachable key s) (hl : ReachableStep key s l)
    (hstep : step s l = some s') :
    ∀ c, s'.creating = some c → c.pod.key = key → CreateReach s' c := by
  intro c' hc' hkey'
  rcases step_creating hstep hc' with ⟨hc, hnot⟩ | ⟨pod, _, rfl⟩ | ⟨c, o, rfl, hc, rfl⟩
  · -- somebody else has moved
    have hreach := h.creating c' hc hkey'
    have hquiet : c'.pc.pending = true → Quiet key s l := fun hpending =>
      h.bound.quiet_of_pending (h.bound.untracked c' hc hkey' hpending)
        fun _ o hcreate => absurd hcreate (hnot o)
    refine ⟨hreach.podIP, ?_, ?_⟩
    · intro hpc vm' hvm'
      have hpending : c'.pc.pending = true := by
        rcases hpc with hpc | hpc <;> simp [hpc, CreatePC.pending]
      obtain ⟨vm, hvm, _, haddr⟩ := (hquiet hpending).vm_old hl.own
        (.creating c' hc hkey' rfl) (step_vms hstep hvm')
      rw [haddr]
      exact hreach.vmIP hpc vm hvm
    · intro hpc
      have hpending : c'.pc.pending = true := by simp [hpc, CreatePC.pending]
      rw [hkey', (hquiet hpending).net_same (step_net h.undeleted hstep), ← hkey']
      exact hreach.net hpc
  · exact .at flag_off (fun h => by cases h) (fun h => by cases h)
  · have hmove := createNext_move s c o
    have hkey : c.pod.key = key := hmove.pod_eq ▸ hkey'
    obtain ⟨c₁, hc₁, rfl⟩ := Option.map_eq_some_iff.mp hstep
    obtain rfl := Option.some.inj (hc.symm.trans hc₁)
    refine hmove.reach (h.creating c hc hkey) (h.bound.placed c hc hkey) h.podNet h.ipam ?_ ?_ ?_
    · intro hpc
      simpa [pollsTruth, hc, hkey, hpc] using hl.polls
    · intro hpc
      rw [createStep_vms]
      rcases hpc with hpc | hpc <;> simp only [createEffect, hpc]
    · intro hpc
      rw [createStep_net]
      simp only [createEffect, hpc]

theorem RestartReach.at (hplace : t.pc ≠ .orphan)
    (hip : t.pc ≠ .waiting → st.terminalStatus = none → t.podIP = st.status.podIP)
    (hattach : t.pc ≠ .attach) (hattached : t.attached ≠ true) : RestartReach s st t where
  place := hplace
  podIP := hip
  attached := fun hyes => absurd hyes hattached
  vmIP := by
    intro hpc
    rcases hpc with hpc | hyes
    · exact absurd hpc hattach
    · exact absurd hyes hattached
  net := fun hyes => absurd hyes hattached

theorem RestartMove.reach {t' : RestartTask} {st' : PodState} (hmove : RestartMove s o t (some t'))
    (hst : s.pods t.key = some st) (hreach : RestartReach s st t) (hrestarting : Restarting t st)
    (hstatus : st'.terminalStatus = none → st.terminalStatus = none ∧
      st'.status.podIP = st.status.podIP) (hspec : st'.spec = st.spec)
    (htrue : t.pc = .observe → o.truthful = true)
    (hvms : t.pc = .observe ∨ t.pc = .attach → s'.vms = s.vms)
    (hnet : t.pc = .attach → s'.net = netCall s.net t.key (some ⟨t.podIP, t.vmIP⟩) o.fault) :
    RestartReach s' st' t' := by
  have hip : t.pc ≠ .waiting → st'.terminalStatus = none → t.podIP = st'.status.podIP := by
    intro hpc hlive'
    obtain ⟨hlive, hsame⟩ := hstatus hlive'
    rw [hsame]
    exact hreach.podIP hpc hlive
  have hnot : t.pc ≠ .finish → t.attached ≠ true := fun hpc hyes => hpc (hreach.attached hyes)
  cases hmove with
  | snapshot st₁ hpc hst₁ _ =>
    obtain rfl := Option.some.inj (hst.symm.trans hst₁)
    refine .at (by simp) (fun _ hlive' => ?_) (by simp) (hnot (by simp [hpc]))
    exact (hstatus hlive').2.symm
  | started pc hpc hok hgo =>
    rcases hgo with ⟨rfl, _⟩ | ⟨rfl, _⟩
    · exact .at (by simp) (fun _ => hip (by simp [hpc])) (by simp) (hnot (by simp [hpc]))
    · exact .at (by simp) (fun _ => hip (by simp [hpc])) (by simp) (hnot (by simp [hpc]))
  | observed ip hpc hpoll =>
    have hid : t.newID = st.spec.name :=
      hrestarting.renewed (by simp [hpc, RestartPC.renewed])
    obtain ⟨vm, hvm, haddr⟩ := truthful_poll (htrue hpc) hpoll
    have hfalse := hnot (by simp [hpc])
    refine ⟨(by simp), fun _ => hip (by simp [hpc]), fun hyes => absurd hyes hfalse, ?_,
      fun hyes => absurd hyes hfalse⟩
    intro _ vm' hvm'
    rw [hvms (Or.inl hpc), hspec, ← hid, hvm] at hvm'
    obtain rfl := Option.some.inj hvm'
    exact haddr
  | attached hpc hfault =>
    refine ⟨(by simp), fun _ => hip (by simp [hpc]), fun _ => rfl, ?_, fun _ => ?_⟩
    · intro _ vm' hvm'
      rw [hvms (Or.inr hpc), hspec] at hvm'
      exact hreach.vmIP (Or.inl hpc) vm' hvm'
    · rw [hnet hpc, hfault]
      simp [netCall]
  | createFailed hpc _ | halfDestroyed hpc =>
    exact .at (fun h => by cases h) (fun _ => hip (by simp [hpc])) (fun h => by cases h) flag_off
  | orphaned hpc hnone _ =>
    rw [hst] at hnone
    cases hnone
  | detached hpc | stopped hpc | destroyed hpc | created hpc _ | startFailed hpc _
  | polled hpc _ | unobserved hpc _ | attachFailed hpc _ =>
    exact .at (by simp) (fun _ => hip (by simp [hpc])) (by simp) (hnot (by simp [hpc]))

theorem restartEffect_vms_eq (hpc : t.pc = .observe ∨ t.pc = .attach) :
    (restartEffect s t o).vms = s.vms := by
  rcases hpc with hpc | hpc <;> simp only [restartEffect, hpc]

/-- A restart under way after a step has its Pod's and its micro-VM's addresses. -/
theorem step_restart_reach (h : Reachable key s) (hl : ReachableStep key s l)
    (hstep : step s l = some s') :
    ∀ t ∈ s'.restarts, t.key = key → ∀ st, s'.pods key = some st → RestartReach s' st t := by
  intro t' ht' hkey' st' hst'
  rcases step_restarts h.bound hstep ht' hkey' with ⟨hold, hnot⟩ | ⟨inc, launch, rfl⟩ |
    ⟨t, o, hmoves, hkey, hnext⟩
  · obtain ⟨st, hst, _⟩ := h.bound.restart t' hold hkey'
    have hevolves := step_evolves_to h.bound hstep hst hst'
    have hreach := h.restarting t' hold hkey' st hst
    have hquiet := h.bound.quiet_of_tracked hst hnot
    refine ⟨hreach.place, ?_, hreach.attached, ?_, ?_⟩
    · intro hpc hlive'
      obtain ⟨hlive, hsame⟩ := h.podIP_kept hst hevolves hlive'
      rw [hsame]
      exact hreach.podIP hpc hlive
    · intro hpc vm' hvm'
      rw [(hevolves.work h.bound hst).spec] at hvm'
      obtain ⟨vm, hvm, _, haddr⟩ :=
        hquiet.vm_old hl.own (.tracked st hst rfl) (step_vms hstep hvm')
      rw [haddr]
      exact hreach.vmIP hpc vm hvm
    · intro hyes
      rw [hkey', hquiet.net_same (step_net h.undeleted hstep), ← hkey']
      exact hreach.net hyes
  · exact .at (fun h => by cases h) (fun hpc => absurd rfl hpc) (fun h => by cases h) flag_off
  · obtain ⟨place, rfl, ht⟩ := hmoves
    have hmem := List.mem_of_getElem? ht
    obtain ⟨st, hst, hrestarting⟩ := h.bound.restart t hmem hkey
    have hevolves := step_evolves_to h.bound hstep hst hst'
    have hmove := restartNext_move s t o
    rw [hnext] at hmove
    have hs' : s' = { restartEffect s t o with
        restarts := advance s.restarts place (restartNext s t o) } := by
      simpa [step, ht] using hstep.symm
    refine hmove.reach (hkey ▸ hst) (h.restarting t hmem hkey st hst) hrestarting
      (h.podIP_kept hst hevolves) (hevolves.work h.bound hst).spec ?_ ?_ ?_
    · intro hpc
      simpa [pollsTruth, ht, hkey, hpc] using hl.polls
    · intro hpc
      rw [hs']
      exact restartEffect_vms_eq hpc
    · intro hpc
      rw [hs']
      simp only [restartEffect, hpc]

theorem Reachable.ended (h : Reachable key s) (hmoves : Moves s l t o) (hkey : t.key = key)
    (hstep : step s l = some s') (hwaiting : ∀ t ∈ s'.restarts, t.key = key → t.pc = .waiting)
    (hst : s.pods key = some st) (hlive : st.terminalStatus = none) : t.pc = .finish := by
  obtain ⟨place, rfl, ht⟩ := hmoves
  have hmove := restartNext_move s t o
  have hstill : ∀ t', restartNext s t o ≠ some t' := by
    intro t' hnext
    have hmem : t' ∈ s'.restarts := by
      obtain ⟨t₁, ht₁, rfl⟩ := Option.map_eq_some_iff.mp hstep
      obtain rfl := Option.some.inj (ht.symm.trans ht₁)
      simp only [hnext]
      exact moved_mem_advance ht t'
    rw [hnext] at hmove
    exact hmove.not_waiting (hwaiting t' hmem (hmove.key_eq.trans hkey))
  cases hnext : restartNext s t o with
  | some t' => exact absurd hnext (hstill t')
  | none =>
    rw [hnext] at hmove
    cases hmove with
    | gone _ hnone =>
      rw [hkey, hst] at hnone
      cases hnone
    | terminal st₁ _ hst₁ hterminal =>
      obtain rfl := Option.some.inj (hst.symm.trans (hkey ▸ hst₁))
      rw [hlive] at hterminal
      cases hterminal
    | finished _ hpc _ => exact hpc
    | nothingNew hpc _ _ => exact hpc
    | reaped hpc => exact absurd hpc (h.restarting t (List.mem_of_getElem? ht) hkey st hst).place

/-- With no restart begun, a live Pod's endpoint leads to its micro-VM after a step. -/
theorem step_reach (h : Reachable key s) (hl : ReachableStep key s l) (hstep : step s l = some s') :
    ∀ st, s'.pods key = some st → st.terminalStatus = none →
      (∀ t ∈ s'.restarts, t.key = key → t.pc = .waiting) →
      ∀ vm, s'.vms st.spec.name = some vm → s'.net key = some ⟨st.status.podIP, vm.addr⟩ := by
  intro st' hst' hlive' hwaiting vm' hvm'
  have hfrom := step_vms hstep hvm'
  have hnet := step_net h.undeleted hstep
  cases hst : s.pods key with
  | some st =>
    have hevolves := step_evolves_to h.bound hstep hst hst'
    obtain ⟨hlive, hsame⟩ := h.podIP_kept hst hevolves hlive'
    rw [(hevolves.work h.bound hst).spec] at hfrom hvm'
    rw [hsame]
    by_cases hmover : ∃ t o, Moves s l t o ∧ t.key = key
    · -- the restart of the key has just ended
      obtain ⟨t, o, hmoves, hkey⟩ := hmover
      have hpc := h.ended hmoves hkey hstep hwaiting hst hlive
      obtain ⟨place, rfl, ht⟩ := hmoves
      have hmem := List.mem_of_getElem? ht
      have hreach := h.restarting t hmem hkey st hst
      obtain ⟨t₁, ht₁, rfl⟩ := Option.map_eq_some_iff.mp hstep
      obtain rfl := Option.some.inj (ht.symm.trans ht₁)
      have heffect : restartEffect s t o = s.locked key (t.finishUpdate s) := by
        simp only [restartEffect, hpc, hkey]
      simp only [heffect, locked_vms, locked_net] at hvm' ⊢
      have hends : t.attached = true ∨ s.vms st.spec.name = none := by
        simpa [endsReachable, ht, hkey, hpc, hst] using hl.ends
      rcases hends with hattached | hnone
      · rw [← hkey, hreach.net hattached, hreach.podIP (by simp [hpc]) hlive,
          hreach.vmIP (Or.inr hattached) vm' hvm']
      · rw [hnone] at hvm'
        cases hvm'
    · have hnot : ∀ t o, Moves s l t o → t.key ≠ key :=
        fun t o hmoves hkey => hmover ⟨t, o, hmoves, hkey⟩
      have hquiet := h.bound.quiet_of_tracked hst hnot
      obtain ⟨vm, hvm, _, haddr⟩ := hquiet.vm_old hl.own (.tracked st hst rfl) hfrom
      rw [hquiet.net_same hnet, haddr]
      refine h.reachable st hst hlive (fun t ht hkey => ?_) vm hvm
      rcases step_restarts_stay hstep ht with hstays | ⟨o, hmoves⟩
      · exact hwaiting t hstays hkey
      · exact absurd hkey (hnot t o hmoves)
  | none =>
    obtain ⟨c, o, rfl, hc, hkey, ⟨hpc, rfl⟩ | ⟨_, _, _, rfl⟩⟩ := step_born hstep hst hst'
    · have hreach := h.creating c hc hkey
      have hquiet : Quiet key s (.create o) := by
        refine h.bound.quiet_of_pending hst fun c₁ _ _ hc₁ _ => ?_
        obtain rfl := Option.some.inj (hc.symm.trans hc₁)
        simp [hpc]
      rw [(committed_sameCore s c o).spec] at hfrom
      obtain ⟨vm, hvm, _, haddr⟩ := hquiet.vm_old hl.own (.creating c hc hkey rfl) hfrom
      rw [hquiet.net_same hnet, hreach.committed_podIP hpc hlive', haddr,
        hreach.vmIP (Or.inr hpc) vm hvm, ← hkey]
      exact hreach.net hpc
    · cases hlive'

end Reachable

theorem step_reachable {s s' : Sys} {key : String} {l : Label} (h : Reachable key s)
    (hl : ReachableStep key s l) (hstep : step s l = some s') : Reachable key s' where
  bound := step_bound h.bound hl.keeps hstep
  undeleted := step_undeleted h.undeleted hl.keeps hstep
  unready := step_unready h.bound h.unready hstep
  podNet := (step_config hstep).1.trans h.podNet
  ipam := (step_config hstep).2.trans h.ipam
  addressed := step_addressed h hstep
  creating := step_create_reach h hl hstep
  restarting := step_restart_reach h hl hstep
  reachable := step_reach h hl hstep

theorem fresh_reachable (hostIP : String) (base : Int) (ipam : PodIPAM) (vms : VMTable)
    (nextInst : Nat) (key : String) :
    Reachable key (Sys.fresh true hostIP base (some ipam) vms nextInst) where
  bound := fresh_bound true hostIP base (some ipam) vms nextInst key
  undeleted := fun _ h => by cases h
  unready := fun _ _ h => by cases h
  podNet := rfl
  ipam := rfl
  addressed := fun _ h => by cases h
  creating := fun _ h => by cases h
  restarting := fun _ h => by cases h
  reachable := fun _ h => by cases h

/-- With an allocator and a Pod network, over every run in which each restart of
the Pod ends with its micro-VM attached or with none: a Pod reported ready
outside its restart has an endpoint from its address to its micro-VM. -/
theorem ready_pod_has_endpoint {hostIP : String} {base : Int} {ipam : PodIPAM} {vms : VMTable}
    {nextInst : Nat} {key : String} {ls : List Label} {s : Sys} (hrun : Run step (ReachableStep key)
      (Sys.fresh true hostIP base (some ipam) vms nextInst) ls s) {st : PodState}
    (hst : s.pods key = some st) (hidle : ∀ t ∈ s.restarts, t.key ≠ key) {o : Outcome}
    (htrue : o.truthful = true) (hready : (s.read st o).1.status.isReady = true) :
    ∃ w ∈ st.workloads, ∃ vm, s.vms w.id = some vm ∧
      s.net key = some ⟨(s.read st o).1.status.podIP, vm.addr⟩ := by
  have h : Reachable key s :=
    hrun.invariant (fresh_reachable hostIP base ipam vms nextInst key)
      fun h hl hstep => step_reachable h hl hstep
  have hlive := h.unready.live hst hready
  rcases h.bound.settled st hst with ⟨x, hx⟩ | ⟨_, hterminal, _⟩
  · obtain ⟨rs, hrs, _, _, _⟩ := hx.ready_observed hlive hready
    obtain ⟨vm, hvm, _, _⟩ := truthful_status htrue hrs
    refine ⟨⟨x.name, st.spec.name⟩, by rw [hx.workloads]; exact List.mem_cons_self, vm, hvm, ?_⟩
    rw [read_podIP hlive (h.addressed st hst hlive) o]
    exact h.reachable st hst hlive (fun t ht hkey => absurd hkey (hidle t ht)) vm hvm
  · rw [hlive] at hterminal
    cases hterminal

namespace ReachabilityWitness

open Sample

/-- The Pod is created, its workload ends and is restarted; `Attach` ends like
this. -/
def restarted (attach : Outcome) : List Label :=
  createPod web "192.168.64.5" ++ [.vmExit webID false 1, .status "default/web" .ok] ++
    List.replicate 7 (.restart 0 (okAt "192.168.64.6")) ++ [.restart 0 attach, .restart 0 .ok]

/-- `Attach` is refused. -/
def refused : Outcome := { Outcome.ok with fault := some ⟨.other "attach" "pfctl: busy", false⟩ }

def reportedReady (s : Sys) : Bool :=
  s.restarts.isEmpty && (s.pods "default/web").any fun st => (s.read st .ok).1.status.isReady

theorem reportedReady_spec {s : Sys} (h : reportedReady s = true) :
    (∀ t ∈ s.restarts, t.key ≠ "default/web") ∧
      ∃ st, s.pods "default/web" = some st ∧ (s.read st .ok).1.status.isReady = true := by
  simp only [reportedReady, Bool.and_eq_true, List.isEmpty_iff, Option.any_eq_true] at h
  obtain ⟨hnil, st, hst, hready⟩ := h
  exact ⟨by simp [hnil], st, hst, hready⟩

end ReachabilityWitness

open ReachabilityWitness Sample in
/-- After a restart that attaches, the ready Pod has its endpoint. -/
theorem ready_pod_has_endpoint_after_restart :
    ∃ (s : Sys) (st : PodState), s.pods "default/web" = some st ∧
      (s.read st .ok).1.status.isReady = true ∧
      ∃ w ∈ st.workloads, ∃ vm, s.vms w.id = some vm ∧
        s.net "default/web" = some ⟨(s.read st .ok).1.status.podIP, vm.addr⟩ := by
  have hexec : ∃ s, Run step (ReachableStep "default/web") node (restarted .ok) s ∧
      reportedReady s = true := by
    refine exists_run_of_check (fun s l => keepsKey "default/web" l && ownsVM "default/web" s l &&
      pollsTruth "default/web" s l && endsReachable "default/web" s l) ?_ (by decide +kernel)
    intro s l h
    simp only [Bool.and_eq_true] at h
    exact ⟨h.1.1.1, h.1.1.2, h.1.2, h.2⟩
  obtain ⟨s, hrun, hcheck⟩ := hexec
  obtain ⟨hidle, st, hst, hready⟩ := reportedReady_spec hcheck
  exact ⟨s, st, hst, hready, ready_pod_has_endpoint hrun hst hidle rfl hready⟩

open ReachabilityWitness Sample in
/-- A restart whose `Attach` is refused leaves a Pod that is reported ready and
has no endpoint. -/
theorem refused_attach_leaves_ready_pod_unreachable :
    ¬ ∀ (hostIP : String) (base : Int) (ipam : PodIPAM) (vms : VMTable) (nextInst : Nat)
      (key : String) (ls : List Label) (s : Sys),
      Run step (fun s l => keepsKey key l = true ∧ ownsVM key s l = true ∧
          pollsTruth key s l = true ∧ detachSucceeds s l = true ∧ destroySucceeds s l = true ∧
          runtimeFailsClean s l = true)
        (Sys.fresh true hostIP base (some ipam) vms nextInst) ls s →
      ∀ st : PodState, s.pods key = some st → (∀ t ∈ s.restarts, t.key ≠ key) →
      ∀ o : Outcome, o.truthful = true → (s.read st o).1.status.isReady = true →
      ∃ w ∈ st.workloads, ∃ vm, s.vms w.id = some vm ∧
        s.net key = some ⟨(s.read st o).1.status.podIP, vm.addr⟩ := by
  intro hall
  have hexec : ∃ s, Run step (fun s l => keepsKey "default/web" l = true ∧
        ownsVM "default/web" s l = true ∧ pollsTruth "default/web" s l = true ∧
        detachSucceeds s l = true ∧ destroySucceeds s l = true ∧ runtimeFailsClean s l = true)
      node (restarted refused) s ∧
      (reportedReady s && (s.net "default/web").isNone) = true := by
    refine exists_run_of_check (fun s l => keepsKey "default/web" l && (ownsVM "default/web" s l &&
      (pollsTruth "default/web" s l && (detachSucceeds s l && (destroySucceeds s l &&
        runtimeFailsClean s l))))) ?_ (by decide)
    intro s l h
    simpa only [Bool.and_eq_true] using h
  obtain ⟨s, hrun, hcheck⟩ := hexec
  rw [Bool.and_eq_true, Option.isNone_iff_eq_none] at hcheck
  obtain ⟨hidle, st, hst, hready⟩ := reportedReady_spec hcheck.1
  obtain ⟨w, _, vm, _, hnet⟩ := hall _ _ _ _ _ _ _ s hrun st hst hidle .ok rfl hready
  rw [hcheck.2] at hnet
  cases hnet

end MacVz
