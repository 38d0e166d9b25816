/-
Who answers for an endpoint of the Pod network.  Each attached key belongs to a
tracked Pod, or to a call or restart that is about to hand it over or to detach
it; once nothing is in flight only tracked Pods are left.
-/
import MacVz.CallFrame
import MacVz.StepConditions

namespace MacVz

open Interleaving

variable {s s' : Sys} {o : Outcome} {c : CreateCall} {place : Nat} {t : RestartTask} {key : String}
  {l : Label} {m : Mapping} {fault : Fault} {other : String}

/-- Who stands for an attached endpoint: the tracked Pod, or a call or task under way. -/
inductive Owned (s : Sys) (key : String) : Prop
  | tracked (st : PodState) : s.pods key = some st → st.attached = true → Owned s key
  | creating (c : CreateCall) : s.creating = some c → c.pod.key = key → c.attached = true →
      Owned s key
  | deleting (d : DeleteCall) : d ∈ s.deletes → d.key = key → d.pc = .detach →
      d.st.attached = true → Owned s key
  | restarting (t : RestartTask) : t ∈ s.restarts → t.key = key → t.attached = true →
      Owned s key

/-- Every endpoint has an owner, and a call under way has not tracked its Pod yet. -/
structure Ownership (s : Sys) : Prop where
  podNet : s.podNet = true
  owned : ∀ key m, s.net key = some m → Owned s key
  untracked : ∀ c, s.creating = some c → c.pc.pending = true → s.pods c.pod.key = none
  create_attached : ∀ c, s.creating = some c → c.attached = true → c.pc = .commit
  restart_attached : ∀ t ∈ s.restarts, t.attached = true → t.pc = .finish ∧ t.newID ≠ ""
  restart_renewed : ∀ t ∈ s.restarts, t.pc.renewed = true → t.newID ≠ ""

/-- A restart that ends with an endpoint attached finds its Pod tracked, and one
that ends with a new micro-VM and none attached finds none. -/
def restartEndsClean (s : Sys) : Label → Bool
  | .restart place _ => (s.restarts[place]?).all fun t =>
    t.pc ≠ .finish || ((!t.attached || (s.pods t.key).isSome) &&
      (t.newID = "" || t.attached || (s.net t.key).isNone))
  | _ => true

/-- What the proof needs of a step: a `Detach` succeeds, an `Attach` that fails
has no effect, and a restart ends clean. -/
structure NetworkClean (s : Sys) (l : Label) : Prop where
  detach : detachSucceeds s l = true
  attach : attachFailsClean s l = true
  ends : restartEndsClean s l = true

theorem NetworkClean.create_attach (h : NetworkClean s (.create o)) (hc : s.creating = some c)
    (hpc : c.pc = .attach) (hfault : o.fault = some fault) : fault.applied = false := by
  simpa [attachFailsClean, stepWhere, hc, hpc, hfault] using h.attach

theorem NetworkClean.delete_detach (h : NetworkClean s (.delete place o)) {d : DeleteCall}
    (hd : s.deletes[place]? = some d) (hpc : d.pc = .detach) : o.fault = none := by
  simpa [detachSucceeds, stepWhere, hd, hpc] using h.detach

theorem NetworkClean.restart_detach (h : NetworkClean s (.restart place o))
    (ht : s.restarts[place]? = some t) (hpc : t.pc = .detach) : o.fault = none := by
  simpa [detachSucceeds, stepWhere, ht, hpc] using h.detach

theorem NetworkClean.restart_attach (h : NetworkClean s (.restart place o))
    (ht : s.restarts[place]? = some t) (hpc : t.pc = .attach) (hfault : o.fault = some fault) :
    fault.applied = false := by
  simpa [attachFailsClean, stepWhere, ht, hpc, hfault] using h.attach

theorem NetworkClean.restart_ends (h : NetworkClean s (.restart place o))
    (ht : s.restarts[place]? = some t) (hpc : t.pc = .finish) :
    (t.attached = true → (s.pods t.key).isSome) ∧
      (t.newID ≠ "" → t.attached = false → s.net t.key = none) := by
  have hends := h.ends
  simp only [restartEndsClean, ht, Option.all_some, hpc] at hends
  cases hattached : t.attached with
  | true => simpa [hattached] using hends
  | false =>
    simp only [hattached] at hends
    exact ⟨flag_off, fun hnew _ => by simpa [hnew] using hends⟩

/-- An endpoint after an `Attach` that fails without effect was there before; any other may
have been attached just now. -/
theorem netCall_some {net : String → Option Mapping} {mapping : Option Mapping}
    {fault : Option Fault} (hclean : ∀ f, fault = some f → f.applied = false)
    (hm : netCall net other mapping fault key = some m) :
    net key = some m ∨ other = key ∧ fault = none := by
  cases fault with
  | none =>
    by_cases hkey : other = key
    · exact Or.inr ⟨hkey, rfl⟩
    · exact Or.inl ((netCall_other (Ne.symm hkey) mapping none).symm.trans hm)
  | some f =>
    rw [netCall, effective, hclean f rfl] at hm
    exact Or.inl hm

theorem detachCall_some (hpodNet : s.podNet = true) {attached : Bool}
    (h : detachCall s attached key none other = some m) :
    s.net other = some m ∧ (attached = true → key ≠ other) := by
  unfold detachCall at h
  cases attached with
  | false =>
    exact ⟨h, flag_off⟩
  | true =>
    rw [if_pos ⟨rfl, hpodNet⟩] at h
    have hother : other ≠ key := by
      rintro rfl
      simp [netCall] at h
    rw [netCall_other hother] at h
    exact ⟨h, fun _ => Ne.symm hother⟩

/-- Where an endpoint comes from: it was there and no deletion has detached it, or `CreatePod`
or a restart has just attached it. -/
inductive EndpointFrom (key : String) (m : Mapping) (s : Sys) (l : Label) : Prop
  | kept : s.net key = some m → (∀ place o d, l = .delete place o → s.deletes[place]? = some d →
      d.pc = .detach → d.st.attached = true → d.key ≠ key) → EndpointFrom key m s l
  | created (c : CreateCall) (o : Outcome) : l = .create o → s.creating = some c →
      c.pod.key = key → c.pc = .attach → o.fault = none → EndpointFrom key m s l
  | restarted (t : RestartTask) (o : Outcome) : Moves s l t o → t.key = key → t.pc = .attach →
      o.fault = none → EndpointFrom key m s l

/-- An endpoint after a step was there before, or the step attached it. -/
theorem step_endpoint (hpodNet : s.podNet = true) (hclean : NetworkClean s l)
    (hstep : step s l = some s') (hm : s'.net key = some m) : EndpointFrom key m s l := by
  cases step_cases hstep with
  | create c o hc =>
    rw [createStep_net] at hm
    by_cases hpc : c.pc = .attach
    · simp only [createEffect, hpc] at hm
      rcases netCall_some (fun _ => hclean.create_attach hc hpc) hm with hold | ⟨hkey, hfault⟩
      · exact .kept hold fun _ _ _ h => by cases h
      · exact .created c o rfl hc hkey hpc hfault
    · rw [createEffect_net s o hpc] at hm
      exact .kept hm fun _ _ _ h => by cases h
  | delete place o d hd =>
    by_cases hpc : d.pc = .detach
    · simp only [deleteEffect, hpc, hclean.delete_detach hd hpc] at hm
      obtain ⟨hold, hother⟩ := detachCall_some hpodNet hm
      refine .kept hold fun place' o' d' hl hd' _ => ?_
      cases hl
      obtain rfl := Option.some.inj (hd.symm.trans hd')
      exact hother
    · rw [deleteEffect_net s o hpc] at hm
      refine .kept hm fun place' o' d' hl hd' hdetach => ?_
      cases hl
      obtain rfl := Option.some.inj (hd.symm.trans hd')
      exact absurd hdetach hpc
  | restart place o t ht =>
    by_cases hdetach : t.pc = .detach
    · simp only [restartEffect, hdetach, hclean.restart_detach ht hdetach] at hm
      exact .kept (detachCall_some hpodNet hm).1 fun _ _ _ h => by cases h
    · by_cases hattach : t.pc = .attach
      · simp only [restartEffect, hattach] at hm
        rcases netCall_some (fun _ => hclean.restart_attach ht hattach) hm with
          hold | ⟨hkey, hfault⟩
        · exact .kept hold fun _ _ _ h => by cases h
        · exact .restarted t o ⟨place, rfl, ht⟩ hkey hattach hfault
      · rw [restartEffect_net s o hdetach hattach] at hm
        exact .kept hm fun _ _ _ h => by cases h
  | probe place o p _ => exact .kept ((probeEffect_net s o p) ▸ hm) fun _ _ _ h => by cases h
  | status other o => exact .kept ((locked_net s other _) ▸ hm) fun _ _ _ h => by cases h
  | createBegin | deleteBegin | notFound | vmExit | vmLost =>
    exact .kept hm fun _ _ _ h => by cases h

theorem Ownership.pendingUntracked (h : Ownership s) (key : String) : PendingUntracked key s :=
  fun c hc hkey hpc => hkey ▸ h.untracked c hc hpc

/-- The state at the end of a restart with a new micro-VM is attached if the
restart is. -/
theorem finished_attached (hnew : t.newID ≠ "") (st : PodState) :
    (t.finished s st).1.attached = t.attached := by
  rw [RestartTask.finished, if_neg hnew]
  exact (startProbes_sameCore _ _ _).attached

/-- A Pod whose endpoint stands stays marked as attached. -/
theorem Evolves.attached {st st' : PodState} (h : Evolves key s st l st')
    (hclean : NetworkClean s l) (hm : s.net key = some m) (hattached : st.attached = true) :
    st'.attached = true := by
  cases h with
  | same => exact hattached
  | read o => exact (read_sameCore s st o).attached.trans hattached
  | snapshot => exact (snapshotUpdate_sameCore st).attached.trans hattached
  | finish place o t ht hkey hpc =>
    by_cases hnew : t.newID = ""
    · rw [RestartTask.finished, if_pos hnew]
      exact hattached
    · rw [finished_attached hnew]
      by_contra hnot
      have hnone := (hclean.restart_ends ht hpc).2 hnew (by simpa using hnot)
      rw [hkey, hm] at hnone
      cases hnone
  | unsupported => exact hattached
  | act place o p ok _ _ _ => exact (actUpdate_acts _ _ _ st).sameCore.attached.trans hattached

/-- An endpoint that no step detaches keeps its owner. -/
theorem Ownership.step_owned (h : Ownership s) (hclean : NetworkClean s l)
    (hstep : step s l = some s') (hm : s.net key = some m)
    (hdetached : ∀ place o d, l = .delete place o → s.deletes[place]? = some d → d.pc = .detach →
      d.st.attached = true → d.key ≠ key) : Owned s' key := by
  rcases h.owned key m hm with ⟨st, hst, hattached⟩ | ⟨c, hc, hkey, hattached⟩ |
    ⟨d, hd, hkey, hpc, hattached⟩ | ⟨t, ht, hkey, hattached⟩
  · cases hst' : s'.pods key with
    | some st' =>
      have hevolves := step_evolves_to_of (h.pendingUntracked key) hstep hst hst'
      exact .tracked st' hst' (hevolves.attached hclean hm hattached)
    | none =>
      -- the deletion that has begun takes over
      obtain ⟨pod, rfl, rfl⟩ := step_tracked hstep hst hst'
      cases step_cases hstep with
      | notFound _ hnone => cases hst.symm.trans hnone
      | deleteBegin _ st₁ hst₁ =>
        obtain rfl := Option.some.inj (hst.symm.trans hst₁)
        exact .deleting _ (List.mem_append_right _ List.mem_cons_self) rfl rfl hattached
  · by_cases hl : ∀ o, l ≠ .create o
    · exact .creating c (step_creating_kept hstep hc hl) hkey hattached
    · obtain ⟨o, rfl⟩ := not_forall_not.mp hl
      obtain rfl := create_step hstep hc
      have hpc := h.create_attached c hc hattached
      refine .tracked (c.committed s o).1 ?_ ((committed_sameCore s c o).attached.trans hattached)
      rw [createStep_pods, ← hkey]
      simp only [createEffect, hpc]
      exact Function.update_self _ _ _
  · rcases step_deletes hstep with hsame | ⟨_, _, _, _, hnew⟩ | ⟨place, o, d₁, hl, hd₁, hnext⟩
    · exact .deleting d (hsame ▸ hd) hkey hpc hattached
    · exact .deleting d (hnew ▸ List.mem_append_left _ hd) hkey hpc hattached
    · rcases mem_advance_of_mem hd₁ (deleteNext d₁) hd with rfl | hstays
      · exact absurd hkey (hdetached place o d hl hd₁ hpc hattached)
      · exact .deleting d (hnext ▸ hstays) hkey hpc hattached
  · rcases step_restarts_stay hstep ht with hstays | ⟨o, place, rfl, hplace⟩
    · exact .restarting t hstays hkey hattached
    · -- the restart that owned the endpoint has ended: its Pod takes over
      obtain ⟨hpc, hnew⟩ := h.restart_attached t ht hattached
      obtain ⟨st, hst⟩ := Option.isSome_iff_exists.mp ((hclean.restart_ends hplace hpc).1 hattached)
      rw [step, hplace] at hstep
      obtain rfl := Option.some.inj hstep
      refine .tracked (t.finished s st).1 ?_ ((finished_attached hnew st).trans hattached)
      rw [← hkey]
      simp only [restartEffect, hpc]
      exact locked_pods_self hst

/-- A step whose network calls succeed keeps every endpoint owned. -/
theorem step_ownership (h : Ownership s) (hclean : NetworkClean s l) (hstep : step s l = some s') :
    Ownership s' := by
  refine ⟨(step_config hstep).1.trans h.podNet, ?_, ?_, ?_, ?_, ?_⟩
  · intro key m hm
    rcases step_endpoint h.podNet hclean hstep hm with ⟨hold, hdetached⟩ |
      ⟨c, o, rfl, hc, hkey, hpc, hfault⟩ | ⟨t, o, ⟨place, rfl, ht⟩, hkey, hpc, hfault⟩
    · exact h.step_owned hclean hstep hold hdetached
    · obtain rfl := create_step hstep hc
      have hnext : createNext s c o = { c with pc := .commit, attached := true } := by
        simp only [createNext, hpc, hfault]
      refine .creating { c with pc := .commit, attached := true } ?_ hkey rfl
      rw [createStep, hnext, if_neg (by simp)]
    · rw [step, ht] at hstep
      obtain rfl := Option.some.inj hstep
      have hnext : restartNext s t o = some { t with pc := .finish, attached := true } := by
        simp only [restartNext, hpc, hfault]
      refine .restarting { t with pc := .finish, attached := true } ?_ hkey rfl
      simp only [hnext]
      exact moved_mem_advance ht _
  · intro c hc hpc
    exact step_pendingUntracked (h.pendingUntracked c.pod.key) hstep c hc rfl hpc
  · intro c' hc' hattached
    rcases step_creating hstep hc' with ⟨hc, _⟩ | ⟨pod, _, rfl⟩ | ⟨c, o, rfl, hc, rfl⟩
    · exact h.create_attached c' hc hattached
    · cases hattached
    · rcases (createNext_move s c o).attached_cases hattached with hold | ⟨_, hcommit⟩
      · obtain rfl := create_step hstep hc
        have hlive := (createStep_goes hc').2
        simp only [createNext, h.create_attached c hc hold] at hlive
        exact absurd rfl hlive
      · exact hcommit
  · intro t' ht' hattached
    rcases step_restart_origin hstep ht' with ⟨hold, _⟩ | ⟨place, o, t, rfl, ht, hnext⟩ |
      ⟨_, _, _, _, heq⟩
    · exact h.restart_attached t' hold hattached
    · have hmem := List.mem_of_getElem? ht
      have hmove := restartNext_move s t o
      rw [hnext] at hmove
      rcases hmove.attached_cases hattached with hold | ⟨hpc, hfinish, hnew⟩
      · obtain ⟨hpc, _⟩ := h.restart_attached t hmem hold
        obtain ⟨st, hst⟩ := Option.isSome_iff_exists.mp ((hclean.restart_ends ht hpc).1 hold)
        simp only [restartNext, hpc, hst] at hnext
        cases hnext
      · refine ⟨hfinish, ?_⟩
        rw [hnew]
        exact h.restart_renewed t hmem (by simp [hpc, RestartPC.renewed])
    · rw [heq] at hattached
      cases hattached
  · intro t' ht' hrenewed
    rcases step_restart_origin hstep ht' with ⟨hold, _⟩ | ⟨place, o, t, rfl, ht, hnext⟩ |
      ⟨_, _, _, _, heq⟩
    · exact h.restart_renewed t' hold hrenewed
    · have hmove := restartNext_move s t o
      rw [hnext] at hmove
      rcases hmove.renewed_cases hrenewed with hnew | ⟨hpc, hsame⟩
      · exact hnew
      · rw [hsame]
        exact h.restart_renewed t (List.mem_of_getElem? ht) hpc
    · rw [heq] at hrenewed
      cases hrenewed

/-- A started provider has no endpoint without an owner. -/
theorem fresh_ownership (hostIP : String) (base : Int) (ipam : Option PodIPAM) (vms : VMTable)
    (nextInst : Nat) : Ownership (Sys.fresh true hostIP base ipam vms nextInst) where
  podNet := rfl
  owned := by
    intro key m hm
    cases hm
  untracked := by
    intro c hc
    cases hc
  create_attached := by
    intro c hc
    cases hc
  restart_attached := by
    intro t ht
    cases ht
  restart_renewed := by
    intro t ht
    cases ht

/-- Over every interleaving in which every `Detach` succeeds, every failing
`Attach` has no effect and every restart ends clean: once nothing is in flight,
each endpoint of the Pod network has the key of a tracked Pod. -/
theorem endpoint_has_tracked_pod (hostIP : String) (base : Int) (ipam : Option PodIPAM)
    (vms : VMTable) (nextInst : Nat) {ls : List Label} {s : Sys}
    (hrun : Run step NetworkClean (Sys.fresh true hostIP base ipam vms nextInst) ls s)
    (hquiet : Quiescent s) {key : String} {m : Mapping} (hm : s.net key = some m) :
    ∃ st, s.pods key = some st := by
  have h : Ownership s :=
    hrun.invariant (fresh_ownership hostIP base ipam vms nextInst)
      fun h hclean hstep => step_ownership h hclean hstep
  obtain ⟨hcreating, hdeletes, hrestarts⟩ := hquiet
  rcases h.owned key m hm with ⟨st, hst, _⟩ | ⟨c, hc, _, _⟩ | ⟨d, hd, _, _, _⟩ | ⟨t, ht, _, _⟩
  · exact ⟨st, hst⟩
  · rw [hcreating] at hc
    cases hc
  · rw [hdeletes] at hd
    cases hd
  · rw [hrestarts] at ht
    cases ht

namespace OwnershipWitness

open Sample

def restarted : List Label :=
  createPod web "192.168.64.5" ++ [.vmExit webID false 1, .status "default/web" .ok] ++
    List.replicate 9 (.restart 0 (okAt "192.168.64.6"))

/-- The Pod is deleted while its restart has started a new micro-VM: `DeletePod`
detaches first, the restart attaches afterwards and then finds the Pod gone. -/
def deletedMeanwhile : List Label :=
  createPod web "192.168.64.5" ++ [.vmExit webID false 1, .status "default/web" .ok] ++
    List.replicate 6 (.restart 0 (okAt "192.168.64.6")) ++
    [.deleteBegin web, .delete 0 .ok, .restart 0 .ok, .restart 0 .ok, .delete 0 .ok,
      .delete 0 .ok, .delete 0 .ok, .delete 0 .ok, .restart 0 .ok, .restart 0 .ok]

def idle (s : Sys) : Bool := s.creating.isNone && s.deletes.isEmpty && s.restarts.isEmpty

theorem idle_quiescent (h : idle s = true) : Quiescent s := by
  simpa [idle, Quiescent, and_assoc] using h

def attached (s : Sys) : Bool :=
  idle s && s.net "default/web" = some ⟨"10.244.1.2", "192.168.64.6"⟩

def leaked (s : Sys) : Bool := attached s && (s.pods "default/web").isNone

end OwnershipWitness

open OwnershipWitness Sample in
/-- After a restart the endpoint of the Pod belongs to the tracked Pod. -/
theorem endpoint_has_tracked_pod_after_restart :
    ∃ s : Sys, s.net "default/web" = some ⟨"10.244.1.2", "192.168.64.6"⟩ ∧
      ∃ st, s.pods "default/web" = some st := by
  have hexec : ∃ s, Run step NetworkClean node restarted s ∧ attached s = true := by
    refine exists_run_of_check
      (fun s l => detachSucceeds s l && attachFailsClean s l && restartEndsClean s l) ?_
      (by decide +kernel)
    intro s l h
    simp only [Bool.and_eq_true] at h
    exact ⟨h.1.1, h.1.2, h.2⟩
  obtain ⟨s, hrun, hcheck⟩ := hexec
  simp only [attached, Bool.and_eq_true, decide_eq_true_eq] at hcheck
  exact ⟨s, hcheck.2, endpoint_has_tracked_pod _ _ _ _ _ hrun (idle_quiescent hcheck.1) hcheck.2⟩

open OwnershipWitness Sample in
/-- With every `Detach` and `Destroy` succeeding, a Pod deleted while its restart
is in flight leaves its endpoint behind. -/
theorem restart_of_deleted_pod_leaks_endpoint :
    ¬ ∀ (hostIP : String) (base : Int) (ipam : Option PodIPAM) (vms : VMTable)
      (nextInst : Nat) (ls : List Label) (s : Sys),
      Run step (fun s l => detachSucceeds s l = true ∧ destroySucceeds s l = true)
        (Sys.fresh true hostIP base ipam vms nextInst) ls s →
      Quiescent s → ∀ key m, s.net key = some m → ∃ st, s.pods key = some st := by
  intro hall
  have hexec : ∃ s, Run step
      (fun s l => detachSucceeds s l = true ∧ destroySucceeds s l = true)
      node deletedMeanwhile s ∧ leaked s = true := by
    refine exists_run_of_check (fun s l => detachSucceeds s l && destroySucceeds s l) ?_
      (by decide +kernel)
    intro s l h
    simpa only [Bool.and_eq_true] using h
  obtain ⟨s, hrun, hcheck⟩ := hexec
  simp only [leaked, attached, Bool.and_eq_true, decide_eq_true_eq] at hcheck
  obtain ⟨st, hst⟩ := hall _ _ _ _ _ _ s hrun (idle_quiescent hcheck.1.1) _ _ hcheck.1.2
  rw [hst] at hcheck
  cases hcheck.2

end MacVz
