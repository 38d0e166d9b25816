/-
The last micro-VM of a deleted Pod.  `DeletePod` and a restart both destroy
under the Pod's workload ID and the restart also creates there; whatever their
order, a micro-VM that exists after the Pod was dropped is one that somebody is
still going to destroy, unless the Pod was turned down at its creation and never
had a workload.
-/
import MacVz.Evolution
import MacVz.StepConditions

namespace MacVz

open Interleaving

variable {s' : Sys} {w : Workload} {l : Label} {st : PodState}

/-- The workloads `DeletePod` has yet to destroy. -/
def DeleteCall.toDestroy (d : DeleteCall) : List Workload :=
  match d.pc with
  | .detach | .release => d.st.workloads
  | .stop remaining => remaining
  | .destroy w remaining => w :: remaining

/-- A restart of a dropped Pod that is going to destroy this ID: the workload it
replaces, or the one it has made and will find to be an orphan. -/
def RestartTask.dooms (t : RestartTask) (id : String) : Bool :=
  match t.pc with
  | .detach | .stop | .destroy => t.oldID = id
  | .start | .destroyHalf | .observe | .attach | .finish | .orphan => t.newID = id && t.newID ≠ ""
  | .waiting | .create => false

/-- Somebody at work on the key is going to destroy this ID. -/
inductive Doomed (key id : String) (s : Sys) : Prop
  | deleting (d : DeleteCall) : d ∈ s.deletes → d.key = key → (∃ w ∈ d.toDestroy, w.id = id) →
      Doomed key id s
  | restarting (t : RestartTask) : t ∈ s.restarts → t.key = key → t.dooms id = true →
      Doomed key id s

/-- After the Pod was dropped: what is left under the ID is doomed. -/
structure Dropped (key id : String) (s : Sys) : Prop where
  gone : s.pods key = none
  doomed : ∀ vm, s.vms id = some vm → Doomed key id s

/-- Steps of the deletion, the restart and the probers of one key, reads of any
Pod, and guests that end. -/
def worksOn (key : String) (s : Sys) : Label → Bool
  | .createBegin _ => false
  | .create _ => false
  | .deleteBegin pod => pod.key = key
  | .delete place _ => (s.deletes[place]?).all fun d => d.key = key
  | .restart place _ => (s.restarts[place]?).all fun t => t.key = key
  | .probe place _ => (s.probers[place]?).all fun p => p.key = key
  | .status _ _ => true
  | .vmExit _ _ _ => true
  | .vmLost _ => true

/-- What is asked of a step: it is one of those, a `Destroy` succeeds, and a
`Stop`, `Create` or `Start` that fails has no effect. -/
structure TearsDown (key : String) (s : Sys) (l : Label) : Prop where
  works : worksOn key s l = true
  destroy : destroySucceeds s l = true
  clean : runtimeFailsClean s l = true

section Dropped

variable {s : Sys} {key id : String} {o : Outcome} {place : Nat} {t : RestartTask} {d : DeleteCall}

theorem Doomed.mono (h : Doomed key id s) (hdeletes : ∀ d ∈ s.deletes, d ∈ s'.deletes)
    (hrestarts : ∀ t ∈ s.restarts, t ∈ s'.restarts) : Doomed key id s' := by
  rcases h with ⟨d, hd, hkey, hw⟩ | ⟨t, ht, hkey, hdooms⟩
  · exact .deleting d (hdeletes d hd) hkey hw
  · exact .restarting t (hrestarts t ht) hkey hdooms

theorem Dropped.mono (h : Dropped key id s) (hpods : s'.pods key = none)
    (hvms : ∀ vm', s'.vms id = some vm' → ∃ vm, s.vms id = some vm)
    (hdeletes : ∀ d ∈ s.deletes, d ∈ s'.deletes) (hrestarts : ∀ t ∈ s.restarts, t ∈ s'.restarts) :
    Dropped key id s' where
  gone := hpods
  doomed := by
    intro vm' hvm'
    obtain ⟨vm, hvm⟩ := hvms vm' hvm'
    exact (h.doomed vm hvm).mono hdeletes hrestarts

theorem destroy_some {vms : VMTable} {target : String} {vm' : VM}
    (h : vms.call target destroyVM none id = some vm') : id ≠ target := by
  rintro rfl
  rw [VMTable.call_self] at h
  cases h

theorem TearsDown.delete_destroy (h : TearsDown key s (.delete place o))
    (hd : s.deletes[place]? = some d) {remaining : List Workload}
    (hpc : d.pc = .destroy w remaining) : o.fault = none := by
  simpa [destroySucceeds, stepWhere, hd, hpc] using h.destroy

/-- A deletion that moves on has the same to destroy, but for what it has just
destroyed. -/
theorem deleteNext_toDestroy (hw : w ∈ d.toDestroy) : (∃ remaining, d.pc = .destroy w remaining) ∨
      ∃ d', deleteNext d = some d' ∧ d'.key = d.key ∧ w ∈ d'.toDestroy := by
  cases hpc : d.pc with
  | detach =>
    simp only [DeleteCall.toDestroy, hpc] at hw
    exact Or.inr ⟨{ d with pc := .release }, by simp [deleteNext, hpc], rfl, hw⟩
  | release =>
    simp only [DeleteCall.toDestroy, hpc] at hw
    exact Or.inr ⟨{ d with pc := .stop d.st.workloads }, by simp [deleteNext, hpc], rfl, hw⟩
  | stop remaining =>
    simp only [DeleteCall.toDestroy, hpc] at hw
    cases remaining with
    | nil => cases hw
    | cons first rest =>
      exact Or.inr ⟨{ d with pc := .destroy first rest }, by simp [deleteNext, hpc], rfl, hw⟩
  | destroy first rest =>
    simp only [DeleteCall.toDestroy, hpc] at hw
    rcases List.mem_cons.mp hw with rfl | hw
    · exact Or.inl ⟨rest, rfl⟩
    · exact Or.inr ⟨{ d with pc := .stop rest }, by simp [deleteNext, hpc], rfl, hw⟩

/-- A teardown's step leaves the dropped workload gone or due to be destroyed. -/
theorem Dropped.delete (h : Dropped key id s) (hd : s.deletes[place]? = some d)
    (htears : TearsDown key s (.delete place o)) : Dropped key id
      { deleteEffect s d o with deletes := advance s.deletes place (deleteNext d) } := by
  refine ⟨(congrFun (deleteEffect_pods s o d) key).trans h.gone, ?_⟩
  intro vm' hvm'
  have hstep : step s (.delete place o) = some { deleteEffect s d o with
      deletes := advance s.deletes place (deleteNext d) } := by
    rw [step, hd, Option.map_some]
  have hfrom : VMFrom s (.delete place o) id vm' := step_vms hstep hvm'
  obtain ⟨vm, hvm⟩ := hfrom.exists_old rfl
  rcases h.doomed vm hvm with ⟨d', hd', hkey, w, hw, hid⟩ | ⟨t, ht, hkey, hdooms⟩
  · rcases mem_advance_of_mem hd (deleteNext d) hd' with rfl | hstays
    · rcases deleteNext_toDestroy hw with ⟨remaining, hpc⟩ | ⟨next, hnext, hnextKey, hw'⟩
      · -- it has just destroyed this very ID
        have hfault := htears.delete_destroy hd hpc
        have hdestroyed : s.vms.call w.id destroyVM none id = some vm' := by
          simpa only [deleteEffect, hpc, hfault] using hvm'
        exact absurd hid.symm (destroy_some hdestroyed)
      · refine .deleting next ?_ (hnextKey.trans hkey) ⟨w, hw', hid⟩
        simp only [hnext]
        exact moved_mem_advance hd next
    · exact .deleting d' hstays hkey ⟨w, hw, hid⟩
  · exact .restarting t ((deleteEffect_restarts s o d).symm ▸ ht) hkey hdooms

theorem TearsDown.restart_destroy (h : TearsDown key s (.restart place o))
    (ht : s.restarts[place]? = some t)
    (hpc : t.pc = .destroy ∨ t.pc = .destroyHalf ∨ t.pc = .orphan) : o.fault = none := by
  rcases hpc with hpc | hpc | hpc <;> simpa [destroySucceeds, stepWhere, ht, hpc] using h.destroy

theorem TearsDown.restart_create (h : TearsDown key s (.restart place o))
    (ht : s.restarts[place]? = some t) (hpc : t.pc = .create)
    (heffective : effective o.fault = true) : o.fault = none := by
  have hclean := h.clean
  simp only [runtimeFailsClean, stepWhere, ht, Option.all_some, hpc, Outcome.failsClean] at hclean
  cases hfault : o.fault with
  | none => rfl
  | some fault =>
    rw [hfault] at hclean heffective
    simp only [Option.all_some, Bool.not_eq_true'] at hclean
    rw [effective, hclean] at heffective
    cases heffective

theorem RestartMove.dooms {next : Option RestartTask} (hmove : RestartMove s o t next)
    (hgone : s.pods t.key = none) (h : t.dooms id = true) : (t.pc = .destroy ∧ t.oldID = id) ∨
      ((t.pc = .destroyHalf ∨ t.pc = .orphan) ∧ t.newID = id) ∨
      ∃ t', next = some t' ∧ t'.dooms id = true := by
  have hnew : t.pc.renewed = true ∨ t.pc = .finish ∨ t.pc = .orphan →
      t.newID = id ∧ t.newID ≠ "" := by
    intro hpc
    rcases hpc with hpc | hpc | hpc
    · cases hplace : t.pc <;> simp [hplace, RestartPC.renewed] at hpc <;>
        simpa [RestartTask.dooms, hplace] using h
    · simpa [RestartTask.dooms, hpc] using h
    · simpa [RestartTask.dooms, hpc] using h
  have hold : t.pc = .detach ∨ t.pc = .stop ∨ t.pc = .destroy → t.oldID = id := by
    intro hpc
    rcases hpc with hpc | hpc | hpc <;> simpa [RestartTask.dooms, hpc] using h
  cases hmove with
  | gone hpc _ => simp [RestartTask.dooms, hpc] at h
  | terminal st _ hst _ =>
    rw [hgone] at hst
    cases hst
  | snapshot st _ hst _ =>
    rw [hgone] at hst
    cases hst
  | detached hpc =>
    exact Or.inr (Or.inr ⟨_, rfl, by simpa [RestartTask.dooms] using hold (Or.inl hpc)⟩)
  | stopped hpc =>
    exact Or.inr (Or.inr ⟨_, rfl, by simpa [RestartTask.dooms] using hold (Or.inr (Or.inl hpc))⟩)
  | destroyed hpc => exact Or.inl ⟨hpc, hold (Or.inr (Or.inr hpc))⟩
  | created hpc _ => simp [RestartTask.dooms, hpc] at h
  | createFailed hpc _ => simp [RestartTask.dooms, hpc] at h
  | started pc hpc _ hgo =>
    have hid := hnew (Or.inl (by simp [hpc, RestartPC.renewed]))
    refine Or.inr (Or.inr ⟨_, rfl, ?_⟩)
    rcases hgo with ⟨rfl, _⟩ | ⟨rfl, _⟩ <;> simpa [RestartTask.dooms] using hid
  | halfDestroyed hpc =>
    exact Or.inr (Or.inl ⟨Or.inl hpc, (hnew (Or.inl (by simp [hpc, RestartPC.renewed]))).1⟩)
  | startFailed hpc _ | observed _ hpc _ | polled hpc _ | unobserved hpc _ | attached hpc _
  | attachFailed hpc _ =>
    have hid := hnew (Or.inl (by simp [hpc, RestartPC.renewed]))
    exact Or.inr (Or.inr ⟨_, rfl, by simpa [RestartTask.dooms] using hid⟩)
  | finished st _ hst =>
    rw [hgone] at hst
    cases hst
  | nothingNew hpc _ hempty => exact absurd hempty (hnew (Or.inr (Or.inl hpc))).2
  | orphaned hpc _ _ =>
    have hid := hnew (Or.inr (Or.inl hpc))
    exact Or.inr (Or.inr ⟨_, rfl, by simpa [RestartTask.dooms] using hid⟩)
  | reaped hpc => exact Or.inr (Or.inl ⟨Or.inr hpc, (hnew (Or.inr (Or.inr hpc))).1⟩)

/-- A restart's step leaves the dropped workload gone or due to be destroyed. -/
theorem Dropped.restart (h : Dropped key id s) (ht : s.restarts[place]? = some t)
    (hkey : t.key = key) (htears : TearsDown key s (.restart place o))
    (hafter : (restartEffect s t o).pods key = none) : Dropped key id { restartEffect s t o with
      restarts := advance s.restarts place (restartNext s t o) } := by
  have hmove := restartNext_move s t o
  have hgone : s.pods t.key = none := hkey ▸ h.gone
  refine ⟨hafter, ?_⟩
  intro vm' hvm'
  have hstep : step s (.restart place o) = some { restartEffect s t o with
      restarts := advance s.restarts place (restartNext s t o) } := by
    rw [step, ht, Option.map_some]
  rcases step_vms hstep hvm' with ⟨vm, hvm, _, _⟩ | ⟨_, hmakes, _⟩
  · rcases h.doomed vm hvm with ⟨d, hd, hdkey, hw⟩ | ⟨t', ht', hkey', hdooms⟩
    · exact .deleting d ((restartEffect_deletes s o t).symm ▸ hd) hdkey hw
    · rcases mem_advance_of_mem ht (restartNext s t o) ht' with rfl | hstays
      · rcases hmove.dooms hgone hdooms with ⟨hpc, hold⟩ | ⟨hpc, hnew⟩ | ⟨next, hnext, hnextDooms⟩
        · have hfault := htears.restart_destroy ht (Or.inl hpc)
          have hdestroyed : s.vms.call t'.oldID destroyVM none id = some vm' := by
            simpa only [restartEffect, hpc, hfault] using hvm'
          exact absurd hold.symm (destroy_some hdestroyed)
        · have hfault := htears.restart_destroy ht (Or.inr hpc)
          have hdestroyed : s.vms.call t'.newID destroyVM none id = some vm' := by
            rcases hpc with hpc | hpc <;> simpa only [restartEffect, hpc, hfault] using hvm'
          exact absurd hnew.symm (destroy_some hdestroyed)
        · refine .restarting next ?_ ?_ hnextDooms
          · simp only [hnext]
            exact moved_mem_advance ht next
          · rw [hnext] at hmove
            exact hmove.key_eq.trans hkey
      · exact .restarting t' hstays hkey' hdooms
  · -- the new micro-VM: the restart has its ID now
    obtain ⟨hpc, hid, himage, hname, heffective, _⟩ := makes_restart ht hmakes
    have hfault := htears.restart_create ht hpc heffective
    have hok : createError t.spec o.fault = none := by
      simp [createError, hname, himage, hfault]
    have hnext : restartNext s t o = some { t with
        pc := .start
        newID := t.spec.name
        inst := (createVM s.nextInst o.addr (s.vms t.spec.name)).map VM.inst } := by
      simp only [restartNext, hpc, hok]
    have hmem := moved_mem_advance ht { t with
        pc := .start
        newID := t.spec.name
        inst := (createVM s.nextInst o.addr (s.vms t.spec.name)).map VM.inst }
    rw [← hnext] at hmem
    exact .restarting _ hmem hkey (by simp [RestartTask.dooms, hid, hid ▸ hname])

/-- A step leaves the dropped workload gone or due to be destroyed. -/
theorem step_dropped (h : Dropped key id s) (htears : TearsDown key s l)
    (hstep : step s l = some s') : Dropped key id s' := by
  have hvms : makes s l = none → ∀ vm', s'.vms id = some vm' → ∃ vm, s.vms id = some vm :=
    fun hl vm' hvm' => (step_vms hstep hvm').exists_old hl
  have hgone : s'.pods key = none := by
    refine step_stays_untracked hstep h.gone ?_
    rintro c o rfl
    cases htears.works
  cases step_cases hstep with
  | createBegin | create => cases htears.works
  | deleteBegin pod st hst =>
    have hkey : pod.key = key := by simpa [worksOn] using htears.works
    rw [hkey, h.gone] at hst
    cases hst
  | delete place o d hd => exact h.delete hd htears
  | restart place o t ht =>
    exact h.restart ht (by simpa [worksOn, ht] using htears.works) htears hgone
  | probe | status =>
    refine h.mono hgone (hvms rfl) (fun d hd => by simpa using hd) fun t ht => ?_
    refine (step_restarts_stay hstep ht).resolve_right ?_
    rintro ⟨_, _, hl, _⟩
    cases hl
  | notFound | vmExit | vmLost => exact h.mono h.gone (hvms rfl) (fun _ hd => hd) fun _ ht => ht

theorem step_drops {pod : Pod} (hst : s.pods pod.key = some st)
    (hstep : step s (.deleteBegin pod) = some s') (hw : w ∈ st.workloads) :
    Dropped pod.key w.id s' := by
  cases step_cases hstep with
  | notFound _ hnone => cases hnone.symm.trans hst
  | deleteBegin _ st₁ hst₁ =>
    obtain rfl := Option.some.inj (hst.symm.trans hst₁)
    refine ⟨Function.update_self _ _ _, fun _ _ => ?_⟩
    exact .deleting ⟨.detach, pod.key, st.withoutProbes⟩
      (List.mem_append_right _ List.mem_cons_self) rfl ⟨w, hw, rfl⟩

end Dropped

/-- The Pod is still tracked with its workload, or was dropped and what is left
of it is doomed. -/
def TrackedOrDropped (key : String) (w : Workload) (s : Sys) : Prop :=
  (Bound key s ∧ ∃ st, s.pods key = some st ∧ w ∈ st.workloads) ∨ Dropped key w.id s

theorem step_trackedOrDropped {s : Sys} {key : String} (h : TrackedOrDropped key w s)
    (htears : TearsDown key s l) (hstep : step s l = some s') : TrackedOrDropped key w s' := by
  rcases h with ⟨hbound, st, hst, hw⟩ | hdropped
  · by_cases hkeep : keepsKey key l = true
    · obtain ⟨st', hst', hevolves⟩ := step_evolves hbound hkeep hstep hst
      have hwork := hevolves.work hbound hst
      exact Or.inl ⟨step_bound hbound hkeep hstep, st', hst', hwork.workloads.symm ▸ hw⟩
    · cases l with
      | deleteBegin pod =>
        obtain rfl : pod.key = key := by simpa [keepsKey] using hkeep
        exact Or.inr (step_drops hst hstep hw)
      | _ => exact absurd rfl hkeep
  · exact Or.inr (step_dropped hdropped htears hstep)

/-- A Pod that is not known, or was turned down at its creation: it has no workload, and no
deletion of its key has anything to destroy. -/
structure Vacant (key : String) (s : Sys) : Prop where
  bound : Bound key s
  empty : ∀ st, s.pods key = some st → st.workloads = []
  deleting : ∀ d ∈ s.deletes, d.key = key → d.toDestroy = []

theorem Vacant.no_running {s : Sys} {key : String} (h : Vacant key s) (hst : s.pods key = some st)
    (x : Container) : ¬ Running st x := by
  intro hx
  have hempty := h.empty st hst
  rw [hx.workloads] at hempty
  cases hempty

theorem Vacant.no_restart {s : Sys} {key : String} (h : Vacant key s) :
    ∀ t ∈ s.restarts, t.key ≠ key := by
  intro t ht hkey
  obtain ⟨st, hst, hrestarting⟩ := h.bound.restart t ht hkey
  obtain ⟨x, hx⟩ := (h.bound.settled st hst).restarting hrestarting.flag
  exact h.no_running hst x hx

theorem Vacant.no_prober {s : Sys} {key : String} (h : Vacant key s) :
    ∀ p ∈ s.probers, p.key ≠ key := by
  intro p hp hkey
  obtain ⟨st, hst, hprobing⟩ := h.bound.probing p hp hkey
  exact h.no_running hst p.container hprobing.running

/-- Nothing runs on the key, so its deletion leaves nothing unbound. -/
theorem Vacant.step_bound {s : Sys} {key : String} (h : Vacant key s)
    (hstep : step s l = some s') : Bound key s' := by
  by_cases hkeep : keepsKey key l = true
  · exact MacVz.step_bound h.bound hkeep hstep
  · cases l with
    | deleteBegin pod =>
      obtain rfl : pod.key = key := by simpa [keepsKey] using hkeep
      have hkeyed := step_keyed h.bound.keyed hstep
      cases step_cases hstep with
      | notFound => exact ⟨hkeyed, h.bound.settled, h.bound.restart, h.bound.unique,
          h.bound.probing, h.bound.placed, h.bound.untracked⟩
      | deleteBegin _ st hst =>
        exact ⟨hkeyed, fun st' hst' => by simp at hst',
          fun t ht hkey => absurd hkey (h.no_restart t ht), h.bound.unique,
          fun p hp hkey => absurd hkey (h.no_prober p hp), h.bound.placed, by simp⟩
    | _ => exact absurd rfl hkeep

theorem deleteNext_done {d d' : DeleteCall} (h : deleteNext d = some d')
    (hdone : d.toDestroy = []) : d'.toDestroy = [] := by
  unfold deleteNext at h
  split at h <;> cases h <;> simp_all [DeleteCall.toDestroy]

theorem DeleteCall.request_done {d : DeleteCall} (h : d.toDestroy = []) (o : Outcome) :
    d.request o = none := by
  unfold DeleteCall.request
  split <;> simp_all [DeleteCall.toDestroy]

/-- A step keeps the Pod without a workload to destroy. -/
theorem step_vacant {s : Sys} {key : String} (h : Vacant key s) (htears : TearsDown key s l)
    (hstep : step s l = some s') : Vacant key s' where
  bound := h.step_bound hstep
  empty := by
    intro st' hst'
    cases hst : s.pods key with
    | none =>
      have hnone := step_stays_untracked hstep hst (by rintro c o rfl; cases htears.works)
      cases hnone.symm.trans hst'
    | some st =>
      have hwork := (step_evolves_to h.bound hstep hst hst').work h.bound hst
      exact hwork.workloads.trans (h.empty st hst)
  deleting := by
    intro d' hd' hkey
    rcases step_deletes hstep with hsame | ⟨pod, st, -, hst, hnew⟩ | ⟨place, o, d, -, hd, hnext⟩
    · exact h.deleting d' (hsame ▸ hd') hkey
    · rw [hnew, List.mem_append, List.mem_singleton] at hd'
      rcases hd' with hold | rfl
      · exact h.deleting d' hold hkey
      · exact h.empty st (hkey ▸ hst)
    · rw [hnext] at hd'
      rcases mem_advance hd' with hold | hmoved
      · exact h.deleting d' hold hkey
      · have hown : d.key = key := (deleteNext_key hmoved).symm.trans hkey
        exact deleteNext_done hmoved (h.deleting d (List.mem_of_getElem? hd) hown)

/-- Around such a Pod only a guest that is lost leaves the runtime. -/
theorem Vacant.vms_none_iff {s : Sys} {key id : String} (h : Vacant key s)
    (htears : TearsDown key s l) (hstep : step s l = some s') :
    s'.vms id = none ↔ s.vms id = none ∨ l = .vmLost id := by
  have hserved := step_runtime hstep
  cases step_cases hstep with
  | createBegin | create => cases htears.works
  | deleteBegin | notFound | status => simp
  | delete place o d hd =>
    have hkey : d.key = key := by simpa [worksOn, hd] using htears.works
    have hnone := DeleteCall.request_done (h.deleting d (List.mem_of_getElem? hd) hkey) o
    rw [hserved, runtimeCall, hd, Option.bind_some, hnone]
    simp [VMTable.served]
  | restart place o t ht =>
    have hkey : t.key = key := by simpa [worksOn, ht] using htears.works
    exact absurd hkey (h.no_restart t (List.mem_of_getElem? ht))
  | probe place o p hp =>
    have hkey : p.key = key := by simpa [worksOn, hp] using htears.works
    exact absurd hkey (h.no_prober p (List.mem_of_getElem? hp))
  | vmExit target failed exitCode =>
    rw [hserved]
    by_cases htarget : id = target
    · subst id
      simp [runtimeCall, VMTable.served, VMTable.call_self, VMChange.apply, exitVM]
    · simp [runtimeCall, VMTable.served, VMTable.call_other htarget]
  | vmLost target =>
    rw [hserved]
    by_cases htarget : id = target
    · subst id
      simp [runtimeCall, VMTable.served, VMTable.call_self, VMChange.apply, destroyVM]
    · simp [runtimeCall, VMTable.served, VMTable.call_other htarget, Ne.symm htarget]

/-- Along a run for a Pod without workloads, a micro-VM goes only by being lost. -/
theorem Vacant.run_vms_none_iff {s₀ s : Sys} {key : String} {ls : List Label} (h : Vacant key s₀)
    (hrun : Run step (TearsDown key) s₀ ls s) (id : String) :
    s.vms id = none ↔ s₀.vms id = none ∨ .vmLost id ∈ ls := by
  induction hrun with
  | nil => simp
  | snoc hrun htears hstep ih =>
    have hvacant := hrun.invariant h fun h htears hstep => step_vacant h htears hstep
    rw [hvacant.vms_none_iff htears hstep, ih, List.mem_append, List.mem_singleton, or_assoc,
      eq_comm (a := Label.vmLost id)]

/-- A Pod is deleted while its restart, its probers and reads of the status go on in any order,
and it is not created again.  If every `Destroy` succeeds and a failing `Stop`, `Create` or `Start`
has no effect, then no micro-VM is left under the Pod's workload ID once the deletion and the
restart have ended, exactly when the Pod had its workload recorded, or nothing was there, or the
guest was lost on its own: a Pod that was turned down at its creation, or is not known, has no
workload to destroy. -/
theorem no_vm_left_after_delete_iff {podNet : Bool} {hostIP : String} {base : Int}
    {ipam : Option PodIPAM} {vms : VMTable} {nextInst : Nat} {key : String}
    {before during : List Label} {s₀ s : Sys} {pod : Pod} {c : Container}
    (hbefore : Run step (fun _ l => keepsKey key l = true)
      (Sys.fresh podNet hostIP base ipam vms nextInst) before s₀)
    (hpod : ∀ st, s₀.pods key = some st → st.pod = pod)
    (hduring : Run step (TearsDown key) s₀ during s) (hgone : s.pods key = none)
    (hdeleted : ∀ d ∈ s.deletes, d.key ≠ key) (hrestarted : ∀ t ∈ s.restarts, t.key ≠ key)
    (hc : c ∈ pod.containers) :
    s.vms (pod.workloadID c.name) = none ↔
      (∃ st, s₀.pods key = some st ∧ st.workloads ≠ []) ∨
        s₀.vms (pod.workloadID c.name) = none ∨ .vmLost (pod.workloadID c.name) ∈ during := by
  have hbound : Bound key s₀ := run_bound (fun _ _ h => h) hbefore
  by_cases hrecorded : ∃ st, s₀.pods key = some st ∧ st.workloads ≠ []
  · refine ⟨fun _ => .inl hrecorded, fun _ => ?_⟩
    obtain ⟨st, hst, hne⟩ := hrecorded
    obtain rfl := hpod st hst
    obtain ⟨x, hx⟩ : ∃ x, Running st x := by
      cases hbound.settled st hst with
      | running x hx => exact ⟨x, hx⟩
      | rejected hempty => exact absurd hempty hne
    obtain rfl : c = x := by simpa [hx.containers] using hc
    have hstart : TrackedOrDropped key ⟨c.name, st.spec.name⟩ s₀ :=
      .inl ⟨hbound, st, hst, by simp [hx.workloads]⟩
    have hend : TrackedOrDropped key ⟨c.name, st.spec.name⟩ s :=
      hduring.invariant hstart fun h htears hstep => step_trackedOrDropped h htears hstep
    rw [← hx.named]
    rcases hend with ⟨_, st', hst', _⟩ | hdropped
    · cases hgone.symm.trans hst'
    · rw [Option.eq_none_iff_forall_ne_some]
      intro vm hvm
      rcases hdropped.doomed vm hvm with ⟨d, hd, hkey, _⟩ | ⟨t, ht, hkey, _⟩
      · exact hdeleted d hd hkey
      · exact hrestarted t ht hkey
  · have hundeleted : Undeleted key s₀ :=
      hbefore.invariant (fun _ h => by cases h) fun h hkeep hstep => step_undeleted h hkeep hstep
    have hvacant : Vacant key s₀ :=
      ⟨hbound, fun st hst => not_not.mp fun hne => hrecorded ⟨st, hst, hne⟩,
        fun d hd hkey => absurd hkey (hundeleted d hd)⟩
    rw [hvacant.run_vms_none_iff hduring, or_iff_right hrecorded]

namespace ReapingWitness

open Sample

def restarting : List Label :=
  createPod web "192.168.64.5" ++ [.vmExit webID false 1, .status "default/web" .ok] ++
    List.replicate 6 (.restart 0 (okAt "192.168.64.6"))

/-- The deletion runs to its end, a read comes in between, and the restart finds
the Pod gone. -/
def deleting : List Label :=
  [.deleteBegin web, .delete 0 .ok, .restart 0 .ok, .status "default/web" .ok, .delete 0 .ok,
    .delete 0 .ok, .delete 0 .ok, .delete 0 .ok, .restart 0 .ok, .restart 0 .ok, .restart 0 .ok]

/-- The Pod with a field the node does not support. -/
def onHostNetwork : Pod := { web with hostNetwork := true }

/-- A kubelet that is started while a micro-VM of the Pod is there. -/
def leftOver : Sys :=
  Sys.fresh true "192.168.1.10" defaultRestartBackoffBase (some (newPodIPAM podCIDR))
    (fun id => if id = webID then some (VM.fresh 0 "192.168.64.5") else none) 1

def refusing : List Label := .createBegin onHostNetwork :: List.replicate 3 (.create .ok)

def deletingRefused : List Label := .deleteBegin onHostNetwork :: List.replicate 3 (.delete 0 .ok)

/-- The Pod is tracked and its micro-VM is there; the deletion runs, and at its end the check
holds with nothing left in flight. -/
def deletes (pod : Pod) (tracked : PodState → Bool) (ls : List Label) (check : Sys → Bool)
    (s : Sys) : Bool :=
  (s.vms webID).isSome && (s.pods "default/web").any (fun st => st.pod = pod && tracked st) &&
    (execWhen step (fun s l => worksOn "default/web" s l && destroySucceeds s l &&
      runtimeFailsClean s l) s ls).any fun s =>
        (s.pods "default/web").isNone && s.deletes.isEmpty && s.restarts.isEmpty && check s

theorem deletes_spec {pod : Pod} {tracked : PodState → Bool} {ls : List Label}
    {check : Sys → Bool} {s₀ : Sys} (h : deletes pod tracked ls check s₀ = true) :
    (s₀.vms webID).isSome = true ∧
      (∃ st, s₀.pods "default/web" = some st ∧ st.pod = pod ∧ tracked st = true) ∧
      ∃ s, Run step (TearsDown "default/web") s₀ ls s ∧ s.pods "default/web" = none ∧
        s.deletes = [] ∧ s.restarts = [] ∧ check s = true := by
  rw [deletes, Bool.and_eq_true, Bool.and_eq_true] at h
  obtain ⟨⟨hvm, hst⟩, hend⟩ := h
  obtain ⟨st, htracked, hst⟩ := (Option.any_eq_true _ _).mp hst
  rw [Bool.and_eq_true, decide_eq_true_eq] at hst
  refine ⟨hvm, ⟨st, htracked, hst⟩, ?_⟩
  have htears : ∀ s l, (worksOn "default/web" s l && destroySucceeds s l &&
      runtimeFailsClean s l) = true → TearsDown "default/web" s l := by
    intro s l h
    simp only [Bool.and_eq_true] at h
    exact ⟨h.1.1, h.1.2, h.2⟩
  obtain ⟨s, hduring, hdone⟩ := exists_run_of_check _ htears hend
  simp only [Bool.and_eq_true, Option.isNone_iff_eq_none, List.isEmpty_iff] at hdone
  exact ⟨s, hduring, hdone.1.1.1, hdone.1.1.2, hdone.1.2, hdone.2⟩

end ReapingWitness

open ReapingWitness Sample in
/-- A restart has made a new micro-VM when the deletion begins; in the end it is
gone. -/
theorem no_vm_left_after_delete_midway :
    ∃ s₀ s : Sys, (s₀.vms webID).isSome = true ∧ s.vms webID = none ∧
      Run step (TearsDown "default/web") s₀ deleting s := by
  have hmidway : ∃ s₀, Run step (fun _ l => keepsKey "default/web" l = true) node restarting s₀ ∧
      deletes web (fun st => st.workloads ≠ []) deleting (fun _ => true) s₀ = true :=
    exists_run_of_check (fun _ l => keepsKey "default/web" l) (fun _ _ h => h)
      (by decide +kernel)
  obtain ⟨s₀, hbefore, hcheck⟩ := hmidway
  obtain ⟨hvm, ⟨st, htracked, hpod, hst⟩, s, hduring, hgone, hdeletes, hrestarts, -⟩ :=
    deletes_spec hcheck
  have hid : web.workloadID app.name = webID := by decide +kernel
  have hweb : ∀ st', s₀.pods "default/web" = some st' → st'.pod = web := fun st' hst' =>
    Option.some.inj (htracked.symm.trans hst') ▸ hpod
  have hnone := (no_vm_left_after_delete_iff hbefore hweb hduring hgone (by simp [hdeletes])
    (by simp [hrestarts]) (c := app) (by simp [web])).mpr
    (.inl ⟨st, htracked, of_decide_eq_true hst⟩)
  exact ⟨s₀, s, hvm, hid ▸ hnone, hduring⟩

open ReapingWitness Sample in
/-- An earlier process has left a micro-VM under the workload ID.  The Pod now asks for the host's
network, `CreatePod` turns it down, and `DeletePod` finds no workload to destroy. -/
theorem refused_pod_vm_left :
    ¬ ∀ (podNet : Bool) (hostIP : String) (base : Int) (ipam : Option PodIPAM) (vms : VMTable)
      (nextInst : Nat) (key : String) (before during : List Label) (s₀ s : Sys) (st : PodState)
      (c : Container), Run step (fun _ l => keepsKey key l = true)
        (Sys.fresh podNet hostIP base ipam vms nextInst) before s₀ →
      s₀.pods key = some st → Run step (TearsDown key) s₀ during s → s.pods key = none →
      (∀ d ∈ s.deletes, d.key ≠ key) → (∀ t ∈ s.restarts, t.key ≠ key) →
      c ∈ st.pod.containers → s.vms (st.pod.workloadID c.name) = none := by
  intro hall
  have hrefused : ∃ s₀, Run step (fun _ l => keepsKey "default/web" l = true) leftOver refusing s₀ ∧
      deletes onHostNetwork (fun _ => true) deletingRefused (fun s => (s.vms webID).isSome) s₀ =
        true :=
    exists_run_of_check (fun _ l => keepsKey "default/web" l) (fun _ _ h => h)
      (by decide)
  obtain ⟨s₀, hbefore, hcheck⟩ := hrefused
  obtain ⟨-, ⟨st, htracked, hpod, -⟩, s, hduring, hgone, hdeletes, hrestarts, hleft⟩ :=
    deletes_spec hcheck
  have hid : st.pod.workloadID app.name = webID := by
    rw [hpod]
    decide
  have hnone := hall _ _ _ _ _ _ _ _ _ _ _ _ app hbefore htracked hduring hgone
    (by simp [hdeletes]) (by simp [hrestarts]) (by simp [hpod, onHostNetwork, web])
  rw [hid] at hnone
  rw [hnone] at hleft
  cases hleft

end MacVz
