/-
A Pod that is always restarted and has no restart in flight.  A read that finds its
workload down asks for a restart unless it finds a micro-VM that was created and
never started, so what has to be shown is that no restart leaves one behind.
-/
import MacVz.PhaseReports
import MacVz.RuntimeCalls

namespace MacVz

open Interleaving

variable {vm' : VM} {o : Outcome} {t : RestartTask} {st : PodState} {id : String} {st' : PodState}

/-- A micro-VM found created after a step: it was there and the step did not start
or destroy it, or the step has just made it. -/
inductive CreatedFrom (s : Sys) (l : Label) (id : String) : Prop
  | old (vm : VM) : s.vms id = some vm → vm.phase = .created →
      (∀ call, runtimeCall s l = some call → call.id = id → effective call.fault = true →
        call.change ≠ .destroy ∧ ∀ now, call.change ≠ .start now) → CreatedFrom s l id
  | made (addr : String) : makes s l = some (id, addr) → CreatedFrom s l id

theorem VM.boot_phase (now : Nat) (vm : VM) : (vm.boot now).phase = .running := by
  unfold VM.boot
  split
  · assumption
  · rfl

theorem VM.halt_created {exitCode : Int} {vm : VM} (h : (vm.halt exitCode).phase = .created) :
    vm.phase = .created := by
  unfold VM.halt at h
  split at h
  · cases h
  · exact h

/-- A micro-VM not yet started after a step was so before, or the step made it. -/
theorem step_created {s s' : Sys} {l : Label} (hstep : step s l = some s')
    (h : s'.vms id = some vm') (hphase : vm'.phase = .created) : CreatedFrom s l id := by
  rw [step_runtime hstep] at h
  rcases served_cases s.vms (runtimeCall s l) id with
    ⟨hidle, hsame⟩ | ⟨call, hcall, rfl, heffective, happly⟩
  · refine .old vm' (hsame ▸ h) hphase fun call hcall hid heffective => ?_
    rw [hidle call hcall hid] at heffective
    cases heffective
  · rw [happly] at h
    have hthis : ∀ vm, s.vms call.id = some vm → vm.phase = .created →
        call.change ≠ .destroy → (∀ now, call.change ≠ .start now) →
        CreatedFrom s l call.id := by
      intro vm hvm hcreated hdestroy hstart
      refine .old vm hvm hcreated fun other hother _ _ => ?_
      obtain rfl := Option.some.inj (hcall.symm.trans hother)
      exact ⟨hdestroy, hstart⟩
    cases hchange : call.change with
    | create inst addr =>
      rw [hchange] at h hthis
      cases hvm : s.vms call.id with
      | some vm =>
        obtain rfl : vm = vm' := by simpa [VMChange.apply, createVM, hvm] using h
        exact hthis vm hvm hphase (fun h => by cases h) (fun _ h => by cases h)
      | none => exact .made addr (makes_of_call hcall hchange heffective hvm).1
    | start now =>
      rw [hchange] at h
      obtain ⟨vm, _, rfl⟩ := Option.map_eq_some_iff.mp h
      rw [VM.boot_phase] at hphase
      cases hphase
    | stop exitCode =>
      rw [hchange] at h hthis
      obtain ⟨vm, hvm, rfl⟩ := Option.map_eq_some_iff.mp h
      exact hthis vm hvm (VM.halt_created hphase) (fun h => by cases h) (fun _ h => by cases h)
    | destroy =>
      rw [hchange] at h
      cases h
    | exit failed exitCode =>
      rw [hchange] at h
      obtain ⟨vm, _, rfl⟩ := Option.map_eq_some_iff.mp h
      cases failed <;> cases hphase

/-- A Pod whose flag is raised has a restart in flight, which is not one that found
its Pod gone. -/
structure Backed (key : String) (s : Sys) : Prop where
  flag : ∀ st, s.pods key = some st → st.restarting = true → ∃ t ∈ s.restarts, t.key = key
  found : ∀ t ∈ s.restarts, t.key = key → t.pc ≠ .orphan

section Backed

variable {s s' : Sys} {key : String} {l : Label}

/-- A restart that ends lowers the restarting flag. -/
theorem RestartMove.ended (h : RestartMove s o t none) (hst : s.pods t.key = some st)
    (hpc : t.pc ≠ .orphan) (hst' : (restartEffect s t o).pods t.key = some st') :
    st'.restarting = false := by
  cases h with
  | gone _ hnone =>
    rw [hst] at hnone
    cases hnone
  | terminal st₁ hwaiting hst₁ hterminal =>
    obtain rfl := Option.some.inj (hst.symm.trans hst₁)
    simp only [restartEffect, hwaiting] at hst'
    rw [locked_pods_self hst] at hst'
    obtain rfl := Option.some.inj hst'
    rw [snapshotUpdate, if_pos hterminal]
    rfl
  | finished st₁ hfinish hst₁ =>
    simp only [restartEffect, hfinish] at hst'
    rw [locked_pods_self hst] at hst'
    obtain rfl := Option.some.inj hst'
    change (t.finished s st).1.restarting = false
    rw [finished_eq]
    split <;> rfl
  | nothingNew _ hnone _ =>
    rw [hst] at hnone
    cases hnone
  | reaped horphan => exact absurd horphan hpc

theorem RestartMove.not_orphan {t' : RestartTask} (h : RestartMove s o t (some t'))
    (hst : s.pods t.key = some st) : t'.pc ≠ .orphan := by
  cases h with
  | started pc _ _ hgo => rcases hgo with ⟨rfl, _⟩ | ⟨rfl, _⟩ <;> exact fun h => by cases h
  | orphaned _ hnone _ =>
    rw [hst] at hnone
    cases hnone
  | _ => exact fun h => by cases h

theorem Backed.stays (h : Backed key s) (hstep : step s l = some s') (hst : s.pods key = some st)
    (hbefore : st.restarting = true) (hst' : s'.pods key = some st')
    (hflag : st'.restarting = true) :
    ∃ t ∈ s'.restarts, t.key = key := by
  obtain ⟨t, ht, hkey⟩ := h.flag st hst hbefore
  rcases step_restarts_stay hstep ht with hstays | ⟨o, place, rfl, hplace⟩
  · exact ⟨t, hstays, hkey⟩
  · have hmove := restartNext_move s t o
    rw [step, hplace, Option.map_some] at hstep
    obtain rfl := Option.some.inj hstep
    cases hnext : restartNext s t o with
    | some t' =>
      rw [hnext] at hmove
      exact ⟨t', hnext ▸ moved_mem_advance hplace t', hmove.key_eq.trans hkey⟩
    | none =>
      rw [hnext] at hmove
      subst hkey
      rw [hmove.ended hst (h.found t ht rfl) hst'] at hflag
      cases hflag

/-- A step keeps a raised restarting flag backed by a task. -/
theorem step_backed (hbound : Bound key s) (h : Backed key s) (hstep : step s l = some s') :
    Backed key s' where
  flag := by
    intro st' hst' hflag
    by_cases hidle : ∀ st, s.pods key = some st → st.restarting = false
    · cases hevent : podEvent key s l with
      | none =>
        have hsame : s.pods key = some st' := by
          rw [step_noticed hstep, hevent] at hst'
          exact hst'
        rw [hidle st' hsame] at hflag
        cases hflag
      | some e => exact hbound.raises hevent hstep hst' hflag hidle
    · push Not at hidle
      obtain ⟨st, hst, hbefore⟩ := hidle
      exact h.stays hstep hst (by simpa using hbefore) hst' hflag
  found := by
    intro t' ht' hkey
    rcases step_restarts hbound hstep ht' hkey with ⟨hold, _⟩ | ⟨inc, launch, rfl⟩ |
      ⟨t, o, ⟨place, _, ht⟩, htkey, hnext⟩
    · exact h.found t' hold hkey
    · exact fun h => by cases h
    · obtain ⟨st, hst, _⟩ := hbound.restart t (List.mem_of_getElem? ht) htkey
      have hmove := restartNext_move s t o
      rw [hnext] at hmove
      exact hmove.not_orphan (htkey ▸ hst)

end Backed

/-- The `Destroy` of a restart of the key whose `Start` failed succeeds. -/
def halfDestroyed (key : String) (s : Sys) : Label → Bool
  | .restart place o => (s.restarts[place]?).all fun t =>
    t.key ≠ key || t.pc ≠ .destroyHalf || o.fault.isNone
  | _ => true

/-- `CreatePod` of the key looks up its workload truthfully. -/
def looksUpTruth (key : String) (s : Sys) : Label → Bool
  | .create o => s.creating.all fun c => c.pod.key ≠ key || c.pc ≠ .lookup || o.truthful
  | _ => true

/-- The key is not deleted and shares its workload ID with nobody, calls that fail
have no effect, and a restart that fails cleans up. -/
structure RestartsClean (key : String) (s : Sys) (l : Label) : Prop where
  keeps : keepsKey key l = true
  own : ownsVM key s l = true
  clean : runtimeFailsClean s l = true
  half : halfDestroyed key s l = true
  lookup : looksUpTruth key s l = true

/-- The places of `CreatePod` after its workload was started. -/
def CreatePC.started : CreatePC → Bool
  | .observe | .attach | .commit => true
  | _ => false

/-- The new micro-VM is made and not yet started. -/
def RestartPC.halfway : RestartPC → Bool
  | .start | .destroyHalf => true
  | _ => false

/-- A micro-VM of the key that is created and not started is one its restart is
about to start or to destroy. -/
structure Booted (key : String) (s : Sys) : Prop where
  bound : Bound key s
  tracked : ∀ st vm, s.pods key = some st → st.terminalStatus = none →
    s.vms st.spec.name = some vm → vm.phase = .created →
    ∃ t ∈ s.restarts, t.key = key ∧ t.pc.halfway = true
  creating : ∀ c vm, s.creating = some c → c.pod.key = key → c.pc.started = true →
    s.vms c.spec.name = some vm → vm.phase ≠ .created

section Booted

variable {s s' : Sys} {key : String} {l : Label} {next : Option RestartTask} {c c' : CreateCall}

/-- A restart halfway that moves without starting or destroying its micro-VM is
still halfway. -/
theorem RestartMove.halfway (h : RestartMove s o t next) (hpc : t.pc.halfway = true)
    (hhalf : t.pc = .destroyHalf → o.fault = none)
    (hidle : ∀ call, t.request s o = some call → effective call.fault = true →
      call.change ≠ .destroy ∧ ∀ now, call.change ≠ .start now) :
    ∃ t', next = some t' ∧ t'.key = t.key ∧ t'.pc.halfway = true := by
  cases hplace : t.pc with
  | start =>
    have hrequest : t.request s o = some ⟨t.newID, .start o.now, o.fault⟩ := by
      simp only [RestartTask.request, hplace]
    have hfault : effective o.fault = false := by
      by_contra heffective
      exact (hidle _ hrequest (by simpa using heffective)).2 o.now rfl
    cases h with
    | started pc _ hok _ =>
      cases hnone : o.fault with
      | none =>
        rw [hnone] at hfault
        cases hfault
      | some fault =>
        rw [hnone] at hok
        cases hok
    | startFailed _ _ => exact ⟨_, rfl, rfl, rfl⟩
    | _ => simp_all
  | destroyHalf =>
    have hrequest : t.request s o = some ⟨t.newID, .destroy, o.fault⟩ := by
      simp only [RestartTask.request, hplace]
    exact absurd rfl (hidle _ hrequest (by rw [hhalf hplace]; rfl)).1
  | _ =>
    rw [hplace] at hpc
    cases hpc

theorem RestartMove.made (h : RestartMove s o t next) (hpc : t.pc = .create)
    (hclean : o.failsClean = true) (heffective : effective o.fault = true)
    (hname : t.spec.name ≠ "") (himage : t.spec.image ≠ "") :
    ∃ t', next = some t' ∧ t'.key = t.key ∧ t'.pc.halfway = true := by
  have hfault : o.fault = none := by
    cases hsome : o.fault with
    | none => rfl
    | some fault =>
      simp only [Outcome.failsClean, hsome, Option.all_some, effective] at hclean heffective
      rw [heffective] at hclean
      cases hclean
  cases h with
  | created _ _ => exact ⟨_, rfl, rfl, rfl⟩
  | createFailed _ hfailed => simp [createError, hname, himage, hfault] at hfailed
  | _ => simp_all

/-- A live Pod's micro-VM that is not started has a restart halfway through it. -/
theorem Booted.step_tracked (h : Booted key s) (hl : RestartsClean key s l)
    (hstep : step s l = some s') (hst : s.pods key = some st) (hevolves : Evolves key s st l st')
    (hlive' : st'.terminalStatus = none) (hvm' : s'.vms st'.spec.name = some vm')
    (hphase : vm'.phase = .created) : ∃ t ∈ s'.restarts, t.key = key ∧ t.pc.halfway = true := by
  have hlive := (hevolves.status_cases hlive').1
  rw [(hevolves.work h.bound hst).spec] at hvm'
  -- a restart that moves to another place halfway is in flight after the step
  have hmoved : ∀ place o t, l = .restart place o → s.restarts[place]? = some t → t.key = key →
      (∃ t', restartNext s t o = some t' ∧ t'.key = t.key ∧ t'.pc.halfway = true) →
      ∃ t ∈ s'.restarts, t.key = key ∧ t.pc.halfway = true := by
    rintro place o t rfl ht hkey ⟨t', hnext, hkey', hhalf⟩
    rw [step, ht, Option.map_some] at hstep
    obtain rfl := Option.some.inj hstep
    exact ⟨t', hnext ▸ moved_mem_advance ht t', hkey'.trans hkey, hhalf⟩
  rcases step_created hstep hvm' hphase with ⟨vm, hvm, hcreated, hidle⟩ | ⟨addr, hmakes⟩
  · obtain ⟨t, ht, hkey, hhalf⟩ := h.tracked st vm hst hlive hvm hcreated
    rcases step_restarts_stay hstep ht with hstays | ⟨o, place, rfl, hplace⟩
    · exact ⟨t, hstays, hkey, hhalf⟩
    · have hnew : t.newID = st.spec.name := by
        refine (h.bound.restarting ht hkey hst).renewed ?_
        cases hplace : t.pc <;> simp [hplace, RestartPC.halfway] at hhalf <;> rfl
      refine hmoved place o t rfl hplace hkey ((restartNext_move s t o).halfway hhalf ?_ ?_)
      · intro hpc
        simpa [halfDestroyed, hplace, hkey, hpc] using hl.half
      · intro call hrequest heffective
        refine hidle call (by rw [runtimeCall, hplace, Option.bind_some, hrequest]) ?_ heffective
        unfold RestartTask.request at hrequest
        cases hpc : t.pc <;> simp [hpc, RestartPC.halfway] at hhalf hrequest <;>
          rw [← hrequest] <;> exact hnew
  · have hparty := own_of_makes hl.own (.tracked st hst rfl) hmakes
    rcases makes_party (by simp [hmakes]) hparty with ⟨c, o, _, hc, hkey, hpc⟩ |
      ⟨t, o, ⟨place, rfl, ht⟩, hkey, hpc⟩
    · rw [h.bound.untracked c hc hkey (by rw [hpc]; rfl)] at hst
      cases hst
    · obtain ⟨_, _, himage, hname, heffective, _⟩ := makes_restart ht hmakes
      refine hmoved place o t rfl ht hkey
        ((restartNext_move s t o).made hpc ?_ heffective hname himage)
      simpa [runtimeFailsClean, stepWhere, ht, hpc] using hl.clean

theorem createNext_found_created (hpc : c.pc = .lookup) {rs : VMStatus}
    (hrs : s.vms.status c.spec.name o.status = .ok rs) (hphase : rs.phase = .created) :
    (createNext s c o).pc = .startAdopted := by
  simp only [createNext, hpc, hrs]
  rw [if_pos hphase]

/-- The call after its own step: its workload has just been started, was found
started, or is as it was. -/
theorem CreateMove.started_cases (h : CreateMove s o c c') (hstarted : c'.pc.started = true) :
    c.pc.started = true ∧ c'.spec = c.spec ∧ c.request s o = none ∨
      (c.pc = .startAdopted ∨ c.pc = .start) ∧ startError s.vms c.id o.fault = none ∧
        c'.spec = c.spec ∨
      (∃ rs, c.pc = .lookup ∧ s.vms.status c.spec.name o.status = .ok rs) ∧
        c'.spec = c.spec := by
  cases h with
  | found rs pc hpc hok _ => exact Or.inr (Or.inr ⟨⟨rs, hpc, hok⟩, rfl⟩)
  | started pc hpc hok _ => exact Or.inr (Or.inl ⟨hpc, hok, rfl⟩)
  | observed ip hpc _ | polled hpc _ | attached hpc _ =>
    exact Or.inl ⟨by simp [hpc, CreatePC.started], rfl, by simp [CreateCall.request, hpc]⟩
  | recorded _ _ pc _ hgo | rolledBackAll pc _ hgo | failedEarly _ pc _ hgo =>
    rcases hgo with rfl | rfl <;> cases hstarted
  | failedLate e pc _ hgo => rcases hgo with rfl | rfl | rfl <;> cases hstarted
  | _ => cases hstarted

theorem served_started {vms : VMTable} {now : Nat} {fault : Option Fault}
    (hok : startError vms id fault = none)
    (h : vms.served (some ⟨id, .start now, fault⟩) id = some vm') : vm'.phase = .running := by
  have hfault : fault = none := by
    cases fault with
    | none => rfl
    | some fault => cases hok
  have hcall : vms.call id (startVM now) none id = some vm' := hfault ▸ h
  rw [VMTable.call_self] at hcall
  obtain ⟨vm, _, rfl⟩ := Option.map_eq_some_iff.mp hcall
  exact VM.boot_phase now vm

theorem Booted.step_creating (h : Booted key s) (hl : RestartsClean key s l)
    (hstep : step s l = some s') (hc' : s'.creating = some c') (hkey : c'.pod.key = key)
    (hstarted : c'.pc.started = true) (hvm' : s'.vms c'.spec.name = some vm') :
    vm'.phase ≠ .created := by
  intro hphase
  rcases MacVz.step_creating hstep hc' with ⟨hc, hnot⟩ | ⟨pod, _, rfl⟩ | ⟨c, o, rfl, hc, rfl⟩
  · rcases step_created hstep hvm' hphase with ⟨vm, hvm, hcreated, _⟩ | ⟨addr, hmakes⟩
    · exact h.creating c' vm hc hkey hstarted hvm hcreated
    · -- its own restarts are the only others who could have made it
      have hparty := own_of_makes hl.own (.creating c' hc hkey rfl) hmakes
      rcases makes_party (by simp [hmakes]) hparty with ⟨_, o, hcreate, _⟩ |
        ⟨t, o, ⟨place, _, ht⟩, htkey, _⟩
      · exact hnot o hcreate
      · have hpending : c'.pc.pending = true := by
          cases hpc : c'.pc <;> simp [hpc, CreatePC.started] at hstarted <;> rfl
        exact h.bound.no_restart (h.bound.untracked c' hc hkey hpending) t
          (List.mem_of_getElem? ht) htkey
  · cases hstarted
  · have hmove := createNext_move s c o
    rw [hmove.pod_eq] at hkey
    have hvms : s'.vms = s.vms.served (c.request s o) := by
      rw [step_runtime hstep, runtimeCall, hc, Option.bind_some]
    rcases hmove.started_cases hstarted with ⟨hbefore, hspec, hrequest⟩ | ⟨hpc, hok, hspec⟩ |
      ⟨⟨rs, hpc, hrs⟩, hspec⟩
    · rw [hvms, hspec, hrequest] at hvm'
      exact h.creating c vm' hc hkey hbefore hvm' hphase
    · have hid : c.id = c.spec.name :=
        (h.bound.placed c hc hkey).id_eq (by rcases hpc with hpc | hpc <;> rw [hpc] <;> rfl)
      have hrequest : c.request s o = some ⟨c.id, .start o.now, o.fault⟩ := by
        rcases hpc with hpc | hpc <;> simp only [CreateCall.request, hpc]
      rw [hvms, hspec, hrequest, ← hid] at hvm'
      rw [served_started hok hvm'] at hphase
      cases hphase
    · have htrue : o.truthful = true := by simpa [looksUpTruth, hc, hkey, hpc] using hl.lookup
      obtain ⟨vm, hvm, hsame, _⟩ := truthful_status htrue hrs
      have hrequest : c.request s o = none := by simp only [CreateCall.request, hpc]
      rw [hvms, hspec, hrequest] at hvm'
      obtain rfl := Option.some.inj (hvm.symm.trans hvm')
      rw [createNext_found_created hpc hrs (hsame.trans hphase)] at hstarted
      cases hstarted

/-- A step whose restarts go cleanly leaves a micro-VM unstarted only within a restart. -/
theorem step_booted (h : Booted key s) (hl : RestartsClean key s l)
    (hstep : step s l = some s') : Booted key s' where
  bound := step_bound h.bound hl.keeps hstep
  creating := fun _ _ hc' hkey hstarted hvm' => h.step_creating hl hstep hc' hkey hstarted hvm'
  tracked := by
    intro st' vm' hst' hlive' hvm' hphase
    cases hst : s.pods key with
    | some st =>
      have hevolves := step_evolves_to h.bound hstep hst hst'
      exact h.step_tracked hl hstep hst hevolves hlive' hvm' hphase
    | none =>
      obtain ⟨c, o, rfl, hc, hkey, ⟨hpc, rfl⟩ | ⟨_, _, _, rfl⟩⟩ := step_born hstep hst hst'
      · have hvms : s'.vms = s.vms := by
          rw [step_runtime hstep, runtimeCall, hc, Option.bind_some]
          simp only [CreateCall.request, hpc, VMTable.served]
        rw [hvms, (committed_sameCore s c o).spec] at hvm'
        exact absurd hphase (h.creating c vm' hc hkey (by rw [hpc]; rfl) hvm')
      · cases hlive'

end Booted

/-- Over every run in which calls that fail have no effect, lookups are truthful and a
restart whose `Start` failed gets its micro-VM destroyed: whenever no restart of a
Pod under Always is in flight, a truthful read that finds its workload absent,
created, stopped or failed schedules one. -/
theorem down_workload_gets_restart {podNet : Bool} {hostIP : String} {base : Int}
    {ipam : Option PodIPAM} {vms : VMTable} {nextInst : Nat} {key : String} {ls : List Label}
    {s : Sys}
    (hrun : Run step (RestartsClean key) (Sys.fresh podNet hostIP base ipam vms nextInst) ls s)
    {st : PodState} (hst : s.pods key = some st) (hpolicy : st.restartPolicy = .always)
    (hidle : ∀ t ∈ s.restarts, t.key ≠ key) {o : Outcome} {shown : Bool}
    (ho : o.status = .actual shown) (hdown : ∀ vm, s.vms st.spec.name = some vm →
      vm.phase = .created ∨ vm.phase = .stopped ∨ vm.phase = .failed) :
    ∃ backoff, (s.read st o).2 = [⟨st.spec.name, backoff⟩] := by
  have h : Booted key s ∧ Backed key s :=
    hrun.invariant (I := fun s => Booted key s ∧ Backed key s)
      ⟨⟨fresh_bound podNet hostIP base ipam vms nextInst key, fun _ _ h => (by cases h),
        fun _ _ h => (by cases h)⟩, fun _ h => (by cases h), fun _ h => (by cases h)⟩
      fun h hl hstep => ⟨step_booted h.1 hl hstep, step_backed h.1.bound h.2 hstep⟩
  obtain ⟨hbooted, hbacked⟩ := h
  have hlive : st.terminalStatus = none :=
    (run_failuresFinal (fun _ _ hl => hl.keeps) hrun).live hst (by rw [hpolicy]; rfl)
  have hflag : st.restarting = false := by
    by_contra hraised
    obtain ⟨t, ht, hkey⟩ := hbacked.flag st hst (by simpa using hraised)
    exact hidle t ht hkey
  rcases hbooted.bound.settled st hst with ⟨x, hx⟩ | ⟨_, hfailed, _, _⟩
  · have hasks : asksRestart st.restartPolicy (s.vms.status st.spec.name o.status) = true := by
      rw [ho, hpolicy]
      cases hvm : s.vms st.spec.name with
      | none => simp [VMTable.status, hvm, asksRestart, RuntimeError.isNotFound, shouldRestart]
      | some vm =>
        have hended : vm.phase = .stopped ∨ vm.phase = .failed := by
          rcases hdown vm hvm with hcreated | hended
          · obtain ⟨t, ht, hkey, _⟩ := hbooted.tracked st vm hst hlive hvm hcreated
            exact absurd hkey (hidle t ht)
          · exact hended
        simp [VMTable.status, hvm, asksRestart, VMStatus.ended, VM.status, shouldRestart, hended]
    have hlaunched := hx.launched hlive s.hostIP s.restartBackoffBase
      fun id => s.vms.status id o.status
    rw [if_pos ⟨hasks, hflag⟩] at hlaunched
    exact ⟨_, hlaunched⟩
  · rw [hlive] at hfailed
    cases hfailed

namespace RestartWitness

open Sample

def refused : Outcome := { Outcome.ok with fault := some ⟨.other "runtime" "busy", false⟩ }

def ended : List Label :=
  createPod web "192.168.64.5" ++ [.vmExit webID false 1, .status "default/web" .ok]

def leftCreated : List Label :=
  ended ++ List.replicate 5 (.restart 0 (okAt "192.168.64.6")) ++
    List.replicate 2 (.restart 0 refused) ++ [.restart 0 .ok]

/-- The Pod is tracked under Always without a restart in flight, its workload is in
this phase, and a read launches so many restarts. -/
def idleWith (phase : VMPhase) (launches : Nat) (s : Sys) : Bool :=
  s.restarts.isEmpty && (s.pods "default/web").any fun st => st.restartPolicy = .always &&
    (s.vms st.spec.name).any (fun vm => vm.phase = phase) &&
    (s.read st .ok).2.length = launches

theorem idleWith_spec {phase : VMPhase} {launches : Nat} {s : Sys}
    (h : idleWith phase launches s = true) :
    (∀ t ∈ s.restarts, t.key ≠ "default/web") ∧ ∃ st vm, s.pods "default/web" = some st ∧
      st.restartPolicy = .always ∧ s.vms st.spec.name = some vm ∧ vm.phase = phase ∧
      (s.read st .ok).2.length = launches := by
  simp only [idleWith, Bool.and_eq_true, Option.any_eq_true, List.isEmpty_iff,
    decide_eq_true_eq] at h
  obtain ⟨hnone, st, hst, ⟨hpolicy, vm, hvm, hphase⟩, hlaunches⟩ := h
  refine ⟨fun t ht => ?_, st, vm, hst, hpolicy, hvm, hphase, hlaunches⟩
  rw [hnone] at ht
  cases ht

end RestartWitness

open RestartWitness Sample in
/-- A workload that has ended, before its end was read. -/
theorem down_workload_gets_restart_stopped : ∃ (s : Sys) (st : PodState),
    s.pods "default/web" = some st ∧
      ∃ backoff, (s.read st .ok).2 = [⟨st.spec.name, backoff⟩] := by
  have hexec : ∃ s, Run step (RestartsClean "default/web") node
      (createPod web "192.168.64.5" ++ [.vmExit webID false 1]) s ∧
      idleWith .stopped 1 s = true := by
    refine exists_run_of_check (fun s l => keepsKey "default/web" l && ownsVM "default/web" s l &&
      runtimeFailsClean s l && halfDestroyed "default/web" s l &&
      looksUpTruth "default/web" s l) ?_ (by decide +kernel)
    intro s l hl
    simp only [Bool.and_eq_true] at hl
    exact ⟨hl.1.1.1.1, hl.1.1.1.2, hl.1.1.2, hl.1.2, hl.2⟩
  obtain ⟨s, hrun, hcheck⟩ := hexec
  obtain ⟨hidle, st, vm, hst, hpolicy, hvm, hphase, _⟩ := idleWith_spec hcheck
  refine ⟨s, st, hst, down_workload_gets_restart hrun hst hpolicy hidle rfl fun vm' hvm' => ?_⟩
  obtain rfl := Option.some.inj (hvm.symm.trans hvm')
  exact Or.inr (Or.inl hphase)

open RestartWitness Sample in
/-- A restart that can neither start nor destroy its new micro-VM leaves the Pod
stuck: no read schedules another restart. -/
theorem failed_restart_leaves_pod_stuck :
    ¬ ∀ (podNet : Bool) (hostIP : String) (base : Int) (ipam : Option PodIPAM) (vms : VMTable)
      (nextInst : Nat) (key : String) (ls : List Label) (s : Sys),
      Run step (fun s l => keepsKey key l = true ∧ ownsVM key s l = true ∧
          runtimeFailsClean s l = true ∧ looksUpTruth key s l = true)
        (Sys.fresh podNet hostIP base ipam vms nextInst) ls s →
      ∀ st : PodState, s.pods key = some st → st.restartPolicy = .always →
      (∀ t ∈ s.restarts, t.key ≠ key) →
      ∀ (o : Outcome) (shown : Bool), o.status = .actual shown →
      (∀ vm, s.vms st.spec.name = some vm →
        vm.phase = .created ∨ vm.phase = .stopped ∨ vm.phase = .failed) →
      ∃ backoff, (s.read st o).2 = [⟨st.spec.name, backoff⟩] := by
  intro hall
  have hexec : ∃ s, Run step (fun s l => keepsKey "default/web" l = true ∧
      ownsVM "default/web" s l = true ∧ runtimeFailsClean s l = true ∧
      looksUpTruth "default/web" s l = true) node leftCreated s ∧
      idleWith .created 0 s = true := by
    refine exists_run_of_check (fun s l => keepsKey "default/web" l && (ownsVM "default/web" s l &&
      (runtimeFailsClean s l && looksUpTruth "default/web" s l))) ?_ (by decide +kernel)
    intro s l hl
    simpa only [Bool.and_eq_true] using hl
  obtain ⟨s, hrun, hcheck⟩ := hexec
  obtain ⟨hidle, st, vm, hst, hpolicy, hvm, hphase, hnone⟩ := idleWith_spec hcheck
  obtain ⟨backoff, hone⟩ := hall _ _ _ _ _ _ _ _ s hrun st hst hpolicy hidle .ok true rfl
    fun vm' hvm' => by
      obtain rfl := Option.some.inj (hvm.symm.trans hvm')
      exact Or.inl hphase
  rw [hone] at hnone
  cases hnone

end MacVz
