/-
The status stored for a tracked Pod over a run: it is the latest read, so what
every read can report is what every stored status holds.
-/
import MacVz.Evolution
import MacVz.StatusReading
import MacVz.StepConditions

namespace MacVz

open Interleaving

section Evolution

variable {s : Sys} {key : String} {l : Label} {st st' : PodState}

theorem Evolves.policy (h : Evolves key s st l st') : st'.restartPolicy = st.restartPolicy := by
  cases h with
  | same => rfl
  | read o => exact (read_sameCore s st o).restartPolicy
  | snapshot place o t _ _ _ => exact (snapshotUpdate_sameCore st).restartPolicy
  | finish place o t _ _ _ =>
    rw [finished_eq]
    split <;> rfl
  | unsupported place o p _ _ _ _ _ => exact (setProbeUpdate_sameCore _ st).restartPolicy
  | act place o p ok _ _ _ => exact (actUpdate_acts _ _ _ st).sameCore.restartPolicy

/-- The attempt just counted makes the prober fail the container. -/
def Prober.fails (p : Prober) (ok : Bool) : Bool :=
  !ok && p.kind ≠ .readiness && p.failureThreshold ≤ p.failures

/-- A failed probe is final only under a policy that does not restart, and asks for a restart
under one that does. -/
theorem actUpdate_policy (p : Prober) (base : Int) (ok : Bool) (st : PodState) :
    ((p.actUpdate base ok st).st.terminalStatus = st.terminalStatus ∨
        p.fails ok = true ∧ shouldRestart st.restartPolicy 1 = false) ∧
      ((p.actUpdate base ok st).st.restarting = st.restarting ∨
        p.fails ok = true ∧ shouldRestart st.restartPolicy 1 = true) ∧
      (p.actUpdate base ok st).st.restarts = st.restarts := by
  have hacts := actUpdate_acts p base ok st
  generalize p.actUpdate base ok st = u at hacts ⊢
  have hfails : ok = false → p.failureThreshold ≤ p.failures → p.kind ≠ .readiness →
      p.fails ok = true := by
    intro hok hreached hkind
    simp [Prober.fails, hok, hreached, hkind]
  cases hacts with
  | restart hok hreached hkind _ hpolicy _ =>
    exact ⟨Or.inl rfl, Or.inr ⟨hfails hok hreached hkind, hpolicy⟩, rfl⟩
  | fail hok hreached hkind _ hpolicy =>
    exact ⟨Or.inr ⟨hfails hok hreached hkind, hpolicy⟩, Or.inl rfl, rfl⟩
  | _ => exact ⟨Or.inl rfl, Or.inl rfl, rfl⟩

/-- The step ends the Pod for a failed probe. -/
def failsProbe (key : String) (s : Sys) : Label → Bool
  | .probe place _ => (s.probers[place]?).any fun p => p.key = key &&
      match p.pc with
      | .act ok => (p.count ok).fails ok
      | _ => false
  | _ => false

/-- A Pod fails for good when a probe fails, and only under a policy that does not
restart. -/
theorem Evolves.terminal_cause (h : Evolves key s st l st') :
    st'.terminalStatus = st.terminalStatus ∨
      failsProbe key s l = true ∧ shouldRestart st.restartPolicy 1 = false := by
  cases h with
  | same => exact Or.inl rfl
  | read o => exact Or.inl (read_terminal s st o)
  | snapshot place o t _ _ _ => exact Or.inl (snapshotUpdate_terminal st)
  | finish place o t _ _ _ => exact Or.inl (finished_terminal t s st)
  | unsupported place o p _ _ _ _ _ => exact Or.inl rfl
  | act place o p ok hp hkey hpc =>
    rcases (actUpdate_policy (p.count ok) s.restartBackoffBase ok st).1 with hsame | hfails
    · exact Or.inl hsame
    · refine Or.inr ⟨?_, hfails.2⟩
      simpa [failsProbe, hp, hkey, hpc] using hfails.1

/-- A read raises the restarting flag only where the answer asks for a restart. -/
theorem read_flag (s : Sys) (o : Outcome) (h : Settled st)
    (hflag : (s.read st o).1.restarting = true) : st.restarting = true ∨
      asksRestart st.restartPolicy (s.vms.status st.spec.name o.status) = true := by
  have hreads := reconcileStatus_reads s.hostIP s.restartBackoffBase
    (fun id => s.vms.status id o.status) st
  rcases hreads.launch with ⟨hsame, _⟩ | ⟨_, _, w, hw, backoff, hlaunched⟩
  · exact Or.inl (hsame.symm.trans hflag)
  · rcases h with ⟨x, hx⟩ | ⟨hempty, _⟩
    · cases hterminal : st.terminalStatus with
      | some status =>
        unfold reconcileStatus at hlaunched
        simp [hterminal] at hlaunched
      | none =>
        rw [hx.launched hterminal] at hlaunched
        split at hlaunched
        · rename_i hasks
          exact Or.inr hasks.1
        · cases hlaunched
    · rw [hempty] at hw
      cases hw

theorem shouldRestart_of_asks {policy : RestartPolicy} {answer : Except RuntimeError VMStatus}
    (h : asksRestart policy answer = true) : ∃ code, shouldRestart policy code = true := by
  cases answer with
  | error e =>
    rw [asksRestart, Bool.and_eq_true] at h
    exact ⟨1, h.2⟩
  | ok rs =>
    rw [asksRestart, Bool.and_eq_true] at h
    exact ⟨exitCodeOf rs, h.2⟩

/-- The flag is raised by a read whose answer calls for a restart, or by a probe that
fails under a policy that restarts. -/
theorem Evolves.flag_cause (h : Evolves key s st l st') (hsettled : Settled st)
    (hflag : st'.restarting = true) : st.restarting = true ∨
      (∃ o, l = .status key o ∧
        asksRestart st.restartPolicy (s.vms.status st.spec.name o.status) = true) ∨
      failsProbe key s l = true ∧ shouldRestart st.restartPolicy 1 = true := by
  cases h with
  | same => exact Or.inl hflag
  | read o =>
    rcases read_flag s o hsettled hflag with hold | hasks
    · exact Or.inl hold
    · exact Or.inr (Or.inl ⟨o, rfl, hasks⟩)
  | snapshot place o t _ _ _ =>
    unfold snapshotUpdate at hflag
    split at hflag
    · cases hflag
    · exact Or.inl hflag
  | finish place o t _ _ _ =>
    rw [finished_eq] at hflag
    split at hflag <;> cases hflag
  | unsupported place o p _ _ _ _ _ => exact Or.inl hflag
  | act place o p ok hp hkey hpc =>
    rcases (actUpdate_policy (p.count ok) s.restartBackoffBase ok st).2.1 with hsame | hfails
    · exact Or.inl (hsame.symm.trans hflag)
    · refine Or.inr (Or.inr ⟨?_, hfails.2⟩)
      simpa [failsProbe, hp, hkey, hpc] using hfails.1

theorem Evolves.flag_policy (h : Evolves key s st l st') (hsettled : Settled st)
    (hflag : st'.restarting = true) :
    st.restarting = true ∨ ∃ code, shouldRestart st.restartPolicy code = true := by
  rcases h.flag_cause hsettled hflag with hold | ⟨o, _, hasks⟩ | ⟨_, hpolicy⟩
  · exact Or.inl hold
  · exact Or.inr (shouldRestart_of_asks hasks)
  · exact Or.inr ⟨1, hpolicy⟩

theorem Evolves.restarts_cases (h : Evolves key s st l st') : st'.restarts = st.restarts ∨
    ∃ t o, Moves s l t o ∧ t.key = key := by
  cases h with
  | same => exact Or.inl rfl
  | read o =>
    have hreads := reconcileStatus_reads s.hostIP s.restartBackoffBase
      (fun id => s.vms.status id o.status) st
    left
    change (reconcileStatus _ _ _ st).2.1.restarts = st.restarts
    rw [hreads.state]
  | snapshot place o t ht hkey _ => exact Or.inr ⟨t, o, ⟨place, rfl, ht⟩, hkey⟩
  | finish place o t ht hkey _ => exact Or.inr ⟨t, o, ⟨place, rfl, ht⟩, hkey⟩
  | unsupported place o p _ _ _ _ _ => exact Or.inl rfl
  | act place o p ok _ _ _ => exact Or.inl (actUpdate_policy _ _ _ st).2.2

end Evolution

/-- The failure recorded for a Pod is one its policy does not restart after. -/
structure FailedForGood (st : PodState) (status : PodStatus) : Prop where
  policy : shouldRestart st.restartPolicy 1 = false
  phase : status.phase = .failed
  counts : ∀ cs ∈ status.containerStatuses, cs.restartCount = 0

/-- Whatever end is recorded of the Pod is a failure its policy does not restart after. -/
def FailuresFinal (key : String) (s : Sys) : Prop :=
  ∀ st status, s.pods key = some st → st.terminalStatus = some status → FailedForGood st status

/-- A step keeps a recorded failure final. -/
theorem step_failuresFinal {s s' : Sys} {key : String} {l : Label} (hbound : Bound key s)
    (h : FailuresFinal key s) (hstep : step s l = some s') : FailuresFinal key s' := by
  intro st' status hst' hterminal
  cases hst : s.pods key with
  | some st =>
    have hevolves := step_evolves_to hbound hstep hst hst'
    rcases hevolves.terminal_cases with hsame | ⟨id, hfailed⟩
    · have hold := h st status hst (hsame.symm.trans hterminal)
      exact ⟨hevolves.policy.symm ▸ hold.policy, hold.phase, hold.counts⟩
    · obtain rfl := Option.some.inj (hfailed.symm.trans hterminal)
      refine ⟨?_, rfl, fun cs hcs => ?_⟩
      · rw [hevolves.policy]
        rcases hevolves.terminal_cause with hsame | ⟨_, hpolicy⟩
        · exact (h st _ hst (hsame.symm.trans hfailed)).policy
        · exact hpolicy
      · rw [List.mem_singleton.mp hcs]
        rfl
  | none =>
    obtain ⟨c, o, _, _, _, ⟨_, rfl⟩ | ⟨_, _, _, rfl⟩⟩ := step_born hstep hst hst'
    · rw [committed_terminal] at hterminal
      cases hterminal
    · obtain rfl := Option.some.inj hterminal
      exact ⟨rfl, rfl, fun _ hcs => by cases hcs⟩

theorem FailuresFinal.live {key : String} {s : Sys} (h : FailuresFinal key s) {st : PodState}
    (hst : s.pods key = some st) (hpolicy : shouldRestart st.restartPolicy 1 = true) :
    st.terminalStatus = none := by
  cases hterminal : st.terminalStatus with
  | none => rfl
  | some status =>
    rw [(h st status hst hterminal).policy] at hpolicy
    cases hpolicy

/-- Along a run, each recorded failure is final. -/
theorem run_failuresFinal {podNet : Bool} {hostIP : String} {base : Int} {ipam : Option PodIPAM}
    {vms : VMTable} {nextInst : Nat} {key : String} {P : Sys → Label → Prop} {ls : List Label}
    {s : Sys} (hP : ∀ s l, P s l → keepsKey key l = true)
    (hrun : Run step P (Sys.fresh podNet hostIP base ipam vms nextInst) ls s) :
    FailuresFinal key s := by
  refine (hrun.invariant (I := fun s => Bound key s ∧ FailuresFinal key s)
    ⟨fresh_bound podNet hostIP base ipam vms nextInst key, ?_⟩ ?_).2
  · intro st status hst
    cases hst
  · intro s s' l h hl hstep
    exact ⟨step_bound h.1 (hP s l hl) hstep, step_failuresFinal h.1 h.2 hstep⟩

theorem read_terminal_status (s : Sys) (o : Outcome) {st : PodState} {status : PodStatus}
    (h : st.terminalStatus = some status) : (s.read st o).1.status = status := by
  change (reconcileStatus _ _ _ st).1 = status
  unfold reconcileStatus
  rw [h]

/-- The status stored for a live Pod after a step: the one stored before, or the
one just read. -/
inductive StatusFrom (key : String) (s : Sys) (l : Label) (st' : PodState) : Prop
  | kept (st : PodState) : s.pods key = some st → st.terminalStatus = none →
      st'.status = st.status → StatusFrom key s l st'
  | read (st : PodState) (o : Outcome) : l = .status key o → s.pods key = some st →
      st.terminalStatus = none → st'.status = (s.read st o).1.status → StatusFrom key s l st'
  | born (c : CreateCall) (o : Outcome) : l = .create o → s.creating = some c →
      c.pod.key = key → c.pc = .commit → s.pods key = none →
      st'.status = (s.read c.state o).1.status → SameCore c.state st' → StatusFrom key s l st'

theorem step_status {s s' : Sys} {key : String} {l : Label} (h : Bound key s)
    (hstep : step s l = some s') {st' : PodState} (hst' : s'.pods key = some st')
    (hlive : st'.terminalStatus = none) : StatusFrom key s l st' := by
  cases hst : s.pods key with
  | some st =>
    have hevolves := step_evolves_to h hstep hst hst'
    obtain ⟨hbefore, hsame | ⟨o, hl, heq⟩⟩ := hevolves.status_cases hlive
    · exact .kept st hst hbefore hsame
    · exact .read st o hl hst hbefore (by rw [heq])
  | none =>
    obtain ⟨c, o, hl, hc, hkey, ⟨hpc, rfl⟩ | ⟨_, _, _, rfl⟩⟩ := step_born hstep hst hst'
    · exact .born c o hl hc hkey hpc hst (committed_sameStatus s c o hlive).2
        (committed_sameCore s c o)
    · cases hlive

end MacVz
