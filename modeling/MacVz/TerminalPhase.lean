/-
A Pod reported as Succeeded or Failed.  The phase is read off the runtime at each
report, so it stays only as long as the answers keep telling the same end and no
probe fails.
-/
import MacVz.PhaseReports

namespace MacVz

open Interleaving

def VMStatus.endPhase (rs : VMStatus) : PodPhase :=
  if rs.phase = .stopped ∧ wrap32 rs.exitCode = 0 then .succeeded else .failed

/-- An answer that leaves a Pod reported in this phase as it is: a transient error,
the same kind of end once more, or a workload that has vanished where a vanished
one counts as this end. -/
def keepsPhase (policy : RestartPolicy) (phase : PodPhase) :
    Except RuntimeError VMStatus → Bool
  | .error e => !e.isNotFound || (!shouldRestart policy 1 && phase = .succeeded)
  | .ok rs => rs.ended && !shouldRestart policy (exitCodeOf rs) && rs.endPhase = phase

/-- A step that leaves the Pod in the phase: it does not delete it, a read of it gets
an answer that keeps the phase, and a probe fails it only where that is the same
end. -/
def keepsEnd (key : String) (phase : PodPhase) (s : Sys) (l : Label) : Bool :=
  keepsKey key l && (s.pods key).all fun st => st.terminalStatus.isSome ||
    match l with
    | .status other o =>
      other ≠ key || keepsPhase st.restartPolicy phase (s.vms.status st.spec.name o.status)
    | l => !failsProbe key s l || (!shouldRestart st.restartPolicy 1 && phase = .failed)

section Entry

variable {st : PodState} {x : Container} {phase : PodPhase} {answer : Except RuntimeError VMStatus}

theorem keepsPhase_asks {policy : RestartPolicy} (h : keepsPhase policy phase answer = true) :
    asksRestart policy answer = false := by
  cases answer with
  | error e =>
    cases hfound : e.isNotFound with
    | false => simp [asksRestart, hfound]
    | true =>
      have hpolicy : shouldRestart policy 1 = false ∧ phase = .succeeded := by
        simpa [keepsPhase, hfound] using h
      rw [asksRestart, hpolicy.1, Bool.and_false]
  | ok rs =>
    have hkeeps : (rs.ended = true ∧ shouldRestart policy (exitCodeOf rs) = false) ∧
        rs.endPhase = phase := by simpa [keepsPhase] using h
    rw [asksRestart, hkeeps.1.2, Bool.and_false]

theorem containerStatus_endPhase (c : Container) (id : String) {rs : VMStatus}
    (h : rs.ended = true) : (containerStatus c id rs).state.phase = rs.endPhase := by
  rw [containerStatus_phase, VMStatus.endPhase]
  rw [VMStatus.ended, Bool.or_eq_true, decide_eq_true_eq, decide_eq_true_eq] at h
  rcases h with hstopped | hfailed
  · simp [hstopped]
  · simp [hfailed]

/-- An answer that keeps the phase leaves the entry's phase as recorded. -/
theorem keepsPhase_entry {cs : ContainerStatus}
    (hrecorded : previousContainerStatus st.status x.name = some cs)
    (hphase : cs.state.phase = phase) (h : keepsPhase st.restartPolicy phase answer = true)
    (id : String) : (readEntry st x id answer).state.phase = phase := by
  rw [readEntry_plain (keepsPhase_asks h)]
  cases answer with
  | error e =>
    rw [plainEntry]
    split
    · rename_i hfound
      have hsucceeded : shouldRestart st.restartPolicy 1 = false ∧ phase = .succeeded := by
        simpa [keepsPhase, hfound] using h
      rw [hsucceeded.2]
      rfl
    · rw [hrecorded, Option.getD_some, hphase]
  | ok rs =>
    have hkeeps : (rs.ended = true ∧ shouldRestart st.restartPolicy (exitCodeOf rs) = false) ∧
        rs.endPhase = phase := by simpa [keepsPhase] using h
    exact (containerStatus_endPhase x id hkeeps.1.1).trans hkeeps.2

/-- A read of a live Pod that is reported in a phase records it, and with a terminal
phase raises no flag. -/
structure Ended (phase : PodPhase) (st : PodState) : Prop where
  idle : st.restarting = false
  failed : st.terminalStatus.isSome = true → phase = .failed
  recorded : st.terminalStatus = none → ∃ x cs, Running st x ∧
    previousContainerStatus st.status x.name = some cs ∧ cs.state.phase = phase

/-- A read that asks for no restart ends the Pod in the phase it reports. -/
theorem Ended.of_read (hx : Running st x) (hlive : st.terminalStatus = none)
    (hidle : st.restarting = false) (s : Sys) (o : Outcome)
    (hasks : asksRestart st.restartPolicy (s.vms.status st.spec.name o.status) = false)
    (hphase : (readEntry st x st.spec.name
      (s.vms.status st.spec.name o.status)).state.phase = phase) :
    Ended phase (s.read st o).1 ∧ (s.read st o).1.status.phase = phase ∧
      (s.read st o).2 = [] := by
  obtain ⟨hreport, cs, _, hprevious, hstate, _⟩ :=
    hx.status_entry hlive s.hostIP s.restartBackoffBase fun id => s.vms.status id o.status
  refine ⟨⟨?_, fun hfailed => ?_, fun _ => ?_⟩, hreport.trans hphase, ?_⟩
  · by_contra hraised
    rcases read_flag s o (.running x hx) (by simpa using hraised) with hold | hnow
    · rw [hidle] at hold
      cases hold
    · rw [hasks] at hnow
      cases hnow
  · rw [read_terminal, hlive] at hfailed
    cases hfailed
  · exact ⟨x, cs, hx.kept (read_sameCore s st o).work, hprevious, by rw [hstate, hphase]⟩
  · refine (hx.launched hlive s.hostIP s.restartBackoffBase
      fun id => s.vms.status id o.status).trans ?_
    rw [hasks]
    rfl

/-- A Pod that has ended is reported in its phase by every read whose answer keeps
it. -/
theorem Ended.read (h : Ended phase st)
    (hfinal : ∀ status, st.terminalStatus = some status → status.phase = .failed)
    (s : Sys) (o : Outcome) (hkeeps : st.terminalStatus = none →
      keepsPhase st.restartPolicy phase (s.vms.status st.spec.name o.status) = true) :
    Ended phase (s.read st o).1 ∧ (s.read st o).1.status.phase = phase ∧
      (s.read st o).2 = [] := by
  cases hterminal : st.terminalStatus with
  | none =>
    obtain ⟨x, cs, hx, hprevious, hphase⟩ := h.recorded hterminal
    have hanswer := hkeeps hterminal
    exact Ended.of_read hx hterminal h.idle s o (keepsPhase_asks hanswer)
      (keepsPhase_entry hprevious hphase hanswer _)
  | some status =>
    have hread : reconcileStatus s.hostIP s.restartBackoffBase
        (fun id => s.vms.status id o.status) st = (status, st, []) := by
      unfold reconcileStatus
      rw [hterminal]
    have hfailed := h.failed (by rw [hterminal]; rfl)
    unfold Sys.read
    rw [hread]
    refine ⟨⟨h.idle, fun _ => hfailed, fun hlive => ?_⟩,
      (hfinal status hterminal).trans hfailed.symm, rfl⟩
    rw [hterminal] at hlive
    cases hlive

end Entry

/-- The invariant over runs: the Pod has ended in the phase. -/
structure Rests (key : String) (phase : PodPhase) (s : Sys) : Prop where
  bound : Bound key s
  final : FailuresFinal key s
  ended : ∃ st, s.pods key = some st ∧ Ended phase st

section Rests

variable {s s' : Sys} {key : String} {phase : PodPhase} {l : Label} {o : Outcome}

theorem keepsEnd_status {st : PodState} (hst : s.pods key = some st)
    (hl : keepsEnd key phase s (.status key o) = true) (hlive : st.terminalStatus = none) :
    keepsPhase st.restartPolicy phase (s.vms.status st.spec.name o.status) = true := by
  have hkeeps := (Bool.and_eq_true_iff.mp hl).2
  simpa [hst, hlive] using hkeeps

theorem keepsEnd_probe {st : PodState} (hst : s.pods key = some st)
    (hl : keepsEnd key phase s l = true) (hlive : st.terminalStatus = none)
    (hfails : failsProbe key s l = true) :
    shouldRestart st.restartPolicy 1 = false ∧ phase = .failed := by
  cases l with
  | probe place o =>
    have hkeeps := (Bool.and_eq_true_iff.mp hl).2
    simpa [hst, hlive, hfails] using hkeeps
  | _ => cases hfails

/-- An ended Pod stays ended as it evolves. -/
theorem Evolves.ended {st st' : PodState} (hevolves : Evolves key s st l st')
    (h : Rests key phase s) (hst : s.pods key = some st) (hended : Ended phase st)
    (hl : keepsEnd key phase s l = true) (hread : ∀ o, l ≠ .status key o) : Ended phase st' where
  idle := by
    by_contra hraised
    rcases hevolves.flag_cause (h.bound.settled st hst) (by simpa using hraised) with
      hold | ⟨o, heq, _⟩ | ⟨hfails, hpolicy⟩
    · rw [hended.idle] at hold
      cases hold
    · exact hread o heq
    · -- a failed Pod is under a policy that does not restart, too
      rw [(keepsEnd_probe hst hl (h.final.live hst hpolicy) hfails).1] at hpolicy
      cases hpolicy
  failed := by
    intro hfailed
    rcases hevolves.terminal_cause with hsame | ⟨hfails, _⟩
    · exact hended.failed (hsame ▸ hfailed)
    · cases hterminal : st.terminalStatus with
      | none => exact (keepsEnd_probe hst hl hterminal hfails).2
      | some status => exact hended.failed (by rw [hterminal]; rfl)
  recorded := by
    intro hlive
    obtain ⟨hbefore, hsame | ⟨o, heq, _⟩⟩ := hevolves.status_cases hlive
    · obtain ⟨x, cs, hx, hprevious, hphase⟩ := hended.recorded hbefore
      exact ⟨x, cs, hx.kept (hevolves.work h.bound hst), by rw [hsame, hprevious], hphase⟩
    · exact absurd heq (hread o)

theorem step_rests (h : Rests key phase s) (hl : keepsEnd key phase s l = true)
    (hstep : step s l = some s') : Rests key phase s' := by
  have hkeep : keepsKey key l = true := (Bool.and_eq_true_iff.mp hl).1
  refine ⟨step_bound h.bound hkeep hstep, step_failuresFinal h.bound h.final hstep, ?_⟩
  obtain ⟨st, hst, hended⟩ := h.ended
  by_cases hread : ∃ o, l = .status key o
  · obtain ⟨o, rfl⟩ := hread
    obtain rfl := Option.some.inj hstep
    refine ⟨_, locked_pods_self hst, ?_⟩
    exact (hended.read (fun status hterminal => (h.final st status hst hterminal).phase) s o
      (keepsEnd_status hst hl)).1
  · obtain ⟨st', hst', hevolves⟩ := step_evolves h.bound hkeep hstep hst
    exact ⟨st', hst', hevolves.ended h hst hended hl fun o heq => hread ⟨o, heq⟩⟩

/-- A Pod whose read reports a terminal phase rests in it. -/
theorem rests_of_report (hbound : Bound key s) (hfinal : FailuresFinal key s) {st : PodState}
    (hst : s.pods key = some st) (hidle : st.restarting = false)
    (hphase : (s.read st o).1.status.phase = phase) (hterminal : phase.terminal = true)
    (hstep : step s (.status key o) = some s') : Rests key phase s' := by
  refine ⟨step_bound hbound rfl hstep, step_failuresFinal hbound hfinal hstep, ?_⟩
  obtain rfl := Option.some.inj hstep
  refine ⟨_, locked_pods_self hst, ?_⟩
  cases hfailed : st.terminalStatus with
  | some status =>
    have heq : phase = .failed := by
      rw [← hphase, read_terminal_status s o hfailed, (hfinal st status hst hfailed).phase]
    have hended : Ended phase st :=
      ⟨hidle, fun _ => heq, fun hlive => by rw [hfailed] at hlive; cases hlive⟩
    exact (hended.read (fun status h => (hfinal st status hst h).phase) s o
      fun hlive => by rw [hfailed] at hlive; cases hlive).1
  | none =>
    rcases hbound.settled st hst with ⟨x, hx⟩ | ⟨_, hsome, _, _⟩
    · have hentry := (hx.status_entry hfailed s.hostIP s.restartBackoffBase
        fun id => s.vms.status id o.status).1
      have hreport := hentry.symm.trans hphase
      refine (Ended.of_read hx hfailed hidle s o ?_ hreport).1
      -- a container that is to be restarted is reported as pending
      by_contra hasks
      rw [readEntry_asks (by simpa using hasks)] at hreport
      rw [← hreport] at hterminal
      cases hterminal
    · rw [hfailed] at hsome
      cases hsome

end Rests

/-- Once a Pod without a restart in flight was reported as Succeeded or Failed: over
every run whose later answers keep telling that end, and in which no probe fails
the Pod in another way, every report has the same phase and no restart of the Pod
is ever scheduled. -/
theorem terminal_phase_stays {podNet : Bool} {hostIP : String} {base : Int} {ipam : Option PodIPAM}
    {vms : VMTable} {nextInst : Nat} {key : String} {ls ms : List Label} {s s₁ s₂ : Sys}
    (hrun : Run step (fun _ l => keepsKey key l = true)
      (Sys.fresh podNet hostIP base ipam vms nextInst) ls s) {st : PodState}
    (hst : s.pods key = some st) (hidle : st.restarting = false) {o : Outcome} {phase : PodPhase}
    (hphase : (s.read st o).1.status.phase = phase)
    (hterminal : phase = .succeeded ∨ phase = .failed) (hstep : step s (.status key o) = some s₁)
    (hafter : Run step (fun s l => keepsEnd key phase s l = true) s₁ ms s₂) :
    ∃ st₂, s₂.pods key = some st₂ ∧ (∀ t ∈ s₂.restarts, t.key ≠ key) ∧
      ∀ o₂, keepsEnd key phase s₂ (.status key o₂) = true →
        (s₂.read st₂ o₂).1.status.phase = phase ∧ (s₂.read st₂ o₂).2 = [] := by
  have hrests : Rests key phase s₂ :=
    hafter.invariant (rests_of_report (run_bound (fun _ _ h => h) hrun)
      (run_failuresFinal (fun _ _ h => h) hrun) hst hidle hphase
      (by rcases hterminal with rfl | rfl <;> rfl) hstep) fun h hl hs => step_rests h hl hs
  obtain ⟨st₂, hst₂, hended⟩ := hrests.ended
  refine ⟨st₂, hst₂, fun t ht hkey => ?_, fun o₂ hl => ?_⟩
  · obtain ⟨st', hst', hrestarting⟩ := hrests.bound.restart t ht hkey
    obtain rfl := Option.some.inj (hst₂.symm.trans hst')
    have hflag := hrestarting.flag
    rw [hended.idle] at hflag
    cases hflag
  · exact (hended.read (fun status h => (hrests.final st₂ status hst₂ h).phase) s₂ o₂
      (keepsEnd_status hst₂ hl)).2

namespace TerminalWitness

open Sample PhaseWitness

def reportsIdle (phase : PodPhase) (s : Sys) : Bool :=
  (s.pods "default/web").any fun st =>
    !st.restarting && (s.read st .ok).1.status.phase = phase

theorem reportsIdle_spec {phase : PodPhase} {s : Sys} (h : reportsIdle phase s = true) :
    ∃ st, s.pods "default/web" = some st ∧ st.restarting = false ∧
      (s.read st .ok).1.status.phase = phase := by
  obtain ⟨st, hst, hall⟩ := (Option.any_eq_true _ _).mp h
  rw [Bool.and_eq_true, decide_eq_true_eq, Bool.not_eq_true'] at hall
  exact ⟨st, hst, hall.1, hall.2⟩

/-- A `Status` that fails for another reason than a missing workload. -/
def unreachable : Outcome :=
  { Outcome.ok with status := .given (.error (.other "status" "timeout")) }

end TerminalWitness

open TerminalWitness PhaseWitness Sample in
/-- A Pod that failed under Never stays failed through a transient error. -/
theorem terminal_phase_stays_failed : ∃ (s₂ : Sys) (st₂ : PodState),
    s₂.pods "default/web" = some st₂ ∧ (∀ t ∈ s₂.restarts, t.key ≠ "default/web") ∧
      (s₂.read st₂ unreachable).1.status.phase = .failed ∧
      (s₂.read st₂ unreachable).2 = [] := by
  obtain ⟨s, hrun, hcheck⟩ := exists_run (created .never ++ [.vmExit webID false 1])
    (fun s => reportsIdle .failed s && ((step s (.status "default/web" .ok)).bind fun s₁ =>
      execWhen step (keepsEnd "default/web" .failed) s₁
        [.status "default/web" unreachable]).any fun s₂ =>
          keepsEnd "default/web" .failed s₂ (.status "default/web" unreachable))
    (by decide)
  rw [Bool.and_eq_true, Option.any_eq_true] at hcheck
  obtain ⟨hreports, s₂, hs₂, hkeeps⟩ := hcheck
  obtain ⟨st, hst, hidle, hphase⟩ := reportsIdle_spec hreports
  obtain ⟨s₁, hstep, hexec⟩ := Option.bind_eq_some_iff.mp hs₂
  obtain ⟨st₂, hst₂, hnone, hreport⟩ := terminal_phase_stays hrun hst hidle hphase
    (Or.inr rfl) hstep (run_of_execWhen (fun _ _ h => h) hexec)
  exact ⟨s₂, st₂, hst₂, hnone, hreport unreachable hkeeps⟩

open TerminalWitness PhaseWitness Sample in
/-- A Pod that was reported as Failed is reported as Succeeded once its micro-VM is
gone. -/
theorem failed_pod_reported_succeeded_later :
    ¬ ∀ (podNet : Bool) (hostIP : String) (base : Int) (ipam : Option PodIPAM) (vms : VMTable)
      (nextInst : Nat) (key : String) (ls ms : List Label) (s s₁ s₂ : Sys),
      Run step (fun _ l => keepsKey key l = true)
        (Sys.fresh podNet hostIP base ipam vms nextInst) ls s →
      ∀ st : PodState, s.pods key = some st →
      ∀ (o : Outcome) (phase : PodPhase), (s.read st o).1.status.phase = phase →
      (phase = .succeeded ∨ phase = .failed) → step s (.status key o) = some s₁ →
      Run step (fun _ l => keepsKey key l = true) s₁ ms s₂ →
      ∃ st₂, s₂.pods key = some st₂ ∧ (∀ t ∈ s₂.restarts, t.key ≠ key) ∧
        ∀ o₂, (s₂.read st₂ o₂).1.status.phase = phase ∧ (s₂.read st₂ o₂).2 = [] := by
  intro hall
  obtain ⟨s, hrun, hcheck⟩ := exists_run (created .never ++ [.vmExit webID false 1])
    (fun s => reportsIdle .failed s && ((step s (.status "default/web" .ok)).bind fun s₁ =>
      execWhen step (fun _ l => keepsKey "default/web" l) s₁ [.vmLost webID]).any
        (reportsIdle .succeeded))
    (by decide)
  rw [Bool.and_eq_true, Option.any_eq_true] at hcheck
  obtain ⟨hreports, s₂, hs₂, hlater⟩ := hcheck
  obtain ⟨st, hst, _, hphase⟩ := reportsIdle_spec hreports
  obtain ⟨s₁, hstep, hexec⟩ := Option.bind_eq_some_iff.mp hs₂
  obtain ⟨st₂, hst₂, _, hreport⟩ := hall _ _ _ _ _ _ _ _ _ s s₁ s₂ hrun st hst .ok _ hphase
    (Or.inr rfl) hstep (run_of_execWhen (fun _ _ h => h) hexec)
  obtain ⟨st₃, hst₃, _, hsucceeded⟩ := reportsIdle_spec hlater
  obtain rfl := Option.some.inj (hst₂.symm.trans hst₃)
  rw [(hreport .ok).1] at hsucceeded
  cases hsucceeded

/-- Over every run in which the Pod is not deleted, a status it has been given up with says Failed
and counts no restart, and the policy stored with it does not restart after a failure. -/
theorem given_up_pod_failed {podNet : Bool} {hostIP : String} {base : Int} {ipam : Option PodIPAM}
    {vms : VMTable} {nextInst : Nat} {key : String} {ls : List Label} {s : Sys}
    (hrun : Run step (fun _ l => keepsKey key l = true)
      (Sys.fresh podNet hostIP base ipam vms nextInst) ls s) {st : PodState} {status : PodStatus}
    (hst : s.pods key = some st) (hterminal : st.terminalStatus = some status) :
    status.phase = .failed ∧ (∀ cs ∈ status.containerStatuses, cs.restartCount = 0) ∧
      shouldRestart st.restartPolicy 1 = false := by
  have hfailed := run_failuresFinal (fun _ _ h => h) hrun st status hst hterminal
  exact ⟨hfailed.phase, hfailed.counts, hfailed.policy⟩

open PhaseWitness Sample in
/-- A Pod that asks for the network of the host is given up at its creation. -/
theorem given_up_pod_failed_unsupported : ∃ (s : Sys) (st : PodState) (status : PodStatus),
    Run step (fun _ l => keepsKey "default/web" l = true) node
      (.createBegin { web with hostNetwork := true } :: List.replicate 3 (.create .ok)) s ∧
    s.pods "default/web" = some st ∧ st.terminalStatus = some status ∧
    status.reason = "UnsupportedPodSpec" ∧ status.phase = .failed := by
  have hexec : ∃ s, Run step (fun _ l => keepsKey "default/web" l = true) node
      (.createBegin { web with hostNetwork := true } :: List.replicate 3 (.create .ok)) s ∧
      ((s.pods "default/web").any fun st => st.terminalStatus.any fun status =>
        status.reason = "UnsupportedPodSpec") = true :=
    exists_run_of_check (fun _ l => keepsKey "default/web" l) (fun _ _ h => h) (by decide)
  obtain ⟨s, hrun, hcheck⟩ := hexec
  obtain ⟨st, hst, hcheck⟩ := (Option.any_eq_true _ _).mp hcheck
  obtain ⟨status, hterminal, hreason⟩ := (Option.any_eq_true _ _).mp hcheck
  exact ⟨s, st, status, hrun, hst, hterminal, of_decide_eq_true hreason,
    (given_up_pod_failed hrun hst hterminal).1⟩

end MacVz
