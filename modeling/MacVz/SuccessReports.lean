/-
Where a report of phase Succeeded comes from.  A terminated container with exit
code 0 is read off the runtime, replayed from the status recorded before, or made
up for a workload that has vanished under a policy that does not restart it.
-/
import MacVz.PhaseReports

namespace MacVz

open Interleaving

/-- What the runtime answers about the workload of the Pod when its status is read,
or first read at the end of its creation, with the policy it is judged by.  A Pod that was
given up is not asked about. -/
def readAnswer (key : String) (s : Sys) :
    Label → Option (RestartPolicy × Except RuntimeError VMStatus)
  | .status other o =>
    if other = key then
      (s.pods key).bind fun st =>
        if st.terminalStatus = none then
          some (st.restartPolicy, s.vms.status st.spec.name o.status)
        else none
    else none
  | .create o => s.creating.bind fun c =>
    if c.pod.key = key ∧ c.pc = .commit then
      some (effectiveRestartPolicy c.pod, s.vms.status c.spec.name o.status)
    else none
  | _ => none

def cleanExit : RestartPolicy × Except RuntimeError VMStatus → Bool
  | (_, .ok rs) => rs.phase = .stopped && rs.exitCode = 0
  | (_, .error _) => false

/-- At this step the runtime reports the workload of the Pod as stopped with exit
code 0. -/
def reportsCleanExit (key : String) (s : Sys) (l : Label) : Bool :=
  (readAnswer key s l).any cleanExit

/-- The answer says how the workload ended: it has not vanished where that is not a
reason to restart it, and its exit code is not cut down to 0. -/
def tellsEnd : RestartPolicy × Except RuntimeError VMStatus → Bool
  | (policy, .error e) => shouldRestart policy 1 || !e.isNotFound
  | (_, .ok rs) => rs.phase ≠ .stopped || wrap32 rs.exitCode ≠ 0 || rs.exitCode = 0

def PodStatus.unfinished (status : PodStatus) : Bool :=
  status.containerStatuses.all fun cs => cs.state.phase ≠ .succeeded

def arrivesUnfinished (key : String) : Label → Bool
  | .createBegin pod => pod.key ≠ key || pod.status.unfinished
  | _ => true

/-- The key is not deleted, and every answer about its workload tells its end. -/
structure EndsKnown (key : String) (s : Sys) (l : Label) : Prop where
  keeps : keepsKey key l = true
  tells : (readAnswer key s l).all tellsEnd = true
  arrives : arrivesUnfinished key l = true

section Succeeded

variable {st : PodState} {x : Container}

/-- A reported success is a clean exit, or was reported before. -/
theorem readEntry_succeeded {id : String} {answer : Except RuntimeError VMStatus}
    (htells : tellsEnd (st.restartPolicy, answer) = true)
    (h : (readEntry st x id answer).state.phase = .succeeded) :
    cleanExit (st.restartPolicy, answer) = true ∨ st.status.unfinished = false := by
  cases hasks : asksRestart st.restartPolicy answer with
  | true =>
    rw [readEntry_asks hasks] at h
    cases h
  | false =>
    rw [readEntry_plain hasks] at h
    cases answer with
    | ok rs =>
      left
      have hphase := (containerStatus_phase x id rs).symm.trans h
      cases hstopped : rs.phase with
      | stopped =>
        rw [hstopped] at hphase
        dsimp only at hphase
        split at hphase
        · rename_i hwrap
          simpa [tellsEnd, cleanExit, hstopped, hwrap] using htells
        · cases hphase
      | _ =>
        rw [hstopped] at hphase
        cases hphase
    | error e =>
      right
      cases hfound : e.isNotFound with
      | true =>
        rw [asksRestart, hfound, Bool.true_and] at hasks
        simp [tellsEnd, hfound, hasks] at htells
      | false =>
        rw [plainEntry, hfound, if_neg Bool.false_ne_true] at h
        cases hprev : previousContainerStatus st.status x.name with
        | none =>
          rw [hprev] at h
          cases h
        | some prev =>
          rw [hprev, Option.getD_some] at h
          simp only [PodStatus.unfinished, List.all_eq_false]
          exact ⟨prev, List.mem_of_find?_eq_some hprev, by simp [h]⟩

/-- A read that reports success, or records it, has just seen a clean exit or
replays one. -/
theorem Running.read_succeeded (hx : Running st x) (hlive : st.terminalStatus = none) (s : Sys)
    (o : Outcome) (htells : tellsEnd (st.restartPolicy, s.vms.status st.spec.name o.status) = true)
    (h : (s.read st o).1.status.phase = .succeeded ∨ (s.read st o).1.status.unfinished = false) :
    cleanExit (st.restartPolicy, s.vms.status st.spec.name o.status) = true ∨
      st.status.unfinished = false := by
  obtain ⟨hphase, cs, hone, _, hstate, _⟩ :=
    hx.status_entry hlive s.hostIP s.restartBackoffBase fun id => s.vms.status id o.status
  apply readEntry_succeeded (x := x) htells
  rcases h with h | h
  · exact hphase.symm.trans h
  · change PodStatus.unfinished (reconcileStatus _ _ _ st).1 = false at h
    rw [PodStatus.unfinished, hone] at h
    rw [← hstate]
    simpa using h

end Succeeded

/-- A success recorded for the Pod follows a clean exit that was reported. -/
structure Explained (key : String) (start : Sys) (ls : List Label) (s : Sys) : Prop where
  bound : Bound key s
  arrived : ∀ c, s.creating = some c → c.pod.key = key → c.pod.status.unfinished = true
  recorded : ∀ st, s.pods key = some st → st.terminalStatus = none →
    st.status.unfinished = false →
    Happened step (fun s l => reportsCleanExit key s l = true) start ls

section Explained

variable {s : Sys} {key : String} {start : Sys} {ls : List Label} {l : Label}

/-- A read that reports success is explained by a clean exit in the run. -/
theorem Explained.read (h : Explained key start ls s) (hrun : Run step (EndsKnown key) start ls s)
    {st : PodState} (hst : s.pods key = some st) (hlive : st.terminalStatus = none) {o : Outcome}
    (hl : EndsKnown key s (.status key o)) (hsucceeded : (s.read st o).1.status.phase = .succeeded ∨
      (s.read st o).1.status.unfinished = false) :
    Happened step (fun s l => reportsCleanExit key s l = true) start (ls ++ [.status key o]) := by
  have hanswer : readAnswer key s (.status key o) =
      some (st.restartPolicy, s.vms.status st.spec.name o.status) := by
    simp [readAnswer, hst, hlive]
  have htells := hl.tells
  rw [hanswer] at htells
  rcases h.bound.settled st hst with ⟨x, hx⟩ | ⟨_, hfailed, _, _⟩
  · rcases hx.read_succeeded hlive s o htells hsucceeded with hclean | hrecorded
    · refine hrun.happened ?_
      simp only [reportsCleanExit, hanswer, Option.any_some, hclean]
    · exact (h.recorded st hst hlive hrecorded).append _
  · rw [hlive] at hfailed
    cases hfailed

/-- A step keeps a reported success explained by a clean exit. -/
theorem step_explained {s' : Sys} (h : Explained key start ls s)
    (hrun : Run step (EndsKnown key) start ls s) (hl : EndsKnown key s l)
    (hstep : step s l = some s') : Explained key start (ls ++ [l]) s' where
  bound := step_bound h.bound hl.keeps hstep
  arrived := by
    intro c' hc' hkey
    rcases step_creating hstep hc' with ⟨hc, _⟩ | ⟨pod, rfl, rfl⟩ | ⟨c, o, _, hc, rfl⟩
    · exact h.arrived c' hc hkey
    · have hpod : pod.key = key := hkey
      have harrives := hl.arrives
      rw [arrivesUnfinished] at harrives
      change pod.status.unfinished = true
      simpa [hpod] using harrives
    · rw [(createNext_move s c o).pod_eq] at hkey ⊢
      exact h.arrived c hc hkey
  recorded := by
    intro st' hst' hlive' hdone
    rcases step_status h.bound hstep hst' hlive' with ⟨st, hst, hlive, hsame⟩ |
      ⟨st, o, rfl, hst, hlive, hread⟩ | ⟨c, o, rfl, hc, hkey, hpc, _, hread, _⟩
    · rw [hsame] at hdone
      exact (h.recorded st hst hlive hdone).append _
    · rw [hread] at hdone
      exact h.read hrun hst hlive hl (Or.inr hdone)
    · -- the first status: what the Pod arrived with has not succeeded
      have hanswer : readAnswer key s (.create o) =
          some (effectiveRestartPolicy c.pod, s.vms.status c.spec.name o.status) := by
        simp [readAnswer, hc, hkey, hpc]
      have htells := hl.tells
      rw [hanswer] at htells
      obtain ⟨x, hx⟩ := (h.bound.placed c hc hkey).running hpc
      rw [hread] at hdone
      rcases hx.read_succeeded rfl s o htells (Or.inr hdone) with hclean | hrecorded
      · refine hrun.happened ?_
        simp only [reportsCleanExit, hanswer, Option.any_some]
        exact hclean
      · have harrived := h.arrived c hc hkey
        change c.pod.status.unfinished = false at hrecorded
        rw [hrecorded] at harrived
        cases harrived

theorem fresh_explained (podNet : Bool) (hostIP : String) (base : Int) (ipam : Option PodIPAM)
    (vms : VMTable) (nextInst : Nat) (key : String) :
    Explained key (Sys.fresh podNet hostIP base ipam vms nextInst) []
      (Sys.fresh podNet hostIP base ipam vms nextInst) where
  bound := fresh_bound podNet hostIP base ipam vms nextInst key
  arrived := fun _ h => by cases h
  recorded := fun _ h => by cases h

end Explained

/-- Over every run whose answers tell how the workload of the Pod ended, a report
of phase Succeeded is made only if at that read or an earlier one the runtime
reported the workload as stopped with exit code 0. -/
theorem succeeded_report_follows_clean_exit {podNet : Bool} {hostIP : String} {base : Int}
    {ipam : Option PodIPAM} {vms : VMTable} {nextInst : Nat} {key : String} {ls : List Label}
    {s : Sys}
    (hrun : Run step (EndsKnown key) (Sys.fresh podNet hostIP base ipam vms nextInst) ls s)
    {st : PodState} (hst : s.pods key = some st) {o : Outcome}
    (ho : EndsKnown key s (.status key o))
    (hsucceeded : (s.read st o).1.status.phase = .succeeded) :
    Happened step (fun s l => reportsCleanExit key s l = true)
      (Sys.fresh podNet hostIP base ipam vms nextInst) (ls ++ [.status key o]) := by
  have h : Explained key (Sys.fresh podNet hostIP base ipam vms nextInst) ls s :=
    hrun.history (fresh_explained podNet hostIP base ipam vms nextInst key)
      fun hrun h hl hstep => step_explained h hrun hl hstep
  have hfinal := run_failuresFinal (fun _ _ hl => hl.keeps) hrun
  cases hterminal : st.terminalStatus with
  | none => exact h.read hrun hst hterminal ho (Or.inl hsucceeded)
  | some status =>
    rw [read_terminal_status s o hterminal, (hfinal st status hst hterminal).phase] at hsucceeded
    cases hsucceeded

namespace SuccessWitness

open Sample PhaseWitness

/-- The checks of `EndsKnown`. -/
def endsKnown (key : String) (s : Sys) (l : Label) : Bool :=
  keepsKey key l && (readAnswer key s l).all tellsEnd && arrivesUnfinished key l

theorem endsKnown_sound (key : String) (s : Sys) (l : Label) (h : endsKnown key s l = true) :
    EndsKnown key s l := by
  simp only [endsKnown, Bool.and_eq_true] at h
  exact ⟨h.1.1, h.1.2, h.2⟩

def reportsSuccess (s : Sys) : Bool :=
  (s.pods "default/web").any fun st => (s.read st .ok).1.status.phase = .succeeded

theorem reportsSuccess_spec {s : Sys} (h : reportsSuccess s = true) :
    ∃ st, s.pods "default/web" = some st ∧ (s.read st .ok).1.status.phase = .succeeded := by
  obtain ⟨st, hst, hphase⟩ := (Option.any_eq_true _ _).mp h
  exact ⟨st, hst, of_decide_eq_true hphase⟩

end SuccessWitness

open SuccessWitness PhaseWitness Sample in
/-- A workload that ends with exit code 0 under Never. -/
theorem succeeded_report_follows_clean_exit_completed : ∃ (s : Sys) (st : PodState),
    s.pods "default/web" = some st ∧ (s.read st .ok).1.status.phase = .succeeded ∧
      Happened step (fun s l => reportsCleanExit "default/web" s l = true) node
        (created .never ++ [.vmExit webID false 0] ++ [.status "default/web" .ok]) := by
  have hexec : ∃ s, Run step (EndsKnown "default/web") node
      (created .never ++ [.vmExit webID false 0]) s ∧
      (endsKnown "default/web" s (.status "default/web" .ok) && reportsSuccess s) = true :=
    exists_run_of_check (endsKnown "default/web") (endsKnown_sound "default/web")
      (by decide)
  obtain ⟨s, hrun, hcheck⟩ := hexec
  rw [Bool.and_eq_true] at hcheck
  obtain ⟨st, hst, hphase⟩ := reportsSuccess_spec hcheck.2
  exact ⟨s, st, hst, hphase, succeeded_report_follows_clean_exit hrun hst
    (endsKnown_sound _ _ _ hcheck.1) hphase⟩

open SuccessWitness PhaseWitness Sample in
/-- A workload that vanishes under Never is reported as Succeeded, though the
runtime never reported its exit. -/
theorem vanished_workload_reported_succeeded :
    ¬ ∀ (podNet : Bool) (hostIP : String) (base : Int) (ipam : Option PodIPAM) (vms : VMTable)
      (nextInst : Nat) (key : String) (ls : List Label) (s : Sys),
      Run step (fun _ l => keepsKey key l = true)
        (Sys.fresh podNet hostIP base ipam vms nextInst) ls s →
      ∀ st : PodState, s.pods key = some st →
      ∀ o : Outcome, (s.read st o).1.status.phase = .succeeded →
      Happened step (fun s l => reportsCleanExit key s l = true)
        (Sys.fresh podNet hostIP base ipam vms nextInst) (ls ++ [.status key o]) := by
  intro hall
  obtain ⟨s, hrun, hcheck⟩ :=
    exists_run (created .never ++ [.vmLost webID]) reportsSuccess (by decide)
  obtain ⟨st, hst, hphase⟩ := reportsSuccess_spec hcheck
  have hexec : (execWhen step (fun s l => !reportsCleanExit "default/web" s l) node
      (created .never ++ [.vmLost webID] ++ [.status "default/web" .ok])).isSome = true := by
    decide
  obtain ⟨s', hs'⟩ := Option.isSome_iff_exists.mp hexec
  refine not_happened_of_execWhen (fun s l h => ?_) hs'
    (hall _ _ _ _ _ _ _ _ s hrun st hst .ok hphase)
  simpa using h

end MacVz
