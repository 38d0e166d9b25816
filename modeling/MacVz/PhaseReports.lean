/-
Which phases a Pod can be reported in, by its restart policy.  A terminated
container is reported only if the policy would leave it terminated, and what is
recorded of it is replayed only as long as that holds.
-/
import MacVz.StatusRecord

namespace MacVz

open Interleaving

variable {policy : RestartPolicy}

/-- No exit leads to a restart. -/
def RestartPolicy.Restartless (policy : RestartPolicy) : Prop :=
  ∀ code, shouldRestart policy code = false

/-- An entry the policy allows: a terminated container is one it would leave
terminated, and a container it never restarts has no restart counted. -/
structure Allowed (policy : RestartPolicy) (cs : ContainerStatus) : Prop where
  ended : ∀ code reason message id, cs.state = .terminated code reason message id →
    shouldRestart policy code = false
  count : policy.Restartless → cs.restartCount = 0

/-- Under the policy a Pod whose container has this entry is not reported in a
phase the policy rules out. -/
theorem Allowed.phase {cs : ContainerStatus} (h : Allowed policy cs) :
    (policy = .always → cs.state.phase ≠ .succeeded ∧ cs.state.phase ≠ .failed) ∧
      (policy = .onFailure → cs.state.phase ≠ .failed) := by
  cases hstate : cs.state with
  | waiting reason message => simp [ContainerState.phase]
  | running startedAt => simp [ContainerState.phase]
  | terminated code reason message id =>
    have hended := h.ended code reason message id hstate
    constructor
    · rintro rfl
      cases hended
    · rintro rfl
      have hcode : code = 0 := by simpa [shouldRestart] using hended
      simp [ContainerState.phase, hcode]

/-- What is recorded of a Pod agrees with its restart policy. -/
structure Lawful (st : PodState) : Prop where
  policy : st.workloads ≠ [] → st.restartPolicy = effectiveRestartPolicy st.pod
  recorded : st.terminalStatus = none → ∀ cs ∈ st.status.containerStatuses,
    Allowed st.restartPolicy cs
  idle : st.restartPolicy.Restartless → st.restarting = false ∧ ∀ name, st.restarts name = 0

section Lawful

variable {st : PodState} {x : Container}

theorem shouldRestart_zero (h : shouldRestart policy 1 = false) :
    shouldRestart policy 0 = false := by
  cases policy <;> first | rfl | simp [shouldRestart] at h

theorem shouldRestart_wrap32 {code : Int} (h : shouldRestart policy code = false) :
    shouldRestart policy (wrap32 code) = false := by
  cases policy with
  | onFailure =>
    obtain rfl : code = 0 := by simpa [shouldRestart] using h
    rfl
  | always => cases h
  | _ => rfl

theorem restartingStatus_allowed {count code : Int} (h : shouldRestart policy code = true)
    (x : Container) : Allowed policy (restartingStatus x count) where
  ended := fun _ _ _ _ h => by cases h
  count := by
    intro hless
    rw [hless code] at h
    cases h

/-- An entry read without a restart has a phase the restart policy allows. -/
theorem plainEntry_allowed (h : Lawful st) (hlive : st.terminalStatus = none)
    {answer : Except RuntimeError VMStatus} (hasks : asksRestart st.restartPolicy answer = false)
    (id : String) : Allowed st.restartPolicy (plainEntry st x id answer) := by
  cases answer with
  | error e =>
    rw [plainEntry]
    split
    · rename_i hfound
      refine ⟨fun code reason message id heq => ?_, fun _ => rfl⟩
      cases heq
      rw [asksRestart, hfound] at hasks
      exact shouldRestart_zero hasks
    · -- the recorded entry once more
      cases hprev : previousContainerStatus st.status x.name with
      | none => exact ⟨(fun _ _ _ _ h => by cases h), fun _ => rfl⟩
      | some prev => exact h.recorded hlive prev (List.mem_of_find?_eq_some hprev)
  | ok rs =>
    refine ⟨fun code reason message id heq => ?_, fun hless => (h.idle hless).2 x.name⟩
    change (containerStatus x _ rs).state = _ at heq
    unfold containerStatus at heq
    rw [asksRestart, VMStatus.ended, exitCodeOf] at hasks
    cases hphase : rs.phase with
    | stopped =>
      simp only [hphase] at heq hasks
      cases heq
      exact shouldRestart_wrap32 (by simpa using hasks)
    | failed =>
      simp only [hphase] at heq hasks
      cases heq
      simpa using hasks
    | _ =>
      simp only [hphase] at heq
      cases heq

/-- An entry read of a lawful Pod has a phase the restart policy allows. -/
theorem readEntry_allowed (h : Lawful st) (hlive : st.terminalStatus = none) (id : String)
    (answer : Except RuntimeError VMStatus) :
    Allowed st.restartPolicy (readEntry st x id answer) := by
  cases hasks : asksRestart st.restartPolicy answer with
  | true =>
    obtain ⟨code, hcode⟩ := shouldRestart_of_asks hasks
    rw [readEntry, if_pos hasks]
    exact restartingStatus_allowed hcode x
  | false =>
    rw [readEntry, hasks]
    exact plainEntry_allowed h hlive hasks id

/-- What a read of a lawful Pod reports of its container. -/
theorem Lawful.read (h : Lawful st) (hx : Running st x) (hlive : st.terminalStatus = none)
    (s : Sys) (o : Outcome) : ∃ cs, (s.read st o).1.status.containerStatuses = [cs] ∧
      (s.read st o).1.status.phase = cs.state.phase ∧ Allowed st.restartPolicy cs := by
  obtain ⟨hphase, cs, hone, _, hstate, hcount⟩ :=
    hx.status_entry hlive s.hostIP s.restartBackoffBase fun id => s.vms.status id o.status
  have hallowed := readEntry_allowed (x := x) h hlive st.spec.name
    (s.vms.status st.spec.name o.status)
  refine ⟨cs, hone, hphase.trans (congrArg _ hstate.symm), ?_, ?_⟩
  · rw [hstate]
    exact hallowed.ended
  · rw [hcount]
    exact hallowed.count

/-- What a read of a lawful Pod reports, by its restart policy. -/
theorem Lawful.reports (h : Lawful st) (hsettled : Settled st)
    (hfinal : ∀ status, st.terminalStatus = some status → FailedForGood st status) (s : Sys)
    (o : Outcome) : (st.restartPolicy = .always → (s.read st o).1.status.phase ≠ .succeeded ∧
        (s.read st o).1.status.phase ≠ .failed) ∧
      (st.restartPolicy = .onFailure → (s.read st o).1.status.phase ≠ .failed) ∧
      (st.restartPolicy.Restartless →
        ∀ cs ∈ (s.read st o).1.status.containerStatuses, cs.restartCount = 0) := by
  cases hterminal : st.terminalStatus with
  | some status =>
    obtain ⟨hpolicy, _, hcounts⟩ := hfinal status hterminal
    refine ⟨fun heq => ?_, fun heq => ?_, fun _ => ?_⟩
    · rw [heq] at hpolicy
      cases hpolicy
    · rw [heq] at hpolicy
      cases hpolicy
    · rw [read_terminal_status s o hterminal]
      exact hcounts
  | none =>
    rcases hsettled with ⟨x, hx⟩ | ⟨_, hfailed, _, _⟩
    · obtain ⟨cs, hone, hphase, hallowed⟩ := h.read hx hterminal s o
      rw [hphase, hone]
      refine ⟨hallowed.phase.1, hallowed.phase.2, fun hless cs' hcs' => ?_⟩
      rw [List.mem_singleton.mp hcs']
      exact hallowed.count hless
    · rw [hterminal] at hfailed
      cases hfailed

end Lawful

/-- The key is not deleted, and its Pod arrives without a status. -/
structure ArrivesBlank (key : String) (_ : Sys) (l : Label) : Prop where
  keeps : keepsKey key l = true
  blank : ∀ pod, l = .createBegin pod → pod.key = key → pod.status = .empty

/-- The invariant over runs: the Pod's tasks, its recorded end and its reports follow its policy.
-/
structure Governed (key : String) (s : Sys) : Prop where
  bound : Bound key s
  final : FailuresFinal key s
  blank : ∀ c, s.creating = some c → c.pod.key = key → c.pod.status = .empty
  lawful : ∀ st, s.pods key = some st → Lawful st

section Governed

variable {s : Sys} {key : String} {l : Label} {st st' : PodState}

/-- An evolving Pod stays lawful. -/
theorem Evolves.lawful (hevolves : Evolves key s st l st') (h : Governed key s)
    (hst : s.pods key = some st) : Lawful st' := by
  have hlawful := h.lawful st hst
  have hsettled := h.bound.settled st hst
  have hwork := hevolves.work h.bound hst
  refine ⟨?_, ?_, ?_⟩
  · rw [hwork.workloads, hwork.pod, hevolves.policy]
    exact hlawful.policy
  · intro hlive cs hcs
    rw [hevolves.policy]
    obtain ⟨hbefore, hsame | ⟨o, _, rfl⟩⟩ := hevolves.status_cases hlive
    · exact hlawful.recorded hbefore cs (hsame ▸ hcs)
    · rcases hsettled with ⟨x, hx⟩ | ⟨_, hfailed, _, _⟩
      · obtain ⟨cs', hone, _, hallowed⟩ := hlawful.read hx hbefore s o
        rw [hone, List.mem_singleton] at hcs
        rw [hcs]
        exact hallowed
      · rw [hbefore] at hfailed
        cases hfailed
  · intro hless
    rw [hevolves.policy] at hless
    obtain ⟨hflag, hcounts⟩ := hlawful.idle hless
    constructor
    · by_contra hraised
      rcases hevolves.flag_policy hsettled (by simpa using hraised) with hold | ⟨code, hcode⟩
      · rw [hflag] at hold
        cases hold
      · rw [hless code] at hcode
        cases hcode
    · rcases hevolves.restarts_cases with hsame | ⟨t, o, ⟨place, _, ht⟩, hkey⟩
      · rw [hsame]
        exact hcounts
      · -- a restart in flight has its flag raised
        obtain ⟨st₁, hst₁, hrestarting⟩ := h.bound.restart t (List.mem_of_getElem? ht) hkey
        obtain rfl := Option.some.inj (hst.symm.trans hst₁)
        rw [hrestarting.flag] at hflag
        cases hflag

theorem state_lawful {c : CreateCall} (h : c.pod.status = .empty) : Lawful c.state where
  policy := fun _ => rfl
  recorded := by
    intro _ cs hcs
    change cs ∈ c.pod.status.containerStatuses at hcs
    rw [h] at hcs
    cases hcs
  idle := fun _ => ⟨rfl, fun _ => rfl⟩

theorem committed_restarts (s : Sys) (c : CreateCall) (o : Outcome) :
    (c.committed s o).1.restarts = c.state.restarts := by
  rw [committed_eq, read_eq]

/-- A Pod that arrives with a blank status is lawful once committed. -/
theorem committed_lawful {c : CreateCall} {x : Container} (hblank : c.pod.status = .empty)
    (hx : Running c.state x) (s : Sys) (o : Outcome) : Lawful (c.committed s o).1 := by
  have hlawful := state_lawful hblank
  have hcore := committed_sameCore s c o
  refine ⟨?_, ?_, ?_⟩
  · rw [hcore.workloads, hcore.restartPolicy, hcore.pod]
    exact hlawful.policy
  · intro hlive cs hcs
    obtain ⟨cs', hone, _, hallowed⟩ := hlawful.read hx rfl s o
    rw [(committed_sameStatus s c o hlive).2, hone, List.mem_singleton] at hcs
    rw [hcs, hcore.restartPolicy]
    exact hallowed
  · intro hless
    rw [hcore.restartPolicy] at hless
    rw [committed_restarts, committed_restarting]
    refine ⟨?_, fun _ => rfl⟩
    by_contra hraised
    rcases read_flag s o (.running x hx) (by simpa using hraised) with hold | hasks
    · cases hold
    · obtain ⟨code, hcode⟩ := shouldRestart_of_asks hasks
      rw [hless code] at hcode
      cases hcode

theorem terminalState_lawful (c : CreateCall) (reason message : String) (now : Nat) :
    Lawful (c.terminalState reason message now) where
  policy := fun h => absurd rfl h
  recorded := fun h => by cases h
  idle := fun _ => ⟨rfl, fun _ => rfl⟩

/-- A step keeps the Pod's phases under its restart policy. -/
theorem step_governed {s' : Sys} (h : Governed key s) (hl : ArrivesBlank key s l)
    (hstep : step s l = some s') : Governed key s' where
  bound := step_bound h.bound hl.keeps hstep
  final := step_failuresFinal h.bound h.final hstep
  blank := by
    intro c' hc' hkey
    rcases step_creating hstep hc' with ⟨hc, _⟩ | ⟨pod, hbegin, rfl⟩ | ⟨c, o, _, hc, rfl⟩
    · exact h.blank c' hc hkey
    · exact hl.blank pod hbegin hkey
    · rw [(createNext_move s c o).pod_eq] at hkey ⊢
      exact h.blank c hc hkey
  lawful := by
    intro st' hst'
    cases hst : s.pods key with
    | some st =>
      have hevolves := step_evolves_to h.bound hstep hst hst'
      exact hevolves.lawful h hst
    | none =>
      obtain ⟨c, o, _, hc, hkey, ⟨hpc, rfl⟩ | ⟨reason, message, _, rfl⟩⟩ :=
        step_born hstep hst hst'
      · obtain ⟨x, hx⟩ := (h.bound.placed c hc hkey).running hpc
        exact committed_lawful (h.blank c hc hkey) hx s o
      · exact terminalState_lawful c reason message o.now

theorem fresh_governed (podNet : Bool) (hostIP : String) (base : Int) (ipam : Option PodIPAM)
    (vms : VMTable) (nextInst : Nat) (key : String) :
    Governed key (Sys.fresh podNet hostIP base ipam vms nextInst) where
  bound := fresh_bound podNet hostIP base ipam vms nextInst key
  final := fun _ _ h => by cases h
  blank := fun _ h => by cases h
  lawful := fun _ h => by cases h

end Governed

theorem creates_party {s : Sys} {key : String} {l : Label} (h : creates s l ≠ none)
    (hparty : l.party s = some key) :
    (∃ c, s.creating = some c ∧ c.pod.key = key ∧ c.pc = .create) ∨
      ∃ t ∈ s.restarts, t.key = key := by
  obtain ⟨call, hcall⟩ := Option.ne_none_iff_exists'.mp h
  cases l with
  | create o =>
    obtain ⟨c, hc, hspec⟩ := Option.bind_eq_some_iff.mp hcall
    split at hspec
    · rename_i hpc
      exact Or.inl ⟨c, hc, by simpa [Label.party, hc] using hparty, hpc⟩
    · cases hspec
  | restart place o =>
    obtain ⟨t, ht, _⟩ := Option.bind_eq_some_iff.mp hcall
    exact Or.inr ⟨t, List.mem_of_getElem? ht, by simpa [Label.party, ht] using hparty⟩
  | _ => cases hcall

/-- Over every run, the reports of an admitted Pod that arrived without a status
keep to its restart policy, and a Pod that is never restarted gets no second
micro-VM. -/
theorem reports_keep_restart_policy {podNet : Bool} {hostIP : String} {base : Int}
    {ipam : Option PodIPAM} {vms : VMTable} {nextInst : Nat} {key : String} {ls : List Label}
    {s : Sys}
    (hrun : Run step (ArrivesBlank key) (Sys.fresh podNet hostIP base ipam vms nextInst) ls s)
    {st : PodState} (hst : s.pods key = some st) (hadmitted : st.workloads ≠ []) (o : Outcome) :
    (effectiveRestartPolicy st.pod = .always →
        (s.read st o).1.status.phase ≠ .succeeded ∧ (s.read st o).1.status.phase ≠ .failed) ∧
      (effectiveRestartPolicy st.pod = .onFailure →
        (s.read st o).1.status.phase ≠ .failed) ∧
      (effectiveRestartPolicy st.pod = .never →
        (∀ l, l.party s = some key → creates s l = none) ∧
          ∀ cs ∈ (s.read st o).1.status.containerStatuses, cs.restartCount = 0) := by
  have h : Governed key s :=
    hrun.invariant (fresh_governed podNet hostIP base ipam vms nextInst key)
      fun h hl hstep => step_governed h hl hstep
  have hlawful := h.lawful st hst
  obtain ⟨halways, honFailure, hnever⟩ := hlawful.reports (h.bound.settled st hst)
    (fun status => h.final st status hst) s o
  rw [← hlawful.policy hadmitted]
  refine ⟨halways, honFailure, fun hpolicy => ?_⟩
  have hless : st.restartPolicy.Restartless := by
    intro code
    rw [hpolicy]
    rfl
  refine ⟨fun l hparty => ?_, hnever hless⟩
  by_contra hcreates
  rcases creates_party hcreates hparty with ⟨c, hc, hkey, hpc⟩ | ⟨t, ht, hkey⟩
  · rw [h.bound.untracked c hc hkey (by rw [hpc]; rfl)] at hst
    cases hst
  · obtain ⟨st₁, hst₁, hrestarting⟩ := h.bound.restart t ht hkey
    obtain rfl := Option.some.inj (hst.symm.trans hst₁)
    have hidle := (hlawful.idle hless).1
    rw [hrestarting.flag] at hidle
    cases hidle

namespace PhaseWitness

open Sample

def webWith (policy : RestartPolicy) : Pod := { web with restartPolicy := policy }

def created (policy : RestartPolicy) : List Label := createPod (webWith policy) "192.168.64.5"

def exited (policy : RestartPolicy) : List Label :=
  created policy ++ [.vmExit webID false 1, .status "default/web" .ok]

def shows (policy : RestartPolicy) (phase : PodPhase) (s : Sys) : Bool :=
  (s.pods "default/web").any fun st => st.workloads ≠ [] &&
    effectiveRestartPolicy st.pod = policy && st.status.phase = phase

/-- The key is not deleted, and a Pod of it is created without a status. -/
def arrivesBlank (key : String) : Label → Bool
  | .createBegin pod => pod.key ≠ key || pod.status = .empty
  | l => keepsKey key l

theorem arrivesBlank_sound (key : String) (s : Sys) (l : Label)
    (h : arrivesBlank key l = true) : ArrivesBlank key s l := by
  constructor
  · cases l with
    | createBegin pod => rfl
    | _ => exact h
  · rintro pod rfl hkey
    simpa [arrivesBlank, hkey] using h

end PhaseWitness

open PhaseWitness Sample in
/-- A Pod under Never whose workload ended with an error. -/
theorem reports_keep_restart_policy_never : ∃ (s : Sys) (st : PodState),
    s.pods "default/web" = some st ∧ st.status.phase = .failed ∧
      (∀ l, l.party s = some "default/web" → creates s l = none) ∧
      ∀ cs ∈ (s.read st .ok).1.status.containerStatuses, cs.restartCount = 0 := by
  have hexec : ∃ s, Run step (ArrivesBlank "default/web") node (exited .never) s ∧
      shows .never .failed s = true :=
    exists_run_of_check (fun _ l => arrivesBlank "default/web" l)
      (arrivesBlank_sound "default/web") (by decide)
  obtain ⟨s, hrun, hcheck⟩ := hexec
  obtain ⟨st, hst, hshows⟩ := (Option.any_eq_true _ _).mp hcheck
  simp only [Bool.and_eq_true, decide_eq_true_eq] at hshows
  obtain ⟨⟨hadmitted, hpolicy⟩, hphase⟩ := hshows
  exact ⟨s, st, hst, hphase, (reports_keep_restart_policy hrun hst hadmitted .ok).2.2 hpolicy⟩

theorem exitCodeOf_eq_zero_iff {rs : VMStatus} (hended : rs.ended = true) :
    exitCodeOf rs = 0 ↔ rs.phase = .stopped ∧ rs.exitCode = 0 := by
  unfold exitCodeOf
  rw [VMStatus.ended, Bool.or_eq_true, decide_eq_true_eq, decide_eq_true_eq] at hended
  rcases hended with hstopped | hfailed
  · simp [hstopped]
  · simp [hfailed, nonZero_ne_zero]

/-- In every state of every run, a truthful read made while a restart of the Pod
is in flight reports no terminal phase, unless the policy is OnFailure and the
workload has stopped with exit code 0. -/
theorem read_while_restarting_not_terminal_iff {podNet : Bool} {hostIP : String} {base : Int}
    {ipam : Option PodIPAM} {vms : VMTable} {nextInst : Nat} {key : String} {ls : List Label}
    {s : Sys} (hrun : Run step (fun _ l => keepsKey key l = true)
      (Sys.fresh podNet hostIP base ipam vms nextInst) ls s) {st : PodState}
    (hst : s.pods key = some st)
    (hpolicy : st.restartPolicy = .always ∨ st.restartPolicy = .onFailure)
    (hflag : st.restarting = true) {o : Outcome} {shown : Bool} (ho : o.status = .actual shown) :
    ((s.read st o).1.status.phase ≠ .succeeded ∧ (s.read st o).1.status.phase ≠ .failed) ↔
      ¬ (st.restartPolicy = .onFailure ∧ ∃ vm, s.vms st.spec.name = some vm ∧
        vm.phase = .stopped ∧ vm.exitCode = 0) := by
  have hbound : Bound key s := run_bound (fun _ _ h => h) hrun
  have hlive : st.terminalStatus = none :=
    (run_failuresFinal (fun _ _ h => h) hrun).live hst
      (by rcases hpolicy with hp | hp <;> rw [hp] <;> rfl)
  obtain ⟨x, hx⟩ := (hbound.settled st hst).restarting hflag
  obtain ⟨hphase, _⟩ :=
    hx.status_entry hlive s.hostIP s.restartBackoffBase fun id => s.vms.status id o.status
  change (s.read st o).1.status.phase = _ at hphase
  rw [hphase, ← PodPhase.terminal_eq_false_iff, ho]
  cases hvm : s.vms st.spec.name with
  | none =>
    have hanswer : s.vms.status st.spec.name (.actual shown) =
        .error (.notFound ("status " ++ st.spec.name)) := by simp [VMTable.status, hvm]
    have hasks : asksRestart st.restartPolicy
        (s.vms.status st.spec.name (.actual shown)) = true := by
      rw [hanswer]
      rcases hpolicy with hp | hp <;> rw [hp] <;> rfl
    rw [readEntry_asks hasks]
    simp [PodPhase.terminal]
  | some vm =>
    have hanswer : s.vms.status st.spec.name (.actual shown) =
        .ok (vm.status st.spec.name shown) := by simp [VMTable.status, hvm]
    rw [hanswer, readEntry_ok_terminal]
    rcases hpolicy with hp | hp
    · simp [hp, shouldRestart]
    · rw [Bool.and_eq_false_iff, hp]
      cases hended : (vm.status st.spec.name shown).ended with
      | false =>
        refine iff_of_true (Or.inl rfl) ?_
        rintro ⟨_, vm', hvm', hstopped, _⟩
        obtain rfl := Option.some.inj hvm'
        simp [VMStatus.ended, VM.status, hstopped] at hended
      | true =>
        have hzero := exitCodeOf_eq_zero_iff hended
        simp [shouldRestart, hzero]
        rfl

namespace PhaseWitness

open Sample

def alive (policy : RestartPolicy) : Pod :=
  { webWith policy with
    containers := [{ app with livenessProbe := some ⟨.exec ["/bin/check"], 0, 1, 1, 1, 1⟩ }] }

/-- The probe fails, and the restart it asks for has stopped the workload, which
ends with exit code 0. -/
def probeKilled (policy : RestartPolicy) : List Label :=
  createPod (alive policy) "192.168.64.5" ++
    List.replicate 6 (.probe 0 { Outcome.ok with fault := some ⟨.other "exec" "exit 1", false⟩ }) ++
    List.replicate 3 (.restart 0 .ok)

def restartingReports (policy : RestartPolicy) (phase : PodPhase) (s : Sys) : Bool :=
  (s.pods "default/web").any fun st => st.restartPolicy = policy && st.restarting &&
    (s.vms st.spec.name).any (fun vm => vm.phase = .stopped && vm.exitCode = 0) &&
    (s.read st .ok).1.status.phase = phase

theorem restartingReports_spec {phase : PodPhase} {s : Sys}
    (h : restartingReports policy phase s = true) :
    ∃ st, s.pods "default/web" = some st ∧ st.restartPolicy = policy ∧ st.restarting = true ∧
      (s.read st .ok).1.status.phase = phase := by
  obtain ⟨st, hst, hall⟩ := (Option.any_eq_true _ _).mp h
  simp only [Bool.and_eq_true, decide_eq_true_eq] at hall
  exact ⟨st, hst, hall.1.1.1, hall.1.1.2, hall.2⟩

theorem exists_run (ls : List Label) (check : Sys → Bool)
    (h : (execWhen step (fun _ l => keepsKey "default/web" l) node ls).any check = true) :
    ∃ s, Run step (fun _ l => keepsKey "default/web" l = true) node ls s ∧ check s = true :=
  exists_run_of_check _ (fun _ _ h => h) h

end PhaseWitness

open PhaseWitness Sample in
/-- Under Always the same clean stop is not reported as the end of the Pod. -/
theorem read_while_restarting_not_terminal_iff_always : ∃ (s : Sys) (st : PodState),
    s.pods "default/web" = some st ∧ st.restarting = true ∧
      (s.read st .ok).1.status.phase ≠ .succeeded ∧
      (s.read st .ok).1.status.phase ≠ .failed := by
  obtain ⟨s, hrun, hcheck⟩ := exists_run (probeKilled .always) (restartingReports .always .pending)
    (by decide)
  obtain ⟨st, hst, hpolicy, hflag, _⟩ := restartingReports_spec hcheck
  refine ⟨s, st, hst, hflag,
    (read_while_restarting_not_terminal_iff hrun hst (Or.inl hpolicy) hflag rfl).mpr ?_⟩
  rintro ⟨honFailure, _⟩
  rw [hpolicy] at honFailure
  cases honFailure

open PhaseWitness Sample in
/-- A Pod that fails its liveness probe under OnFailure is reported as Succeeded
while its restart is in flight, once the restart has stopped the workload. -/
theorem restarting_pod_reported_succeeded :
    ¬ ∀ (podNet : Bool) (hostIP : String) (base : Int) (ipam : Option PodIPAM) (vms : VMTable)
      (nextInst : Nat) (key : String) (ls : List Label) (s : Sys),
      Run step (fun _ l => keepsKey key l = true)
        (Sys.fresh podNet hostIP base ipam vms nextInst) ls s →
      ∀ st : PodState, s.pods key = some st →
      (st.restartPolicy = .always ∨ st.restartPolicy = .onFailure) → st.restarting = true →
      ∀ (o : Outcome) (shown : Bool), o.status = .actual shown →
      (s.read st o).1.status.phase ≠ .succeeded ∧ (s.read st o).1.status.phase ≠ .failed := by
  intro hall
  obtain ⟨s, hrun, hcheck⟩ := exists_run (probeKilled .onFailure)
    (restartingReports .onFailure .succeeded) (by decide)
  obtain ⟨st, hst, hpolicy, hflag, hphase⟩ := restartingReports_spec hcheck
  exact (hall _ _ _ _ _ _ _ _ s hrun st hst (Or.inr hpolicy) hflag .ok true rfl).1 hphase

end MacVz
