/-
The status of a tracked Pod, rebuilt from what the runtime reports of its
workload, and the decision to restart a workload that has ended.
-/
import MacVz.PodModel

namespace MacVz

variable {st : PodState} {w : Workload} {c : Container} {base : Int} {hostIP : String}

/-- `shouldRestart`. -/
def shouldRestart (policy : RestartPolicy) (exitCode : Int) : Bool :=
  match policy with
  | .always => true
  | .onFailure => exitCode ≠ 0
  | _ => false

/-- `restartBackoffMax`, in nanoseconds. -/
def restartBackoffMax : Int := 5 * 60 * 10 ^ 9

/-- `defaultRestartBackoffBase`, in nanoseconds. -/
def defaultRestartBackoffBase : Int := 10 * 10 ^ 9

def restartBackoffLoop : Nat → Int → Int
  | 0, d => d
  | n + 1, d =>
    let d := Int.bmod (d * 2) (2 ^ 64)
    if restartBackoffMax ≤ d then restartBackoffMax else restartBackoffLoop n d

/-- `restartBackoff`: doubled for each completed restart, up to the maximum. -/
def restartBackoff (base count : Int) : Int := restartBackoffLoop count.toNat base

/-- A restart task to start: the workload to replace and the delay. -/
structure Launch where
  oldID : String
  backoff : Int
deriving Repr, DecidableEq

/-- `maybeTriggerRestart`: whether the container is restarting, the state with
the in-flight flag, and the task to launch if it was not in flight already. -/
def maybeTriggerRestart (base : Int) (st : PodState) (container oldID : String)
    (exitCode : Int) : Bool × PodState × List Launch :=
  if shouldRestart st.restartPolicy exitCode = false then (false, st, [])
  else if st.restarting then (true, st, [])
  else (true, { st with restarting := true },
    [⟨oldID, restartBackoff base (st.restarts container)⟩])

/-- `nonZero`. -/
def nonZero (code : Int) : Int := if code = 0 then 1 else code

/-- `containerStatus`. -/
def containerStatus (c : Container) (id : String) (rs : VMStatus) : ContainerStatus where
  name := c.name
  image := c.image
  imageID := c.image
  containerID := "macvz://" ++ id
  state :=
    match rs.phase with
    | .running => .running rs.startedAt
    | .stopped => .terminated (wrap32 rs.exitCode) "Completed" rs.message ("macvz://" ++ id)
    | .failed => .terminated (nonZero (wrap32 rs.exitCode)) "Error" rs.message ("macvz://" ++ id)
    | .created => .waiting "Created" rs.message
    | .unknown => .waiting "Unknown" rs.message
  ready := rs.phase = .running
  started := if rs.phase = .running then some true else none
  restartCount := 0

/-- `waitingStatus`. -/
def waitingStatus (c : Container) (reason msg : String) : ContainerStatus where
  name := c.name
  image := c.image
  imageID := c.image
  containerID := ""
  state := .waiting reason msg
  ready := false
  started := none
  restartCount := 0

/-- `restartingStatus`. -/
def restartingStatus (c : Container) (restartCount : Int) : ContainerStatus :=
  { waitingStatus c "CrashLoopBackOff" "container exited; restarting per restartPolicy" with
    restartCount := restartCount }

/-- `terminatedStatus`. -/
def terminatedStatus (c : Container) (id : String) (code : Int) (reason msg : String) :
    ContainerStatus where
  name := c.name
  image := c.image
  imageID := c.image
  containerID := "macvz://" ++ id
  state := .terminated code reason msg ""
  ready := false
  started := none
  restartCount := 0

/-- `previousContainerStatus`. -/
def previousContainerStatus (status : PodStatus) (name : String) : Option ContainerStatus :=
  status.containerStatuses.find? (·.name = name)

/-- The workload of a container: the last one recorded under its name. -/
def workloadOf (workloads : List Workload) (container : String) : Option Workload :=
  (workloads.filter (·.container = container)).getLast?

/-- What the loop over the containers has gathered so far. -/
structure Reading where
  st : PodState
  statuses : List ContainerStatus
  podIP : String
  message : String
  launched : List Launch

variable {otherwise : Reading} {r : Reading}

/-- What the runtime says about each workload. -/
abbrev Answers := String → Except RuntimeError VMStatus

variable {answers : Answers}

def Reading.push (r : Reading) (cs : ContainerStatus) : Reading :=
  { r with statuses := r.statuses ++ [cs] }

/-- The exit code a terminated container is reported with. -/
def exitCodeOf (rs : VMStatus) : Int :=
  if rs.phase = .failed then nonZero (wrap32 rs.exitCode) else rs.exitCode

/-- A container the runtime knows. -/
def Reading.observe (r : Reading) (c : Container) (id : String) (rs : VMStatus) : Reading :=
  let cs := { containerStatus c id rs with restartCount := r.st.restarts c.name }
  { r.push cs with podIP := if r.podIP = "" ∧ rs.ip ≠ "" then rs.ip else r.podIP }

/-- Ask for a restart of a container; report it as restarting, or go on. -/
def Reading.restartOr (base : Int) (r : Reading) (c : Container) (id : String)
    (exitCode : Int) (otherwise : Reading) : Reading :=
  match maybeTriggerRestart base r.st c.name id exitCode with
  | (true, st, launched) =>
    { r with st := st, launched := r.launched ++ launched }.push
      (restartingStatus c (st.restarts c.name))
  | (false, _, _) => otherwise

/-- One turn of the loop of `reconcileStatus`. -/
def readContainer (base : Int) (answers : Answers) (r : Reading) (c : Container) : Reading :=
  match workloadOf r.st.workloads c.name with
  | none => r.push (waitingStatus c "NotCreated" "container has no backing workload")
  | some w =>
    match answers w.id with
    | .error e =>
      if e.isNotFound then
        r.restartOr base c w.id 1
          (r.push (terminatedStatus c w.id 0 "Lost" "runtime workload not found"))
      else
        match previousContainerStatus r.st.status c.name with
        | some prev => { r.push prev with message := e.text }
        | none => r.push (waitingStatus c "RuntimeError" e.text)
    | .ok rs =>
      if rs.phase = .stopped ∨ rs.phase = .failed then
        r.restartOr base c w.id (exitCodeOf rs) (r.observe c w.id rs)
      else r.observe c w.id rs

/-- `aggregatePhase`. -/
def aggregatePhase (statuses : List ContainerStatus) : PodPhase :=
  let waiting := statuses.any fun s => match s.state with | .waiting .. => true | _ => false
  let running := statuses.any fun s => match s.state with | .running _ => true | _ => false
  let failed := statuses.any fun s =>
    match s.state with | .terminated code .. => code ≠ 0 | _ => false
  let succeeded := statuses.all fun s =>
    match s.state with | .terminated code .. => code = 0 | _ => false
  if statuses = [] then .pending
  else if failed then .failed
  else if waiting then .pending
  else if running then .running
  else if succeeded then .succeeded
  else .pending

/-- `probeReadiness`: the started and ready state of the running container. -/
def probeReadiness (probes : Option ProbeState) (phase : PodPhase) : Bool × Bool :=
  match probes, phase with
  | some ps, .running =>
    let started := if ps.hasStartup then ps.startupDone else true
    (started, if started = false then false
      else if ps.hasReadiness then ps.ready else true)
  | _, phase => (phase = .running, phase = .running)

/-- `podConditions`. -/
def podConditions (phase : PodPhase) (ready : Bool) : List PodCondition :=
  [⟨.initialized, phase ≠ .pending, "", ""⟩, ⟨.containersReady, ready, "", ""⟩,
    ⟨.ready, ready, "", ""⟩]

/-- `withConditionReason`. -/
def withConditionReason (conditions : List PodCondition) (reason msg : String) :
    List PodCondition :=
  conditions.map fun c =>
    if c.type = .ready ∨ c.type = .containersReady then
      { c with status := false, reason := reason, message := msg }
    else c

/-- The flags of a running container follow the probes, if there are any. -/
def withProbeFlags (probes : Option ProbeState) (started ready : Bool)
    (cs : ContainerStatus) : ContainerStatus :=
  match probes, cs.state with
  | some _, .running _ => { cs with ready := ready, started := some started }
  | _, _ => cs

/-- The conditions of a status, with the reason why a Pod is not ready. -/
def reportedConditions (phase : PodPhase) (message podIP : String) (ready : Bool) :
    List PodCondition :=
  if message ≠ "" then
    withConditionReason (podConditions phase ready) "RuntimeStatusError" message
  else if phase = .running ∧ podIP = "" then
    withConditionReason (podConditions phase ready) "PodNetworkNotReady"
      "waiting for Pod IP allocation and network attach"
  else if phase = .running ∧ ready = false then
    withConditionReason (podConditions phase ready) "ContainersNotReady"
      "container has not passed its startup/readiness probe"
  else podConditions phase ready

/-- The end of `reconcileStatus`, once every container was read. -/
def Reading.status (hostIP : String) (r : Reading) : PodStatus :=
  let phase := aggregatePhase r.statuses
  let flags := probeReadiness r.st.probes phase
  { phase := phase
    reason := ""
    message := r.message
    startTime := r.st.status.startTime
    podIP := r.podIP
    podIPs := if r.podIP = "" then [] else [r.podIP]
    hostIP := hostIP
    hostIPs := if hostIP = "" then [] else [hostIP]
    containerStatuses := r.statuses.map (withProbeFlags r.st.probes flags.1 flags.2)
    conditions := reportedConditions phase r.message r.podIP (flags.2 && r.podIP ≠ "") }

def Reading.start (st : PodState) : Reading :=
  ⟨st, [], st.status.podIP, "", []⟩

/-- `reconcileStatus`: the new status, the state with its in-flight flag, and
the restart task to launch. -/
def reconcileStatus (hostIP : String) (base : Int) (answers : Answers) (st : PodState) :
    PodStatus × PodState × List Launch :=
  match st.terminalStatus with
  | some status => (status, st, [])
  | none =>
    let r := st.pod.containers.foldl (readContainer base answers) (Reading.start st)
    (r.status hostIP, r.st, r.launched)

/-- A read changes nothing of the state but the in-flight flag, which it raises
together with the one task it launches. -/
structure Reads (st st' : PodState) (launched : List Launch) : Prop where
  state : st' = { st with restarting := st'.restarting }
  launch : (st'.restarting = st.restarting ∧ launched = []) ∨
    (st.restarting = false ∧ st'.restarting = true ∧
      ∃ w ∈ st.workloads, ∃ backoff, launched = [⟨w.id, backoff⟩])

theorem Reads.refl (st : PodState) : Reads st st [] :=
  ⟨rfl, Or.inl ⟨rfl, rfl⟩⟩

theorem Reads.trans {st' st'' : PodState} {first second : List Launch} (h : Reads st st' first)
    (h' : Reads st' st'' second) : Reads st st'' (first ++ second) := by
  have hstate : st'' = { st with restarting := st''.restarting } := by
    rw [h'.state, h.state]
  have hworkloads : st'.workloads = st.workloads := by rw [h.state]
  refine ⟨hstate, ?_⟩
  rcases h.launch with ⟨hflag, rfl⟩ | ⟨hold, hflag, w, hw, backoff, rfl⟩
  · rcases h'.launch with ⟨hflag', rfl⟩ | ⟨hold', hflag', w, hw, backoff, rfl⟩
    · exact Or.inl ⟨hflag'.trans hflag, rfl⟩
    · exact Or.inr ⟨hflag ▸ hold', hflag', w, hworkloads ▸ hw, backoff, rfl⟩
  · rcases h'.launch with ⟨hflag', rfl⟩ | ⟨hold', _⟩
    · exact Or.inr ⟨hold, hflag'.trans hflag, w, hw, backoff, rfl⟩
    · rw [hflag] at hold'
      cases hold'

theorem maybeTriggerRestart_reads (base : Int) (st : PodState) (container : String)
    (hw : w ∈ st.workloads) (exitCode : Int) :
    Reads st (maybeTriggerRestart base st container w.id exitCode).2.1
      (maybeTriggerRestart base st container w.id exitCode).2.2 := by
  unfold maybeTriggerRestart
  split
  · exact Reads.refl st
  · split
    · exact Reads.refl st
    · rename_i hidle
      exact ⟨rfl, Or.inr ⟨by simpa using hidle, rfl, w, hw, _, rfl⟩⟩

theorem mem_of_workloadOf {workloads : List Workload} {container : String}
    (h : workloadOf workloads container = some w) : w ∈ workloads :=
  List.mem_of_mem_filter (List.mem_of_getLast? h)

theorem restartOr_reads (base : Int) (h : Reads st r.st r.launched) (otherwise : Reading)
    (hsame : otherwise.st = r.st) (hlaunched : otherwise.launched = r.launched) (c : Container)
    (hw : w ∈ r.st.workloads) (exitCode : Int) :
    Reads st (r.restartOr base c w.id exitCode otherwise).st
      (r.restartOr base c w.id exitCode otherwise).launched := by
  have htrigger := maybeTriggerRestart_reads base r.st c.name hw exitCode
  unfold Reading.restartOr
  split
  · rename_i st' launched heq
    rw [heq] at htrigger
    exact h.trans htrigger
  · rw [hsame, hlaunched]
    exact h

theorem readContainer_reads (base : Int) (answers : Answers) (h : Reads st r.st r.launched)
    (c : Container) :
    Reads st (readContainer base answers r c).st (readContainer base answers r c).launched := by
  unfold readContainer
  split
  · exact h
  · rename_i w hw
    have hmem : w ∈ r.st.workloads := mem_of_workloadOf hw
    split
    · split
      · refine restartOr_reads base h _ ?_ ?_ c hmem 1 <;> rfl
      · split
        · exact h
        · exact h
    · split
      · refine restartOr_reads base h _ ?_ ?_ c hmem _ <;> rfl
      · exact h

theorem foldl_readContainer_reads (base : Int) (answers : Answers) (containers : List Container)
    (h : Reads st r.st r.launched) : Reads st (containers.foldl (readContainer base answers) r).st
      (containers.foldl (readContainer base answers) r).launched := by
  induction containers generalizing r with
  | nil => exact h
  | cons c rest ih =>
    exact ih (readContainer_reads base answers h c)

theorem reconcileStatus_reads (hostIP : String) (base : Int) (answers : Answers) (st : PodState) :
    Reads st (reconcileStatus hostIP base answers st).2.1
      (reconcileStatus hostIP base answers st).2.2 := by
  unfold reconcileStatus
  split
  · exact Reads.refl st
  · exact foldl_readContainer_reads base answers _ (Reads.refl st)

theorem restartOr_podIP (base : Int) (c : Container) (id : String) (exitCode : Int)
    (h : otherwise.podIP = r.podIP) :
    (r.restartOr base c id exitCode otherwise).podIP = r.podIP := by
  unfold Reading.restartOr
  split
  · rfl
  · exact h

theorem readContainer_podIP (base : Int) (answers : Answers) (h : r.podIP ≠ "") (c : Container) :
    (readContainer base answers r c).podIP = r.podIP := by
  have hobserve : ∀ id rs, (r.observe c id rs).podIP = r.podIP := by
    simp [Reading.observe, h]
  unfold readContainer
  split
  · rfl
  · split
    · split
      · exact restartOr_podIP base c _ _ rfl
      · split
        · rfl
        · rfl
    · split
      · exact restartOr_podIP base c _ _ (hobserve _ _)
      · exact hobserve _ _

theorem foldl_readContainer_podIP (base : Int) (answers : Answers) (containers : List Container)
    (h : r.podIP ≠ "") : (containers.foldl (readContainer base answers) r).podIP = r.podIP := by
  induction containers generalizing r with
  | nil => rfl
  | cons c rest ih =>
    have hone := readContainer_podIP base answers h c
    rw [List.foldl_cons, ih (hone ▸ h), hone]

theorem reconcileStatus_podIP (hostIP : String) (base : Int) (answers : Answers)
    (hterminal : st.terminalStatus = none) (h : st.status.podIP ≠ "") :
    (reconcileStatus hostIP base answers st).1.podIP = st.status.podIP := by
  unfold reconcileStatus
  rw [hterminal]
  exact foldl_readContainer_podIP base answers _ h

theorem probeReadiness_running {probes : Option ProbeState} {phase : PodPhase}
    (h : (probeReadiness probes phase).2 = true) : phase = .running := by
  unfold probeReadiness at h
  split at h
  · rfl
  · simpa using h

/-- A Pod reported ready had no runtime error, has an address, and its probes
agree. -/
theorem Reading.status_isReady (h : (r.status hostIP).isReady = true) :
    r.message = "" ∧ r.podIP ≠ "" ∧
      (probeReadiness r.st.probes (aggregatePhase r.statuses)).2 = true := by
  have hany : (reportedConditions (aggregatePhase r.statuses) r.message r.podIP
      ((probeReadiness r.st.probes (aggregatePhase r.statuses)).2 && r.podIP ≠ "")).any
        (fun c => c.type = .ready && c.status) = true := h
  unfold reportedConditions at hany
  split at hany
  · cases hany
  · rename_i hmessage
    split at hany
    · cases hany
    · split at hany
      · cases hany
      · simp [podConditions] at hany
        exact ⟨by simpa using hmessage, hany.2, hany.1⟩

/-- A Pod with one container and one workload behind it. -/
structure Committed (st : PodState) (c : Container) : Prop where
  containers : st.pod.containers = [c]
  workloads : st.workloads = [⟨c.name, st.spec.name⟩]

theorem Committed.workloadOf_eq (h : Committed st c) :
    workloadOf st.workloads c.name = some ⟨c.name, st.spec.name⟩ := by
  rw [h.workloads]
  simp [workloadOf]

theorem Committed.reading (h : Committed st c) (base : Int) (answers : Answers) :
    st.pod.containers.foldl (readContainer base answers) (Reading.start st) =
      readContainer base answers (Reading.start st) c := by
  rw [h.containers]
  rfl

theorem aggregatePhase_singleton_running {cs : ContainerStatus} :
    aggregatePhase [cs] = .running ↔ ∃ startedAt, cs.state = .running startedAt := by
  unfold aggregatePhase
  cases hstate : cs.state with
  | waiting reason msg => simp [hstate]
  | running startedAt => simp [hstate]
  | terminated code reason msg id =>
    by_cases hcode : code = 0
    · simp [hstate, hcode]
    · simp [hstate, hcode]

theorem restartOr_running {id : String} {exitCode : Int} (hnil : r.statuses = [])
    (h : aggregatePhase (r.restartOr base c id exitCode otherwise).statuses = .running) :
    r.restartOr base c id exitCode otherwise = otherwise := by
  unfold Reading.restartOr at h ⊢
  split
  · rename_i heq
    rw [heq] at h
    simp [Reading.push, hnil, aggregatePhase_singleton_running, restartingStatus,
      waitingStatus] at h
  · rfl

/-- A single container counts as running without an error only when it was
observed running. -/
theorem readContainer_running (hw : workloadOf r.st.workloads c.name = some w)
    (hnil : r.statuses = [])
    (hrunning : aggregatePhase (readContainer base answers r c).statuses = .running)
    (hmessage : (readContainer base answers r c).message = "") :
    ∃ rs, answers w.id = .ok rs ∧ rs.phase = .running ∧
      readContainer base answers r c = r.observe c w.id rs := by
  have hobserve : ∀ rs, aggregatePhase (r.observe c w.id rs).statuses = .running →
      rs.phase = .running := by
    intro rs h
    simp only [Reading.observe, Reading.push, hnil, List.nil_append,
      aggregatePhase_singleton_running, containerStatus] at h
    obtain ⟨_, hstate⟩ := h
    cases hphase : rs.phase <;> simp [hphase] at hstate ⊢
  unfold readContainer at hrunning hmessage ⊢
  simp only [hw] at hrunning hmessage ⊢
  cases hanswer : answers w.id with
  | error e =>
    simp only [hanswer] at hrunning hmessage
    split at hrunning
    · rw [restartOr_running hnil hrunning] at hrunning
      simp [Reading.push, hnil, aggregatePhase_singleton_running, terminatedStatus] at hrunning
    · rename_i hother
      rw [if_neg hother] at hmessage
      split at hrunning
      · rename_i prev hprev
        simp only [hprev] at hmessage
        exact absurd hmessage e.text_ne_empty
      · simp [Reading.push, hnil, aggregatePhase_singleton_running, waitingStatus] at hrunning
  | ok rs =>
    simp only [hanswer] at hrunning ⊢
    split at hrunning
    · rename_i hended
      rw [restartOr_running hnil hrunning] at hrunning
      have hphase := hobserve rs hrunning
      rw [hphase] at hended
      simp at hended
    · rename_i hlive
      rw [if_neg hlive]
      exact ⟨rs, rfl, hobserve rs hrunning, rfl⟩

/-- Ready means that the workload was observed running, has an address, and its
probes agree. -/
theorem Committed.ready_observed (h : Committed st c) (hterminal : st.terminalStatus = none)
    (hready : (reconcileStatus hostIP base answers st).1.isReady = true) :
    ∃ rs, answers st.spec.name = .ok rs ∧ rs.phase = .running ∧
      (reconcileStatus hostIP base answers st).1.podIP ≠ "" ∧
      (probeReadiness st.probes .running).2 = true := by
  unfold reconcileStatus at hready ⊢
  rw [hterminal] at hready ⊢
  rw [h.reading base answers] at hready ⊢
  obtain ⟨hmessage, hpodIP, hprobes⟩ := Reading.status_isReady hready
  have hrunning := probeReadiness_running hprobes
  have hstate := (readContainer_reads base answers (r := Reading.start st) (Reads.refl st) c).state
  rw [hrunning, hstate] at hprobes
  obtain ⟨rs, hanswer, hphase, _⟩ :=
    readContainer_running h.workloadOf_eq rfl hrunning hmessage
  exact ⟨rs, hanswer, hphase, hpodIP, hprobes⟩

/-- The address reported for a workload observed alive: the recorded one, or else
the observed one. -/
theorem Committed.podIP_of_observed (h : Committed st c) (hterminal : st.terminalStatus = none)
    (hostIP : String) (base : Int) (answers : Answers) {rs : VMStatus}
    (hanswer : answers st.spec.name = .ok rs) (hphase : rs.phase = .running) :
    (reconcileStatus hostIP base answers st).1.podIP =
        (if st.status.podIP = "" ∧ rs.ip ≠ "" then rs.ip else st.status.podIP) ∧
      (reconcileStatus hostIP base answers st).1.podIPs =
        (if (reconcileStatus hostIP base answers st).1.podIP = "" then []
          else [(reconcileStatus hostIP base answers st).1.podIP]) := by
  unfold reconcileStatus
  rw [hterminal]
  rw [h.reading base answers]
  refine ⟨?_, rfl⟩
  have hw : workloadOf (Reading.start st).st.workloads c.name =
      some ⟨c.name, st.spec.name⟩ := h.workloadOf_eq
  unfold readContainer
  simp only [hw, hanswer, hphase, reduceCtorEq, or_self, ↓reduceIte]
  rfl

/-- The address reported is the recorded one or the one the runtime answers. -/
theorem Committed.podIP_cases (h : Committed st c) (hterminal : st.terminalStatus = none)
    (hostIP : String) (base : Int) (answers : Answers) :
    (reconcileStatus hostIP base answers st).1.podIP = st.status.podIP ∨
      ∃ rs, answers st.spec.name = .ok rs ∧
        (reconcileStatus hostIP base answers st).1.podIP = rs.ip := by
  have hw : workloadOf (Reading.start st).st.workloads c.name =
      some ⟨c.name, st.spec.name⟩ := h.workloadOf_eq
  have hobserve : ∀ rs, ((Reading.start st).observe c st.spec.name rs).podIP =
      st.status.podIP ∨ ((Reading.start st).observe c st.spec.name rs).podIP = rs.ip := by
    intro rs
    by_cases hip : st.status.podIP = "" ∧ rs.ip ≠ ""
    · exact Or.inr (if_pos hip)
    · exact Or.inl (if_neg hip)
  unfold reconcileStatus
  rw [hterminal]
  rw [h.reading base answers]
  unfold readContainer
  simp only [hw]
  split
  · left
    split
    · exact restartOr_podIP base c _ _ rfl
    · split <;> rfl
  · rename_i rs hanswer
    have hok : ∀ r : Reading, r.podIP = st.status.podIP ∨ r.podIP = rs.ip →
        r.podIP = st.status.podIP ∨ ∃ rs', answers st.spec.name = .ok rs' ∧ r.podIP = rs'.ip := by
      intro r hr
      rcases hr with hr | hr
      · exact Or.inl hr
      · exact Or.inr ⟨rs, hanswer, hr⟩
    split
    · refine hok _ ?_
      unfold Reading.restartOr
      split
      · exact Or.inl rfl
      · exact hobserve rs
    · exact hok _ (hobserve rs)

end MacVz
