/-
What one read makes of the single container of a Pod: the entry it reports, and
whether it asks for a restart.
-/
import MacVz.StatusReconcile

namespace MacVz

variable {id : String} {answer : Except RuntimeError VMStatus}

def ContainerState.phase : ContainerState → PodPhase
  | .waiting _ _ => .pending
  | .running _ => .running
  | .terminated code _ _ _ => if code = 0 then .succeeded else .failed

theorem aggregatePhase_singleton (cs : ContainerStatus) : aggregatePhase [cs] = cs.state.phase := by
  unfold aggregatePhase ContainerState.phase
  cases hstate : cs.state with
  | waiting reason msg => simp [hstate]
  | running startedAt => simp [hstate]
  | terminated code reason msg id =>
    by_cases hcode : code = 0
    · simp [hstate, hcode]
    · simp [hstate, hcode]

def VMStatus.ended (rs : VMStatus) : Bool := rs.phase = .stopped || rs.phase = .failed

/-- What the runtime answers calls for a restart. -/
def asksRestart (policy : RestartPolicy) : Except RuntimeError VMStatus → Bool
  | .error e => e.isNotFound && shouldRestart policy 1
  | .ok rs => rs.ended && shouldRestart policy (exitCodeOf rs)

/-- The entry of a container whose answer does not call for a restart. -/
def plainEntry (st : PodState) (c : Container) (id : String) :
    Except RuntimeError VMStatus → ContainerStatus
  | .error e =>
    if e.isNotFound then terminatedStatus c id 0 "Lost" "runtime workload not found"
    else (previousContainerStatus st.status c.name).getD (waitingStatus c "RuntimeError" e.text)
  | .ok rs => { containerStatus c id rs with restartCount := st.restarts c.name }

/-- What is reported of a container, from the answer alone. -/
def readEntry (st : PodState) (c : Container) (id : String)
    (answer : Except RuntimeError VMStatus) : ContainerStatus :=
  if asksRestart st.restartPolicy answer then restartingStatus c (st.restarts c.name)
  else plainEntry st c id answer

def PodPhase.terminal : PodPhase → Bool
  | .succeeded | .failed => true
  | _ => false

theorem PodPhase.terminal_eq_false_iff {phase : PodPhase} :
    phase.terminal = false ↔ phase ≠ .succeeded ∧ phase ≠ .failed := by
  cases phase <;> simp [PodPhase.terminal]

theorem nonZero_ne_zero (code : Int) : nonZero code ≠ 0 := by
  unfold nonZero
  split <;> omega

theorem containerStatus_phase (c : Container) (id : String) (rs : VMStatus) :
    (containerStatus c id rs).state.phase =
      match rs.phase with
      | .running => .running
      | .stopped => if wrap32 rs.exitCode = 0 then .succeeded else .failed
      | .failed => .failed
      | _ => .pending := by
  unfold containerStatus
  cases hphase : rs.phase with
  | failed => simp [ContainerState.phase, nonZero_ne_zero]
  | _ => rfl

theorem containerStatus_terminal (c : Container) (id : String) (rs : VMStatus) :
    (containerStatus c id rs).state.phase.terminal = rs.ended := by
  rw [containerStatus_phase, VMStatus.ended]
  cases rs.phase with
  | stopped => dsimp only; split <;> rfl
  | _ => rfl

theorem readEntry_asks {st : PodState} {c : Container}
    (h : asksRestart st.restartPolicy answer = true) :
    (readEntry st c id answer).state.phase = .pending := by
  rw [readEntry, if_pos h]
  rfl

theorem readEntry_plain {st : PodState} {c : Container}
    (h : asksRestart st.restartPolicy answer = false) :
    readEntry st c id answer = plainEntry st c id answer := by
  rw [readEntry, h, if_neg Bool.false_ne_true]

theorem readEntry_ok_terminal (st : PodState) (c : Container) (id : String) (rs : VMStatus) :
    (readEntry st c id (.ok rs)).state.phase.terminal =
      (rs.ended && !shouldRestart st.restartPolicy (exitCodeOf rs)) := by
  cases hasks : asksRestart st.restartPolicy (.ok rs) with
  | true =>
    rw [readEntry_asks hasks]
    rw [asksRestart, Bool.and_eq_true] at hasks
    simp [hasks.2, PodPhase.terminal]
  | false =>
    rw [readEntry_plain hasks]
    rw [asksRestart] at hasks
    refine (containerStatus_terminal c id rs).trans ?_
    cases hended : rs.ended with
    | false => rfl
    | true =>
      rw [hended, Bool.true_and] at hasks
      simp [hasks]

section Reading

variable {st : PodState} {c : Container} {base : Int} {answers : Answers} {r otherwise : Reading}
  {exitCode : Int}

theorem restartOr_of_not (h : shouldRestart r.st.restartPolicy exitCode = false) :
    r.restartOr base c id exitCode otherwise = otherwise := by
  simp [Reading.restartOr, maybeTriggerRestart, h]

theorem restartOr_of (h : shouldRestart r.st.restartPolicy exitCode = true) :
    (r.restartOr base c id exitCode otherwise).statuses =
        r.statuses ++ [restartingStatus c (r.st.restarts c.name)] ∧
      (r.restartOr base c id exitCode otherwise).launched =
        r.launched ++ if r.st.restarting then []
          else [⟨id, restartBackoff base (r.st.restarts c.name)⟩] := by
  unfold Reading.restartOr maybeTriggerRestart
  cases hflag : r.st.restarting with
  | false => simp [h, Reading.push]
  | true => simp [h, Reading.push]

theorem Committed.readContainer_error (h : Committed st c) {e : RuntimeError}
    (hanswer : answers st.spec.name = .error e) : readContainer base answers (Reading.start st) c =
      if e.isNotFound then
        (Reading.start st).restartOr base c st.spec.name 1 ((Reading.start st).push
          (terminatedStatus c st.spec.name 0 "Lost" "runtime workload not found"))
      else
        match previousContainerStatus st.status c.name with
        | some prev => { (Reading.start st).push prev with message := e.text }
        | none => (Reading.start st).push (waitingStatus c "RuntimeError" e.text) := by
  have hw : workloadOf (Reading.start st).st.workloads c.name =
      some ⟨c.name, st.spec.name⟩ := h.workloadOf_eq
  simp only [readContainer, hw, hanswer]
  rfl

theorem Committed.readContainer_ok (h : Committed st c) {rs : VMStatus}
    (hanswer : answers st.spec.name = .ok rs) : readContainer base answers (Reading.start st) c =
      if rs.ended then
        (Reading.start st).restartOr base c st.spec.name (exitCodeOf rs)
          ((Reading.start st).observe c st.spec.name rs)
      else (Reading.start st).observe c st.spec.name rs := by
  have hw : workloadOf (Reading.start st).st.workloads c.name =
      some ⟨c.name, st.spec.name⟩ := h.workloadOf_eq
  simp [readContainer, hw, hanswer, VMStatus.ended]

/-- An answer that calls for a restart: the container is reported as restarting,
and a restart is launched unless one is in flight. -/
theorem Committed.readContainer_asks (h : Committed st c)
    (hasks : asksRestart st.restartPolicy (answers st.spec.name) = true) :
    (readContainer base answers (Reading.start st) c).statuses =
        [restartingStatus c (st.restarts c.name)] ∧
      (readContainer base answers (Reading.start st) c).launched =
        if st.restarting then []
          else [⟨st.spec.name, restartBackoff base (st.restarts c.name)⟩] := by
  cases hanswer : answers st.spec.name with
  | error e =>
    rw [hanswer, asksRestart, Bool.and_eq_true] at hasks
    rw [h.readContainer_error hanswer, if_pos hasks.1]
    exact restartOr_of (r := Reading.start st) hasks.2
  | ok rs =>
    rw [hanswer, asksRestart, Bool.and_eq_true] at hasks
    rw [h.readContainer_ok hanswer, if_pos hasks.1]
    exact restartOr_of (r := Reading.start st) hasks.2

/-- A read that asks for no restart reports what the runtime answers. -/
theorem Committed.readContainer_plain (h : Committed st c)
    (hasks : asksRestart st.restartPolicy (answers st.spec.name) = false) :
    (readContainer base answers (Reading.start st) c).statuses =
        [plainEntry st c st.spec.name (answers st.spec.name)] ∧
      (readContainer base answers (Reading.start st) c).launched = [] := by
  cases hanswer : answers st.spec.name with
  | error e =>
    rw [h.readContainer_error hanswer]
    rw [hanswer, asksRestart] at hasks
    cases hfound : e.isNotFound with
    | true =>
      rw [hfound] at hasks
      rw [restartOr_of_not (r := Reading.start st) hasks]
      simp [Reading.push, Reading.start, plainEntry, hfound]
    | false =>
      cases hprev : previousContainerStatus st.status c.name with
      | some prev => simp [Reading.start, hprev, Reading.push, plainEntry, hfound]
      | none => simp [Reading.start, hprev, Reading.push, plainEntry, hfound]
  | ok rs =>
    rw [h.readContainer_ok hanswer]
    rw [hanswer, asksRestart] at hasks
    cases hended : rs.ended with
    | true =>
      rw [hended] at hasks
      rw [restartOr_of_not (r := Reading.start st) hasks]
      exact ⟨rfl, rfl⟩
    | false => exact ⟨rfl, rfl⟩

theorem Committed.readContainer_entry (h : Committed st c) (base : Int) (answers : Answers) :
    (readContainer base answers (Reading.start st) c).statuses =
      [readEntry st c st.spec.name (answers st.spec.name)] := by
  unfold readEntry
  split
  · rename_i hasks
    exact (h.readContainer_asks hasks).1
  · rename_i hasks
    exact (h.readContainer_plain (by simpa using hasks)).1

theorem readEntry_name (st : PodState) (c : Container) (id : String)
    (answer : Except RuntimeError VMStatus) : (readEntry st c id answer).name = c.name := by
  unfold readEntry
  split
  · rfl
  · cases answer with
    | ok rs => rfl
    | error e =>
      change ContainerStatus.name (if e.isNotFound then _ else _) = c.name
      split
      · rfl
      · cases hprev : previousContainerStatus st.status c.name with
        | none => rfl
        | some prev =>
          have hname := List.find?_some hprev
          simpa using hname

theorem withProbeFlags_kept (probes : Option ProbeState) (started ready : Bool)
    (cs : ContainerStatus) : (withProbeFlags probes started ready cs).name = cs.name ∧
      (withProbeFlags probes started ready cs).state = cs.state ∧
      (withProbeFlags probes started ready cs).restartCount = cs.restartCount := by
  unfold withProbeFlags
  split <;> exact ⟨rfl, rfl, rfl⟩

/-- The status of a live Pod: its phase is the one of the entry, and the entry is
what the next read finds recorded. -/
theorem Committed.status_entry (h : Committed st c) (hlive : st.terminalStatus = none)
    (hostIP : String) (base : Int) (answers : Answers) :
    (reconcileStatus hostIP base answers st).1.phase =
        (readEntry st c st.spec.name (answers st.spec.name)).state.phase ∧
      ∃ cs, (reconcileStatus hostIP base answers st).1.containerStatuses = [cs] ∧
        previousContainerStatus (reconcileStatus hostIP base answers st).1 c.name = some cs ∧
        cs.state = (readEntry st c st.spec.name (answers st.spec.name)).state ∧
        cs.restartCount =
          (readEntry st c st.spec.name (answers st.spec.name)).restartCount := by
  have hentry := h.readContainer_entry base answers
  have hname := readEntry_name st c st.spec.name (answers st.spec.name)
  unfold reconcileStatus
  rw [hlive]
  dsimp only
  rw [h.reading base answers]
  unfold Reading.status
  rw [hentry, aggregatePhase_singleton]
  refine ⟨rfl, _, rfl, ?_, (withProbeFlags_kept _ _ _ _).2.1, (withProbeFlags_kept _ _ _ _).2.2⟩
  simp [previousContainerStatus, (withProbeFlags_kept _ _ _ _).1, hname]

/-- A read launches a restart exactly where one is asked for and none is under way. -/
theorem Committed.launched (h : Committed st c) (hlive : st.terminalStatus = none) (hostIP : String)
    (base : Int) (answers : Answers) : (reconcileStatus hostIP base answers st).2.2 =
      if asksRestart st.restartPolicy (answers st.spec.name) = true ∧ st.restarting = false then
        [⟨st.spec.name, restartBackoff base (st.restarts c.name)⟩] else [] := by
  unfold reconcileStatus
  rw [hlive]
  dsimp only
  rw [h.reading base answers]
  cases hasks : asksRestart st.restartPolicy (answers st.spec.name) with
  | true =>
    rw [(h.readContainer_asks hasks).2]
    cases hflag : st.restarting <;> simp
  | false =>
    rw [(h.readContainer_plain hasks).2]
    simp

end Reading

end MacVz
