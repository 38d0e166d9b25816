/-
Probes whose handler the provider cannot evaluate.  A prober without a handler returns at once,
but the launch has already recorded that its probe is declared.  For a startup probe the prober
makes up for that before it returns, and a liveness probe leaves no trace in a status, so both
are as if they were not in the spec; a readiness probe keeps the Pod from ever being ready.
-/
import MacVz.PodEvents
import MacVz.ProbeReadiness

namespace MacVz

open Interleaving

variable {c : Container} {others : Bool} {p : Prober} {ps ps' : Option ProbeState}
  {rest : List Container} {g : ProbeState → ProbeState} {base : Int}

/-- The container as if it declared no probe of the kind. -/
def Container.without (c : Container) : ProbeKind → Container
  | .startup => { c with startupProbe := none }
  | .readiness => { c with readinessProbe := none }
  | .liveness => { c with livenessProbe := none }

/-- The Pod without one probe of its first container, the one that is probed. -/
def Pod.without (pod : Pod) (kind : ProbeKind) : Pod :=
  { pod with containers := pod.containers.modifyHead fun c => c.without kind }

def ProbeState.without (ps : ProbeState) : ProbeKind → ProbeState
  | .startup => { ps with hasStartup := false, startupDone := true }
  | .readiness => { ps with hasReadiness := false }
  | .liveness => { ps with hasLiveness := false }

/-- The state of a Pod created without the probe, as another incarnation and with its own probe
state. -/
def PodState.without (st : PodState) (kind : ProbeKind) (inc : Nat)
    (probes : Option ProbeState) : PodState :=
  { st with inc := inc, pod := st.pod.without kind, probes := probes }

def Container.declaresOther (c : Container) (kind : ProbeKind) : Bool :=
  [ProbeKind.startup, .readiness, .liveness].any fun other =>
    other ≠ kind && (c.probe other).isSome

/-- The Pod has a probe of another kind. -/
def Pod.declaresOther (pod : Pod) (kind : ProbeKind) : Bool :=
  pod.containers.head?.any fun c => c.declaresOther kind

def ContainerStatus.plain (cs : ContainerStatus) : Bool :=
  match cs.state with
  | .running _ => cs.ready && cs.started = some true
  | _ => true

def PodStatus.plain (status : PodStatus) : Bool :=
  status.containerStatuses.all ContainerStatus.plain

/-- The two probe states.  A container left without any probe is not probed at all. -/
inductive ProbesWithout (kind : ProbeKind) (others : Bool) :
    Option ProbeState → Option ProbeState → Prop
  | none : ProbesWithout kind others none none
  | both (ps : ProbeState) (arm : Nat) (inst : Option Nat) : others = true →
      ProbesWithout kind others (some ps) (some { ps.without kind with arm := arm, inst := inst })
  | sole (ps : ProbeState) : others = false → ps.hasReadiness = false →
      (kind ≠ .startup → ps.hasStartup = false) → ProbesWithout kind others (some ps) none

/-- A Pod with one container, whose recorded flags are those of a container without probes. -/
structure Unprobed (st : PodState) : Prop where
  single : ∃ c, st.pod.containers = [c]
  plain : st.status.plain = true

/-- Two records of a Pod, with and without the probe, that agree on all else. -/
structure Without (kind : ProbeKind) (st st' : PodState) : Prop where
  state : st' = st.without kind st'.inc st'.probes
  probes : ProbesWithout kind (st.pod.declaresOther kind) st.probes st'.probes
  unprobed : st.pod.declaresOther kind = false → st.terminalStatus = none → Unprobed st

def ProbeState.waiting (ps : ProbeState) : Bool := ps.hasStartup && !ps.startupDone

def PodState.waits (st : PodState) : Bool := st.probes.any ProbeState.waiting

/-- If the kind is the startup probe, it is not waited for. -/
def PodState.released (st : PodState) (kind : ProbeKind) : Prop :=
  kind = .startup → st.waits = false

section Reading

variable {kind : ProbeKind} {inc : Nat} {probes : Option ProbeState} {r : Reading}

def Reading.without (r : Reading) (kind : ProbeKind) (inc : Nat) (probes : Option ProbeState) :
    Reading :=
  { r with st := r.st.without kind inc probes }

theorem readContainer_container (base : Int) (answers : Answers) (r : Reading) (c : Container)
    (kind : ProbeKind) :
    readContainer base answers r (c.without kind) = readContainer base answers r c := by
  cases kind <;> rfl

theorem maybeTriggerRestart_without (base : Int) (st : PodState) (container oldID : String)
    (exitCode : Int) :
    maybeTriggerRestart base (st.without kind inc probes) container oldID exitCode =
      let triggered := maybeTriggerRestart base st container oldID exitCode
      (triggered.1, triggered.2.1.without kind inc probes, triggered.2.2) := by
  unfold maybeTriggerRestart
  change (if shouldRestart st.restartPolicy exitCode = false then _
    else if st.restarting then _ else _) = _
  split
  · rfl
  · split <;> rfl

theorem restartOr_without (base : Int) (r otherwise : Reading) (c : Container) (id : String)
    (exitCode : Int) :
    (r.without kind inc probes).restartOr base c id exitCode (otherwise.without kind inc probes) =
      (r.restartOr base c id exitCode otherwise).without kind inc probes := by
  have hstate : (r.without kind inc probes).st = r.st.without kind inc probes := rfl
  unfold Reading.restartOr
  rw [hstate, maybeTriggerRestart_without]
  rcases maybeTriggerRestart base r.st c.name id exitCode with ⟨_ | _, st, launched⟩ <;> rfl

/-- A read does not look at the ignored probe's state. -/
theorem readContainer_without (base : Int) (answers : Answers) (r : Reading) (c : Container) :
    readContainer base answers (r.without kind inc probes) c =
      (readContainer base answers r c).without kind inc probes := by
  have hworkloads : (r.without kind inc probes).st.workloads = r.st.workloads := rfl
  have hstatus : (r.without kind inc probes).st.status = r.st.status := rfl
  unfold readContainer
  rw [hworkloads, hstatus]
  split
  · rfl
  · rename_i w _
    split
    · split
      · exact restartOr_without base r
          (r.push (terminatedStatus c w.id 0 "Lost" "runtime workload not found")) c w.id 1
      · split <;> rfl
    · rename_i rs _
      split
      · exact restartOr_without base r (r.observe c w.id rs) c w.id (exitCodeOf rs)
      · rfl

theorem foldl_readContainer_without (base : Int) (answers : Answers) (containers : List Container)
    (r : Reading) : containers.foldl (readContainer base answers) (r.without kind inc probes) =
      (containers.foldl (readContainer base answers) r).without kind inc probes := by
  induction containers generalizing r with
  | nil => rfl
  | cons c rest ih =>
    rw [List.foldl_cons, readContainer_without]
    exact ih (readContainer base answers r c)

theorem reading_without (base : Int) (answers : Answers) (st : PodState) :
    (st.without kind inc probes).pod.containers.foldl (readContainer base answers)
        (Reading.start (st.without kind inc probes)) =
      (st.pod.containers.foldl (readContainer base answers) (Reading.start st)).without
        kind inc probes := by
  change (st.pod.containers.modifyHead fun c => c.without kind).foldl (readContainer base answers)
      ((Reading.start st).without kind inc probes) = _
  rw [← foldl_readContainer_without]
  cases st.pod.containers with
  | nil => rfl
  | cons c rest =>
    rw [List.modifyHead_cons, List.foldl_cons, List.foldl_cons, readContainer_container]

/-- The entry of a single container that is read is as of one without probes, if the recorded
one is. -/
theorem readContainer_plain {answers : Answers} (hnil : r.statuses = [])
    (hplain : r.st.status.plain = true) :
    ∃ cs, (readContainer base answers r c).statuses = [cs] ∧ cs.plain = true := by
  have hpush : ∀ cs : ContainerStatus, cs.plain = true →
      ∃ cs', (r.push cs).statuses = [cs'] ∧ cs'.plain = true :=
    fun cs hcs => ⟨cs, by rw [Reading.push, hnil]; rfl, hcs⟩
  have hobserve : ∀ id rs, ∃ cs, (r.observe c id rs).statuses = [cs] ∧ cs.plain = true := by
    intro id rs
    refine hpush _ ?_
    unfold ContainerStatus.plain containerStatus
    cases rs.phase <;> simp
  have hrestart : ∀ id exitCode (otherwise : Reading),
      (∃ cs, otherwise.statuses = [cs] ∧ cs.plain = true) →
      ∃ cs, (r.restartOr base c id exitCode otherwise).statuses = [cs] ∧ cs.plain = true := by
    intro id exitCode otherwise hother
    unfold Reading.restartOr
    split
    · rename_i st launched _
      exact ⟨restartingStatus c (st.restarts c.name), by simp [Reading.push, hnil], rfl⟩
    · exact hother
  unfold readContainer
  split
  · exact hpush _ rfl
  · split
    · split
      · exact hrestart _ _ _ (hpush _ rfl)
      · split
        · rename_i prev hprev
          exact hpush prev (List.all_eq_true.mp hplain prev (List.mem_of_find?_eq_some hprev))
        · exact hpush _ rfl
    · split
      · exact hrestart _ _ _ (hobserve _ _)
      · exact hobserve _ _

theorem ProbesWithout.eq_none (h : ProbesWithout kind others ps ps') (hothers : others = false) :
    ps' = .none := by
  cases h with
  | none => rfl
  | both ps arm inst hsome =>
    rw [hothers] at hsome
    cases hsome
  | sole => rfl

theorem ProbeState.started_of_not_waiting (ps : ProbeState) (h : ps.waiting = false) :
    (if ps.hasStartup then ps.startupDone else true) = true := by
  unfold ProbeState.waiting at h
  cases hstartup : ps.hasStartup <;> simp_all

/-- The started and ready state derived from the two probe states is the same, once the probe
that is ignored does not hold the container back. -/
theorem probeReadiness_without (hkind : kind ≠ .readiness) (h : ProbesWithout kind others ps ps')
    (hreleased : kind = .startup → ps.any ProbeState.waiting = false) (phase : PodPhase) :
    probeReadiness ps' phase = probeReadiness ps phase := by
  cases h with
  | none => rfl
  | both ps arm inst _ =>
    cases phase with
    | running =>
      cases kind with
      | startup =>
        have hstarted := ps.started_of_not_waiting (hreleased rfl)
        unfold probeReadiness
        dsimp only
        rw [hstarted]
        rfl
      | readiness => exact absurd rfl hkind
      | liveness => rfl
    | _ => rfl
  | sole ps _ hreadiness hstartup =>
    cases phase with
    | running =>
      cases hdeclared : ps.hasStartup with
      | false => simp [probeReadiness, hdeclared, hreadiness]
      | true =>
        simp_all [ProbeState.waiting, probeReadiness]
    | _ => rfl

/-- A single container that runs and has the flags of one without probes keeps them. -/
theorem withProbeFlags_plain {cs : ContainerStatus} (hplain : cs.plain = true)
    (probes : Option ProbeState) {flags : Bool × Bool}
    (hflags : flags = probeReadiness .none (aggregatePhase [cs])) :
    withProbeFlags probes flags.1 flags.2 cs = cs := by
  unfold withProbeFlags
  split
  · rename_i startedAt hstate
    have hrunning : aggregatePhase [cs] = .running :=
      aggregatePhase_singleton_running.mpr ⟨startedAt, hstate⟩
    rw [ContainerStatus.plain] at hplain
    cases cs
    simp_all [probeReadiness]
  · rfl

/-- The reported status does not show the ignored probe's state. -/
theorem status_without (hkind : kind ≠ .readiness) (hostIP : String)
    (hprobes : ProbesWithout kind others r.st.probes probes) (hreleased : r.st.released kind)
    (hplain : others = false → ∃ cs, r.statuses = [cs] ∧ cs.plain = true) :
    (r.without kind inc probes).status hostIP = r.status hostIP := by
  have hflags := probeReadiness_without hkind hprobes hreleased (aggregatePhase r.statuses)
  have hmap : ∀ flags, flags = probeReadiness r.st.probes (aggregatePhase r.statuses) →
      r.statuses.map (withProbeFlags probes flags.1 flags.2) =
        r.statuses.map (withProbeFlags r.st.probes flags.1 flags.2) := by
    intro flags hflags₀
    generalize r.st.probes = ps at hprobes hflags hflags₀
    cases hprobes with
    | none => rfl
    | both ps arm inst _ =>
      refine List.map_congr_left fun cs _ => ?_
      unfold withProbeFlags
      cases cs.state <;> rfl
    | sole ps hothers _ _ =>
      obtain ⟨cs, hcs, hcsplain⟩ := hplain hothers
      rw [hcs] at hflags hflags₀ ⊢
      rw [← hflags] at hflags₀
      rw [List.map_singleton, List.map_singleton, withProbeFlags_plain hcsplain _ hflags₀,
        withProbeFlags_plain hcsplain _ hflags₀]
  unfold Reading.status
  dsimp only [Reading.without, PodState.without]
  rw [hflags, hmap _ rfl]
  rfl

end Reading

structure RestartTask.SameSwap (t t' : RestartTask) : Prop where
  oldID : t'.oldID = t.oldID
  newID : t'.newID = t.newID
  vmIP : t'.vmIP = t.vmIP
  attached : t'.attached = t.attached

/-- A prober of the same probe of the same container, with the same counts. -/
structure Prober.SameCounts (p p' : Prober) : Prop where
  kind : p'.kind = p.kind
  container : p'.container.name = p.container.name
  probe : p'.probe = p.probe
  successes : p'.successes = p.successes
  failures : p'.failures = p.failures

section Events

variable {kind : ProbeKind} {st st' : PodState} {inc : Nat} {probes : Option ProbeState}
  {t t' : RestartTask} {p' : Prober}

theorem Without.status_eq (h : Without kind st st') : st'.status = st.status := by
  rw [h.state]
  rfl

/-- Whether flags are recorded as of a container without probes depends on the spec and the
recorded status only. -/
theorem Unprobed.congr (h : Unprobed st) (hpod : st'.pod = st.pod)
    (hstatus : st'.status = st.status) : Unprobed st' :=
  ⟨by rw [hpod]; exact h.single, by rw [hstatus]; exact h.plain⟩

theorem Without.of_state (h : Without kind st st') :
    ∃ inc probes, st' = st.without kind inc probes ∧
      ProbesWithout kind (st.pod.declaresOther kind) st.probes probes :=
  ⟨st'.inc, st'.probes, h.state, h.probes⟩

/-- A read gives both Pods the same status, once the probe does not hold the container back. -/
theorem Without.readIn (hkind : kind ≠ .readiness) (h : Without kind st st')
    (hreleased : st.released kind) (seen : Surroundings) :
    Without kind (st.readIn seen) (st'.readIn seen) := by
  obtain ⟨inc, probes, rfl, hprobes⟩ := h.of_state
  cases hterminal : st.terminalStatus with
  | some status =>
    have hterminal' : (st.without kind inc probes).terminalStatus = some status := hterminal
    simp only [PodState.readIn, reconcileStatus, hterminal, hterminal']
    exact ⟨rfl, hprobes, fun _ hnone => by cases hnone⟩
  | none =>
    have hterminal' : (st.without kind inc probes).terminalStatus = none := hterminal
    have hreads := foldl_readContainer_reads seen.base seen.answers st.pod.containers
      (r := Reading.start st) (Reads.refl st)
    have hsingle : st.pod.declaresOther kind = false → ∃ cs,
        (st.pod.containers.foldl (readContainer seen.base seen.answers)
          (Reading.start st)).statuses = [cs] ∧ cs.plain = true := by
      intro hsole
      have hunprobed := h.unprobed hsole hterminal
      obtain ⟨c, hc⟩ := hunprobed.single
      rw [hc]
      exact readContainer_plain rfl hunprobed.plain
    simp only [PodState.readIn, reconcileStatus, hterminal, hterminal', reading_without]
    generalize st.pod.containers.foldl (readContainer seen.base seen.answers)
      (Reading.start st) = r at hreads hsingle ⊢
    have hkept : r.st.probes = st.probes ∧ r.st.pod = st.pod := by
      rw [hreads.state]
      exact ⟨rfl, rfl⟩
    have hstatus : (r.without kind inc probes).status seen.hostIP = r.status seen.hostIP := by
      refine status_without hkind seen.hostIP (hkept.1 ▸ hprobes) ?_ hsingle
      unfold PodState.released PodState.waits
      rw [hkept.1]
      exact hreleased
    rw [hstatus]
    refine ⟨rfl, ?_, ?_⟩
    · rw [hkept.1, hkept.2]
      exact hprobes
    · intro hsole _
      replace hsole : st.pod.declaresOther kind = false := hkept.2 ▸ hsole
      refine ⟨?_, ?_⟩
      · rw [hkept.2]
        exact (h.unprobed hsole hterminal).single
      · obtain ⟨cs, hcs, hplain⟩ := hsingle hsole
        have hnone := hprobes.eq_none hsole
        subst hnone
        rw [← hstatus]
        change (r.statuses.map (withProbeFlags none _ _)).all ContainerStatus.plain = true
        rw [hcs]
        simpa [withProbeFlags] using hplain

def Container.Bare (c : Container) : Prop :=
  c.startupProbe = none ∧ c.readinessProbe = none ∧ c.livenessProbe = none

theorem startProbes_bare (hcontainers : st.pod.containers = c :: rest) (hbare : c.Bare) (arm : Nat)
    (inst : Option Nat) : (startProbes st arm inst).1 = st := by
  unfold startProbes
  rw [hcontainers]
  exact congrArg Prod.fst (if_pos hbare)

theorem startProbes_armed (hcontainers : st.pod.containers = c :: rest) (hprobed : ¬ c.Bare)
    (arm : Nat) (inst : Option Nat) : startProbes st arm inst =
      ({ st with probes := some (ProbeState.begin c arm inst) }, launchProbers st c arm) := by
  unfold startProbes
  rw [hcontainers]
  exact if_neg hprobed

/-- Another probe is declared exactly where one is left without the kind. -/
theorem Container.declaresOther_iff (c : Container) (kind : ProbeKind) :
    c.declaresOther kind = true ↔ ¬ (c.without kind).Bare := by
  cases kind <;>
    simp only [Container.declaresOther, Container.Bare, Container.without, Container.probe,
      List.any_cons, List.any_nil] <;>
    cases c.startupProbe <;> cases c.readinessProbe <;> cases c.livenessProbe <;> simp

theorem Container.Bare.without (h : c.Bare) (kind : ProbeKind) : (c.without kind).Bare := by
  obtain ⟨hstartup, hreadiness, hliveness⟩ := h
  cases kind
  · exact ⟨rfl, hreadiness, hliveness⟩
  · exact ⟨hstartup, rfl, hliveness⟩
  · exact ⟨hstartup, hreadiness, rfl⟩

theorem begin_without (c : Container) (kind : ProbeKind) (arm arm' : Nat)
    (inst inst' : Option Nat) : ProbeState.begin (c.without kind) arm' inst' =
      { (ProbeState.begin c arm inst).without kind with arm := arm', inst := inst' } := by
  cases kind <;> rfl

/-- A launch for both Pods; the second one has no prober to launch if the probe was the only
one. -/
theorem Without.launch (hkind : kind ≠ .readiness) (h : Without kind st st')
    (arm arm' : Nat) (inst inst' : Option Nat) :
    Without kind (startProbes st arm inst).1 (startProbes st' arm' inst').1 := by
  obtain ⟨inc, probes, rfl, hprobes⟩ := h.of_state
  cases hcontainers : st.pod.containers with
  | nil =>
    have hcontainers' : (st.without kind inc probes).pod.containers = [] :=
      congrArg (List.modifyHead fun c : Container => c.without kind) hcontainers
    simp only [startProbes, hcontainers, hcontainers']
    exact h
  | cons c rest =>
    have hcontainers' : (st.without kind inc probes).pod.containers = c.without kind :: rest :=
      congrArg (List.modifyHead fun c : Container => c.without kind) hcontainers
    have hother : st.pod.declaresOther kind = c.declaresOther kind := by
      simp [Pod.declaresOther, hcontainers]
    by_cases hbare : c.Bare
    · rw [startProbes_bare hcontainers hbare, startProbes_bare hcontainers' (hbare.without kind)]
      exact h
    · rw [startProbes_armed hcontainers hbare]
      have hunprobed : st.pod.declaresOther kind = false → st.terminalStatus = none →
          Unprobed { st with probes := some (ProbeState.begin c arm inst) } :=
        fun hsole hlive => (h.unprobed hsole hlive).congr rfl rfl
      by_cases hbare' : (c.without kind).Bare
      · -- the probe is the only one: the other Pod is not probed
        have hsole : st.pod.declaresOther kind = false := by
          rw [hother, Bool.eq_false_iff]
          exact fun htrue => (c.declaresOther_iff kind).mp htrue hbare'
        rw [startProbes_bare hcontainers' hbare', hprobes.eq_none hsole]
        refine ⟨rfl, .sole _ hsole ?_ ?_, hunprobed⟩
        · cases kind with
          | readiness => exact absurd rfl hkind
          | _ => exact congrArg Option.isSome hbare'.2.1
        · intro hstartup
          cases kind with
          | startup => exact absurd rfl hstartup
          | _ => exact congrArg Option.isSome hbare'.1
      · rw [startProbes_armed hcontainers' hbare', begin_without c kind arm arm' inst inst']
        exact ⟨rfl, .both _ _ _ (hother.trans ((c.declaresOther_iff kind).mpr hbare')), hunprobed⟩

theorem Without.commit (hkind : kind ≠ .readiness) (h : Without kind st st')
    (hreleased : st.released kind) (seen : Surroundings) (arm arm' : Nat)
    (inst inst' : Option Nat) :
    Without kind (st.committedIn seen arm inst).1 (st'.committedIn seen arm' inst').1 := by
  have hread := h.readIn hkind hreleased seen
  unfold PodState.committedIn
  rw [hread.status_eq]
  split
  · exact hread.launch hkind arm arm' inst inst'
  · exact hread

theorem Without.snapshot (h : Without kind st st') :
    Without kind (snapshotUpdate st).st (snapshotUpdate st').st := by
  obtain ⟨inc, probes, rfl, hprobes⟩ := h.of_state
  unfold snapshotUpdate
  change Without kind _ (if st.terminalStatus.isSome then _ else _ : Update).st
  split
  · exact ⟨rfl, hprobes, fun hsole hlive => (h.unprobed hsole hlive).congr rfl rfl⟩
  · exact ⟨rfl, .none, fun hsole hlive => (h.unprobed hsole hlive).congr rfl rfl⟩

theorem Without.idle (h : Without kind st st') : Without kind st.idle st'.idle := by
  obtain ⟨inc, probes, rfl, hprobes⟩ := h.of_state
  exact ⟨rfl, hprobes, fun hsole hlive => (h.unprobed hsole hlive).congr rfl rfl⟩

theorem Without.swapIn (hswap : t.SameSwap t') (h : Without kind st st') :
    Without kind (t.swapIn st) (t'.swapIn st') := by
  obtain ⟨inc, probes, rfl, hprobes⟩ := h.of_state
  have hstate : t'.swapIn (st.without kind inc probes) = (t.swapIn st).without kind inc probes := by
    unfold RestartTask.swapIn PodState.without Pod.without
    rw [hswap.oldID, hswap.newID, hswap.vmIP, hswap.attached]
    cases st.pod.containers with
    | nil => rfl
    | cons c rest => cases kind <;> rfl
  rw [hstate]
  exact ⟨rfl, hprobes, fun hsole hlive => (h.unprobed hsole hlive).congr rfl rfl⟩

theorem Without.finish (hkind : kind ≠ .readiness) (hswap : t.SameSwap t') (h : Without kind st st')
    (arm arm' : Nat) : Without kind (t.finishedAt arm st).1 (t'.finishedAt arm' st').1 := by
  unfold RestartTask.finishedAt
  rw [hswap.newID]
  split
  · exact h.idle
  · exact (h.swapIn hswap).launch hkind arm arm' t.inst t'.inst

theorem ProbesWithout.map (h : ProbesWithout kind others ps ps')
    (hg : g = ProbeState.setStartupDone ∨ ∃ ready, g = ProbeState.setReady ready) :
    ProbesWithout kind others (ps.map g) (ps'.map g) := by
  cases h with
  | none => exact .none
  | both ps arm inst hothers =>
    have hcommute : g { ps.without kind with arm := arm, inst := inst } =
        { (g ps).without kind with arm := arm, inst := inst } := by
      rcases hg with rfl | ⟨ready, rfl⟩ <;> cases kind <;> rfl
    rw [Option.map_some, Option.map_some, hcommute]
    exact .both _ _ _ hothers
  | sole ps hothers hreadiness hstartup =>
    rcases hg with rfl | ⟨ready, rfl⟩ <;> exact .sole _ hothers hreadiness hstartup

theorem Without.set (h : Without kind st st')
    (hg : g = ProbeState.setStartupDone ∨ ∃ ready, g = ProbeState.setReady ready) :
    Without kind (setProbeUpdate g st).st (setProbeUpdate g st').st := by
  obtain ⟨inc, probes, rfl, hprobes⟩ := h.of_state
  exact ⟨rfl, hprobes.map hg, fun hsole hlive => (h.unprobed hsole hlive).congr rfl rfl⟩

/-- Without a startup probe in the second Pod, the first one may pass its own at any time. -/
theorem Without.ignore (h : Without .startup st st') :
    Without .startup (setProbeUpdate ProbeState.setStartupDone st).st st' := by
  obtain ⟨inc, probes, rfl, hprobes⟩ := h.of_state
  refine ⟨rfl, ?_, fun hsole hlive => (h.unprobed hsole hlive).congr rfl rfl⟩
  change ProbesWithout .startup (st.pod.declaresOther .startup)
    (st.probes.map ProbeState.setStartupDone) probes
  generalize st.probes = ps at hprobes ⊢
  cases hprobes with
  | none => exact .none
  | both ps arm inst hothers => exact .both ps.setStartupDone arm inst hothers
  | sole ps hothers hreadiness hstartup => exact .sole _ hothers hreadiness hstartup

theorem probeFailureStatus_without (st : PodState) (kind : ProbeKind) (inc : Nat)
    (probes : Option ProbeState) (id : String) :
    probeFailureStatus (st.without kind inc probes) id = probeFailureStatus st id := by
  unfold probeFailureStatus PodState.without Pod.without
  cases st.pod.containers with
  | nil => rfl
  | cons c rest => cases kind <;> rfl

theorem Without.fail (hcounts : p.SameCounts p') (h : Without kind st st') (base : Int) :
    Without kind (p.failUpdate base st).st (p'.failUpdate base st').st := by
  obtain ⟨inc, probes, rfl, hprobes⟩ := h.of_state
  have hworkload : p'.workload (st.without kind inc probes) = p.workload st := by
    unfold Prober.workload
    rw [hcounts.container]
    rfl
  unfold Prober.failUpdate
  rw [hworkload, probeFailureStatus_without, maybeTriggerRestart_without]
  change Without kind _ (if st.terminalStatus.isSome then _ else _ : Update).st
  split
  · exact h
  · unfold maybeTriggerRestart
    cases shouldRestart st.restartPolicy 1 with
    | false => exact ⟨rfl, .none, fun _ hlive => by cases hlive⟩
    | true =>
      cases st.restarting with
      | true => exact h
      | false => exact ⟨rfl, hprobes, fun hsole hlive => (h.unprobed hsole hlive).congr rfl rfl⟩

/-- A prober acts alike with and without the ignored probe. -/
theorem Without.act (hcounts : p.SameCounts p') (h : Without kind st st') (base : Int) (ok : Bool) :
    Without kind (p.actUpdate base ok st).st (p'.actUpdate base ok st').st := by
  have hsuccess : p'.successThreshold = p.successThreshold := by
    unfold Prober.successThreshold
    rw [hcounts.kind, hcounts.probe]
  have hfailure : p'.failureThreshold = p.failureThreshold := by
    unfold Prober.failureThreshold
    rw [hcounts.probe]
  unfold Prober.actUpdate
  rw [hsuccess, hfailure, hcounts.kind, hcounts.successes, hcounts.failures]
  split
  · split
    · split
      · exact h.set (Or.inl rfl)
      · exact h.set (Or.inr ⟨true, rfl⟩)
      · exact h
    · exact h
  · split
    · split
      · exact h.set (Or.inr ⟨false, rfl⟩)
      · exact h.fail hcounts base
    · exact h

end Events

/-- The events that correspond: the same happens to a Pod with the probe and to one without it,
and the same is seen. -/
inductive Counterpart (kind : ProbeKind) : PodEvent → PodEvent → Prop
  | commit (st : PodState) (seen : Surroundings) (arm arm' : Nat) (inst inst' : Option Nat)
      (inc : Nat) : Counterpart kind (.commit st seen arm inst)
        (.commit (st.without kind inc none) seen arm' inst')
  | refuse (st : PodState) (inc : Nat) :
      Counterpart kind (.refuse st) (.refuse (st.without kind inc none))
  | delete : Counterpart kind .delete .delete
  | read (seen : Surroundings) : Counterpart kind (.read seen) (.read seen)
  | snapshot : Counterpart kind .snapshot .snapshot
  | finish (t t' : RestartTask) (arm arm' : Nat) : t.SameSwap t' →
      Counterpart kind (.finish t arm) (.finish t' arm')
  | startupIgnored : Counterpart kind .startupIgnored .startupIgnored
  | act (p p' : Prober) (base : Int) (ok : Bool) : p.SameCounts p' →
      Counterpart kind (.act p base ok) (.act p' base ok)

/-- The event is the return of a prober of the probe, which the other Pod does not have. -/
def PodEvent.ofIgnored (kind : ProbeKind) : PodEvent → Bool
  | .startupIgnored => kind = .startup
  | _ => false

/-- The events a run with the probe can have, given the record. -/
def Admits (kind : ProbeKind) (st : Option PodState) : PodEvent → Prop
  | .commit st₀ _ _ _ => st₀.probes = none ∧ (st₀.pod.declaresOther kind = false → Unprobed st₀)
  | .refuse st₀ => st₀.probes = none ∧ st₀.terminalStatus ≠ none
  | .read _ => ∀ st₀, st = some st₀ → st₀.released kind
  | _ => True

section Runs

variable {kind : ProbeKind} {st st' : Option PodState} {e e' : PodEvent}

theorem map_without {f g : PodState → PodState} (h : Option.Rel (Without kind) st st')
    (hfg : ∀ st₀ st₀', st = some st₀ → Without kind st₀ st₀' → Without kind (f st₀) (g st₀')) :
    Option.Rel (Without kind) (st.map f) (st'.map g) := by
  cases h with
  | none => exact .none
  | some hwithout => exact .some (hfg _ _ rfl hwithout)

/-- Events that correspond keep the second Pod the first one without the probe. -/
theorem apply_without (hkind : kind ≠ .readiness) (h : Option.Rel (Without kind) st st')
    (hadmits : Admits kind st e) (hsame : Counterpart kind e e') :
    Option.Rel (Without kind) (e.apply st) (e'.apply st') := by
  cases hsame with
  | commit st₀ seen arm arm' inst inst' inc =>
    have hstart : Without kind st₀ (st₀.without kind inc none) :=
      ⟨rfl, by rw [hadmits.1]; exact .none, fun hsole _ => hadmits.2 hsole⟩
    have hreleased : st₀.released kind := by
      intro _
      rw [PodState.waits, hadmits.1]
      rfl
    exact .some (hstart.commit hkind hreleased seen arm arm' inst inst')
  | refuse st₀ inc =>
    exact .some ⟨rfl, by rw [hadmits.1]; exact .none, fun _ hlive => absurd hlive hadmits.2⟩
  | delete => exact .none
  | read seen =>
    exact map_without h fun st₀ _ hst₀ hwithout =>
      hwithout.readIn hkind (hadmits st₀ hst₀) seen
  | snapshot => exact map_without h fun _ _ _ hwithout => hwithout.snapshot
  | finish t t' arm arm' hswap =>
    exact map_without h fun _ _ _ hwithout => hwithout.finish hkind hswap arm arm'
  | startupIgnored => exact map_without h fun _ _ _ hwithout => hwithout.set (Or.inl rfl)
  | act p p' base ok hcounts =>
    exact map_without h fun _ _ _ hwithout => hwithout.act hcounts base ok

theorem reported_without (hkind : kind ≠ .readiness) (h : Option.Rel (Without kind) st st')
    (hadmits : Admits kind st e) (hsame : Counterpart kind e e') :
    e.reported st = e'.reported st' := by
  cases hsame with
  | read seen =>
    cases h with
    | none => rfl
    | some hwithout =>
      have hread := hwithout.readIn hkind (hadmits _ rfl) seen
      exact congrArg some hread.status_eq.symm
  | _ => rfl

theorem ofIgnored_without (h : Option.Rel (Without kind) st st')
    (hignored : e.ofIgnored kind = true) :
    Option.Rel (Without kind) (e.apply st) st' ∧ e.reported st = none := by
  cases e with
  | startupIgnored =>
    obtain rfl : kind = .startup := of_decide_eq_true hignored
    refine ⟨?_, rfl⟩
    cases h with
    | none => exact .none
    | some hwithout => exact .some hwithout.ignore
  | _ => cases hignored

/-- Over whole runs of corresponding events both Pods are reported the same. -/
theorem events_without (hkind : kind ≠ .readiness) {es es' : List PodEvent}
    {allowed : Option PodState → PodEvent → Prop}
    (hrun : Run podStep (Admits kind) none es st) (hrun' : Run podStep allowed none es' st')
    (hsame : List.Forall₂ (Counterpart kind) (es.filter fun e => !e.ofIgnored kind) es') :
    observed podStep PodEvent.reported none es = observed podStep PodEvent.reported none es' := by
  refine (hrun.simulates (R := Option.Rel (Without kind)) .none ?_ ?_ hrun' hsame).2
  · intro st₁ st₂ st₁' e h _ hstep hignored
    obtain rfl := Option.some.inj hstep
    exact ofIgnored_without h hignored
  · intro st₁ st₂ st₁' st₂' e e' h hadmits hstep hcounterpart hstep'
    obtain rfl := Option.some.inj hstep
    obtain rfl := Option.some.inj hstep'
    exact ⟨apply_without hkind h hadmits hcounterpart,
      reported_without hkind h hadmits hcounterpart⟩

end Runs

/-- The probe, if it is declared, has a handler that cannot be evaluated. -/
def Pod.ignores (pod : Pod) (kind : ProbeKind) : Bool :=
  pod.containers.head?.all fun c => (c.probe kind).all fun probe => probe.action = .unsupported

/-- A Pod created under the key has the probe with a handler that cannot be evaluated, and another
probe as well unless its recorded status is as without probes. -/
def createsIgnored (kind : ProbeKind) (key : String) : Label → Bool
  | .createBegin pod =>
    pod.key ≠ key || pod.ignores kind && (pod.declaresOther kind || pod.status.plain)
  | _ => true

/-- No prober of the kind is left at the key. -/
def Sys.probeReturned (s : Sys) (kind : ProbeKind) (key : String) : Bool :=
  s.probers.all fun p => p.key ≠ key || p.kind ≠ kind

/-- The status of the Pod is read when no prober of the probe is left. -/
def readsReturned (kind : ProbeKind) (key : String) (s : Sys) : Label → Bool
  | .status other _ => other ≠ key || s.probeReturned kind key
  | _ => true

/-- The Pods of the key ignore the probe: its probers are about to return, and as long as the
startup probe holds the container back one of them is there. -/
structure Ignoring (kind : ProbeKind) (key : String) (s : Sys) : Prop where
  keyed : Keyed s
  placed : ∀ c, s.creating = some c → c.Placed
  call : ∀ c, s.creating = some c → c.pod.key = key →
    c.pod.ignores kind = true ∧ (c.pod.declaresOther kind || c.pod.status.plain) = true
  pod : ∀ st, s.pods key = some st → st.pod.ignores kind = true
  starting : ∀ p ∈ s.probers, p.key = key → p.kind = kind →
    p.pc = .start ∧ p.probe.action = .unsupported
  awaited : kind = .startup → ∀ st, s.pods key = some st → st.waits = true →
    ∃ p ∈ s.probers, p.key = key ∧ p.kind = .startup

section Provider

variable {kind : ProbeKind} {key : String} {s s' : Sys} {l : Label} {arm : Nat} {inst : Option Nat}

theorem Pod.ignores_unsupported {pod : Pod} (h : pod.ignores kind = true)
    (hcontainers : pod.containers = c :: rest) {probe : Probe}
    (hprobe : c.probe kind = some probe) :
    probe.action = .unsupported := by
  simpa [Pod.ignores, hcontainers, hprobe] using h

theorem startProbes_starting {st : PodState}
    (hignores : (startProbes st arm inst).1.pod.ignores kind = true)
    (hp : p ∈ (startProbes st arm inst).2) (hkind : p.kind = kind) :
    p.pc = .start ∧ p.probe.action = .unsupported := by
  rw [(startProbes_sameCore st arm inst).pod] at hignores
  rcases startProbes_probers st arm inst with hnil | ⟨c, rest, hcontainers, hlaunch⟩
  · rw [hnil] at hp
    cases hp
  · rw [hlaunch] at hp
    obtain ⟨kind', probe, hprobe, rfl⟩ := mem_launchProbers hp
    obtain rfl : kind' = kind := hkind
    exact ⟨rfl, st.pod.ignores_unsupported hignores hcontainers hprobe⟩

theorem startProbes_waits {st : PodState} (hwaits : (startProbes st arm inst).1.waits = true) :
    st.waits = true ∨
      ∃ p ∈ (startProbes st arm inst).2, p.key = st.pod.key ∧ p.kind = .startup := by
  cases hcontainers : st.pod.containers with
  | nil =>
    rw [startProbes, hcontainers] at hwaits
    exact Or.inl hwaits
  | cons c rest =>
    by_cases hbare : c.Bare
    · rw [startProbes_bare hcontainers hbare] at hwaits
      exact Or.inl hwaits
    · rw [startProbes_armed hcontainers hbare] at hwaits ⊢
      cases hstartup : c.startupProbe with
      | none => simp [PodState.waits, ProbeState.waiting, ProbeState.begin, hstartup] at hwaits
      | some probe =>
        refine Or.inr ⟨Prober.begin st c arm .startup probe, ?_, rfl, rfl⟩
        simp [launchProbers, hstartup]

theorem readIn_waits (st : PodState) (seen : Surroundings) : (st.readIn seen).waits = st.waits := by
  change (reconcileStatus _ _ _ st).2.1.waits = _
  rw [(reconcileStatus_reads seen.hostIP seen.base seen.answers st).state]
  rfl

theorem set_waits {st : PodState} (hwaits : (setProbeUpdate g st).st.waits = true)
    (hg : ∀ ps, (g ps).waiting = true → ps.waiting = true) : st.waits = true := by
  change (st.probes.map g).any ProbeState.waiting = true at hwaits
  rw [PodState.waits]
  cases hps : st.probes with
  | none =>
    rw [hps] at hwaits
    cases hwaits
  | some ps =>
    rw [hps] at hwaits
    exact hg ps hwaits

theorem Acts.waits {ok : Bool} {st : PodState} {u : Update} (h : Acts p base ok st u)
    (hwaits : u.st.waits = true) : st.waits = true := by
  cases h with
  | nothing | restart => exact hwaits
  | startup =>
    exact set_waits hwaits fun ps h => by
      simp [ProbeState.waiting, ProbeState.setStartupDone] at h
  | ready | unready => exact set_waits hwaits fun ps h => h
  | fail => cases hwaits

/-- A container is held back by an event only if it launches a prober of the startup probe, or if
the container was held back before. -/
theorem Notices.waits {e : PodEvent} (hnotices : Notices key s l e) {st' : PodState}
    (happly : e.apply (s.pods key) = some st') (hwaits : st'.waits = true) :
    (e ≠ .startupIgnored ∧ ∃ st, s.pods key = some st ∧ st.waits = true) ∨
      ∃ p ∈ e.launched (s.pods key), p.key = st'.pod.key ∧ p.kind = .startup := by
  cases hnotices with
  | commit c o _ _ _ =>
    have hread : (c.state.readIn (s.surroundings o)).waits = false := readIn_waits c.state _
    obtain rfl := Option.some.inj happly
    rw [PodEvent.launched, PodState.committedIn] at *
    split at hwaits
    · rename_i hruns
      rw [if_pos hruns]
      rcases startProbes_waits hwaits with hbefore | ⟨p, hp, _, hkind⟩
      · rw [hread] at hbefore
        cases hbefore
      · exact Or.inr ⟨p, hp, startProbes_key hp, hkind⟩
    · rw [hread] at hwaits
      cases hwaits
  | refuse c o reason message _ _ _ =>
    obtain rfl := Option.some.inj happly
    cases hwaits
  | delete => cases happly
  | read o =>
    obtain ⟨st, hst, rfl⟩ := Option.map_eq_some_iff.mp happly
    exact Or.inl ⟨(fun h => by cases h), st, hst, (readIn_waits st _).symm.trans hwaits⟩
  | snapshot place o t _ _ _ =>
    obtain ⟨st, hst, rfl⟩ := Option.map_eq_some_iff.mp happly
    refine Or.inl ⟨(fun h => by cases h), st, hst, ?_⟩
    unfold snapshotUpdate at hwaits
    split at hwaits
    · exact hwaits
    · cases hwaits
  | finish place o t _ _ _ =>
    obtain ⟨st, hst, rfl⟩ := Option.map_eq_some_iff.mp happly
    rw [hst, PodEvent.launched, Option.elim_some]
    rw [RestartTask.finishedAt] at *
    split at hwaits
    · exact Or.inl ⟨(fun h => by cases h), st, rfl, hwaits⟩
    · rename_i hnew
      rw [if_neg hnew]
      rcases startProbes_waits hwaits with hbefore | ⟨p, hp, _, hkind⟩
      · exact Or.inl ⟨(fun h => by cases h), st, rfl, hbefore⟩
      · exact Or.inr ⟨p, hp, startProbes_key hp, hkind⟩
  | startupIgnored place o p _ _ _ _ _ =>
    obtain ⟨st, _, rfl⟩ := Option.map_eq_some_iff.mp happly
    change (st.probes.map ProbeState.setStartupDone).any ProbeState.waiting = true at hwaits
    cases hps : st.probes <;> simp [hps, ProbeState.waiting, ProbeState.setStartupDone] at hwaits
  | act place o p ok _ _ _ =>
    obtain ⟨st, hst, rfl⟩ := Option.map_eq_some_iff.mp happly
    exact Or.inl ⟨(fun h => by cases h), st, hst, (actUpdate_acts _ _ ok st).waits hwaits⟩

/-- Probers of the ignored kind never get past their start. -/
theorem Ignoring.step_starting (h : Ignoring kind key s)
    (hpod : ∀ st, s'.pods key = some st → st.pod.ignores kind = true) (hstep : step s l = some s') :
    ∀ p ∈ s'.probers, p.key = key → p.kind = kind →
      p.pc = .start ∧ p.probe.action = .unsupported := by
  intro p' hp' hkey hkind
  rcases step_prober_cases h.keyed hstep hp' with hold | ⟨place, o, p, rfl, hp, hnext⟩ |
    ⟨_, st₀, inst, hst', hmem⟩
  · exact h.starting p' hold hkey hkind
  · -- a prober of the probe that moves is gone
    have hsame := probeNext_move s p o
    rw [hnext] at hsame
    obtain ⟨hpc, haction⟩ := h.starting p (List.mem_of_getElem? hp) (hsame.same.key ▸ hkey)
      (hsame.same.kind ▸ hkind)
    simp [probeNext, hpc, haction] at hnext
  · rw [hkey] at hst'
    exact startProbes_starting (hpod _ hst') hmem hkind

theorem Ignoring.step_awaited (h : Ignoring kind key s) (hkeyed : Keyed s')
    (hstep : step s l = some s') (hkind : kind = .startup) :
    ∀ st, s'.pods key = some st → st.waits = true →
      ∃ p ∈ s'.probers, p.key = key ∧ p.kind = .startup := by
  subst hkind
  intro st' hst' hwaits
  -- a prober that was there is there still: when it moves, the container goes on
  have hstill : podEvent key s l ≠ some .startupIgnored →
      (∃ st, s.pods key = some st ∧ st.waits = true) →
      ∃ p ∈ s'.probers, p.key = key ∧ p.kind = .startup := by
    rintro hevent ⟨st, hst, hbefore⟩
    obtain ⟨p, hp, hkey, hkind⟩ := h.awaited rfl st hst hbefore
    rcases (step_probers hstep).stays hp with hstays | ⟨place, o, rfl, hplace⟩
    · exact ⟨p, hstays, hkey, hkind⟩
    · obtain ⟨hpc, haction⟩ := h.starting p hp hkey hkind
      refine absurd ?_ hevent
      simp [podEvent, hplace, hkey, Prober.event, hpc, haction, hkind]
  have hnoticed : s'.pods key = noticing (s.pods key) (podEvent key s l) := step_noticed hstep
  rw [hst'] at hnoticed
  cases hevent : podEvent key s l with
  | none =>
    rw [hevent] at hnoticed
    exact hstill (by simp [hevent]) ⟨st', hnoticed.symm, hwaits⟩
  | some e =>
    rw [hevent] at hnoticed
    rcases (podEvent_cases hevent).waits hnoticed.symm hwaits with ⟨hother, hbefore⟩ |
      ⟨p, hp, hkey, hkind⟩
    · exact hstill (by simpa [hevent] using hother) hbefore
    · have hother : ∀ place o, l ≠ .probe place o := by
        rintro place o rfl
        cases podEvent_cases hevent <;> cases hp
      exact ⟨p, (step_probers hstep).added hevent hother hp, hkey.trans (hkeyed key st' hst'),
        hkind⟩

/-- A step keeps the kind's probers ignored. -/
theorem step_ignoring (h : Ignoring kind key s) (hcreates : createsIgnored kind key l = true)
    (hstep : step s l = some s') : Ignoring kind key s' := by
  have hkeyed := step_keyed h.keyed hstep
  have hpod : ∀ st, s'.pods key = some st → st.pod.ignores kind = true := by
    intro st' hst'
    rcases step_pod hstep hst' with ⟨st, hst, hpod⟩ | ⟨c, o, _, hc, hkey, hpod⟩
    · exact hpod ▸ h.pod st hst
    · exact hpod ▸ (h.call c hc hkey).1
  refine ⟨hkeyed, ?_, ?_, hpod, h.step_starting hpod hstep, h.step_awaited hkeyed hstep⟩
  · intro c' hc'
    rcases step_creating hstep hc' with ⟨hc, _⟩ | ⟨pod, _, rfl⟩ | ⟨c, o, _, hc, rfl⟩
    · exact h.placed c' hc
    · exact begin_placed pod
    · exact (createNext_move s c o).placed (h.placed c hc)
  · intro c' hc' hkey
    rcases step_creating hstep hc' with ⟨hc, _⟩ | ⟨pod, rfl, rfl⟩ | ⟨c, o, _, hc, rfl⟩
    · exact h.call c' hc hkey
    · have hkey' : pod.key = key := hkey
      change pod.ignores kind = true ∧ (pod.declaresOther kind || pod.status.plain) = true
      simpa [createsIgnored, hkey'] using hcreates
    · rw [(createNext_move s c o).pod_eq] at hkey ⊢
      exact h.call c hc hkey

theorem fresh_ignoring (kind : ProbeKind) (key : String) (podNet : Bool) (hostIP : String)
    (base : Int) (ipam : Option PodIPAM) (vms : VMTable) (nextInst : Nat) :
    Ignoring kind key (Sys.fresh podNet hostIP base ipam vms nextInst) where
  keyed := fun _ _ h => by cases h
  placed := fun _ h => by cases h
  call := fun _ h => by cases h
  pod := fun _ h => by cases h
  starting := fun _ h => by cases h
  awaited := fun _ _ h => by cases h

/-- The events of a Pod whose probe is ignored are as the comparison takes them to be. -/
theorem Ignoring.admits (h : Ignoring kind key s)
    (hreads : kind = .startup → readsReturned kind key s l = true) {e : PodEvent}
    (hevent : podEvent key s l = some e) : Admits kind (s.pods key) e := by
  cases podEvent_cases hevent with
  | commit c o hc hkey hpc =>
    refine ⟨rfl, fun hsole => ?_⟩
    obtain ⟨x, hx, _⟩ := (h.placed c hc).named (by rw [hpc]; rfl)
    have hplain := (h.call c hc hkey).2
    rw [show c.pod.declaresOther kind = false from hsole] at hplain
    exact ⟨⟨x, hx⟩, hplain⟩
  | refuse c o reason message _ _ _ => exact ⟨rfl, by simp [CreateCall.terminalState]⟩
  | read o =>
    intro st hst hstartup
    by_contra hwaits
    rw [Bool.not_eq_false] at hwaits
    obtain ⟨p, hp, hkey, hkind⟩ := h.awaited hstartup st hst hwaits
    have hreturned : s.probeReturned kind key = true := by
      simpa [readsReturned] using hreads hstartup
    have hnone := List.all_eq_true.mp hreturned p hp
    simp [hkey, hkind, hstartup] at hnone
  | _ => trivial

/-- A startup or liveness probe whose handler cannot be evaluated is as if it were not in the
spec: in a run with the probe and in one without it, in which the same is seen of the runtime and
of the other probes, the same statuses are reported of the Pod. -/
theorem ignored_probe_as_absent (hkind : kind ≠ .readiness) {podNet : Bool} {hostIP : String}
    {base : Int} {ipam : Option PodIPAM} {vms : VMTable} {nextInst : Nat} {ls : List Label}
    (hrun : Run step (fun s l => createsIgnored kind key l = true ∧
      (kind = .startup → readsReturned kind key s l = true))
      (Sys.fresh podNet hostIP base ipam vms nextInst) ls s) {start : Sys}
    (hstart : start.pods key = none) {ls' : List Label}
    (hrun' : Run step (fun _ _ => True) start ls' s') (hsame : List.Forall₂ (Counterpart kind)
      ((observed step (podEvent key) (Sys.fresh podNet hostIP base ipam vms nextInst) ls).filter
        fun e => !e.ofIgnored kind)
      (observed step (podEvent key) start ls')) :
    observed step (reportedStatus key) (Sys.fresh podNet hostIP base ipam vms nextInst) ls =
      observed step (reportedStatus key) start ls' := by
  obtain ⟨hevents, hreported⟩ := run_events key (Admits kind) (by
    intro ls s s' l e hrun hallowed _ hevent
    have hignoring : Ignoring kind key s := hrun.invariant (I := Ignoring kind key)
      (fresh_ignoring kind key podNet hostIP base ipam vms nextInst)
      fun h hallowed hstep => step_ignoring h hallowed.1 hstep
    exact hignoring.admits hallowed.2 hevent) hrun
  obtain ⟨hevents', hreported'⟩ :=
    run_events key (fun _ _ => True) (fun _ _ _ _ => trivial) hrun'
  rw [hreported, hreported', hstart]
  rw [hstart] at hevents'
  exact events_without hkind hevents hevents' hsame

end Provider

namespace IgnoredProbe

open Sample

def pod (kind : ProbeKind) : Pod :=
  let probe : Option Probe := some ⟨.unsupported, 0, 1, 1, 1, 1⟩
  { web with containers := [match kind with
    | .startup => { app with startupProbe := probe }
    | .readiness => { app with readinessProbe := probe }
    | .liveness => { app with livenessProbe := probe }] }

def running : Outcome :=
  { Outcome.ok with status := .given (.ok ⟨"", .running, 0, "", 7, "192.168.64.5"⟩) }

/-- `CreatePod`, up to its last step. -/
def creating (pod : Pod) : List Label :=
  .createBegin pod :: List.replicate 13 (.create (okAt "192.168.64.5"))

def withProbe (kind : ProbeKind) : List Label :=
  creating (pod kind) ++ [.create running, .probe 0 .ok, .status "default/web" running]

def withoutProbe : List Label :=
  creating web ++ [.create running, .status "default/web" running]

def before (pod : Pod) : Sys := (exec step node (creating pod)).getD node

def after (pod : Pod) : Sys := (step (before pod) (.create running)).getD node

def returned (kind : ProbeKind) : Sys := (step (after (pod kind)) (.probe 0 .ok)).getD node

theorem surroundings_running {s s' : Sys} (hhost : s'.hostIP = s.hostIP)
    (hbase : s'.restartBackoffBase = s.restartBackoffBase) :
    s'.surroundings running = s.surroundings running := by
  unfold Sys.surroundings
  rw [hhost, hbase]
  rfl

theorem before_creating (kind : ProbeKind) : ∃ c, (before (pod kind)).creating = some c ∧
    (before web).creating = some { c with pod := c.pod.without kind } ∧ c.pc = .commit ∧
    c.pod.key = "default/web" := by
  have hcheck : ((before (pod kind)).creating.any fun c =>
      (before web).creating = some { c with pod := c.pod.without kind } ∧ c.pc = .commit ∧
        c.pod.key = "default/web") = true := by
    cases kind <;> decide +kernel
  obtain ⟨c, hc, hrest⟩ := (Option.any_eq_true _ _).mp hcheck
  exact ⟨c, hc, of_decide_eq_true hrest⟩

/-- The last step of `CreatePod` is the event that stores the Pod. -/
theorem commit_seen {pod : Pod} {c : CreateCall} (hc : (before pod).creating = some c)
    (hpc : c.pc = .commit) (hkey : c.pod.key = "default/web") :
    podEvent "default/web" (before pod) (.create running) =
      some (.commit c.state ((before pod).surroundings running) (before pod).nextArm
        (((before pod).vms c.id).map VM.inst)) := by
  rw [podEvent, hc, Option.bind_some, if_pos hkey, CreateCall.event, hpc]

theorem status_seen (s : Sys) :
    observed step (podEvent "default/web") s [.status "default/web" running] =
      [.read (s.surroundings running)] := rfl

/-- What happens to the Pod with the probe, the return of its prober left out. -/
theorem events_withProbe (kind : ProbeKind) :
    (observed step (podEvent "default/web") node (withProbe kind)).filter
        (fun e => !e.ofIgnored kind) =
      (podEvent "default/web" (before (pod kind)) (.create running)).toList ++
        [.read ((returned kind).surroundings running)] := by
  have hbefore : exec step node (creating (pod kind)) = some (before (pod kind)) :=
    eq_some_getD node (by cases kind <;> decide)
  have hafter : step (before (pod kind)) (.create running) = some (after (pod kind)) :=
    eq_some_getD node (by cases kind <;> decide)
  have hreturned : step (after (pod kind)) (.probe 0 .ok) = some (returned kind) :=
    eq_some_getD node (by cases kind <;> decide)
  have hquiet : observed step (podEvent "default/web") node (creating (pod kind)) = [] :=
    List.isEmpty_iff.mp (by cases kind <;> decide)
  have hignored : (podEvent "default/web" (after (pod kind)) (.probe 0 .ok)).toList.filter
      (fun e => !e.ofIgnored kind) = [] :=
    List.isEmpty_iff.mp (by cases kind <;> decide)
  obtain ⟨c, hc, _, hpc, hkey⟩ := before_creating kind
  rw [withProbe, observed_append hbefore, hquiet, List.nil_append, observed_cons hafter,
    observed_cons hreturned, List.filter_append, List.filter_append, hignored,
    commit_seen hc hpc hkey]
  rfl

theorem events_withoutProbe : (∃ s, Run step (fun _ _ => True) node withoutProbe s) ∧
    observed step (podEvent "default/web") node withoutProbe =
      (podEvent "default/web" (before web) (.create running)).toList ++
        [.read ((after web).surroundings running)] := by
  have hbefore : exec step node (creating web) = some (before web) :=
    eq_some_getD node (by decide +kernel)
  have hafter : step (before web) (.create running) = some (after web) :=
    eq_some_getD node (by decide +kernel)
  have hquiet : observed step (podEvent "default/web") node (creating web) = [] :=
    List.isEmpty_iff.mp (by decide +kernel)
  have hrun : ∃ s, Run step (fun _ _ => True) node withoutProbe s ∧ true = true :=
    exists_run_of_check (fun _ _ => true) (fun _ _ _ => trivial) (by decide +kernel)
  refine ⟨hrun.imp fun _ h => h.1, ?_⟩
  rw [withoutProbe, observed_append hbefore, hquiet, List.nil_append, observed_cons hafter,
    status_seen]

theorem counterparts (kind : ProbeKind) : List.Forall₂ (Counterpart kind)
    ((observed step (podEvent "default/web") node (withProbe kind)).filter
      fun e => !e.ofIgnored kind)
    (observed step (podEvent "default/web") node withoutProbe) := by
  obtain ⟨c, hc, hc', hpc, hkey⟩ := before_creating kind
  have hsame : (before web).surroundings running = (before (pod kind)).surroundings running :=
    surroundings_running (by cases kind <;> decide) (by cases kind <;> decide)
  have hsame' : (after web).surroundings running = (returned kind).surroundings running :=
    surroundings_running (by cases kind <;> decide) (by cases kind <;> decide)
  rw [events_withProbe, events_withoutProbe.2, commit_seen hc hpc hkey, commit_seen hc' hpc hkey,
    hsame, hsame']
  exact .cons (.commit c.state _ _ _ _ _ c.inc) (.cons (.read _) .nil)

end IgnoredProbe

open IgnoredProbe Sample in
theorem ignored_probe_as_absent_startup :
    observed step (reportedStatus "default/web") node (withProbe .startup) =
        observed step (reportedStatus "default/web") node withoutProbe ∧
      (observed step (reportedStatus "default/web") node withoutProbe).map PodStatus.isReady =
        [true] := by
  have hrun : ∃ s, Run step (fun s l => createsIgnored .startup "default/web" l = true ∧
      (ProbeKind.startup = .startup → readsReturned .startup "default/web" s l = true))
      node (withProbe .startup) s ∧ true = true := by
    refine exists_run_of_check (fun s l => createsIgnored .startup "default/web" l &&
      readsReturned .startup "default/web" s l) ?_ (by decide +kernel)
    intro s l hpermits
    obtain ⟨hcreates, hreads⟩ := (Bool.and_eq_true _ _).mp hpermits
    exact ⟨hcreates, fun _ => hreads⟩
  obtain ⟨s, hrun, -⟩ := hrun
  obtain ⟨s', hrun'⟩ := events_withoutProbe.1
  exact ⟨ignored_probe_as_absent (by decide) hrun rfl hrun' (counterparts .startup),
    by decide +kernel⟩

open IgnoredProbe Sample in
/-- With a readiness probe that cannot be evaluated the Pod is not ready when the prober has
returned; without the probe it is, and the same was seen of the runtime. -/
theorem ignored_readiness_probe_gates :
    ∃ s s', Run step (fun s l => createsIgnored .readiness "default/web" l = true ∧
        readsReturned .readiness "default/web" s l = true) node (withProbe .readiness) s ∧
      Run step (fun _ _ => True) node withoutProbe s' ∧
      List.Forall₂ (Counterpart .readiness)
        ((observed step (podEvent "default/web") node (withProbe .readiness)).filter
          fun e => !e.ofIgnored .readiness)
        (observed step (podEvent "default/web") node withoutProbe) ∧
      (observed step (reportedStatus "default/web") node (withProbe .readiness)).map
          PodStatus.isReady = [false] ∧
      (observed step (reportedStatus "default/web") node withoutProbe).map PodStatus.isReady =
        [true] := by
  have hrun : ∃ s, Run step (fun s l => createsIgnored .readiness "default/web" l = true ∧
      readsReturned .readiness "default/web" s l = true) node (withProbe .readiness) s ∧
      true = true :=
    exists_run_of_check (fun s l => createsIgnored .readiness "default/web" l &&
      readsReturned .readiness "default/web" s l) (fun _ _ h => (Bool.and_eq_true _ _).mp h)
      (by decide +kernel)
  obtain ⟨s, hrun, -⟩ := hrun
  obtain ⟨s', hrun'⟩ := events_withoutProbe.1
  exact ⟨s, s', hrun, hrun', counterparts .readiness, by decide +kernel, by decide +kernel⟩

end MacVz
