/-
Probers of an earlier instance of a Pod.  A restart cancels the probers of the instance it
replaces and launches others for the new one, but a cancelled prober that is past its last look
at its context still acts on its result, and through the key of the Pod it reaches whatever
instance is there.  As long as no cancelled prober acts, every launch has its probe state to
itself.
-/
import MacVz.PodEvents
import MacVz.ProbeReadiness
import MacVz.StatusRecord

namespace MacVz

open Interleaving

variable {ps : ProbeState} {place : Nat}

/-- The prober is about to write: it has a result, or is a startup probe that cannot be
evaluated. -/
def Prober.writes (p : Prober) : Bool :=
  p.pc.result.isSome || p.pc = .start && p.probe.action = .unsupported && p.kind = .startup

/-- A prober of the key that writes at this step is not cancelled. -/
def writesUncancelled (key : String) (s : Sys) : Label → Bool
  | .probe place _ => (s.probers[place]?).all fun p =>
    p.key ≠ key || !p.writes || !s.cancelled p.arm
  | _ => true

/-- A prober that is not cancelled is of the launch the probe state is of. -/
def Attended (key : String) (s : Sys) : Prop :=
  ∀ p ∈ s.probers, p.key = key → s.cancelled p.arm = false →
    ∃ st ps, s.pods key = some st ∧ st.probes = some ps ∧ ps.arm = p.arm

/-- A change of a probe state comes from a prober of the launch that made the state. -/
def ChangedByOwn (key : String) (s : Sys) (l : Label) (st st' : PodState) : Prop :=
  ∀ ps ps', st.probes = some ps → st'.probes = some ps' → ps'.arm = ps.arm → ps' ≠ ps →
    ∃ place o p, l = .probe place o ∧ s.probers[place]? = some p ∧ p.key = key ∧ p.arm = ps.arm

/-- A prober that has the Pod restarted or terminated is of the launch of the instance that is
there. -/
def FailsOwn (s : Sys) (l : Label) (st st' : PodState) : Prop :=
  ∀ place o p, l = .probe place o → s.probers[place]? = some p →
    st'.restarting ≠ st.restarting ∨ st'.terminalStatus ≠ st.terminalStatus →
    ∃ ps, st.probes = some ps ∧ ps.arm = p.arm

section

variable {s s' : Sys} {key : String} {l : Label} {st st' : PodState} {arm : Nat} {p : Prober}
  {f : PodState → Update} {base : Int} {o : Outcome}

theorem cancelProbes_mono {cancelled : Nat → Bool} (h : cancelProbes st cancelled arm = false) :
    cancelled arm = false := by
  cases hps : st.probes with
  | none =>
    rw [cancelProbes, hps] at h
    exact h
  | some ps =>
    rw [cancelProbes, hps] at h
    by_cases harm : arm = ps.arm
    · simp [harm] at h
    · change Function.update cancelled ps.arm true arm = false at h
      rwa [Function.update_of_ne harm] at h

theorem locked_cancelled_mono {other : String} (h : (s.locked other f).cancelled arm = false) :
    s.cancelled arm = false := by
  unfold Sys.locked at h
  split at h
  · exact h
  · split at h
    · exact cancelProbes_mono h
    · exact h

/-- A cancelled generation stays cancelled. -/
theorem step_cancelled_mono (hstep : step s l = some s') (h : s'.cancelled arm = false) :
    s.cancelled arm = false := by
  cases step_cases hstep with
  | create c o _ =>
    have heffect : (createStep s c o).cancelled = (createEffect s c o).cancelled :=
      createStep_frame s c o Sys.cancelled fun _ _ _ => rfl
    rw [heffect] at h
    unfold createEffect at h
    split at h <;> exact h
  | deleteBegin pod st _ => exact cancelProbes_mono h
  | delete place o d _ =>
    unfold deleteEffect at h
    split at h <;> exact h
  | restart place o t _ =>
    unfold restartEffect at h
    split at h
    case h_1 => exact locked_cancelled_mono h
    case h_10 => exact locked_cancelled_mono h
    all_goals exact h
  | probe place o p _ =>
    unfold probeEffect at h
    split at h
    case h_1 =>
        split at h
        · exact locked_cancelled_mono h
        · exact h
    case h_4 => exact locked_cancelled_mono h
    all_goals exact h
  | status other o => exact locked_cancelled_mono h
  | createBegin | notFound | vmExit | vmLost => exact h

theorem locked_cancels (hst : s.pods key = some st) (hps : st.probes = some ps)
    (hstopped : (f st).stopped = true) : (s.locked key f).cancelled ps.arm = true := by
  unfold Sys.locked
  rw [hst]
  simp [hstopped, cancelProbes, hps]

/-- What a prober does with the probe state: it keeps the launch, or drops the state and ends
the context. -/
theorem Acts.same_arm {ok : Bool} {u : Update} (h : Acts p base ok st u)
    (hps : st.probes = some ps) :
    (∃ ps', u.st.probes = some ps' ∧ ps'.arm = ps.arm) ∨ u.stopped = true := by
  have hset : ∀ g : ProbeState → ProbeState, (∀ ps, (g ps).arm = ps.arm) →
      ∃ ps', (setProbeUpdate g st).st.probes = some ps' ∧ ps'.arm = ps.arm :=
    fun g hg => ⟨g ps, by simp [setProbeUpdate, Update.only, hps], hg ps⟩
  cases h with
  | nothing | restart => exact Or.inl ⟨ps, hps, rfl⟩
  | startup | ready | unready => exact Or.inl (hset _ fun _ => rfl)
  | fail => exact Or.inr rfl

/-- A probe state stays with its launch as long as its context does not end. -/
theorem step_arm (hbound : Bound key s) (hkeep : keepsKey key l = true) (hstep : step s l = some s')
    (hst : s.pods key = some st) (hps : st.probes = some ps) (hlive : s'.cancelled ps.arm = false) :
    ∃ st' ps', s'.pods key = some st' ∧ st'.probes = some ps' ∧ ps'.arm = ps.arm := by
  obtain ⟨st', hst', hevolves⟩ := step_evolves hbound hkeep hstep hst
  refine ⟨st', ?_⟩
  cases hevolves with
  | same => exact ⟨ps, hst', hps, rfl⟩
  | read o => exact ⟨ps, hst', (read_probes s st o).trans hps, rfl⟩
  | snapshot place o t ht hkey hpc =>
    by_cases hterminal : st.terminalStatus.isSome = true
    · refine ⟨ps, hst', ?_, rfl⟩
      rw [snapshotUpdate, if_pos hterminal]
      exact hps
    · rw [step, ht] at hstep
      obtain rfl := Option.some.inj hstep
      have hcancels : (s.locked key snapshotUpdate).cancelled ps.arm = true :=
        locked_cancels hst hps (by rw [snapshotUpdate, if_neg hterminal])
      simp [restartEffect, hpc, hkey, hcancels] at hlive
  | finish place o t ht hkey hpc =>
    obtain ⟨st₁, hst₁, hrestarting⟩ := hbound.restart t (List.mem_of_getElem? ht) hkey
    obtain rfl := Option.some.inj (hst.symm.trans hst₁)
    rw [hrestarting.probes (by rw [hpc]; decide)] at hps
    cases hps
  | unsupported place o p _ _ _ _ _ =>
    exact ⟨ps.setStartupDone, hst', by simp [setProbeUpdate, Update.only, hps], rfl⟩
  | act place o p ok hp hkey hpc =>
    rcases (actUpdate_acts (p.count ok) s.restartBackoffBase ok st).same_arm hps with
      ⟨ps', hps', harm⟩ | hstopped
    · exact ⟨ps', hst', hps', harm⟩
    · rw [step, hp] at hstep
      obtain rfl := Option.some.inj hstep
      have hcancels := locked_cancels hst hps hstopped
      simp [probeEffect, hpc, hkey, hcancels] at hlive

theorem step_new_prober (h : Logged s) (hstep : step s l = some s') (hp : p ∈ s'.probers)
    (hnew : s.nextArm ≤ p.arm) :
    ∃ st ps, s'.pods p.key = some st ∧ st.probes = some ps ∧ ps.arm = p.arm := by
  rcases step_prober_cases h.keyed hstep hp with hold | ⟨place, o, q, rfl, hq, hnext⟩ |
    ⟨_, st₀, inst, hst, hmem⟩
  · exact absurd (h.armed p hold) (Nat.not_lt.mpr hnew)
  · have hmove := probeNext_move s q o
    rw [hnext] at hmove
    rw [hmove.same.arm] at hnew
    exact absurd (h.armed q (List.mem_of_getElem? hq)) (Nat.not_lt.mpr hnew)
  · obtain ⟨ps, hps, harm⟩ := startProbes_arm hmem
    exact ⟨_, ps, hst, hps, harm⟩

theorem step_attended (hbound : Bound key s) (hlogged : Logged s) (h : Attended key s)
    (hkeep : keepsKey key l = true) (hstep : step s l = some s') : Attended key s' := by
  intro p' hp' hkey hlive
  by_cases hnew : s.nextArm ≤ p'.arm
  · rw [← hkey]
    exact step_new_prober hlogged hstep hp' hnew
  · obtain ⟨p, hp, hsame⟩ := step_prober_origin hlogged.keyed hstep hp' (by omega)
    obtain ⟨st, ps, hst, hps, harm⟩ := h p hp (hsame.key ▸ hkey)
      (hsame.arm ▸ step_cancelled_mono hstep hlive)
    rw [hsame.arm, ← harm] at hlive ⊢
    exact step_arm hbound hkeep hstep hst hps hlive

theorem fresh_attended (podNet : Bool) (hostIP : String) (base : Int) (ipam : Option PodIPAM)
    (vms : VMTable) (nextInst : Nat) (key : String) :
    Attended key (Sys.fresh podNet hostIP base ipam vms nextInst) :=
  fun _ h => by cases h

/-- Along a run, each prober not cancelled is of its Pod's present generation. -/
theorem run_attended {podNet : Bool} {hostIP : String} {ipam : Option PodIPAM} {vms : VMTable}
    {nextInst : Nat} {ls : List Label} (hrun : Run step (fun _ l => keepsKey key l = true)
      (Sys.fresh podNet hostIP base ipam vms nextInst) ls s) :
    Bound key s ∧ Logged s ∧ Attended key s :=
  hrun.invariant (I := fun s => Bound key s ∧ Logged s ∧ Attended key s)
    ⟨fresh_bound podNet hostIP base ipam vms nextInst key,
      fresh_logged podNet hostIP base ipam vms nextInst,
      fresh_attended podNet hostIP base ipam vms nextInst key⟩
    fun h hkeep hstep => ⟨step_bound h.1 hkeep hstep, step_logged h.2.1 hstep,
      step_attended h.1 h.2.1 h.2.2 hkeep hstep⟩

/-- A prober that writes without being cancelled finds the probe state of its own launch. -/
theorem Attended.own (h : Attended key s) (hl : writesUncancelled key s (.probe place o) = true)
    (hp : s.probers[place]? = some p) (hkey : p.key = key) (hwrites : p.writes = true)
    (hst : s.pods key = some st) : ∃ ps, st.probes = some ps ∧ ps.arm = p.arm := by
  have hlive : s.cancelled p.arm = false := by
    simpa [writesUncancelled, hp, hkey, hwrites] using hl
  obtain ⟨st₁, ps, hst₁, hps, harm⟩ := h p (List.mem_of_getElem? hp) hkey hlive
  obtain rfl := Option.some.inj (hst.symm.trans hst₁)
  exact ⟨ps, hps, harm⟩

theorem isolated_of_own (hp : s.probers[place]? = some p) (hkey : p.key = key)
    (hown : ∃ ps, st.probes = some ps ∧ ps.arm = p.arm) :
    ChangedByOwn key s (.probe place o) st st' ∧ FailsOwn s (.probe place o) st st' := by
  obtain ⟨own, hprobes, harm⟩ := hown
  refine ⟨fun ps ps' hps _ _ _ => ?_, fun place' o' p' heq hp' _ => ?_⟩
  · obtain rfl := Option.some.inj (hps.symm.trans hprobes)
    exact ⟨place, o, p, rfl, hp, hkey, harm.symm⟩
  · cases heq
    obtain rfl := Option.some.inj (hp.symm.trans hp')
    exact ⟨own, hprobes, harm⟩

/-- Where cancelled probers do not write, only its own generation changes a Pod's probe state. -/
theorem Attended.isolated (h : Attended key s) (hl : writesUncancelled key s l = true)
    (hst : s.pods key = some st) (hbound : Bound key s) (hevolves : Evolves key s st l st') :
    ChangedByOwn key s l st st' ∧ FailsOwn s l st st' := by
  cases hevolves with
  | same =>
    refine ⟨fun ps ps' hps hps' _ hne => ?_, fun _ _ _ _ _ hchange => ?_⟩
    · exact absurd (Option.some.inj (hps'.symm.trans hps)) hne
    · exact absurd hchange (by simp)
  | read o =>
    refine ⟨fun ps ps' hps hps' _ hne => ?_, fun _ _ _ heq => by cases heq⟩
    rw [read_probes, hps] at hps'
    exact absurd (Option.some.inj hps').symm hne
  | snapshot place o t ht hkey hpc =>
    refine ⟨fun ps ps' hps hps' _ hne => ?_, fun _ _ _ heq => by cases heq⟩
    unfold snapshotUpdate at hps'
    split at hps'
    · exact absurd (Option.some.inj (hps'.symm.trans hps)) hne
    · cases hps'
  | finish place o t ht hkey hpc =>
    refine ⟨fun ps ps' hps hps' _ hne => ?_, fun _ _ _ heq => by cases heq⟩
    obtain ⟨st₁, hst₁, hrestarting⟩ := hbound.restart t (List.mem_of_getElem? ht) hkey
    obtain rfl := Option.some.inj (hst.symm.trans hst₁)
    rw [hrestarting.probes (by rw [hpc]; decide)] at hps
    cases hps
  | unsupported place o p hp hkey hpc haction hkind =>
    have hwrites : p.writes = true := by simp [Prober.writes, hpc, haction, hkind]
    exact isolated_of_own hp hkey (h.own hl hp hkey hwrites hst)
  | act place o p ok hp hkey hpc =>
    have hwrites : p.writes = true := by simp [Prober.writes, hpc, ProbePC.result]
    exact isolated_of_own hp hkey (h.own hl hp hkey hwrites hst)

end

/-- At a step at which no cancelled prober of the Pod writes, a probe state is changed only by a
prober of its own launch, and a failed probe restarts or terminates no instance but its own. -/
theorem launches_isolated {podNet : Bool} {hostIP : String} {base : Int} {ipam : Option PodIPAM}
    {vms : VMTable} {nextInst : Nat} {key : String} {ls : List Label} {s s' : Sys} {l : Label}
    {st st' : PodState} (hrun : Run step (fun _ l => keepsKey key l = true)
      (Sys.fresh podNet hostIP base ipam vms nextInst) ls s) (hkeep : keepsKey key l = true)
    (hwrites : writesUncancelled key s l = true) (hstep : step s l = some s')
    (hst : s.pods key = some st) (hst' : s'.pods key = some st') :
    ChangedByOwn key s l st st' ∧ FailsOwn s l st st' := by
  obtain ⟨hbound, -, hattended⟩ := run_attended hrun
  obtain ⟨st₁, hst₁, hevolves⟩ := step_evolves hbound hkeep hstep hst
  obtain rfl := Option.some.inj (hst₁.symm.trans hst')
  exact hattended.isolated hwrites hst hbound hevolves

namespace GenerationWitness

open Sample

def checked : Container :=
  { app with
    readinessProbe := some ⟨.exec ["/bin/ready"], 0, 1, 1, 1, 1⟩
    livenessProbe := some ⟨.exec ["/bin/live"], 0, 1, 1, 1, 1⟩ }

def answered : List Label :=
  createPod { web with containers := [checked] } "192.168.64.5" ++
    List.replicate 5 (.probe 0 .ok) ++
    List.replicate 5 (.probe 1 { Outcome.ok with fault := some ⟨.other "exec" "exit 1", false⟩ })

def replaced : List Label :=
  answered ++ [.vmExit webID false 1, .status "default/web" .ok] ++
    List.replicate 9 (.restart 0 (okAt "192.168.64.6"))

/-- The prober takes its step, and the check holds of it and of the Pod before and after. -/
def acting (place : Nat) (check : Prober → PodState → ProbeState → PodState → Bool) (s : Sys) :
    Bool :=
  (s.probers[place]?).any fun p => (s.pods "default/web").any fun st => st.probes.any fun ps =>
    (step s (.probe place .ok)).any fun s' => (s'.pods "default/web").any fun st' =>
      check p st ps st'

theorem acting_spec {check : Prober → PodState → ProbeState → PodState → Bool} {s : Sys}
    (h : acting place check s = true) :
    ∃ p st ps s' st', s.probers[place]? = some p ∧ s.pods "default/web" = some st ∧
      st.probes = some ps ∧ step s (.probe place .ok) = some s' ∧
      s'.pods "default/web" = some st' ∧ check p st ps st' = true := by
  simp only [acting, Option.any_eq_true] at h
  obtain ⟨p, hp, st, hst, ps, hps, s', hstep, st', hst', hcheck⟩ := h
  exact ⟨p, st, ps, s', st', hp, hst, hps, hstep, hst', hcheck⟩

/-- The flags of the same generation have changed. -/
def changed (ps : ProbeState) (st' : PodState) : Bool :=
  st'.probes.any fun ps' => ps'.arm = ps.arm && ps' ≠ ps

theorem changed_spec {st' : PodState} (h : changed ps st' = true) :
    ∃ ps', st'.probes = some ps' ∧ ps'.arm = ps.arm ∧ ps' ≠ ps := by
  simp only [changed, Option.any_eq_true, Bool.and_eq_true, decide_eq_true_eq] at h
  obtain ⟨ps', hps', harm, hne⟩ := h
  exact ⟨ps', hps', harm, hne⟩

end GenerationWitness

open GenerationWitness Sample in
/-- The first success of the readiness probe. -/
theorem launches_isolated_first_success : ∃ (s s' : Sys) (p : Prober) (st : PodState)
    (ps : ProbeState), step s (.probe 0 .ok) = some s' ∧ s.probers[0]? = some p ∧
      s.pods "default/web" = some st ∧ st.probes = some ps ∧ p.arm = ps.arm := by
  have hexec : ∃ s, Run step (fun _ l => keepsKey "default/web" l = true) node answered s ∧
      (acting 0 (fun _ _ ps st' => changed ps st') s &&
        writesUncancelled "default/web" s (.probe 0 .ok)) = true :=
    exists_run_of_check (fun _ l => keepsKey "default/web" l) (fun _ _ h => h) (by decide)
  obtain ⟨s, hrun, hcheck⟩ := hexec
  obtain ⟨hacting, hwrites⟩ := Bool.and_eq_true_iff.mp hcheck
  obtain ⟨p, st, ps, s', st', hp, hst, hps, hstep, hst', hchanged⟩ := acting_spec hacting
  obtain ⟨ps', hps', harm, hne⟩ := changed_spec hchanged
  obtain ⟨place, o, q, hl, hq, -, hown⟩ :=
    (launches_isolated hrun rfl hwrites hstep hst hst').1 ps ps' hps hps' harm hne
  cases hl
  obtain rfl := Option.some.inj (hp.symm.trans hq)
  exact ⟨s, s', p, st, ps, hstep, hp, hst, hps, hown⟩

open GenerationWitness Sample in
/-- A cancelled readiness prober reports the instance that replaced its own ready, and a
cancelled liveness prober has it restarted. -/
theorem cancelled_probers_reach_next_instance :
    (¬ ∀ (podNet : Bool) (hostIP : String) (base : Int) (ipam : Option PodIPAM) (vms : VMTable)
      (nextInst : Nat) (key : String) (ls : List Label) (s s' : Sys) (l : Label)
      (st st' : PodState),
      Run step (fun _ l => keepsKey key l = true)
        (Sys.fresh podNet hostIP base ipam vms nextInst) ls s →
      keepsKey key l = true → step s l = some s' → s.pods key = some st →
      s'.pods key = some st' → ChangedByOwn key s l st st') ∧
    ¬ ∀ (podNet : Bool) (hostIP : String) (base : Int) (ipam : Option PodIPAM) (vms : VMTable)
      (nextInst : Nat) (key : String) (ls : List Label) (s s' : Sys) (l : Label)
      (st st' : PodState),
      Run step (fun _ l => keepsKey key l = true)
        (Sys.fresh podNet hostIP base ipam vms nextInst) ls s →
      keepsKey key l = true → step s l = some s' → s.pods key = some st →
      s'.pods key = some st' → FailsOwn s l st st' := by
  constructor
  · intro h
    have hexec : ∃ s, Run step (fun _ l => keepsKey "default/web" l = true) node replaced s ∧
        acting 0 (fun p _ ps st' => p.arm ≠ ps.arm && changed ps st') s = true :=
      exists_run_of_check (fun _ l => keepsKey "default/web" l) (fun _ _ h => h)
        (by decide)
    obtain ⟨s, hrun, hacting⟩ := hexec
    obtain ⟨p, st, ps, s', st', hp, hst, hps, hstep, hst', hcheck⟩ := acting_spec hacting
    obtain ⟨hforeign, hchanged⟩ := Bool.and_eq_true_iff.mp hcheck
    obtain ⟨ps', hps', harm, hne⟩ := changed_spec hchanged
    obtain ⟨place, o, q, hl, hq, -, hown⟩ :=
      h _ _ _ _ _ _ "default/web" replaced s s' _ st st' hrun rfl hstep hst hst' ps ps' hps hps'
        harm hne
    cases hl
    obtain rfl := Option.some.inj (hp.symm.trans hq)
    exact of_decide_eq_true hforeign hown
  · intro h
    have hexec : ∃ s, Run step (fun _ l => keepsKey "default/web" l = true) node replaced s ∧
        acting 1 (fun p st ps st' => p.arm ≠ ps.arm && st'.restarting != st.restarting) s = true :=
      exists_run_of_check (fun _ l => keepsKey "default/web" l) (fun _ _ h => h)
        (by decide)
    obtain ⟨s, hrun, hacting⟩ := hexec
    obtain ⟨p, st, ps, s', st', hp, hst, hps, hstep, hst', hcheck⟩ := acting_spec hacting
    obtain ⟨hforeign, hrestarting⟩ := Bool.and_eq_true_iff.mp hcheck
    obtain ⟨own, hown, harm⟩ := h _ _ _ _ _ _ "default/web" replaced s s' _ st st' hrun rfl hstep
      hst hst' 1 .ok p rfl hp (Or.inl (by simpa using hrestarting))
    obtain rfl := Option.some.inj (hps.symm.trans hown)
    exact of_decide_eq_true hforeign harm.symm

/-- Over every run in which the Pod is not deleted, a prober that is not cancelled belongs to the
probe state its Pod has now: none is left over from an earlier workload. -/
theorem live_prober_attends {podNet : Bool} {hostIP : String} {base : Int} {ipam : Option PodIPAM}
    {vms : VMTable} {nextInst : Nat} {ls : List Label} {s : Sys} {p : Prober}
    (hrun : Run step (fun _ l => keepsKey p.key l = true)
      (Sys.fresh podNet hostIP base ipam vms nextInst) ls s)
    (hp : p ∈ s.probers) (hlive : s.cancelled p.arm = false) :
    ∃ st ps, s.pods p.key = some st ∧ st.probes = some ps ∧ ps.arm = p.arm :=
  (run_attended hrun).2.2 p hp rfl hlive

open GenerationWitness Sample in
theorem live_prober_attends_answered : ∃ (s : Sys) (p : Prober) (st : PodState) (ps : ProbeState),
    p ∈ s.probers ∧ s.pods p.key = some st ∧ st.probes = some ps ∧ ps.arm = p.arm := by
  have hexec : ∃ s, Run step (fun _ l => keepsKey "default/web" l = true) node answered s ∧
      (s.probers.head?.any fun p => p.key = "default/web" && !s.cancelled p.arm) = true :=
    exists_run_of_check (fun _ l => keepsKey "default/web" l) (fun _ _ h => h) (by decide)
  obtain ⟨s, hrun, hcheck⟩ := hexec
  obtain ⟨p, hp, hcheck⟩ := (Option.any_eq_true _ _).mp hcheck
  simp only [Bool.and_eq_true, decide_eq_true_eq, Bool.not_eq_true'] at hcheck
  have hmem := List.mem_of_head? hp
  rw [← hcheck.1] at hrun
  obtain ⟨st, ps, hattends⟩ := live_prober_attends hrun hmem hcheck.2
  exact ⟨s, p, st, ps, hmem, hattends⟩

end MacVz
