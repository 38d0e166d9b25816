/-
What readiness says about the probes.  While a Pod is armed with probers, their
successes were all against the micro-VM it runs now, and ready means that its
probes have passed against that instance.  A Pod that is not armed has no such
guarantee: without a probe state, readiness follows the phase alone.
-/
import MacVz.Evolution
import MacVz.ProbeLog
import MacVz.StepConditions

namespace MacVz

open Interleaving Streak

/-- The probes of a container have passed against an instance, in one launch of
probers: the startup probe has succeeded, the readiness probe as often in a row
as it asks for. -/
def ProbesPassed (s : Sys) (x : Container) (inst : Nat) : Prop :=
  ∃ arm,
    (∀ probe, x.startupProbe = some probe → probe.action ≠ .unsupported →
      ∃ a ∈ attemptsOf s.attempts arm .startup, a.ok = true ∧ a.inst = some inst) ∧
    ∀ probe, x.readinessProbe = some probe →
      Had (orDefault probe.successThreshold 1).toNat
        (fun a => a.ok = true ∧ a.inst = some inst) (attemptsOf s.attempts arm .readiness)

/-- A prober that acts on a result finds the probe state it was launched with, or
none. -/
def writesOwn (key : String) (s : Sys) : Label → Bool
  | .probe place _ => (s.probers[place]?).all fun p =>
    p.key ≠ key || p.pc.result = none ||
      (s.pods key).all fun st => st.probes.all fun ps => ps.arm = p.arm
  | _ => true

/-- An attempt over the network that succeeds was answered by the Pod's own
micro-VM. -/
def dialsOwn (key : String) (s : Sys) : Label → Bool
  | .probe place o => (s.probers[place]?).all fun p =>
    p.key ≠ key || o.fault.isSome ||
      match p.pc with
      | .dial _ => (s.pods key).all fun st =>
        o.responder = some st.spec.name && (s.vms st.spec.name).isSome
      | _ => true
  | _ => true

/-- The steps of a run in which the probe state of a key tells about its
instance. -/
structure ProbesClean (key : String) (s : Sys) (l : Label) : Prop where
  keeps : keepsKey key l = true
  own : ownsVM key s l = true
  writes : writesOwn key s l = true
  dials : dialsOwn key s l = true

/-- What is known of the probe state a Pod is armed with. -/
structure Armed (key : String) (s : Sys) (st : PodState) (ps : ProbeState) : Prop where
  below : ps.arm < s.nextArm
  inst : ∀ vm, s.vms st.spec.name = some vm → ps.inst = some vm.inst
  owner : ∀ p ∈ s.probers, p.arm = ps.arm → p.key = key
  log : ∀ a ∈ s.attempts, a.arm = ps.arm → a.ok = true → a.inst = ps.inst
  declares : ∀ x, st.pod.containers = [x] →
    ps.hasStartup = x.startupProbe.isSome ∧ ps.hasReadiness = x.readinessProbe.isSome
  started : ∀ x probe, st.pod.containers = [x] → x.startupProbe = some probe →
    probe.action ≠ .unsupported → ps.startupDone = true →
    ∃ a ∈ attemptsOf s.attempts ps.arm .startup, a.ok = true
  ready : ∀ x probe, st.pod.containers = [x] → x.readinessProbe = some probe →
    ps.ready = true → Had (orDefault probe.successThreshold 1).toNat (fun a => a.ok = true)
      (attemptsOf s.attempts ps.arm .readiness)

/-- The invariant over runs behind the readiness of a probed container. -/
structure Probed (key : String) (s : Sys) : Prop where
  bound : Bound key s
  unready : Unready key s
  logged : Logged s
  inst : ∀ t ∈ s.restarts, t.key = key → t.pc.renewed = true ∨ t.pc = .finish → t.newID ≠ "" →
    ∀ st, s.pods key = some st → ∀ vm, s.vms st.spec.name = some vm → t.inst = some vm.inst
  armed : ∀ st ps, s.pods key = some st → st.probes = some ps → Armed key s st ps

section Probed

variable {s s' : Sys} {key : String} {l : Label} {o : Outcome} {place : Nat} {p : Prober}
  {st st' : PodState} {x : Container} {ps : ProbeState} {ok : Bool} {rest : List Container}

theorem createCall_self {spec : ContainerSpec} (hok : createError spec o.fault = none) :
    createCall s spec o spec.name = createVM s.nextInst o.addr (s.vms spec.name) := by
  obtain ⟨hname, himage, hfault⟩ := createError_none hok
  simp [createCall, hname, himage, hfault, VMTable.call_self]

theorem step_restart_inst (h : Probed key s) (hl : ProbesClean key s l)
    (hstep : step s l = some s') :
    ∀ t ∈ s'.restarts, t.key = key → t.pc.renewed = true ∨ t.pc = .finish → t.newID ≠ "" →
      ∀ st, s'.pods key = some st → ∀ vm, s'.vms st.spec.name = some vm →
      t.inst = some vm.inst := by
  intro t' ht' hkey' hpc' hnew' st' hst' vm' hvm'
  have hfrom := step_vms hstep hvm'
  rcases step_restarts h.bound hstep ht' hkey' with ⟨hold, hnot⟩ | ⟨inc, launch, rfl⟩ |
    ⟨t, o, hmoves, hkey, hnext⟩
  · obtain ⟨st, hst, _⟩ := h.bound.restart t' hold hkey'
    have hevolves := step_evolves_to h.bound hstep hst hst'
    rw [(hevolves.work h.bound hst).spec] at hfrom
    obtain ⟨vm, hvm, hinst, _⟩ :=
      (h.bound.quiet_of_tracked hst hnot).vm_old hl.own (.tracked st hst rfl) hfrom
    rw [hinst]
    exact h.inst t' hold hkey' hpc' hnew' st hst vm hvm
  · rcases hpc' with hpc' | hpc' <;> cases hpc'
  · obtain ⟨place, rfl, ht⟩ := hmoves
    have hmem := List.mem_of_getElem? ht
    obtain ⟨st, hst, hrestarting⟩ := h.bound.restart t hmem hkey
    have hevolves := step_evolves_to h.bound hstep hst hst'
    rw [(hevolves.work h.bound hst).spec] at hfrom hvm'
    -- a restart that has its instance keeps it
    have hkeeps : t.pc.renewed = true → t.newID = t'.newID → t.inst = t'.inst →
        t'.inst = some vm'.inst := by
      intro hpc hsame hinst
      have hnot : ∀ t₁ o₁, Moves s (.restart place o) t₁ o₁ → t₁.key = key → t₁.pc ≠ .create := by
        intro t₁ o₁ hmoves _ hcreate
        rw [(hmoves.eq ht).1] at hcreate
        rw [hcreate] at hpc
        cases hpc
      obtain ⟨vm, hvm, hvmInst, _⟩ := h.bound.vm_old hst hl.own hnot hfrom
      rw [hvmInst, ← hinst]
      exact h.inst t hmem hkey (Or.inl hpc) (hsame ▸ hnew') st hst vm hvm
    have hmove := restartNext_move s t o
    rw [hnext] at hmove
    cases hmove with
    | created hpc hok =>
      have hspec : t.spec = st.spec := hrestarting.spec (by simp [hpc])
      have hmade : createVM s.nextInst o.addr (s.vms t.spec.name) = some vm' := by
        rw [← createCall_self hok]
        obtain ⟨t₁, ht₁, rfl⟩ := Option.map_eq_some_iff.mp hstep
        obtain rfl := Option.some.inj (ht.symm.trans ht₁)
        simpa only [restartEffect, hpc, hspec] using hvm'
      rw [hmade]
      rfl
    | createFailed | halfDestroyed => exact absurd rfl hnew'
    | started _ hpc _ _ | startFailed hpc _ | observed _ hpc _ | polled hpc _ | unobserved hpc _
    | attached hpc _ | attachFailed hpc _ =>
      exact hkeeps (by simp [hpc, RestartPC.renewed]) rfl rfl
    | _ => rcases hpc' with hpc' | hpc' <;> cases hpc'

/-- What a step makes of the probe state of a tracked Pod. -/
inductive ProbesFrom (key : String) (s : Sys) (st : PodState) (l : Label) :
    Option ProbeState → Prop
  | same : ProbesFrom key s st l st.probes
  | stopped : ProbesFrom key s st l none
  | begun (place : Nat) (o : Outcome) (t : RestartTask) (x : Container) (rest : List Container) :
      l = .restart place o → s.restarts[place]? = some t → t.key = key → t.pc = .finish →
      t.newID ≠ "" → st.pod.containers = x :: rest →
      ProbesFrom key s st l (some (ProbeState.begin x s.nextArm t.inst))
  | unsupported (p : Prober) : p ∈ s.probers → p.key = key → p.probe.action = .unsupported →
      p.kind = .startup → ProbesFrom key s st l (st.probes.map ProbeState.setStartupDone)
  | started (place : Nat) (o : Outcome) (p : Prober) : l = .probe place o →
      s.probers[place]? = some p → p.key = key → p.pc = .act true → p.kind = .startup →
      1 ≤ (p.count true).successes →
      ProbesFrom key s st l (st.probes.map ProbeState.setStartupDone)
  | passed (place : Nat) (o : Outcome) (p : Prober) : l = .probe place o →
      s.probers[place]? = some p → p.key = key → p.pc = .act true → p.kind = .readiness →
      orDefault p.probe.successThreshold 1 ≤ (p.count true).successes →
      ProbesFrom key s st l (st.probes.map (ProbeState.setReady true))
  | failed : ProbesFrom key s st l (st.probes.map (ProbeState.setReady false))

theorem startProbes_probes (st : PodState) (arm : Nat) (inst : Option Nat) :
    (startProbes st arm inst).1.probes = st.probes ∨ ∃ x rest, st.pod.containers = x :: rest ∧
      (startProbes st arm inst).1.probes = some (ProbeState.begin x arm inst) := by
  unfold startProbes
  split
  · exact Or.inl rfl
  · rename_i x rest hcontainers
    split
    · exact Or.inl rfl
    · exact Or.inr ⟨x, rest, hcontainers, rfl⟩

theorem act_probes (base : Int) (st : PodState) (hp : s.probers[place]? = some p)
    (hkey : p.key = key) (hpc : p.pc = .act ok) :
    ProbesFrom key s st (.probe place o) ((p.count ok).actUpdate base ok st).st.probes := by
  have hacts := actUpdate_acts (p.count ok) base ok st
  generalize (p.count ok).actUpdate base ok st = u at hacts ⊢
  cases hacts with
  | nothing | restart => exact .same
  | startup hok hreached hkind =>
    subst hok
    refine .started place o p rfl hp hkey hpc hkind ?_
    rwa [Prober.successThreshold, hkind] at hreached
  | ready hok hreached hkind =>
    subst hok
    refine .passed place o p rfl hp hkey hpc hkind ?_
    rwa [Prober.successThreshold, hkind] at hreached
  | unready => exact .failed
  | fail => exact .stopped

/-- Where a Pod's probe state comes from. -/
theorem Evolves.probes_from (h : Evolves key s st l st') : ProbesFrom key s st l st'.probes := by
  cases h with
  | same => exact .same
  | read o =>
    rw [read_probes]
    exact .same
  | snapshot place o t _ _ _ =>
    unfold snapshotUpdate
    split
    · exact .same
    · exact .stopped
  | finish place o t ht hkey hpc =>
    unfold RestartTask.finished
    split
    · exact .same
    · rename_i hnew
      rcases startProbes_probes (t.swapIn st) s.nextArm t.inst with
        hsame | ⟨x, rest, hcontainers, hbegin⟩
      · rw [hsame]
        exact .same
      · rw [hbegin]
        exact .begun place o t x rest rfl ht hkey hpc hnew hcontainers
  | unsupported place o p hp hkey _ haction hkind =>
    exact .unsupported p (List.mem_of_getElem? hp) hkey haction hkind
  | act place o p ok hp hkey hpc => exact act_probes _ st hp hkey hpc

/-- Probers just launched are armed for the present micro-VM. -/
theorem begin_armed {inst : Option Nat} {e : PodEvent} (h : Logged s) (hstep : step s l = some s')
    (hnotices : Notices key s l e) (harms : e.arms = true)
    (htracked : (e.apply (s.pods key)).isSome) (hx : st.pod.containers = x :: rest)
    (hinst : ∀ vm, s'.vms st.spec.name = some vm → inst = some vm.inst) :
    Armed key s' st (ProbeState.begin x s.nextArm inst) where
  below := (step_arms hstep hnotices harms htracked).symm ▸ Nat.lt_succ_self _
  inst := hinst
  owner := by
    intro p hp harm
    rcases step_prober_cases h.keyed hstep hp with hold | ⟨_, _, _, rfl, _⟩ | ⟨hparty, _⟩
    · exact absurd harm (Nat.ne_of_lt (h.armed p hold))
    · cases hnotices <;> cases harms
    · exact Option.some.inj (hparty.symm.trans hnotices.party)
  log := by
    intro a ha harm
    obtain ⟨new, hattempts, ⟨rfl, _⟩ | ⟨_, _, _, rfl, _⟩⟩ := step_log hstep
    · exact absurd harm (Nat.ne_of_lt (h.attempted a (by simpa [hattempts] using ha)))
    · cases hnotices <;> cases harms
  declares := by
    intro y hy
    obtain ⟨rfl, _⟩ := List.cons.inj (hx.symm.trans hy)
    exact ⟨rfl, rfl⟩
  started := by
    intro y probe hy hprobe _ hdone
    obtain ⟨rfl, _⟩ := List.cons.inj (hx.symm.trans hy)
    simp [ProbeState.begin, hprobe] at hdone
  ready := fun _ _ _ _ hready => by cases hready

theorem Probed.met (h : Probed key s) (hl : ProbesClean key s (.probe place o))
    (hp : s.probers[place]? = some p) (hkey : p.key = key) (hst : s.pods key = some st)
    {met : Option Nat × Bool} (hmet : attemptAt s o p.pc = some met) (hok : met.2 = true) :
    ∃ vm, s.vms st.spec.name = some vm ∧ met.1 = some vm.inst := by
  obtain ⟨st₁, hst₁, hprobing⟩ := h.bound.probing p (List.mem_of_getElem? hp) hkey
  obtain rfl := Option.some.inj (hst.symm.trans hst₁)
  cases hpc : p.pc with
  | exec id =>
    obtain rfl := hprobing.named id (by rw [hpc]; rfl)
    rw [hpc] at hmet
    obtain rfl := Option.some.inj hmet
    simp only [Bool.and_eq_true, Option.any_eq_true] at hok
    obtain ⟨_, vm, hvm, _⟩ := hok
    exact ⟨vm, hvm, by simp [hvm]⟩
  | dial addr =>
    rw [hpc] at hmet
    obtain rfl := Option.some.inj hmet
    have hfault : o.fault = none := Option.isNone_iff_eq_none.mp hok
    have hdials := hl.dials
    simp only [dialsOwn, hp, hkey, hpc, hfault, hst, Option.all_some, Option.isSome_none,
      ne_eq, not_true_eq_false, decide_false, Bool.false_or, Bool.and_eq_true,
      decide_eq_true_eq] at hdials
    obtain ⟨vm, hvm⟩ := Option.isSome_iff_exists.mp hdials.2
    exact ⟨vm, hvm, by simp [hdials.1, hvm]⟩
  | _ =>
    rw [hpc] at hmet
    cases hmet

/-- A step that leaves the Pod's work alone keeps it armed. -/
theorem Armed.carried (h : Probed key s) (hl : ProbesClean key s l) (hstep : step s l = some s')
    (harmed : Armed key s st ps) (hst : s.pods key = some st) (hps : st.probes = some ps)
    (hwork : SameWork st st') : Armed key s' st' ps := by
  obtain ⟨new, hattempts, hnew⟩ := step_log hstep
  refine ⟨Nat.lt_of_lt_of_le harmed.below (step_nextArm hstep), ?_, ?_, ?_, ?_, ?_, ?_⟩
  · intro vm' hvm'
    rw [hwork.spec] at hvm'
    have hrestart : ∀ t o, Moves s l t o → t.key = key → t.pc ≠ .create := by
      intro t o hmoves hkey hpc
      obtain ⟨place, _, ht⟩ := hmoves
      obtain ⟨st₁, hst₁, hrestarting⟩ := h.bound.restart t (List.mem_of_getElem? ht) hkey
      obtain rfl := Option.some.inj (hst.symm.trans hst₁)
      rw [hrestarting.probes (by simp [hpc])] at hps
      cases hps
    obtain ⟨vm, hvm, hinst, _⟩ := h.bound.vm_old hst hl.own hrestart (step_vms hstep hvm')
    rw [hinst]
    exact harmed.inst vm hvm
  · intro p' hp' harm
    obtain ⟨p, hp, hsame⟩ := step_prober_origin h.bound.keyed hstep hp' (harm ▸ harmed.below)
    rw [hsame.key]
    exact harmed.owner p hp (hsame.arm ▸ harm)
  · intro a ha harm hok
    rw [hattempts] at ha
    rcases List.mem_append.mp ha with hfresh | hold
    · -- the attempt was made by a prober of this Pod, so against its micro-VM
      obtain ⟨rfl, _⟩ | ⟨place, o, p, rfl, hp, rfl⟩ := hnew
      · cases hfresh
      obtain ⟨met, hmet, rfl⟩ := mem_record hfresh
      have hkey := harmed.owner p (List.mem_of_getElem? hp) harm
      obtain ⟨vm, hvm, hinst⟩ := h.met hl hp hkey hst hmet hok
      exact hinst.trans (harmed.inst vm hvm).symm
    · exact harmed.log a hold harm hok
  · rw [hwork.pod]
    exact harmed.declares
  · rw [hwork.pod, hattempts, attemptsOf_append]
    intro x probe hx hprobe haction hdone
    obtain ⟨a, ha, hok⟩ := harmed.started x probe hx hprobe haction hdone
    exact ⟨a, List.mem_append_right _ ha, hok⟩
  · rw [hwork.pod, hattempts, attemptsOf_append]
    intro x probe hx hprobe hready
    exact (harmed.ready x probe hx hprobe hready).append _

theorem Armed.setStartupDone (h : Armed key s st ps)
    (hpassed : ∀ x probe, st.pod.containers = [x] → x.startupProbe = some probe →
      probe.action ≠ .unsupported → ∃ a ∈ attemptsOf s.attempts ps.arm .startup, a.ok = true) :
    Armed key s st ps.setStartupDone :=
  ⟨h.below, h.inst, h.owner, h.log, h.declares,
    fun x probe hx hprobe haction _ => hpassed x probe hx hprobe haction, h.ready⟩

theorem Armed.setReady (h : Armed key s st ps) {ready : Bool}
    (hpassed : ready = true → ∀ x probe, st.pod.containers = [x] →
      x.readinessProbe = some probe → Had (orDefault probe.successThreshold 1).toNat
        (fun a => a.ok = true) (attemptsOf s.attempts ps.arm .readiness)) :
    Armed key s st (ps.setReady ready) :=
  ⟨h.below, h.inst, h.owner, h.log, h.declares, h.started,
    fun x probe hx hprobe hready => hpassed hready x probe hx hprobe⟩

theorem Probed.declared (h : Probed key s) (hp : p ∈ s.probers) (hkey : p.key = key)
    (hst : s.pods key = some st) (hx : st.pod.containers = [x]) :
    x.probe p.kind = some p.probe := by
  obtain ⟨st₁, hst₁, hprobing⟩ := h.bound.probing p hp hkey
  obtain rfl := Option.some.inj (hst.symm.trans hst₁)
  obtain ⟨rfl, _⟩ := List.cons.inj (hprobing.running.containers.symm.trans hx)
  exact h.logged.declared p hp

/-- A prober that acts on a result belongs to the launch of the probe state it
writes into. -/
theorem ProbesClean.own_arm (hl : ProbesClean key s (.probe place o))
    (hp : s.probers[place]? = some p) (hkey : p.key = key) (hpc : p.pc = .act ok)
    (hst : s.pods key = some st) (hps : st.probes = some ps) : ps.arm = p.arm := by
  have hwrites := hl.writes
  simpa [writesOwn, hp, hkey, hpc, ProbePC.result, hst, hps] using hwrites

theorem Probed.had (h : Probed key s) (hp : p ∈ s.probers) (hpc : p.pc = .act true) {n : Int}
    (hn : n ≤ (p.count true).successes) :
    Had n.toNat (fun a => a.ok = true) (attemptsOf s.attempts p.arm p.kind) := by
  refine had_of_latest ?_
  have hcount := (h.logged.counted p hp).count_le hpc
  omega

theorem Probed.begun (h : Probed key s) {t : RestartTask}
    (hstep : step s (.restart place o) = some s') (ht : s.restarts[place]? = some t)
    (hkey : t.key = key) (hpc : t.pc = .finish) (hnew : t.newID ≠ "") (hst : s.pods key = some st)
    (hwork : SameWork st st') (hx : st.pod.containers = x :: rest) :
    Armed key s' st' (ProbeState.begin x s.nextArm t.inst) := by
  refine begin_armed h.logged hstep (.finish place o t ht hkey hpc) rfl (by rw [hst]; rfl)
    (hwork.pod ▸ hx) ?_
  intro vm hvm
  obtain ⟨t₁, ht₁, rfl⟩ := Option.map_eq_some_iff.mp hstep
  obtain rfl := Option.some.inj (ht.symm.trans ht₁)
  simp only [restartEffect, hpc, locked_vms, hwork.spec] at hvm
  exact h.inst t (List.mem_of_getElem? ht) hkey (Or.inr hpc) hnew st hst vm hvm

/-- A committed Pod is armed. -/
theorem Probed.committed (h : Probed key s) {c : CreateCall} (hstep : step s (.create o) = some s')
    (hc : s.creating = some c) (hkey : c.pod.key = key) (hpc : c.pc = .commit)
    (hps : (c.committed s o).1.probes = some ps) : Armed key s' (c.committed s o).1 ps := by
  have hplaced := h.bound.placed c hc hkey
  have hcore := committed_sameCore s c o
  have hread : (s.read c.state o).1.probes = none := read_probes s c.state o
  obtain ⟨x, rest, hx, rfl⟩ : ∃ x rest, c.pod.containers = x :: rest ∧
      ps = ProbeState.begin x s.nextArm ((s.vms c.id).map VM.inst) := by
    unfold CreateCall.committed at hps
    dsimp only at hps
    split at hps
    · rcases startProbes_probes (s.read c.state o).1 s.nextArm ((s.vms c.id).map VM.inst) with
        hsame | ⟨x, rest, hcontainers, hbegin⟩
      · rw [hsame, hread] at hps
        cases hps
      · rw [(read_sameCore s c.state o).pod] at hcontainers
        exact ⟨x, rest, hcontainers, Option.some.inj (hps.symm.trans hbegin)⟩
    · rw [hread] at hps
      cases hps
  have hcontainers : (c.committed s o).1.pod.containers = c.pod.containers :=
    congrArg Pod.containers hcore.pod
  refine begin_armed h.logged hstep (.commit c o hc hkey hpc) rfl rfl (hcontainers.trans hx) ?_
  intro vm hvm
  obtain ⟨c₁, hc₁, rfl⟩ := Option.map_eq_some_iff.mp hstep
  obtain rfl := Option.some.inj (hc.symm.trans hc₁)
  rw [createStep_vms, hcore.spec] at hvm
  simp only [createEffect, hpc] at hvm
  have hvm' : s.vms c.spec.name = some vm := hvm
  rw [hplaced.id_eq (by simp [hpc, CreatePC.placed]), hvm']
  rfl

/-- A Pod whose probe state evolves stays armed. -/
theorem Probed.evolved (h : Probed key s) (hl : ProbesClean key s l) (hstep : step s l = some s')
    (hst : s.pods key = some st) (hevolves : Evolves key s st l st') {ps' : ProbeState}
    (hps' : st'.probes = some ps') : Armed key s' st' ps' := by
  have hwork := hevolves.work h.bound hst
  have hcarried : ∀ ps, st.probes = some ps → Armed key s' st' ps := fun ps hps =>
    (h.armed st ps hst hps).carried h hl hstep hst hps hwork
  obtain ⟨new, hattempts, _⟩ := step_log hstep
  have hfrom := hevolves.probes_from
  rw [hps'] at hfrom
  generalize hprobes : some ps' = probes at hfrom
  cases hfrom with
  | same => exact hcarried ps' hprobes.symm
  | stopped => cases hprobes
  | begun place o t x rest hlabel ht hkey hpc hnew hx =>
    subst hlabel
    obtain rfl := Option.some.inj hprobes
    exact h.begun hstep ht hkey hpc hnew hst hwork hx
  | unsupported p hp hkey haction hkind =>
    obtain ⟨ps, hps, rfl⟩ := Option.map_eq_some_iff.mp hprobes.symm
    refine (hcarried ps hps).setStartupDone fun x probe hx hprobe hsupported => ?_
    have hdeclared := h.declared hp hkey hst (hwork.pod ▸ hx)
    rw [hkind] at hdeclared
    obtain rfl := Option.some.inj (hprobe.symm.trans hdeclared)
    exact absurd haction hsupported
  | started place o p hlabel hp hkey hpc hkind hcount =>
    subst hlabel
    obtain ⟨ps, hps, rfl⟩ := Option.map_eq_some_iff.mp hprobes.symm
    refine (hcarried ps hps).setStartupDone fun x probe _ _ _ => ?_
    have hhad := h.had (List.mem_of_getElem? hp) hpc hcount
    rw [hkind, ← hl.own_arm hp hkey hpc hst hps] at hhad
    obtain ⟨a, ha, hok⟩ := hhad.exists_mem (by decide)
    rw [hattempts, attemptsOf_append]
    exact ⟨a, List.mem_append_right _ ha, hok⟩
  | passed place o p hlabel hp hkey hpc hkind hcount =>
    subst hlabel
    obtain ⟨ps, hps, rfl⟩ := Option.map_eq_some_iff.mp hprobes.symm
    refine (hcarried ps hps).setReady fun _ x probe hx hprobe => ?_
    have hdeclared := h.declared (List.mem_of_getElem? hp) hkey hst (hwork.pod ▸ hx)
    rw [hkind] at hdeclared
    obtain rfl := Option.some.inj (hprobe.symm.trans hdeclared)
    have hhad := h.had (List.mem_of_getElem? hp) hpc hcount
    rw [hkind, ← hl.own_arm hp hkey hpc hst hps] at hhad
    rw [hattempts, attemptsOf_append]
    exact hhad.append _
  | failed =>
    obtain ⟨ps, hps, rfl⟩ := Option.map_eq_some_iff.mp hprobes.symm
    exact (hcarried ps hps).setReady flag_off

theorem step_armed (h : Probed key s) (hl : ProbesClean key s l) (hstep : step s l = some s') :
    ∀ st ps, s'.pods key = some st → st.probes = some ps → Armed key s' st ps := by
  intro st' ps' hst' hps'
  cases hst : s.pods key with
  | some st =>
    have hevolves := step_evolves_to h.bound hstep hst hst'
    exact h.evolved hl hstep hst hevolves hps'
  | none =>
    obtain ⟨c, o, rfl, hc, hkey, ⟨hpc, rfl⟩ | ⟨reason, message, _, rfl⟩⟩ :=
      step_born hstep hst hst'
    · exact h.committed hstep hc hkey hpc hps'
    · cases hps'

theorem step_probed (h : Probed key s) (hl : ProbesClean key s l)
    (hstep : step s l = some s') : Probed key s' where
  bound := step_bound h.bound hl.keeps hstep
  unready := step_unready h.bound h.unready hstep
  logged := step_logged h.logged hstep
  inst := step_restart_inst h hl hstep
  armed := step_armed h hl hstep

theorem fresh_probed (key : String) (podNet : Bool) (hostIP : String) (base : Int)
    (ipam : Option PodIPAM) (vms : VMTable) (nextInst : Nat) :
    Probed key (Sys.fresh podNet hostIP base ipam vms nextInst) where
  bound := fresh_bound podNet hostIP base ipam vms nextInst key
  unready := fun _ _ h => by cases h
  logged := fresh_logged podNet hostIP base ipam vms nextInst
  inst := fun _ h => by cases h
  armed := fun _ _ h => by cases h

/-- A ready armed Pod has passed its probes on the present micro-VM. -/
theorem Armed.passed (h : Armed key s st ps) (hx : st.pod.containers = [x]) {vm : VM}
    (hvm : s.vms st.spec.name = some vm) (hready : (probeReadiness (some ps) .running).2 = true) :
    ProbesPassed s x vm.inst := by
  obtain ⟨hstartup, hreadiness⟩ := h.declares x hx
  have hinst : ∀ kind, ∀ a ∈ attemptsOf s.attempts ps.arm kind, a.ok = true →
      a.ok = true ∧ a.inst = some vm.inst := by
    intro kind a ha hok
    obtain ⟨hmem, harm⟩ := List.mem_filter.mp ha
    rw [Bool.and_eq_true, decide_eq_true_eq] at harm
    exact ⟨hok, (h.log a hmem harm.1 hok).trans (h.inst vm hvm)⟩
  refine ⟨ps.arm, ?_, ?_⟩
  · intro probe hprobe haction
    have hdone : ps.startupDone = true := by
      rw [hprobe] at hstartup
      by_contra hnot
      simp [probeReadiness, hstartup, hnot] at hready
    obtain ⟨a, ha, hok⟩ := h.started x probe hx hprobe haction hdone
    exact ⟨a, ha, hinst .startup a ha hok⟩
  · intro probe hprobe
    have hyes : ps.ready = true := by
      rw [hprobe] at hreadiness
      by_contra hnot
      simp [probeReadiness, hreadiness, hnot] at hready
    exact (h.ready x probe hx hprobe hyes).mono (hinst .readiness)

end Probed

/-- Over every run in which no other Pod makes a micro-VM under the workload ID,
no prober of an earlier launch writes into the probe state and nobody else
answers its probes: a Pod reported ready while its probers are armed has passed
its probes against the instance that runs. -/
theorem ready_armed_pod_passed_probes {podNet : Bool} {hostIP : String} {base : Int}
    {ipam : Option PodIPAM} {vms : VMTable} {nextInst : Nat} {key : String} {ls : List Label}
    {s : Sys}
    (hrun : Run step (ProbesClean key) (Sys.fresh podNet hostIP base ipam vms nextInst) ls s)
    {st : PodState} (hst : s.pods key = some st) (harmed : st.probes.isSome = true) {o : Outcome}
    (htrue : o.truthful = true) (hready : (s.read st o).1.status.isReady = true) :
    ∃ w ∈ st.workloads, ∃ vm, s.vms w.id = some vm ∧ vm.phase = .running ∧
      ∀ x ∈ st.pod.containers, ProbesPassed s x vm.inst := by
  have h : Probed key s := hrun.invariant
    (fresh_probed key podNet hostIP base ipam vms nextInst) fun h hl hstep => step_probed h hl hstep
  have hlive := h.unready.live hst hready
  obtain ⟨ps, hps⟩ := Option.isSome_iff_exists.mp harmed
  rcases h.bound.settled st hst with ⟨x, hx⟩ | ⟨_, hterminal, _⟩
  · obtain ⟨rs, hrs, hphase, _, hprobes⟩ := hx.ready_observed hlive hready
    obtain ⟨vm, hvm, hsame, _⟩ := truthful_status htrue hrs
    rw [hps] at hprobes
    refine ⟨⟨x.name, st.spec.name⟩, by rw [hx.workloads]; exact List.mem_cons_self, vm, hvm,
      hsame.symm.trans hphase, ?_⟩
    intro y hy
    rw [hx.containers, List.mem_singleton] at hy
    subst hy
    exact (h.armed st ps hst hps).passed hx.containers hvm hprobes
  · rw [hlive] at hterminal
    cases hterminal

namespace ProbeWitness

open Sample

def guarded : Container :=
  { app with
    startupProbe := some ⟨.httpGet "" "/healthz", 0, 1, 1, 30, 1⟩
    readinessProbe := some ⟨.exec ["/bin/check"], 0, 1, 1, 3, 2⟩ }

def pod : Pod := { web with containers := [guarded] }

def restarting (steps : Nat) : List Label :=
  createPod pod "192.168.64.5" ++ [.vmExit webID false 1, .status "default/web" .ok] ++
    List.replicate steps (.restart 0 (okAt "192.168.64.6"))

def answered : Outcome := { Outcome.ok with responder := some webID }

/-- The probers of the first launch end, those of the second probe until both
probes have passed. -/
def probed : List Label :=
  restarting 9 ++ List.replicate 4 (.probe 0 .ok) ++ List.replicate 19 (.probe 0 answered)

/-- The Pod is tracked with its one container and reported ready, with or without
armed probers. -/
def reportedReady (armed : Bool) (s : Sys) : Bool :=
  (s.pods "default/web").any fun st =>
    st.probes.isSome = armed && st.pod.containers = [guarded] &&
      (s.read st .ok).1.status.isReady

theorem reportedReady_spec {armed : Bool} {s : Sys} (h : reportedReady armed s = true) :
    ∃ st, s.pods "default/web" = some st ∧ st.probes.isSome = armed ∧
      st.pod.containers = [guarded] ∧ (s.read st .ok).1.status.isReady = true := by
  obtain ⟨st, hst, hall⟩ := (Option.any_eq_true _ _).mp h
  simp only [Bool.and_eq_true, decide_eq_true_eq] at hall
  exact ⟨st, hst, hall.1.1, hall.1.2, hall.2⟩

theorem exists_run (ls : List Label) (check : Sys → Bool)
    (h : (execWhen step (fun s l => keepsKey "default/web" l && ownsVM "default/web" s l &&
      writesOwn "default/web" s l && dialsOwn "default/web" s l) node ls).any check = true) :
    ∃ s, Run step (ProbesClean "default/web") node ls s ∧ check s = true := by
  refine exists_run_of_check _ ?_ h
  intro s l hl
  simp only [Bool.and_eq_true] at hl
  exact ⟨hl.1.1.1, hl.1.1.2, hl.1.2, hl.2⟩

end ProbeWitness

open ProbeWitness Sample in
/-- After a restart the Pod is ready again once its probes have passed against the
new instance. -/
theorem ready_armed_pod_passed_probes_after_restart :
    ∃ (s : Sys) (st : PodState), s.pods "default/web" = some st ∧
      st.pod.containers = [guarded] ∧ (s.read st .ok).1.status.isReady = true ∧
      ∃ w ∈ st.workloads, ∃ vm, s.vms w.id = some vm ∧ vm.phase = .running ∧
        ∀ x ∈ st.pod.containers, ProbesPassed s x vm.inst := by
  obtain ⟨s, hrun, hcheck⟩ :=
    exists_run probed (reportedReady true) (by decide)
  obtain ⟨st, hst, harmed, hcontainers, hready⟩ := reportedReady_spec hcheck
  exact ⟨s, st, hst, hcontainers, hready, ready_armed_pod_passed_probes hrun hst harmed rfl hready⟩

open ProbeWitness Sample in
/-- While a restart has its new micro-VM running and its probers not yet armed,
the Pod is reported ready and nothing was ever probed. -/
theorem restarting_pod_ready_before_any_probe :
    ¬ ∀ (podNet : Bool) (hostIP : String) (base : Int) (ipam : Option PodIPAM) (vms : VMTable)
      (nextInst : Nat) (key : String) (ls : List Label) (s : Sys),
      Run step (ProbesClean key) (Sys.fresh podNet hostIP base ipam vms nextInst) ls s →
      ∀ st : PodState, s.pods key = some st →
      ∀ o : Outcome, o.truthful = true → (s.read st o).1.status.isReady = true →
      ∃ w ∈ st.workloads, ∃ vm, s.vms w.id = some vm ∧ vm.phase = .running ∧
        ∀ x ∈ st.pod.containers, ProbesPassed s x vm.inst := by
  intro hall
  obtain ⟨s, hrun, hcheck⟩ :=
    exists_run (restarting 6) (fun s => reportedReady false s && s.attempts.isEmpty)
      (by decide)
  rw [Bool.and_eq_true, List.isEmpty_iff] at hcheck
  obtain ⟨st, hst, _, hcontainers, hready⟩ := reportedReady_spec hcheck.1
  obtain ⟨w, _, vm, _, _, hpassed⟩ := hall _ _ _ _ _ _ _ _ s hrun st hst .ok rfl hready
  obtain ⟨arm, hstartup, _⟩ := hpassed guarded (by simp [hcontainers])
  obtain ⟨a, ha, _⟩ := hstartup _ rfl (by decide)
  rw [hcheck.2] at ha
  cases ha

end MacVz
