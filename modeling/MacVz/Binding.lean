/-
What binds a Pod, its workload and the tasks that work on it.  As long as a key
is not deleted, its Pod has at most one restart in flight, and the workload, the
restart and the probers all name the same workload ID.
-/
import MacVz.KeyFrame

namespace MacVz

open Interleaving

variable {c : CreateCall} {st st' : PodState} {x : Container} {p : Prober} {t : RestartTask}
  {o : Outcome}

/-- The places of `CreatePod` before it has a micro-VM. -/
def CreatePC.blank : CreatePC → Bool
  | .check | .translate | .volumeDirs | .configFiles | .hadIP | .allocate | .lookup
  | .credentials | .pull | .create => true
  | _ => false

/-- The places of `CreatePod` where its Pod is translated. -/
def CreatePC.translated : CreatePC → Bool
  | .check | .translate | .terminal _ _ | .release | .done => false
  | _ => true

/-- The places of `CreatePod` where its workload is recorded. -/
def CreatePC.placed : CreatePC → Bool
  | .startAdopted | .start | .observe | .attach | .commit => true
  | _ => false

/-- The call knows its container and names nothing but its own workload. -/
structure CreateCall.Placed (c : CreateCall) : Prop where
  blank : c.pc.blank = true → c.workloads = []
  named : c.pc.translated = true →
    ∃ x, c.pod.containers = [x] ∧ c.spec.name = c.pod.workloadID x.name
  placed : c.pc.placed = true → c.workloads = [⟨c.pod.firstContainer, c.spec.name⟩]
  remaining : ∀ ws, c.pc = .rollback ws → ∀ w ∈ ws, w.id = c.spec.name

theorem CreateCall.Placed.id_eq (h : c.Placed) (hpc : c.pc.placed = true) : c.id = c.spec.name := by
  simp [CreateCall.id, h.placed hpc]

theorem begin_placed (pod : Pod) : (CreateCall.begin pod).Placed where
  blank := fun _ => rfl
  named := fun h => by cases h
  placed := fun h => by cases h
  remaining := fun _ h => by cases h

theorem placed_of_left (h : c.pc = .release ∨ c.pc = .done) : c.Placed := by
  rcases h with hpc | hpc <;>
    exact ⟨by simp [hpc, CreatePC.blank], by simp [hpc, CreatePC.translated],
      by simp [hpc, CreatePC.placed], by simp [hpc]⟩

/-- A step of a creation keeps its spec the Pod's own once translated. -/
theorem CreateMove.placed {s : Sys} {c' : CreateCall} (h : CreateMove s o c c')
    (hplaced : c.Placed) :
    c'.Placed := by
  cases h with
  | tracked hpc _ => exact placed_of_left (Or.inr rfl)
  | untracked hpc _ =>
    exact ⟨fun _ => hplaced.blank (by simp [hpc, CreatePC.blank]), flag_off, flag_off,
      fun _ h => by cases h⟩
  | unsupported message hpc => exact ⟨flag_off, flag_off, flag_off, fun _ h => by cases h⟩
  | translated x spec hpc hok =>
    refine ⟨fun _ => hplaced.blank (by simp [hpc, CreatePC.blank]), fun _ => ?_, flag_off,
      fun _ h => by cases h⟩
    exact ⟨x, translatePod_ok hok⟩
  | found rs pc hpc hok hgo =>
    have hnamed := hplaced.named (by simp [hpc, CreatePC.translated])
    refine ⟨?_, fun _ => hnamed, fun _ => ?_, ?_⟩
    · rcases hgo with ⟨rfl, _⟩ | ⟨rfl, _⟩ | ⟨rfl, _⟩ <;> exact fun h => by cases h
    · rw [VMTable.status_id hok]
    · rcases hgo with ⟨rfl, _⟩ | ⟨rfl, _⟩ | ⟨rfl, _⟩ <;> exact fun _ h => by cases h
  | wrongArch message hpc => exact ⟨flag_off, flag_off, flag_off, fun _ h => by cases h⟩
  | created hpc hok =>
    exact ⟨flag_off, fun _ => hplaced.named (by simp [hpc, CreatePC.translated]),
      fun _ => rfl, fun _ h => by cases h⟩
  | started pc hpc hok hgo =>
    have hc : c.pc.translated = true ∧ c.pc.placed = true := by
      rcases hpc with hpc | hpc <;> simp [hpc, CreatePC.translated, CreatePC.placed]
    refine ⟨?_, fun _ => hplaced.named hc.1, fun _ => hplaced.placed hc.2, ?_⟩
    · rcases hgo with ⟨rfl, _⟩ | ⟨rfl, _⟩ <;> exact fun h => by cases h
    · rcases hgo with ⟨rfl, _⟩ | ⟨rfl, _⟩ <;> exact fun _ h => by cases h
  | committed | released => exact placed_of_left (Or.inr rfl)
  | recorded _ _ _ _ hgo | rolledBackAll _ _ hgo | failedEarly _ _ _ hgo => exact placed_of_left hgo
  | rolledBack w remaining hpc =>
    refine ⟨flag_off, fun _ => hplaced.named (by simp [hpc, CreatePC.translated]), flag_off, ?_⟩
    intro ws hws w' hw'
    obtain rfl : remaining = ws := by simpa using hws
    exact hplaced.remaining _ hpc w' (List.mem_cons_of_mem _ hw')
  | failedLate e pc hpc hgo =>
    rcases hgo with rfl | rfl | rfl
    · exact placed_of_left (Or.inl rfl)
    · exact placed_of_left (Or.inr rfl)
    · have hnamed : c.pc.translated = true := by
        cases hplace : c.pc <;> simp [hplace, CreatePC.late] at hpc <;> rfl
      refine ⟨flag_off, fun _ => hplaced.named hnamed, flag_off, ?_⟩
      intro ws hws w hw
      obtain rfl : c.workloads = ws := by simpa using hws
      by_cases hcreate : c.pc = .create
      · rw [hplaced.blank (by simp [hcreate, CreatePC.blank])] at hw
        cases hw
      · have hp : c.pc.placed = true := by
          cases hplace : c.pc <;> simp [hplace, CreatePC.late] at hpc hcreate <;> rfl
        rw [hplaced.placed hp, List.mem_singleton] at hw
        rw [hw]
  | observed ip hpc _ | polled hpc _ | attached hpc _ =>
    exact ⟨flag_off, fun _ => hplaced.named (by simp [hpc, CreatePC.translated]),
      fun _ => hplaced.placed (by simp [hpc, CreatePC.placed]), fun _ h => by cases h⟩
  | _ =>
    exact ⟨fun _ => hplaced.blank (by simp [*, CreatePC.blank]),
      fun _ => hplaced.named (by simp [*, CreatePC.translated]), flag_off,
      fun _ h => by cases h⟩

/-- A tracked Pod runs its one container under its workload ID. -/
structure Running (st : PodState) (x : Container) : Prop extends Committed st x where
  named : st.spec.name = st.pod.workloadID x.name

/-- A tracked Pod runs its one container, or was turned down at creation. -/
inductive Settled (st : PodState) : Prop
  | running (x : Container) : Running st x → Settled st
  | rejected : st.workloads = [] → st.terminalStatus.isSome = true → st.restarting = false →
      st.probes = none → Settled st

/-- The same Pod with the same workload under the same spec. -/
structure SameWork (st st' : PodState) : Prop where
  pod : st'.pod = st.pod
  workloads : st'.workloads = st.workloads
  spec : st'.spec = st.spec

theorem SameCore.work (h : SameCore st st') : SameWork st st' :=
  ⟨h.pod, h.workloads, h.spec⟩

theorem Running.kept (h : Running st x) (hwork : SameWork st st') : Running st' x where
  containers := hwork.pod ▸ h.containers
  workloads := by
    rw [hwork.workloads, hwork.spec]
    exact h.workloads
  named := by
    rw [hwork.spec, hwork.pod]
    exact h.named

/-- A restart in flight works on the workload of its Pod. -/
structure Restarting (t : RestartTask) (st : PodState) : Prop where
  flag : st.restarting = true
  oldID : t.oldID = st.spec.name
  spec : t.pc ≠ .waiting → t.spec = st.spec
  probes : t.pc ≠ .waiting → st.probes = none
  newID : t.newID = "" ∨ t.newID = st.spec.name
  renewed : t.pc.renewed = true → t.newID = st.spec.name

def ProbePC.names : ProbePC → Option String
  | .exec id | .stop id | .destroy id => some id
  | _ => none

/-- A prober is about the container of the Pod that runs, and names its micro-VM. -/
structure Probing (p : Prober) (st : PodState) : Prop where
  running : Running st p.container
  named : ∀ id, p.pc.names = some id → id = st.spec.name

theorem Probing.kept (h : Probing p st) (hwork : SameWork st st') : Probing p st' where
  running := h.running.kept hwork
  named := by
    rw [hwork.spec]
    exact h.named

theorem Restarting.kept (h : Restarting t st) (hwork : SameWork st st')
    (hflag : st'.restarting = true) (hprobes : st.probes = none → st'.probes = none) :
    Restarting t st' where
  flag := hflag
  oldID := hwork.spec ▸ h.oldID
  spec := by
    rw [hwork.spec]
    exact h.spec
  probes := fun hpc => hprobes (h.probes hpc)
  newID := by
    rw [hwork.spec]
    exact h.newID
  renewed := by
    rw [hwork.spec]
    exact h.renewed

theorem begin_restarting (hflag : st.restarting = true) {key : String} {inc : Nat} {launch : Launch}
    (hid : launch.oldID = st.spec.name) : Restarting (RestartTask.begin key inc launch) st where
  flag := hflag
  oldID := hid
  spec := fun hpc => absurd rfl hpc
  probes := fun hpc => absurd rfl hpc
  newID := Or.inl rfl
  renewed := fun h => by cases h

theorem begin_probing (h : Running st x) (arm : Nat) (kind : ProbeKind) (probe : Probe) :
    Probing (Prober.begin st x arm kind probe) st where
  running := h
  named := fun _ h => by cases h

theorem Settled.restarting (h : Settled st) (hflag : st.restarting = true) : ∃ x, Running st x := by
  rcases h with ⟨x, hx⟩ | ⟨_, _, hidle, _⟩
  · exact ⟨x, hx⟩
  · rw [hflag] at hidle
    cases hidle

/-- An update that keeps what a Pod is, and begins at most one restart. -/
structure Tending (st : PodState) (u : Update) : Prop where
  core : SameCore st u.st
  launch : (u.st.restarting = st.restarting ∧ u.launched = []) ∨
    (st.restarting = false ∧ u.st.restarting = true ∧ st.terminalStatus = none ∧
      ∃ backoff, u.launched = [⟨st.spec.name, backoff⟩])
  probers : u.probers = []
  probes : st.probes = none → u.st.probes = none
  terminal : st.terminalStatus.isSome = true → u.st.terminalStatus = st.terminalStatus

theorem setProbe_tending (g : ProbeState → ProbeState) (st : PodState) :
    Tending st (setProbeUpdate g st) where
  core := setProbeUpdate_sameCore g st
  launch := Or.inl ⟨rfl, rfl⟩
  probers := rfl
  probes := by
    intro hnone
    simp [setProbeUpdate, Update.only, hnone]
  terminal := fun _ => rfl

theorem only_tending (st : PodState) : Tending st (.only st) :=
  ⟨SameCore.refl st, Or.inl ⟨rfl, rfl⟩, rfl, id, fun _ => rfl⟩

/-- A status read only tends the Pod. -/
theorem read_tending (s : Sys) (o : Outcome) (h : Settled st) : Tending st (s.readUpdate o st) := by
  have hreads := reconcileStatus_reads s.hostIP s.restartBackoffBase
    (fun id => s.vms.status id o.status) st
  refine ⟨read_sameCore s st o, ?_, rfl, (read_probes s st o).trans, fun _ => read_terminal s st o⟩
  rcases hreads.launch with ⟨hflag, hnone⟩ | ⟨hold, hflag, w, hw, backoff, hlaunched⟩
  · exact Or.inl ⟨hflag, hnone⟩
  · rcases h with ⟨x, hx⟩ | ⟨hempty, _⟩
    · rw [hx.workloads, List.mem_singleton] at hw
      subst hw
      refine Or.inr ⟨hold, hflag, ?_, backoff, hlaunched⟩
      cases hst : st.terminalStatus with
      | none => rfl
      | some status =>
        unfold reconcileStatus at hlaunched
        simp [hst] at hlaunched
    · rw [hempty] at hw
      cases hw

theorem Running.workload_eq (h : Running st p.container) : p.workload st = st.spec.name := by
  simp [Prober.workload, h.workloadOf_eq]

/-- What a prober does to a Pod only tends it. -/
theorem act_tending (h : Running st p.container) (base : Int) (ok : Bool) :
    Tending st (p.actUpdate base ok st) := by
  have hacts := actUpdate_acts p base ok st
  have hcore := hacts.sameCore
  generalize p.actUpdate base ok st = u at hacts hcore ⊢
  cases hacts with
  | nothing => exact only_tending st
  | startup | ready | unready => exact setProbe_tending _ st
  | restart _ _ _ hlive _ hidle =>
    refine ⟨hcore, Or.inr ⟨hidle, rfl, hlive,
      restartBackoff base (st.restarts p.container.name), ?_⟩, rfl, id, fun _ => rfl⟩
    rw [h.workload_eq]
  | fail _ _ _ hlive _ =>
    refine ⟨hcore, Or.inl ⟨rfl, rfl⟩, rfl, fun _ => rfl, fun hterminal => ?_⟩
    rw [hlive] at hterminal
    cases hterminal

section Evolution

variable {s s' : Sys} {key : String} {l : Label}

/-- The step does not begin a deletion of the key. -/
def keepsKey (key : String) : Label → Bool
  | .deleteBegin pod => pod.key ≠ key
  | _ => true

/-- What a step makes of a Pod that stays tracked. -/
inductive Evolves (key : String) (s : Sys) (st : PodState) : Label → PodState → Prop
  | same (l : Label) : Evolves key s st l st
  | read (o : Outcome) : Evolves key s st (.status key o) (s.read st o).1
  | snapshot (place : Nat) (o : Outcome) (t : RestartTask) : s.restarts[place]? = some t →
      t.key = key → t.pc = .waiting → Evolves key s st (.restart place o) (snapshotUpdate st).st
  | finish (place : Nat) (o : Outcome) (t : RestartTask) : s.restarts[place]? = some t →
      t.key = key → t.pc = .finish → Evolves key s st (.restart place o) (t.finished s st).1
  | unsupported (place : Nat) (o : Outcome) (p : Prober) : s.probers[place]? = some p →
      p.key = key → p.pc = .start → p.probe.action = .unsupported → p.kind = .startup →
      Evolves key s st (.probe place o) (setProbeUpdate ProbeState.setStartupDone st).st
  | act (place : Nat) (o : Outcome) (p : Prober) (ok : Bool) : s.probers[place]? = some p →
      p.key = key → p.pc = .act ok →
      Evolves key s st (.probe place o) ((p.count ok).actUpdate s.restartBackoffBase ok st).st

/-- A call that creates the key finds it untracked until it stores it. -/
def PendingUntracked (key : String) (s : Sys) : Prop :=
  ∀ c, s.creating = some c → c.pod.key = key → c.pc.pending = true → s.pods key = none

theorem CreatePC.pending_of_stores {pc : CreatePC} (h : pc.stores = true) : pc.pending = true := by
  cases pc <;> simp [CreatePC.stores] at h <;> rfl

theorem PendingUntracked.stores_eq_false (h : PendingUntracked key s) {c : CreateCall}
    (hc : s.creating = some c) (hkey : c.pod.key = key) (hst : s.pods key = some st) :
    c.pc.stores = false := by
  by_contra hstores
  rw [Bool.not_eq_false] at hstores
  rw [h c hc hkey (CreatePC.pending_of_stores hstores)] at hst
  cases hst

/-- A Pod tracked before and after a step evolves by it. -/
theorem step_evolves_to_of (huntracked : PendingUntracked key s) (hstep : step s l = some s')
    (hst : s.pods key = some st) {st' : PodState} (hst' : s'.pods key = some st') :
    Evolves key s st l st' := by
  rcases step_stored hstep hst' with hsame | ⟨e, hnotices, happly⟩
  · obtain rfl := Option.some.inj (hst.symm.trans hsame)
    exact .same l
  · rw [hst] at happly
    cases hnotices with
    | commit c o hc hkey hpc =>
      have hstores := huntracked.stores_eq_false hc hkey hst
      rw [hpc] at hstores
      cases hstores
    | refuse c o reason message hc hkey hpc =>
      have hstores := huntracked.stores_eq_false hc hkey hst
      rw [hpc] at hstores
      cases hstores
    | delete pod _ => cases happly
    | read o => exact Option.some.inj happly ▸ .read o
    | snapshot place o t ht hkey hpc =>
      exact Option.some.inj happly ▸ .snapshot place o t ht hkey hpc
    | finish place o t ht hkey hpc => exact Option.some.inj happly ▸ .finish place o t ht hkey hpc
    | startupIgnored place o p hp hkey hpc haction hkind =>
      exact Option.some.inj happly ▸ .unsupported place o p hp hkey hpc haction hkind
    | act place o p ok hp hkey hpc => exact Option.some.inj happly ▸ .act place o p ok hp hkey hpc

theorem step_evolves_of (huntracked : PendingUntracked key s) (hkeep : keepsKey key l = true)
    (hstep : step s l = some s') (hst : s.pods key = some st) :
    ∃ st', s'.pods key = some st' ∧ Evolves key s st l st' := by
  cases hst' : s'.pods key with
  | none =>
    obtain ⟨pod, rfl, hkey⟩ := step_tracked hstep hst hst'
    rw [keepsKey, decide_eq_true_eq] at hkeep
    exact absurd hkey hkeep
  | some st' => exact ⟨st', rfl, step_evolves_to_of huntracked hstep hst hst'⟩

/-- Only `CreatePod` makes a Pod tracked: it commits it, or turns it down. -/
theorem step_born (hstep : step s l = some s') (hnone : s.pods key = none)
    (hst : s'.pods key = some st) : ∃ c o, l = .create o ∧ s.creating = some c ∧ c.pod.key = key ∧
      (c.pc = .commit ∧ st = (c.committed s o).1 ∨
        ∃ reason message, c.pc = .terminal reason message ∧
          st = c.terminalState reason message o.now) := by
  rcases step_stored hstep hst with hold | ⟨e, hnotices, happly⟩
  · rw [hnone] at hold
    cases hold
  · rw [hnone] at happly
    cases hnotices with
    | commit c o hc hkey hpc =>
      exact ⟨c, o, rfl, hc, hkey, Or.inl ⟨hpc, (Option.some.inj happly).symm⟩⟩
    | refuse c o reason message hc hkey hpc =>
      exact ⟨c, o, rfl, hc, hkey, Or.inr ⟨reason, message, hpc, (Option.some.inj happly).symm⟩⟩
    | _ => cases happly

/-- A step that stores no Pod leaves an untracked key untracked. -/
theorem step_stays_untracked (hstep : step s l = some s') (hnone : s.pods key = none)
    (hquiet : ∀ c o, l = .create o → s.creating = some c → c.pc.stores = false) :
    s'.pods key = none := by
  cases hst' : s'.pods key with
  | none => rfl
  | some st' =>
    obtain ⟨c, o, hl, hc, _, ⟨hpc, _⟩ | ⟨_, _, hpc, _⟩⟩ := step_born hstep hnone hst'
    · have hstores := hquiet c o hl hc
      rw [hpc] at hstores
      cases hstores
    · have hstores := hquiet c o hl hc
      rw [hpc] at hstores
      cases hstores

/-- A step leaves the Pod a creation is adding untracked until its commit. -/
theorem step_pendingUntracked (h : PendingUntracked key s) (hstep : step s l = some s') :
    PendingUntracked key s' := by
  intro c' hc' hkey hpending
  rcases step_creating hstep hc' with ⟨hc, hnot⟩ | ⟨pod, _, rfl⟩ | ⟨c, o, rfl, hc, rfl⟩
  · refine step_stays_untracked hstep (h c' hc hkey hpending) ?_
    intro c o hl
    exact absurd hl (hnot o)
  · cases hpending
  · have hmove := createNext_move s c o
    rw [hmove.pod_eq] at hkey
    have hsame : ∀ c₁ o₁, Label.create o = .create o₁ → s.creating = some c₁ → c₁ = c :=
      fun c₁ o₁ _ hc₁ => Option.some.inj (hc₁.symm.trans hc)
    rcases hmove.pending_cases hpending with ⟨huntracked, hpc⟩ | ⟨hpc, hstores⟩
    · rw [hkey] at huntracked
      refine step_stays_untracked hstep huntracked ?_
      intro c₁ o₁ hl hc₁
      rw [hsame c₁ o₁ hl hc₁, hpc]
      rfl
    · refine step_stays_untracked hstep (h c hc hkey hpc) ?_
      intro c₁ o₁ hl hc₁
      rw [hsame c₁ o₁ hl hc₁]
      exact hstores

end Evolution

/-- Every task of a key is about the Pod that is tracked there. -/
structure Bound (key : String) (s : Sys) : Prop where
  keyed : Keyed s
  settled : ∀ st, s.pods key = some st → Settled st
  restart : ∀ t ∈ s.restarts, t.key = key → ∃ st, s.pods key = some st ∧ Restarting t st
  unique : AtMostOne (fun t => t.key = key) s.restarts
  probing : ∀ p ∈ s.probers, p.key = key → ∃ st, s.pods key = some st ∧ Probing p st
  placed : ∀ c, s.creating = some c → c.pod.key = key → c.Placed
  untracked : ∀ c, s.creating = some c → c.pod.key = key → c.pc.pending = true →
    s.pods key = none

section Bound

variable {s : Sys} {key : String} {s' : Sys} {l : Label} {u : Update} {t' : RestartTask}
  {p' : Prober} {e : PodEvent}

theorem Bound.restarting (h : Bound key s) (ht : t ∈ s.restarts) (hkey : t.key = key)
    (hst : s.pods key = some st) : Restarting t st := by
  obtain ⟨st', hst', hrestarting⟩ := h.restart t ht hkey
  obtain rfl := Option.some.inj (hst.symm.trans hst')
  exact hrestarting

theorem Bound.no_restart (h : Bound key s) (hnone : s.pods key = none) :
    ∀ t ∈ s.restarts, t.key ≠ key := by
  intro t ht hkey
  obtain ⟨st, hst, _⟩ := h.restart t ht hkey
  rw [hnone] at hst
  cases hst

theorem step_evolves (h : Bound key s) (hkeep : keepsKey key l = true) (hstep : step s l = some s')
    (hst : s.pods key = some st) : ∃ st', s'.pods key = some st' ∧ Evolves key s st l st' :=
  step_evolves_of h.untracked hkeep hstep hst

theorem step_evolves_to (h : Bound key s) (hstep : step s l = some s') (hst : s.pods key = some st)
    {st' : PodState} (hst' : s'.pods key = some st') : Evolves key s st l st' :=
  step_evolves_to_of h.untracked hstep hst hst'

theorem tending_settled (h : Settled st) (htend : Tending st u) : Settled u.st := by
  rcases h with ⟨x, hx⟩ | ⟨hempty, hterminal, hidle, hprobes⟩
  · exact .running x (hx.kept htend.core.work)
  · refine .rejected (htend.core.workloads.trans hempty) ?_ ?_ (htend.probes hprobes)
    · rw [htend.terminal hterminal]
      exact hterminal
    · rcases htend.launch with ⟨hflag, _⟩ | ⟨_, _, hlive, _⟩
      · exact hflag.trans hidle
      · rw [hlive] at hterminal
        cases hterminal

theorem Restarting.tended (h : Restarting t st) (htend : Tending st u) : Restarting t u.st := by
  refine h.kept htend.core.work ?_ htend.probes
  rcases htend.launch with ⟨hflag, _⟩ | ⟨_, hflag, _⟩
  · exact hflag.trans h.flag
  · exact hflag

theorem Tending.launches (htend : Tending st u) {launch : Launch} (hlaunch : launch ∈ u.launched) :
    u.launched = [launch] ∧ launch.oldID = st.spec.name ∧
      st.restarting = false ∧ u.st.restarting = true := by
  rcases htend.launch with ⟨_, hnil⟩ | ⟨hidle, hflag, _, backoff, hone⟩
  · rw [hnil] at hlaunch
    cases hlaunch
  · rw [hone, List.mem_singleton] at hlaunch
    subst hlaunch
    exact ⟨hone, rfl, hidle, hflag⟩

theorem CreateCall.Placed.running (h : c.Placed) (hpc : c.pc = .commit) :
    ∃ x, Running c.state x := by
  obtain ⟨x, hcontainers, hname⟩ := h.named (by simp [hpc, CreatePC.translated])
  refine ⟨x, ⟨hcontainers, ?_⟩, hname⟩
  have hfirst : c.pod.firstContainer = x.name := by simp [Pod.firstContainer, hcontainers]
  change c.workloads = _
  rw [h.placed (by simp [hpc, CreatePC.placed]), hfirst]
  rfl

theorem committed_restarting (s : Sys) (c : CreateCall) (o : Outcome) :
    (c.committed s o).1.restarting = (s.read c.state o).1.restarting := by
  rw [committed_eq]

/-- A step of a restart task keeps it bound to the Pod it restarts. -/
theorem RestartMove.restarting (hmove : RestartMove s o t (some t')) (hst : s.pods t.key = some st)
    (h : Restarting t st) (hpc : t.pc ≠ .waiting) : Restarting t' st := by
  have hspec := h.spec hpc
  cases hmove with
  | snapshot _ hwaiting _ _ => exact absurd hwaiting hpc
  | created hcreate _ =>
    exact ⟨h.flag, h.oldID, fun _ => hspec, fun _ => h.probes hpc,
      Or.inr (congrArg ContainerSpec.name hspec), fun _ => congrArg ContainerSpec.name hspec⟩
  | createFailed | halfDestroyed =>
    exact ⟨h.flag, h.oldID, fun _ => hspec, fun _ => h.probes hpc, Or.inl rfl, flag_off⟩
  | started _ hplace _ _ | startFailed hplace _ | observed _ hplace _ | polled hplace _ =>
    refine ⟨h.flag, h.oldID, fun _ => hspec, fun _ => h.probes hpc, h.newID, fun _ => ?_⟩
    exact h.renewed (by simp [hplace, RestartPC.renewed])
  | orphaned _ hnone _ =>
    rw [hst] at hnone
    cases hnone
  | _ => exact ⟨h.flag, h.oldID, fun _ => hspec, fun _ => h.probes hpc, h.newID, flag_off⟩

/-- The workload stays the same through a restart: the new one has the ID of the
old one. -/
theorem Restarting.finished_work (h : Restarting t st) (hx : Running st x) :
    SameWork st (t.finished s st).1 := by
  unfold RestartTask.finished
  split
  · exact ⟨rfl, rfl, rfl⟩
  · rename_i hnew
    have hid : t.newID = st.spec.name := by
      rcases h.newID with hempty | hid
      · exact absurd hempty hnew
      · exact hid
    have hwork := (startProbes_sameCore (t.swapIn st) s.nextArm t.inst).work
    refine ⟨hwork.pod, hwork.workloads.trans ?_, hwork.spec⟩
    change st.workloads.map _ = st.workloads
    rw [hx.workloads]
    simp [h.oldID, hid]

theorem count_probing (h : Probing p st) (ok : Bool) : Probing (p.count ok) st := by
  unfold Prober.count
  split
  · exact ⟨h.running, h.named⟩
  · exact ⟨h.running, h.named⟩

theorem Probing.at (h : Probing p st) {pc : ProbePC}
    (hpc : ∀ id, pc.names = some id → id = st.spec.name) : Probing { p with pc := pc } st :=
  ⟨h.running, hpc⟩

theorem currentWorkloadID_eq (hst : s.pods key = some st) (hx : Running st x) {id : String}
    (hid : currentWorkloadID s key x.name = some id) : id = st.spec.name := by
  unfold currentWorkloadID at hid
  rw [hst, Option.bind_some, hx.workloads] at hid
  obtain ⟨w, hw, rfl⟩ := Option.map_eq_some_iff.mp hid
  have hmem := List.mem_of_find?_eq_some hw
  rw [List.mem_singleton] at hmem
  rw [hmem]

theorem failProbeNext_probing (h : Probing p st) (hst : s.pods p.key = some st)
    (hnext : failProbeNext s p = some p') : Probing p' st := by
  unfold failProbeNext at hnext
  rw [hst] at hnext
  dsimp only at hnext
  split at hnext
  · cases hnext
  · split at hnext
    · cases hnext
    · obtain rfl := Option.some.inj hnext
      refine h.at ?_
      rintro id ⟨rfl⟩
      exact h.running.workload_eq

theorem actNext_probing (h : Probing p st) (hst : s.pods p.key = some st) {ok : Bool}
    (hnext : actNext s p ok = some p') : Probing p' st := by
  unfold actNext at hnext
  split at hnext
  · split at hnext
    · cases hnext
    · obtain rfl := Option.some.inj hnext
      exact h.at (fun _ h => by cases h)
  · split at hnext
    · exact failProbeNext_probing h hst hnext
    · obtain rfl := Option.some.inj hnext
      exact h.at (fun _ h => by cases h)

theorem count_key (p : Prober) (ok : Bool) : (p.count ok).key = p.key := by
  unfold Prober.count
  split <;> rfl

/-- A step of a prober keeps it bound to its Pod. -/
theorem probeNext_probing (h : Probing p st) (hst : s.pods p.key = some st)
    (hnext : probeNext s p o = some p') : Probing p' st := by
  unfold probeNext at hnext
  split at hnext
  case h_5 =>
      split at hnext
      · split at hnext
        · rename_i id hid
          obtain rfl := Option.some.inj hnext
          refine h.at ?_
          rintro id' ⟨rfl⟩
          exact currentWorkloadID_eq hst h.running hid
        · obtain rfl := Option.some.inj hnext
          exact h.at (fun _ h => by cases h)
      · obtain rfl := Option.some.inj hnext
        exact h.at (fun _ h => by cases h)
      · obtain rfl := Option.some.inj hnext
        exact h.at (fun _ h => by cases h)
      · cases hnext
  case h_8 ok _ =>
      refine actNext_probing (count_probing h ok) ?_ hnext
      rw [count_key]
      exact hst
  case h_10 id hpc =>
      obtain rfl := Option.some.inj hnext
      refine h.at ?_
      rintro id' ⟨rfl⟩
      exact h.named id (by rw [hpc]; rfl)
  case h_11 => cases hnext
  case h_6 | h_7 =>
      obtain ⟨met, _, rfl⟩ := Option.map_eq_some_iff.mp hnext
      exact h.at (fun _ h => by cases h)
  all_goals
    split at hnext
    · cases hnext
      try exact h.at (fun _ h => by cases h)
    · cases hnext
      try exact h.at (fun _ h => by cases h)

theorem Bound.running (h : Bound key s) (ht : t ∈ s.restarts) (hkey : t.key = key)
    (hst : s.pods key = some st) : ∃ x, Running st x :=
  (h.settled st hst).restarting (h.restarting ht hkey hst).flag

theorem Bound.probed (h : Bound key s) (hp : p ∈ s.probers) (hkey : p.key = key)
    (hst : s.pods key = some st) : Probing p st := by
  obtain ⟨st', hst', hprobing⟩ := h.probing p hp hkey
  obtain rfl := Option.some.inj (hst.symm.trans hst')
  exact hprobing

/-- A tracked Pod keeps its specs and workloads as it evolves. -/
theorem Evolves.work {st' : PodState} (hevolves : Evolves key s st l st') (h : Bound key s)
    (hst : s.pods key = some st) : SameWork st st' := by
  cases hevolves with
  | same => exact ⟨rfl, rfl, rfl⟩
  | read o => exact (read_sameCore s st o).work
  | snapshot place o t _ _ _ => exact (snapshotUpdate_sameCore st).work
  | finish place o t ht hkey _ =>
    obtain ⟨x, hx⟩ := h.running (List.mem_of_getElem? ht) hkey hst
    exact (h.restarting (List.mem_of_getElem? ht) hkey hst).finished_work hx
  | unsupported place o p _ _ _ _ _ => exact (setProbeUpdate_sameCore _ st).work
  | act place o p ok _ _ _ => exact (actUpdate_acts _ _ _ st).sameCore.work

/-- A Pod evolves by being tended or by a restart of its own. -/
theorem Evolves.tended (hevolves : Evolves key s st l st') (h : Bound key s)
    (hst : s.pods key = some st) : (∃ u, Tending st u ∧ st' = u.st) ∨
      ∃ place o t, l = .restart place o ∧ s.restarts[place]? = some t ∧ t.key = key := by
  cases hevolves with
  | same => exact Or.inl ⟨_, only_tending st, rfl⟩
  | read o => exact Or.inl ⟨_, read_tending s o (h.settled st hst), rfl⟩
  | snapshot place o t ht hkey _ => exact Or.inr ⟨place, o, t, rfl, ht, hkey⟩
  | finish place o t ht hkey _ => exact Or.inr ⟨place, o, t, rfl, ht, hkey⟩
  | unsupported => exact Or.inl ⟨_, setProbe_tending _ st, rfl⟩
  | act place o p ok hp hkey _ =>
    have hprobing := h.probed (List.mem_of_getElem? hp) hkey hst
    exact Or.inl ⟨_, act_tending (count_probing hprobing ok).running _ ok, rfl⟩

/-- A tracked Pod is settled after a step. -/
theorem step_settled (h : Bound key s) (hstep : step s l = some s')
    (hst' : s'.pods key = some st') :
    Settled st' := by
  cases hst : s.pods key with
  | some st =>
    have hevolves := step_evolves_to h hstep hst hst'
    rcases hevolves.tended h hst with ⟨u, htend, rfl⟩ | ⟨place, o, t, _, ht, hkey⟩
    · exact tending_settled (h.settled st hst) htend
    · obtain ⟨x, hx⟩ := h.running (List.mem_of_getElem? ht) hkey hst
      exact .running x (hx.kept (hevolves.work h hst))
  | none =>
    obtain ⟨c, o, _, hc, hkey, ⟨hpc, rfl⟩ | ⟨_, _, _, rfl⟩⟩ := step_born hstep hst hst'
    · obtain ⟨x, hx⟩ := (h.placed c hc hkey).running hpc
      exact .running x (hx.kept (committed_sameCore s c o).work)
    · exact .rejected rfl rfl rfl rfl

/-- An event tends the Pod that is tracked, or the one `CreatePod` is about to store; the others
launch nothing. -/
theorem Bound.tends (h : Bound key s) (hnotices : Notices key s l e) :
    (∃ st u st', Tending st u ∧ e.restarts (s.pods key) = u.launched ∧
      e.apply (s.pods key) = some st' ∧ SameWork st st' ∧ st'.restarting = u.st.restarting ∧
        (s.pods key = some st ∨ s.pods key = none ∧ st.restarting = false) ∧
          ∀ place o, l ≠ .restart place o) ∨
      e.restarts (s.pods key) = [] ∧ ∀ st', e.apply (s.pods key) = some st' →
        st'.restarting = false ∨ ∃ t ∈ s.restarts, t.key = key := by
  cases hnotices with
  | commit c o hc hkey hpc =>
    obtain ⟨x, hx⟩ := (h.placed c hc hkey).running hpc
    have hnone := h.untracked c hc hkey (by simp [hpc, CreatePC.pending])
    exact Or.inl ⟨c.state, s.readUpdate o c.state, (c.committed s o).1,
      read_tending s o (.running x hx), rfl, rfl, (committed_sameCore s c o).work,
      committed_restarting s c o, Or.inr ⟨hnone, rfl⟩, fun _ _ h => by cases h⟩
  | refuse c o reason message _ _ _ =>
    exact Or.inr ⟨rfl, fun st' happly => Or.inl (Option.some.inj happly ▸ rfl)⟩
  | delete => exact Or.inr ⟨rfl, fun _ happly => by cases happly⟩
  | snapshot place o t ht hkey _ =>
    exact Or.inr ⟨rfl, fun _ _ => Or.inr ⟨t, List.mem_of_getElem? ht, hkey⟩⟩
  | finish place o t ht hkey _ =>
    exact Or.inr ⟨rfl, fun _ _ => Or.inr ⟨t, List.mem_of_getElem? ht, hkey⟩⟩
  | read o =>
    cases hst : s.pods key with
    | none => exact Or.inr ⟨rfl, fun _ happly => by cases happly⟩
    | some st =>
      have htend := read_tending s o (h.settled st hst)
      exact Or.inl ⟨st, _, _, htend, rfl, rfl, htend.core.work, rfl, Or.inl rfl,
        fun _ _ h => by cases h⟩
  | startupIgnored place o p _ _ _ _ _ =>
    cases hst : s.pods key with
    | none => exact Or.inr ⟨rfl, fun _ happly => by cases happly⟩
    | some st =>
      have htend := setProbe_tending ProbeState.setStartupDone st
      exact Or.inl ⟨st, _, _, htend, rfl, rfl, htend.core.work, rfl, Or.inl rfl,
        fun _ _ h => by cases h⟩
  | act place o p ok hp hkey _ =>
    cases hst : s.pods key with
    | none => exact Or.inr ⟨rfl, fun _ happly => by cases happly⟩
    | some st =>
      have hprobing := h.probed (List.mem_of_getElem? hp) hkey hst
      have htend := act_tending (count_probing hprobing ok).running s.restartBackoffBase ok
      exact Or.inl ⟨st, _, _, htend, rfl, rfl, htend.core.work, rfl, Or.inl rfl,
        fun _ _ h => by cases h⟩

/-- An event launches at most one restart, of the workload of the Pod it makes, and only when
none is in flight. -/
theorem Bound.launches (h : Bound key s) (hnotices : Notices key s l e)
    (ht : t ∈ e.tasks key (s.pods key)) : (∀ t ∈ s.restarts, t.key ≠ key) ∧
      e.tasks key (s.pods key) = [t] ∧ ∃ st', e.apply (s.pods key) = some st' ∧
        Restarting t st' := by
  obtain ⟨launch, hlaunch, rfl⟩ := List.mem_map.mp ht
  rcases h.tends hnotices with ⟨st, u, st', htend, hlaunched, happly, hwork, hflag, hst, _⟩ |
    ⟨hnil, _⟩
  · rw [hlaunched] at hlaunch
    obtain ⟨hone, hid, hidle, hraised⟩ := htend.launches hlaunch
    refine ⟨fun t ht hkey => ?_, ?_, st', happly, ?_⟩
    · rcases hst with hst | ⟨hnone, _⟩
      · rw [(h.restarting ht hkey hst).flag] at hidle
        cases hidle
      · exact h.no_restart hnone t ht hkey
    · rw [PodEvent.tasks, hlaunched, hone]
      rfl
    · exact begin_restarting (hflag.trans hraised) (hwork.spec ▸ hid)
  · rw [hnil] at hlaunch
    cases hlaunch

/-- Where a step raises the restarting flag, it also launches the task. -/
theorem Bound.raises (h : Bound key s) (hevent : podEvent key s l = some e)
    (hstep : step s l = some s') (hst' : s'.pods key = some st') (hraised : st'.restarting = true)
    (hidle : ∀ st, s.pods key = some st → st.restarting = false) :
    ∃ t ∈ s'.restarts, t.key = key := by
  have happly : e.apply (s.pods key) = some st' := by
    rw [step_noticed hstep, hevent] at hst'
    exact hst'
  rcases h.tends (podEvent_cases hevent) with
    ⟨st, u, made, htend, hlaunched, hmade, _, hflag, hst, hother⟩ | ⟨_, hlaunches⟩
  · obtain rfl := Option.some.inj (hmade.symm.trans happly)
    rcases htend.launch with ⟨hsame, _⟩ | ⟨_, _, _, backoff, hone⟩
    · have hbefore : st.restarting = false := hst.elim (hidle st) And.right
      rw [hflag, hsame, hbefore] at hraised
      cases hraised
    · refine ⟨RestartTask.begin key made.inc ⟨st.spec.name, backoff⟩, ?_, rfl⟩
      refine (step_tasks hstep).added hevent hother ?_
      rw [PodEvent.tasks, hlaunched, hone, hmade]
      exact List.mem_cons_self
  · rcases hlaunches st' happly with hdown | ⟨t, ht, hkey⟩
    · rw [hdown] at hraised
      cases hraised
    · obtain ⟨st, hst, hrestarting⟩ := h.restart t ht hkey
      cases (hidle st hst).symm.trans hrestarting.flag

theorem snapshot_restarting (hmove : RestartMove s o t (some t')) (hst : s.pods t.key = some st)
    (h : Restarting t st) (hpc : t.pc = .waiting) : Restarting t' (snapshotUpdate st).st := by
  cases hmove with
  | snapshot st₁ _ hst₁ hlive =>
    obtain rfl := Option.some.inj (hst.symm.trans hst₁)
    have hsnapshot : (snapshotUpdate st).st = st.withoutProbes := by
      simp [snapshotUpdate, hlive, Update.only]
    rw [hsnapshot]
    exact ⟨h.flag, h.oldID, fun _ => rfl, fun _ => rfl, h.newID, flag_off⟩
  | started _ hother _ _ | orphaned hother _ _ | observed _ hother _ =>
    rw [hpc] at hother
    cases hother
  | _ => simp_all

/-- Each restart task of a tracked Pod is bound to it after a step. -/
theorem step_restarting (h : Bound key s) (hkeep : keepsKey key l = true)
    (hstep : step s l = some s') (ht' : t' ∈ s'.restarts) (hkey : t'.key = key) :
    ∃ st', s'.pods key = some st' ∧ Restarting t' st' := by
  rcases (step_tasks hstep).mem_cases (fun _ _ _ _ h => by cases h; exact ⟨rfl, rfl⟩) ht' with
    ⟨i, hi, hother⟩ | ⟨place, o, t, rfl, ht, hnext⟩ | ⟨other, e, _, hevent, hadded⟩
  · obtain ⟨st, hst, hrestarting⟩ := h.restart t' (List.mem_of_getElem? hi) hkey
    obtain ⟨st', hst', hevolves⟩ := step_evolves h hkeep hstep hst
    refine ⟨st', hst', ?_⟩
    rcases hevolves.tended h hst with ⟨u, htend, rfl⟩ | ⟨place, o, t, hl, ht, htkey⟩
    · exact hrestarting.tended htend
    · -- the restart that moves would be a second one of the key
      obtain rfl := h.unique i place t' t hi ht hkey htkey
      exact absurd hl (hother o)
  · have hmove := restartNext_move s t o
    rw [hnext] at hmove
    obtain rfl : t.key = key := hmove.key_eq.symm.trans hkey
    obtain ⟨st, hst, hrestarting⟩ := h.restart t (List.mem_of_getElem? ht) rfl
    have hnoticed : s'.pods t.key = noticing (some st) (t.event s) := by
      rw [step_noticed hstep, podEvent, ht, Option.bind_some, if_pos rfl, hst]
    rw [hnoticed, RestartTask.event]
    split
    · rename_i hpc
      exact ⟨_, rfl, snapshot_restarting hmove hst hrestarting hpc⟩
    · rename_i hpc
      simp only [restartNext, hpc, hst] at hnext
      cases hnext
    · rename_i hpc _
      exact ⟨st, rfl, hmove.restarting hst hrestarting hpc⟩
  · obtain ⟨launch, _, rfl⟩ := List.mem_map.mp hadded
    obtain rfl : other = key := hkey
    obtain ⟨_, _, st', happly, hrestarting⟩ := h.launches (podEvent_cases hevent) hadded
    refine ⟨st', ?_, hrestarting⟩
    rw [step_noticed hstep, hevent]
    exact happly

/-- A step leaves at most one restart task for a Pod. -/
theorem step_unique (h : Bound key s) (hstep : step s l = some s') :
    AtMostOne (fun t => t.key = key) s'.restarts := by
  rcases step_tasks hstep with ⟨place, o, t, _, ht, heq⟩ | ⟨_, heq⟩
  · rw [heq]
    refine atMostOne_advance h.unique ht fun t' hnext hkey => ?_
    have hmove := restartNext_move s t o
    rw [hnext] at hmove
    exact hmove.key_eq.symm.trans hkey
  · rw [heq]
    cases hevent : l.event s with
    | none =>
      rw [Option.elim_none, List.append_nil]
      exact h.unique
    | some at_ =>
      by_cases hany : ∃ t ∈ at_.2.tasks at_.1 (s.pods at_.1), t.key = key
      · obtain ⟨t, ht, hkey⟩ := hany
        obtain ⟨launch, _, rfl⟩ := List.mem_map.mp ht
        obtain rfl : at_.1 = key := hkey
        obtain ⟨hnone, hone, _⟩ := h.launches (podEvent_cases (event_eq_some.mp hevent)) ht
        rw [Option.elim_some, hone]
        exact atMostOne_append hnone _
      · exact h.unique.append_of_not fun t ht hkey => hany ⟨t, ht, hkey⟩

/-- Each prober of a tracked Pod is bound to it after a step. -/
theorem step_probing (h : Bound key s) (hkeep : keepsKey key l = true) (hstep : step s l = some s')
    (hp : p ∈ s'.probers) (hkey : p.key = key) : ∃ st', s'.pods key = some st' ∧ Probing p st' := by
  rcases step_prober_cases h.keyed hstep hp with hold | ⟨place, o, q, rfl, hq, hnext⟩ |
    ⟨_, st₀, inst, hst', hlaunched⟩
  · obtain ⟨st, hst, hprobing⟩ := h.probing p hold hkey
    obtain ⟨st', hst', hevolves⟩ := step_evolves h hkeep hstep hst
    exact ⟨st', hst', hprobing.kept (hevolves.work h hst)⟩
  · have hmove := probeNext_move s q o
    rw [hnext] at hmove
    obtain rfl : q.key = key := hmove.same.key.symm.trans hkey
    obtain ⟨st, hst, hprobing⟩ := h.probing q (List.mem_of_getElem? hq) rfl
    obtain ⟨st', hst', hevolves⟩ := step_evolves h hkeep hstep hst
    exact ⟨st', hst', (probeNext_probing hprobing hst hnext).kept (hevolves.work h hst)⟩
  · subst hkey
    have hcore := startProbes_sameCore st₀ s.nextArm inst
    refine ⟨_, hst', ?_⟩
    rcases step_settled h hstep hst' with ⟨x, hx⟩ | ⟨_, _, _, hprobes⟩
    · obtain ⟨y, rest, kind, probe, hcontainers, _, rfl⟩ := mem_startProbes hlaunched
      obtain rfl : x = y := by
        have hxs := hx.containers
        rw [hcore.pod, hcontainers] at hxs
        exact (List.head_eq_of_cons_eq hxs).symm
      refine (begin_probing (hx.kept ?_) s.nextArm kind probe).kept hcore.work
      exact ⟨hcore.pod.symm, hcore.workloads.symm, hcore.spec.symm⟩
    · obtain ⟨ps, hps, _⟩ := startProbes_arm hlaunched
      rw [hps] at hprobes
      cases hprobes

/-- A step that does not delete the Pod keeps its tasks bound to it. -/
theorem step_bound (h : Bound key s) (hkeep : keepsKey key l = true)
    (hstep : step s l = some s') : Bound key s' where
  keyed := step_keyed h.keyed hstep
  settled := fun _ hst' => step_settled h hstep hst'
  restart := fun _ ht' hkey => step_restarting h hkeep hstep ht' hkey
  unique := step_unique h hstep
  probing := fun _ hp hkey => step_probing h hkeep hstep hp hkey
  placed := by
    intro c' hc' hkey
    rcases step_creating hstep hc' with ⟨hc, _⟩ | ⟨pod, _, rfl⟩ | ⟨c, o, _, hc, rfl⟩
    · exact h.placed c' hc hkey
    · exact begin_placed pod
    · have hmove := createNext_move s c o
      exact hmove.placed (h.placed c hc (hmove.pod_eq ▸ hkey))
  untracked := step_pendingUntracked h.untracked hstep

theorem fresh_bound (podNet : Bool) (hostIP : String) (base : Int) (ipam : Option PodIPAM)
    (vms : VMTable) (nextInst : Nat) (key : String) :
    Bound key (Sys.fresh podNet hostIP base ipam vms nextInst) where
  keyed := fun _ _ h => by cases h
  settled := fun _ h => by cases h
  restart := fun _ h => by cases h
  unique := fun _ _ _ _ h => by cases h
  probing := fun _ h => by cases h
  placed := fun _ h => by cases h
  untracked := fun _ h => by cases h

/-- Over every run from the start in which a key is not deleted, its binding
holds. -/
theorem run_bound {podNet : Bool} {hostIP : String} {base : Int} {ipam : Option PodIPAM}
    {vms : VMTable} {nextInst : Nat} {P : Sys → Label → Prop} {ls : List Label}
    (hP : ∀ s l, P s l → keepsKey key l = true)
    (hrun : Run step P (Sys.fresh podNet hostIP base ipam vms nextInst) ls s) : Bound key s :=
  hrun.invariant (fresh_bound podNet hostIP base ipam vms nextInst key)
    fun h hl hstep => step_bound h (hP _ _ hl) hstep

end Bound

end MacVz
