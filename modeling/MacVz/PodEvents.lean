/-
The provider as one Pod sees it.  Of all the steps of the provider a Pod notices those that
store it, delete it, read its status, take the snapshot of a restart or end it, and those of its
probers that act on a result; everything else leaves it as it is.  So what becomes of a Pod is
told by the list of these events alone.
-/
import MacVz.ProviderFrame
import MacVz.RunComparison

namespace MacVz

open Interleaving

/-- What a read of the status of a Pod looks at outside the Pod. -/
structure Surroundings where
  hostIP : String
  base : Int
  answers : Answers

/-- What a read finds around a Pod. -/
def Sys.surroundings (s : Sys) (o : Outcome) : Surroundings where
  hostIP := s.hostIP
  base := s.restartBackoffBase
  answers := fun id => s.vms.status id o.status

/-- The Pod after `reconcileStatus`, its status stored. -/
def PodState.readIn (st : PodState) (seen : Surroundings) : PodState :=
  let result := reconcileStatus seen.hostIP seen.base seen.answers st
  { result.2.1 with status := result.1 }

/-- The Pod at the end of `CreatePod`, with its probers. -/
def PodState.committedIn (st : PodState) (seen : Surroundings) (arm : Nat) (inst : Option Nat) :
    PodState × List Prober :=
  if (st.readIn seen).status.phase = .running then startProbes (st.readIn seen) arm inst
  else (st.readIn seen, [])

def RestartTask.finishedAt (t : RestartTask) (arm : Nat) (st : PodState) :
    PodState × List Prober :=
  if t.newID = "" then (st.idle, []) else startProbes (t.swapIn st) arm t.inst

/-- What happens to the record of one Pod: the moves of the abstract machine that each key runs.
-/
inductive PodEvent where
  | commit (st : PodState) (seen : Surroundings) (arm : Nat) (inst : Option Nat)
  | refuse (st : PodState)
  | delete
  | read (seen : Surroundings)
  | snapshot
  | finish (t : RestartTask) (arm : Nat)
  | startupIgnored
  | act (p : Prober) (base : Int) (ok : Bool)

variable {e : PodEvent}

/-- The record after an event. -/
def PodEvent.apply (st : Option PodState) : PodEvent → Option PodState
  | .commit st₀ seen arm inst => some (st₀.committedIn seen arm inst).1
  | .refuse st₀ => some st₀
  | .delete => none
  | .read seen => st.map fun st => st.readIn seen
  | .snapshot => st.map fun st => (snapshotUpdate st).st
  | .finish t arm => st.map fun st => (t.finishedAt arm st).1
  | .startupIgnored => st.map fun st => (setProbeUpdate ProbeState.setStartupDone st).st
  | .act p base ok => st.map fun st => (p.actUpdate base ok st).st

/-- The probers an event starts. -/
def PodEvent.launched (st : Option PodState) : PodEvent → List Prober
  | .commit st₀ seen arm inst => (st₀.committedIn seen arm inst).2
  | .finish t arm => st.elim [] fun st => (t.finishedAt arm st).2
  | _ => []

/-- The restarts an event begins. -/
def PodEvent.restarts (st : Option PodState) : PodEvent → List Launch
  | .commit st₀ seen _ _ => (reconcileStatus seen.hostIP seen.base seen.answers st₀).2.2
  | .read seen => st.elim [] fun st => (reconcileStatus seen.hostIP seen.base seen.answers st).2.2
  | .act p base ok => st.elim [] fun st => (p.actUpdate base ok st).launched
  | _ => []

def PodEvent.tasks (key : String) (st : Option PodState) (e : PodEvent) : List RestartTask :=
  (e.restarts st).map (RestartTask.begin key ((e.apply st).elim 0 PodState.inc))

/-- The status a read reports. -/
def PodEvent.reported (st : Option PodState) : PodEvent → Option PodStatus
  | .read seen => st.map fun st => (st.readIn seen).status
  | _ => none

/-- The abstract machine of one key. -/
def podStep (st : Option PodState) (e : PodEvent) : Option (Option PodState) :=
  some (e.apply st)

/-- The event of the next step of `CreatePod`. -/
def CreateCall.event (c : CreateCall) (s : Sys) (o : Outcome) : Option PodEvent :=
  match c.pc with
  | .commit => some (.commit c.state (s.surroundings o) s.nextArm ((s.vms c.id).map VM.inst))
  | .terminal reason message => some (.refuse (c.terminalState reason message o.now))
  | _ => none

/-- The event of the next step of a restart. -/
def RestartTask.event (t : RestartTask) (s : Sys) : Option PodEvent :=
  match t.pc with
  | .waiting => some .snapshot
  | .finish => some (.finish t s.nextArm)
  | _ => none

/-- The event of the next step of a prober. -/
def Prober.event (p : Prober) (s : Sys) : Option PodEvent :=
  match p.pc with
  | .start =>
    if p.probe.action = .unsupported ∧ p.kind = .startup then some .startupIgnored else none
  | .act ok => some (.act (p.count ok) s.restartBackoffBase ok)
  | _ => none

/-- The event of a step at a key. -/
def podEvent (key : String) (s : Sys) : Label → Option PodEvent
  | .create o => s.creating.bind fun c => if c.pod.key = key then c.event s o else none
  | .deleteBegin pod => if pod.key = key then some .delete else none
  | .restart place _ => (s.restarts[place]?).bind fun t => if t.key = key then t.event s else none
  | .probe place _ => (s.probers[place]?).bind fun p => if p.key = key then p.event s else none
  | .status other o => if other = key then some (.read (s.surroundings o)) else none
  | _ => none

/-- The events a Pod notices, by the step that is taken. -/
inductive Notices (key : String) (s : Sys) : Label → PodEvent → Prop
  | commit (c : CreateCall) (o : Outcome) : s.creating = some c → c.pod.key = key →
      c.pc = .commit → Notices key s (.create o)
        (.commit c.state (s.surroundings o) s.nextArm ((s.vms c.id).map VM.inst))
  | refuse (c : CreateCall) (o : Outcome) (reason message : String) : s.creating = some c →
      c.pod.key = key → c.pc = .terminal reason message →
      Notices key s (.create o) (.refuse (c.terminalState reason message o.now))
  | delete (pod : Pod) : pod.key = key → Notices key s (.deleteBegin pod) .delete
  | read (o : Outcome) : Notices key s (.status key o) (.read (s.surroundings o))
  | snapshot (place : Nat) (o : Outcome) (t : RestartTask) : s.restarts[place]? = some t →
      t.key = key → t.pc = .waiting → Notices key s (.restart place o) .snapshot
  | finish (place : Nat) (o : Outcome) (t : RestartTask) : s.restarts[place]? = some t →
      t.key = key → t.pc = .finish → Notices key s (.restart place o) (.finish t s.nextArm)
  | startupIgnored (place : Nat) (o : Outcome) (p : Prober) : s.probers[place]? = some p →
      p.key = key → p.pc = .start → p.probe.action = .unsupported → p.kind = .startup →
      Notices key s (.probe place o) .startupIgnored
  | act (place : Nat) (o : Outcome) (p : Prober) (ok : Bool) : s.probers[place]? = some p →
      p.key = key → p.pc = .act ok →
      Notices key s (.probe place o) (.act (p.count ok) s.restartBackoffBase ok)

/-- What each event of a Pod comes from. -/
theorem podEvent_cases {key : String} {s : Sys} {l : Label} (h : podEvent key s l = some e) :
    Notices key s l e := by
  cases l with
  | create o =>
    obtain ⟨c, hc, hevent⟩ := Option.bind_eq_some_iff.mp h
    split at hevent
    · rename_i hkey
      unfold CreateCall.event at hevent
      split at hevent
      · rename_i hpc
        cases hevent
        exact .commit c o hc hkey hpc
      · rename_i hpc
        cases hevent
        exact .refuse c o _ _ hc hkey hpc
      · cases hevent
    · cases hevent
  | deleteBegin pod =>
    simp only [podEvent] at h
    split at h
    · rename_i hkey
      cases h
      exact .delete pod hkey
    · cases h
  | restart place o =>
    obtain ⟨t, ht, hevent⟩ := Option.bind_eq_some_iff.mp h
    split at hevent
    · rename_i hkey
      unfold RestartTask.event at hevent
      split at hevent
      · rename_i hpc
        cases hevent
        exact .snapshot place o t ht hkey hpc
      · rename_i hpc
        cases hevent
        exact .finish place o t ht hkey hpc
      · cases hevent
    · cases hevent
  | probe place o =>
    obtain ⟨p, hp, hevent⟩ := Option.bind_eq_some_iff.mp h
    split at hevent
    · rename_i hkey
      unfold Prober.event at hevent
      split at hevent
      · rename_i hpc
        split at hevent
        · rename_i hignored
          cases hevent
          exact .startupIgnored place o p hp hkey hpc hignored.1 hignored.2
        · cases hevent
      · rename_i ok hpc
        cases hevent
        exact .act place o p ok hp hkey hpc
      · cases hevent
    · cases hevent
  | status other o =>
    simp only [podEvent] at h
    split at h
    · rename_i hkey
      subst hkey
      cases h
      exact .read o
    · cases h
  | createBegin | delete | vmExit | vmLost => cases h

/-- The key of the party that moves; a guest that ends is no party. -/
def Label.party (s : Sys) : Label → Option String
  | .createBegin pod => some pod.key
  | .create _ => s.creating.map fun c => c.pod.key
  | .deleteBegin pod => some pod.key
  | .delete place _ => (s.deletes[place]?).map DeleteCall.key
  | .restart place _ => (s.restarts[place]?).map RestartTask.key
  | .probe place _ => (s.probers[place]?).map Prober.key
  | .status key _ => some key
  | .vmExit _ _ _ => none
  | .vmLost _ => none

theorem Notices.party {key : String} {s : Sys} {l : Label} (h : Notices key s l e) :
    l.party s = some key := by
  cases h <;> simp_all [Label.party]

def Label.event (s : Sys) (l : Label) : Option (String × PodEvent) :=
  (l.party s).bind fun key => (podEvent key s l).map fun e => (key, e)

/-- The status a step reports of a key. -/
def reportedStatus (key : String) (s : Sys) : Label → Option PodStatus
  | .status other o =>
    if other = key then (s.pods key).map fun st => (s.read st o).1.status else none
  | _ => none

section Projection

variable {s s' : Sys} {key : String} {l : Label}

def noticing (st : Option PodState) (e : Option PodEvent) : Option PodState :=
  e.elim st (PodEvent.apply st)

theorem locked_pods_map (s : Sys) (key : String) (f : PodState → Update) :
    (s.locked key f).pods key = (s.pods key).map fun st => (f st).st := by
  cases hst : s.pods key with
  | none => rw [locked_none hst, hst]; rfl
  | some st => exact locked_pods_self hst

theorem create_noticed (c : CreateCall) (o : Outcome) :
    (createEffect s c o).pods c.pod.key = noticing (s.pods c.pod.key) (c.event s o) := by
  cases hpc : c.pc with
  | commit =>
    have heffect : createEffect s c o = s.commitPod c o := by simp only [createEffect, hpc]
    rw [heffect, CreateCall.event, hpc]
    exact Function.update_self _ _ _
  | terminal reason message =>
    rw [CreateCall.event]
    simp only [createEffect, hpc]
    exact Function.update_self _ _ _
  | _ =>
    rw [createEffect_pods s o (by rw [hpc]; rfl), CreateCall.event, hpc]
    rfl

theorem restart_noticed (t : RestartTask) (o : Outcome) :
    (restartEffect s t o).pods t.key = noticing (s.pods t.key) (t.event s) := by
  cases hpc : t.pc with
  | waiting =>
    rw [RestartTask.event]
    simp only [restartEffect, hpc]
    exact locked_pods_map s t.key snapshotUpdate
  | finish =>
    rw [RestartTask.event]
    simp only [restartEffect, hpc]
    exact locked_pods_map s t.key (t.finishUpdate s)
  | _ =>
    rw [restartEffect_pods s o (by simp [hpc]) (by simp [hpc]), RestartTask.event, hpc]
    rfl

theorem probe_noticed (p : Prober) (o : Outcome) :
    (probeEffect s p o).pods p.key = noticing (s.pods p.key) (p.event s) := by
  cases hpc : p.pc with
  | start =>
    simp only [probeEffect, Prober.event, hpc]
    split
    · exact locked_pods_map s p.key _
    · rfl
  | act ok =>
    simp only [probeEffect, Prober.event, hpc]
    exact locked_pods_map s p.key _
  | _ =>
    simp only [probeEffect, Prober.event, hpc]
    rfl

theorem restartEffect_pods_other (t : RestartTask) (o : Outcome) (hkey : key ≠ t.key) :
    (restartEffect s t o).pods key = s.pods key := by
  unfold restartEffect
  split
  case h_1 => exact locked_pods_other hkey
  case h_10 => exact locked_pods_other hkey
  all_goals rfl

theorem probeEffect_pods_other (p : Prober) (o : Outcome) (hkey : key ≠ p.key) :
    (probeEffect s p o).pods key = s.pods key := by
  unfold probeEffect
  split
  case h_1 =>
      split
      · exact locked_pods_other hkey
      · rfl
  case h_4 => exact locked_pods_other hkey
  all_goals rfl

/-- A step changes a tracked Pod by the event it is for that Pod, and only so. -/
theorem step_noticed (hstep : step s l = some s') :
    s'.pods key = noticing (s.pods key) (podEvent key s l) := by
  cases step_cases hstep with
  | create c o hc =>
    rw [createStep_pods, podEvent, hc, Option.bind_some]
    split
    · rename_i hkey
      subst hkey
      exact create_noticed c o
    · rename_i hkey
      exact createEffect_pods_other s o (Ne.symm hkey)
  | notFound pod hnone =>
    rw [podEvent]
    split
    · rename_i hkey
      subst hkey
      exact hnone
    · rfl
  | deleteBegin pod st hst =>
    rw [podEvent]
    split
    · rename_i hkey
      subst hkey
      exact Function.update_self _ _ _
    · rename_i hkey
      exact Function.update_of_ne (Ne.symm hkey) _ _
  | delete place o d _ => exact congrFun (deleteEffect_pods s o d) key
  | restart place o t ht =>
    rw [podEvent, ht, Option.bind_some]
    split
    · rename_i hkey
      subst hkey
      exact restart_noticed t o
    · rename_i hkey
      exact restartEffect_pods_other t o (Ne.symm hkey)
  | probe place o p hp =>
    rw [podEvent, hp, Option.bind_some]
    split
    · rename_i hkey
      subst hkey
      exact probe_noticed p o
    · rename_i hkey
      exact probeEffect_pods_other p o (Ne.symm hkey)
  | status other o =>
    rw [podEvent]
    split
    · rename_i hkey
      subst hkey
      exact locked_pods_map s other _
    · rename_i hkey
      exact locked_pods_other (Ne.symm hkey)
  | createBegin | vmExit | vmLost => rfl

/-- A Pod stored after a step was stored before it, or is what an event made. -/
theorem step_stored (hstep : step s l = some s') {st' : PodState} (hst' : s'.pods key = some st') :
    s.pods key = some st' ∨ ∃ e, Notices key s l e ∧ e.apply (s.pods key) = some st' := by
  rw [step_noticed hstep] at hst'
  cases hevent : podEvent key s l with
  | none =>
    rw [hevent] at hst'
    exact Or.inl hst'
  | some e =>
    rw [hevent] at hst'
    exact Or.inr ⟨e, podEvent_cases hevent, hst'⟩

/-- A tracked Pod goes only by a deletion of its own. -/
theorem step_tracked (hstep : step s l = some s') {st : PodState} (hst : s.pods key = some st)
    (hnone : s'.pods key = none) : ∃ pod, l = .deleteBegin pod ∧ pod.key = key := by
  rw [step_noticed hstep, hst] at hnone
  cases hevent : podEvent key s l with
  | none =>
    rw [hevent] at hnone
    cases hnone
  | some e =>
    rw [hevent] at hnone
    cases podEvent_cases hevent with
    | delete pod hkey => exact ⟨pod, rfl, hkey⟩
    | _ => cases hnone

theorem event_eq_some : l.event s = some (key, e) ↔ podEvent key s l = some e := by
  constructor
  · intro h
    obtain ⟨other, _, hevent⟩ := Option.bind_eq_some_iff.mp h
    obtain ⟨e', he', heq⟩ := Option.map_eq_some_iff.mp hevent
    cases heq
    exact he'
  · intro h
    rw [Label.event, (podEvent_cases h).party, Option.bind_some, h, Option.map_some]

/-- A pool after a step: the task at a place of it has moved, or an event has added some. -/
inductive PoolStep {T : Type} (s : Sys) (l : Label) (label : Nat → Outcome → Label)
    (next : T → Outcome → Option T) (new : String → PodEvent → List T) (pool pool' : List T) :
    Prop
  | moved (place : Nat) (o : Outcome) (t : T) : l = label place o → pool[place]? = some t →
      pool' = advance pool place (next t o) → PoolStep s l label next new pool pool'
  | grown : (∀ place o, l ≠ label place o) →
      pool' = pool ++ (l.event s).elim [] (fun at_ => new at_.1 at_.2) →
      PoolStep s l label next new pool pool'

section Pool

variable {T : Type} {label : Nat → Outcome → Label} {next : T → Outcome → Option T}
  {new : String → PodEvent → List T} {pool pool' : List T} {t : T}

theorem PoolStep.same (hother : ∀ place o, l ≠ label place o) (hpool : pool' = pool)
    (hnew : ∀ key e, Notices key s l e → new key e = []) :
    PoolStep s l label next new pool pool' := by
  refine .grown hother ?_
  rw [hpool]
  cases hevent : l.event s with
  | none => exact (List.append_nil _).symm
  | some at_ =>
    rw [Option.elim_some, hnew _ _ (podEvent_cases (event_eq_some.mp hevent)), List.append_nil]

/-- A task after a step was there at another place than the one that moves, has moved, or has
been added by an event. -/
theorem PoolStep.mem_cases (h : PoolStep s l label next new pool pool')
    (hlabel : Function.Injective2 label) (ht : t ∈ pool') :
    (∃ i, pool[i]? = some t ∧ ∀ o, l ≠ label i o) ∨
      (∃ place o mover, l = label place o ∧ pool[place]? = some mover ∧ next mover o = some t) ∨
      ∃ key e, (∀ place o, l ≠ label place o) ∧ podEvent key s l = some e ∧ t ∈ new key e := by
  rcases h with ⟨place, o, mover, rfl, hmover, rfl⟩ | ⟨hother, rfl⟩
  · rcases mem_advance_place hmover ht with ⟨i, hi, hne⟩ | hnext
    · exact Or.inl ⟨i, hi, fun o' heq => hne (hlabel heq).1.symm⟩
    · exact Or.inr (Or.inl ⟨place, o, mover, rfl, hmover, hnext⟩)
  · rcases List.mem_append.mp ht with hold | hadded
    · obtain ⟨i, hi⟩ := List.mem_iff_getElem?.mp hold
      exact Or.inl ⟨i, hi, hother i⟩
    · cases hevent : l.event s with
      | none =>
        rw [hevent] at hadded
        cases hadded
      | some at_ =>
        rw [hevent] at hadded
        exact Or.inr (Or.inr ⟨at_.1, at_.2, hother, event_eq_some.mp hevent, hadded⟩)

theorem PoolStep.stays (h : PoolStep s l label next new pool pool') (ht : t ∈ pool) :
    t ∈ pool' ∨ ∃ place o, l = label place o ∧ pool[place]? = some t := by
  rcases h with ⟨place, o, mover, rfl, hmover, rfl⟩ | ⟨_, rfl⟩
  · rcases mem_advance_of_mem hmover (next mover o) ht with rfl | hstays
    · exact Or.inr ⟨place, o, rfl, hmover⟩
    · exact Or.inl hstays
  · exact Or.inl (List.mem_append_left _ ht)

theorem PoolStep.added (h : PoolStep s l label next new pool pool')
    (hevent : podEvent key s l = some e) (hother : ∀ place o, l ≠ label place o)
    (ht : t ∈ new key e) : t ∈ pool' := by
  rcases h with ⟨place, o, _, hl, _, _⟩ | ⟨_, rfl⟩
  · exact absurd hl (hother place o)
  · rw [event_eq_some.mpr hevent]
    exact List.mem_append_right _ ht

end Pool

theorem create_event {c : CreateCall} (hc : s.creating = some c) (o : Outcome) :
    (Label.create o).event s = (c.event s o).map fun e => (c.pod.key, e) := by
  simp [Label.event, Label.party, podEvent, hc]

theorem restart_event {place : Nat} {t : RestartTask} (ht : s.restarts[place]? = some t)
    (o : Outcome) : (Label.restart place o).event s = (t.event s).map fun e => (t.key, e) := by
  simp [Label.event, Label.party, podEvent, ht]

theorem probe_event {place : Nat} {p : Prober} (hp : s.probers[place]? = some p) (o : Outcome) :
    (Label.probe place o).event s = (p.event s).map fun e => (p.key, e) := by
  simp [Label.event, Label.party, podEvent, hp]

theorem status_event (o : Outcome) :
    (Label.status key o).event s = some (key, .read (s.surroundings o)) := by
  simp [Label.event, Label.party, podEvent]

theorem locked_tasks {f : PodState → Update} (hcore : ∀ st, SameCore st (f st).st)
    (happly : ∀ st, e.apply (some st) = some (f st).st)
    (hlaunched : ∀ st, e.restarts st = st.elim [] fun st => (f st).launched) :
    (s.locked key f).restarts = s.restarts ++ e.tasks key (s.pods key) := by
  rw [PodEvent.tasks, hlaunched]
  cases hst : s.pods key with
  | none =>
    rw [locked_none hst]
    exact (List.append_nil _).symm
  | some st => rw [locked_restarts hst, happly, Option.elim_some, Option.elim_some, (hcore st).inc]

/-- A step moves one restart task or adds those its event launches. -/
theorem step_tasks (hstep : step s l = some s') :
    PoolStep s l .restart (restartNext s) (fun key e => e.tasks key (s.pods key)) s.restarts
      s'.restarts := by
  cases step_cases hstep with
  | create c o hc =>
    refine .grown (fun _ _ h => by cases h) ?_
    rw [createStep_restarts, create_event hc]
    cases hpc : c.pc with
    | commit =>
      have heffect : createEffect s c o = s.commitPod c o := by simp only [createEffect, hpc]
      rw [heffect, CreateCall.event, hpc]
      rfl
    | _ =>
      rw [createEffect_restarts s o (by simp [hpc]), CreateCall.event, hpc]
      exact (List.append_nil _).symm
  | restart place o t ht => exact .moved place o t rfl ht rfl
  | probe place o p hp =>
    refine .grown (fun _ _ h => by cases h) ?_
    rw [probe_event hp]
    cases hpc : p.pc with
    | start =>
      simp only [probeEffect, Prober.event, hpc]
      split
      · exact locked_tasks (setProbeUpdate_sameCore _) (fun _ => rfl) fun st => by cases st <;> rfl
      · exact (List.append_nil _).symm
    | act ok =>
      simp only [probeEffect, Prober.event, hpc]
      exact locked_tasks (fun st => (actUpdate_acts _ _ _ st).sameCore) (fun _ => rfl) fun _ => rfl
    | _ =>
      simp only [probeEffect, Prober.event, hpc]
      exact (List.append_nil _).symm
  | status other o =>
    refine .grown (fun _ _ h => by cases h) ?_
    rw [status_event]
    exact locked_tasks (fun st => read_sameCore s st o) (fun _ => rfl) fun _ => rfl
  | delete place o d _ =>
    exact .same (fun _ _ h => by cases h) (deleteEffect_restarts s o d) fun _ _ h => by cases h
  | createBegin | notFound | deleteBegin | vmExit | vmLost =>
    exact .same (fun _ _ h => by cases h) rfl fun _ _ h => by cases h <;> rfl

/-- A step moves one prober or adds those its event launches. -/
theorem step_probers (hstep : step s l = some s') :
    PoolStep s l .probe (probeNext s) (fun key e => e.launched (s.pods key)) s.probers
      s'.probers := by
  cases step_cases hstep with
  | create c o hc =>
    refine .grown (fun _ _ h => by cases h) ?_
    rw [createStep_probers, create_event hc]
    cases hpc : c.pc with
    | commit =>
      have heffect : createEffect s c o = s.commitPod c o := by simp only [createEffect, hpc]
      rw [heffect, CreateCall.event, hpc]
      rfl
    | _ =>
      rw [createEffect_probers s o (by simp [hpc]), CreateCall.event, hpc]
      exact (List.append_nil _).symm
  | restart place o t ht =>
    refine .grown (fun _ _ h => by cases h) ?_
    rw [restart_event ht]
    cases hpc : t.pc with
    | finish =>
      simp only [restartEffect, RestartTask.event, hpc, Option.map_some, Option.elim_some]
      cases hst : s.pods t.key with
      | none =>
        rw [locked_none hst]
        exact (List.append_nil _).symm
      | some st => exact locked_probers hst
    | _ =>
      rw [restartEffect_probers s o (by simp [hpc]), RestartTask.event, hpc]
      exact (List.append_nil _).symm
  | probe place o p hp => exact .moved place o p rfl hp rfl
  | status other o =>
    exact .same (fun _ _ h => by cases h) (locked_probers_nil fun _ => rfl) fun _ _ h => by
      cases h
      rfl
  | delete place o d _ =>
    exact .same (fun _ _ h => by cases h) (deleteEffect_probers s o d) fun _ _ h => by cases h
  | createBegin | notFound | deleteBegin | vmExit | vmLost =>
    exact .same (fun _ _ h => by cases h) rfl fun _ _ h => by cases h <;> rfl

theorem reportedStatus_eq :
    reportedStatus key s l = (podEvent key s l).bind (PodEvent.reported (s.pods key)) := by
  cases l with
  | status other o =>
    simp only [reportedStatus, podEvent]
    split <;> rfl
  | _ =>
    cases hevent : podEvent key s _ with
    | none => rfl
    | some e => cases podEvent_cases hevent <;> rfl

/-- A run of the provider is, to the Pod of a key, the run of its events, with the same statuses
reported. -/
theorem run_events (key : String) {allowed : Sys → Label → Prop} {start : Sys}
    (admits : Option PodState → PodEvent → Prop)
    (hadmits : ∀ {ls : List Label} {s s' : Sys} {l : Label} {e : PodEvent},
      Run step allowed start ls s → allowed s l → step s l = some s' →
      podEvent key s l = some e → admits (s.pods key) e)
    {ls : List Label} (hrun : Run step allowed start ls s) :
    Run podStep admits (start.pods key) (observed step (podEvent key) start ls) (s.pods key) ∧
      observed step (reportedStatus key) start ls =
        observed podStep PodEvent.reported (start.pods key)
          (observed step (podEvent key) start ls) := by
  refine hrun.project (fun s => s.pods key) (podEvent key) ?_
  intro ls s s' l hrun hallowed hstep
  have hnoticed : s'.pods key = noticing (s.pods key) (podEvent key s l) := step_noticed hstep
  have hreported : reportedStatus key s l =
      (podEvent key s l).bind (PodEvent.reported (s.pods key)) := reportedStatus_eq
  cases hevent : podEvent key s l with
  | none =>
    rw [hevent] at hnoticed hreported
    exact ⟨hnoticed, hreported⟩
  | some e =>
    rw [hevent] at hnoticed hreported
    exact ⟨hadmits hrun hallowed hstep hevent, congrArg some hnoticed.symm, hreported⟩

end Projection

end MacVz
