/-
The frame rule of the provider.  Every step is made by a party that works on one
key: a call, a restart, a prober or a read of that Pod.  What belongs to another
key is as it was before: its entry in the store, its endpoint and its address.
-/
import MacVz.PodEvents

namespace MacVz

open Interleaving

variable {s' : Sys} {st st' : PodState} {p : Prober} {c : CreateCall} {l : Label} {arm : Nat}
  {inst : Option Nat} {d' : DeleteCall}

/-- The address the allocator has given to a key. -/
def Sys.holds (s : Sys) (key : String) : Option String :=
  s.ipam.bind fun a => a.table.byKey key

theorem holds_of_ipam {s : Sys} (h : s'.ipam = s.ipam) (key : String) :
    s'.holds key = s.holds key := by
  simp [Sys.holds, h]

/-- A tracked Pod stands at its own key. -/
def Keyed (s : Sys) : Prop := ∀ key st, s.pods key = some st → st.pod.key = key

/-- The probe of a kind. -/
def Container.probe (c : Container) : ProbeKind → Option Probe
  | .startup => c.startupProbe
  | .readiness => c.readinessProbe
  | .liveness => c.livenessProbe

/-- Each prober launched is for a probe the container declares. -/
theorem mem_launchProbers {c : Container} (h : p ∈ launchProbers st c arm) :
    ∃ kind probe, c.probe kind = some probe ∧ p = Prober.begin st c arm kind probe := by
  have hone : ∀ kind, p ∈ ((c.probe kind).map (Prober.begin st c arm kind)).toList →
      ∃ kind probe, c.probe kind = some probe ∧ p = Prober.begin st c arm kind probe := by
    intro kind hp
    obtain ⟨probe, hprobe, rfl⟩ := Option.map_eq_some_iff.mp (Option.mem_toList.mp hp)
    exact ⟨kind, probe, hprobe, rfl⟩
  rcases List.mem_append.mp h with h | h
  · rcases List.mem_append.mp h with h | h
    · exact hone .startup h
    · exact hone .readiness h
  · exact hone .liveness h

/-- What `startProbes` launches: the probers of the first container, or none. -/
theorem startProbes_probers (st : PodState) (arm : Nat) (inst : Option Nat) :
    (startProbes st arm inst).2 = [] ∨ ∃ c rest, st.pod.containers = c :: rest ∧
      (startProbes st arm inst).2 = launchProbers st c arm := by
  unfold startProbes
  split
  · exact Or.inl rfl
  · rename_i c rest hcontainers
    split
    · exact Or.inl rfl
    · exact Or.inr ⟨c, rest, hcontainers, rfl⟩

theorem mem_startProbes (h : p ∈ (startProbes st arm inst).2) :
    ∃ c rest kind probe, st.pod.containers = c :: rest ∧ c.probe kind = some probe ∧
      p = Prober.begin st c arm kind probe := by
  rcases startProbes_probers st arm inst with hnil | ⟨c, rest, hcontainers, hlaunch⟩
  · rw [hnil] at h
    cases h
  · rw [hlaunch] at h
    obtain ⟨kind, probe, hprobe, rfl⟩ := mem_launchProbers h
    exact ⟨c, rest, kind, probe, hcontainers, hprobe, rfl⟩

theorem Notices.launched {s : Sys} {key : String} {e : PodEvent} (h : Notices key s l e) :
    e.launched (s.pods key) = [] ∨ ∃ st₀ inst,
      e.apply (s.pods key) = some (startProbes st₀ s.nextArm inst).1 ∧
        e.launched (s.pods key) = (startProbes st₀ s.nextArm inst).2 := by
  cases h with
  | commit c o _ _ _ =>
    rw [PodEvent.launched, PodEvent.apply, PodState.committedIn]
    split
    · exact Or.inr ⟨_, _, rfl, rfl⟩
    · exact Or.inl rfl
  | finish place o t _ _ _ =>
    rw [PodEvent.launched, PodEvent.apply]
    cases s.pods key with
    | none => exact Or.inl rfl
    | some st =>
      rw [Option.elim_some, Option.map_some, RestartTask.finishedAt]
      split
      · exact Or.inl rfl
      · exact Or.inr ⟨_, _, rfl, rfl⟩
  | _ => exact Or.inl rfl

theorem startProbes_key {st : PodState} {p : Prober} (hp : p ∈ (startProbes st arm inst).2) :
    p.key = (startProbes st arm inst).1.pod.key := by
  rw [(startProbes_sameCore st arm inst).pod]
  obtain ⟨c, rest, kind, probe, _, _, rfl⟩ := mem_startProbes hp
  rfl

theorem startProbes_arm (hp : p ∈ (startProbes st arm inst).2) :
    ∃ ps, (startProbes st arm inst).1.probes = some ps ∧ ps.arm = p.arm := by
  obtain ⟨c, rest, kind, probe, hcontainers, _, rfl⟩ := mem_startProbes hp
  unfold startProbes at hp ⊢
  rw [hcontainers] at hp ⊢
  dsimp only at hp ⊢
  split at hp
  · cases hp
  · rename_i hdeclares
    rw [if_neg hdeclares]
    exact ⟨_, rfl, rfl⟩

section Frame

variable {s : Sys} {o : Outcome} {key : String} {other : String}

theorem releaseIP_other (h : key ≠ other) :
    ({ s with ipam := releaseIP s.ipam other } : Sys).holds key = s.holds key := by
  cases hipam : s.ipam with
  | none => simp [Sys.holds, releaseIP, hipam]
  | some a => simp [Sys.holds, releaseIP, hipam, Function.update_of_ne h]

theorem afterAllocate_other (h : key ≠ other) :
    ({ s with ipam := afterAllocate s.ipam other } : Sys).holds key = s.holds key := by
  cases hipam : s.ipam with
  | none => simp [Sys.holds, afterAllocate, allocateIP, hipam]
  | some a =>
    cases hallocate : a.allocate other with
    | error e => simp [Sys.holds, afterAllocate, allocateIP, hipam, hallocate, Except.map]
    | ok result =>
      have hbyKey := PodIPAM.allocate_ok hallocate
      simp [Sys.holds, afterAllocate, allocateIP, hipam, hallocate, Except.map, hbyKey,
        Function.update_of_ne h]

theorem createEffect_holds_other (h : key ≠ c.pod.key) :
    (createEffect s c o).holds key = s.holds key := by
  unfold createEffect
  split
  case h_2 => exact afterAllocate_other h
  case h_10 => exact releaseIP_other h
  all_goals rfl

theorem detachCall_other (h : key ≠ other) (attached : Bool) (fault : Option Fault) :
    detachCall s attached other fault key = s.net key := by
  unfold detachCall
  split
  · exact netCall_other h _ _
  · rfl

/-- A step of a party about another key, or of none, leaves the Pod as it is. -/
theorem step_pods_other (hparty : l.party s ≠ some key) (hstep : step s l = some s') :
    s'.pods key = s.pods key := by
  rw [step_noticed hstep]
  cases hevent : podEvent key s l with
  | none => rfl
  | some e => exact absurd (podEvent_cases hevent).party hparty

/-- A step of another Pod's party leaves the endpoint alone. -/
theorem step_net_other (hparty : l.party s ≠ some key) (hstep : step s l = some s') :
    s'.net key = s.net key := by
  cases step_cases hstep with
  | create c o hc =>
    have hother : key ≠ c.pod.key := fun heq => hparty (by simp [Label.party, hc, heq])
    rw [createStep_net]
    unfold createEffect
    split
    case h_6 => exact netCall_other hother _ _
    all_goals rfl
  | delete place o d hd =>
    have hother : key ≠ d.key := fun heq => hparty (by simp [Label.party, hd, heq])
    unfold deleteEffect
    split
    case h_1 => exact detachCall_other hother _ _
    all_goals rfl
  | restart place o t ht =>
    have hother : key ≠ t.key := fun heq => hparty (by simp [Label.party, ht, heq])
    unfold restartEffect
    split
    case h_2 => exact detachCall_other hother _ _
    case h_9 => exact netCall_other hother _ _
    all_goals simp
  | probe place o p _ => exact congrFun (probeEffect_net s o p) key
  | status other o => exact congrFun (locked_net s other _) key
  | createBegin | notFound | deleteBegin | vmExit | vmLost => rfl

@[simp]
theorem restartEffect_ipam (s : Sys) (t : RestartTask) (o : Outcome) :
    (restartEffect s t o).ipam = s.ipam := by
  unfold restartEffect
  split <;> simp

@[simp]
theorem probeEffect_ipam (s : Sys) (p : Prober) (o : Outcome) :
    (probeEffect s p o).ipam = s.ipam := by
  unfold probeEffect
  split
  · split <;> simp
  all_goals simp

/-- The allocator is changed by `CreatePod` and by the release of a deletion only. -/
theorem step_ipam (hstep : step s l = some s') : s'.ipam = s.ipam ∨
      (∃ c o, l = .create o ∧ s.creating = some c ∧ s'.ipam = (createEffect s c o).ipam) ∨
      ∃ place o d, l = .delete place o ∧ s.deletes[place]? = some d ∧ d.pc = .release ∧
        s'.ipam = releaseIP s.ipam d.key := by
  cases step_cases hstep with
  | create c o hc => exact Or.inr (Or.inl ⟨c, o, rfl, hc, createStep_ipam s c o⟩)
  | delete place o d hd =>
    by_cases hpc : d.pc = .release
    · refine Or.inr (Or.inr ⟨place, o, d, rfl, hd, hpc, ?_⟩)
      simp only [deleteEffect, hpc]
    · refine Or.inl ?_
      unfold deleteEffect
      split
      case h_2 h => exact absurd h hpc
      all_goals rfl
  | restart place o t _ => exact Or.inl (restartEffect_ipam s t o)
  | probe place o p _ => exact Or.inl (probeEffect_ipam s p o)
  | status key o => exact Or.inl (locked_ipam _ _ _)
  | createBegin | notFound | deleteBegin | vmExit | vmLost => exact Or.inl rfl

/-- The allocator has the same address for the key unless a call on the key moves. -/
theorem step_holds (hstep : step s l = some s')
    (hcreate : ∀ c o, l = .create o → s.creating = some c → c.pod.key ≠ key)
    (hdelete : ∀ place o d, l = .delete place o → s.deletes[place]? = some d → d.pc = .release →
      d.key ≠ key) : s'.holds key = s.holds key := by
  rcases step_ipam hstep with hsame | ⟨c, o, rfl, hc, hipam⟩ | ⟨place, o, d, rfl, hd, hpc, hipam⟩
  · exact holds_of_ipam hsame key
  · rw [holds_of_ipam hipam]
    exact createEffect_holds_other (Ne.symm (hcreate c o rfl hc))
  · have hrelease : s'.holds key = ({ s with ipam := releaseIP s.ipam d.key } : Sys).holds key :=
      holds_of_ipam hipam key
    rw [hrelease]
    exact releaseIP_other (Ne.symm (hdelete place o d rfl hd hpc))

theorem step_holds_other (hparty : l.party s ≠ some key) (hstep : step s l = some s') :
    s'.holds key = s.holds key := by
  refine step_holds hstep ?_ ?_
  · rintro c o rfl hc rfl
    exact hparty (by rw [Label.party, hc, Option.map_some])
  · rintro place o d rfl hd _ rfl
    exact hparty (by rw [Label.party, hd, Option.map_some])

end Frame

theorem createEffect_ipam_isSome (s : Sys) (c : CreateCall) (o : Outcome) :
    (createEffect s c o).ipam.isSome = s.ipam.isSome := by
  unfold createEffect
  split
  case h_2 =>
      cases hipam : s.ipam with
      | none => simp [afterAllocate, allocateIP]
      | some a =>
        cases hallocate : a.allocate c.pod.key <;>
          simp [afterAllocate, allocateIP, hallocate, Except.map]
  case h_10 => simp [releaseIP]
  all_goals rfl

theorem deleteEffect_ipam_isSome (s : Sys) (d : DeleteCall) (o : Outcome) :
    (deleteEffect s d o).ipam.isSome = s.ipam.isSome := by
  unfold deleteEffect
  split
  case h_2 => simp [releaseIP]
  all_goals rfl

theorem step_config {s : Sys} (hstep : step s l = some s') :
    s'.podNet = s.podNet ∧ s'.ipam.isSome = s.ipam.isSome := by
  cases step_cases hstep with
  | create c o _ => simp [createEffect_ipam_isSome]
  | delete place o d _ => exact ⟨deleteEffect_podNet s o d, deleteEffect_ipam_isSome s d o⟩
  | restart | probe | status => simp
  | createBegin | deleteBegin | notFound | vmExit | vmLost => exact ⟨rfl, rfl⟩

/-- A `CreatePod` in flight was in flight, has just begun, or has made a step. -/
theorem step_creating {s : Sys} (hstep : step s l = some s') {c' : CreateCall}
    (hc' : s'.creating = some c') : (s.creating = some c' ∧ ∀ o, l ≠ .create o) ∨
      (∃ pod, l = .createBegin pod ∧ c' = CreateCall.begin pod) ∨
      ∃ c o, l = .create o ∧ s.creating = some c ∧ c' = createNext s c o := by
  cases step_cases hstep with
  | createBegin pod _ => exact Or.inr (Or.inl ⟨pod, rfl, (Option.some.inj hc').symm⟩)
  | create c o hc => exact Or.inr (Or.inr ⟨c, o, rfl, hc, (createStep_goes hc').1⟩)
  | delete place o d _ =>
    exact Or.inl ⟨(deleteEffect_creating s o d).symm.trans hc', fun _ h => by cases h⟩
  | restart place o t _ =>
    exact Or.inl ⟨(restartEffect_creating s o t).symm.trans hc', fun _ h => by cases h⟩
  | probe place o p _ =>
    exact Or.inl ⟨(probeEffect_creating s o p).symm.trans hc', fun _ h => by cases h⟩
  | status key o =>
    rw [locked_creating] at hc'
    exact Or.inl ⟨hc', fun _ h => by cases h⟩
  | deleteBegin | notFound | vmExit | vmLost => exact Or.inl ⟨hc', fun _ h => by cases h⟩

/-- Where a restart task after a step comes from. -/
inductive RestartOrigin (s s' : Sys) (l : Label) (t' : RestartTask) : Prop
  | stayed : t' ∈ s.restarts → (∀ place o, l = .restart place o →
      ∃ i, s.restarts[i]? = some t' ∧ i ≠ place) → RestartOrigin s s' l t'
  | moved (place : Nat) (o : Outcome) (t : RestartTask) : l = .restart place o →
      s.restarts[place]? = some t → restartNext s t o = some t' → RestartOrigin s s' l t'
  | launched (st' : PodState) (launch : Launch) : (∀ place o, l ≠ .restart place o) →
      s'.pods t'.key = some st' → t' = RestartTask.begin t'.key st'.inc launch →
      RestartOrigin s s' l t'

/-- Where a restart task after a step comes from. -/
theorem step_restart_origin {s : Sys} (hstep : step s l = some s') {t' : RestartTask}
    (ht' : t' ∈ s'.restarts) : RestartOrigin s s' l t' := by
  rcases (step_tasks hstep).mem_cases (fun _ _ _ _ h => by cases h; exact ⟨rfl, rfl⟩) ht' with
    ⟨i, hi, hother⟩ | ⟨place, o, t, hl, ht, hnext⟩ | ⟨key, e, hother, hevent, hadded⟩
  · refine .stayed (List.mem_of_getElem? hi) fun place o hl => ⟨i, hi, ?_⟩
    rintro rfl
    exact hother o hl
  · exact .moved place o t hl ht hnext
  · obtain ⟨launch, hlaunch, rfl⟩ := List.mem_map.mp hadded
    have hstored : s'.pods key = e.apply (s.pods key) := by
      rw [step_noticed hstep, hevent]
      rfl
    cases happly : e.apply (s.pods key) with
    | none =>
      -- an event that leaves no Pod launches nothing
      cases podEvent_cases hevent with
      | commit | refuse => cases happly
      | read | act =>
        rw [Option.map_eq_none_iff.mp happly] at hlaunch
        cases hlaunch
      | _ => cases hlaunch
    | some st' =>
      rw [happly] at hstored
      exact .launched st' launch hother hstored rfl

/-- Where the teardowns after a step come from. -/
theorem step_deletes {s : Sys} (hstep : step s l = some s') : s'.deletes = s.deletes ∨
      (∃ pod st, l = .deleteBegin pod ∧ s.pods pod.key = some st ∧
        s'.deletes = s.deletes ++ [⟨.detach, pod.key, st.withoutProbes⟩]) ∨
      ∃ place o d, l = .delete place o ∧ s.deletes[place]? = some d ∧
        s'.deletes = advance s.deletes place (deleteNext d) := by
  cases step_cases hstep with
  | create c o _ => exact Or.inl ((createStep_deletes s c o).trans (createEffect_deletes s o c))
  | deleteBegin pod st hst => exact Or.inr (Or.inl ⟨pod, st, rfl, hst, rfl⟩)
  | delete place o d hd => exact Or.inr (Or.inr ⟨place, o, d, rfl, hd, rfl⟩)
  | restart place o t _ => exact Or.inl (restartEffect_deletes s o t)
  | probe place o p _ => exact Or.inl (probeEffect_deletes s o p)
  | status key o => exact Or.inl (locked_deletes _ _ _)
  | createBegin | notFound | vmExit | vmLost => exact Or.inl rfl

theorem deleteNext_key {d : DeleteCall} (h : deleteNext d = some d') : d'.key = d.key := by
  unfold deleteNext at h
  split at h <;> cases h <;> rfl

theorem deleteNext_st {d : DeleteCall} (h : deleteNext d = some d') : d'.st = d.st := by
  unfold deleteNext at h
  split at h <;> cases h <;> rfl

/-- A deletion in flight was in flight, for the same Pod, or has just begun. -/
theorem step_deletion {s : Sys} (hstep : step s l = some s') (hd' : d' ∈ s'.deletes) :
    (∃ d ∈ s.deletes, d'.key = d.key ∧ d'.st = d.st) ∨
      ∃ pod st, l = .deleteBegin pod ∧ s.pods pod.key = some st ∧
        d' = ⟨.detach, pod.key, st.withoutProbes⟩ := by
  rcases step_deletes hstep with hsame | ⟨pod, st, hl, hst, hnew⟩ | ⟨place, o, d, _, hd, hnext⟩
  · exact Or.inl ⟨d', hsame ▸ hd', rfl, rfl⟩
  · rw [hnew, List.mem_append, List.mem_singleton] at hd'
    rcases hd' with hold | hbegun
    · exact Or.inl ⟨d', hold, rfl, rfl⟩
    · exact Or.inr ⟨pod, st, hl, hst, hbegun⟩
  · rw [hnext] at hd'
    rcases mem_advance hd' with hold | hmoved
    · exact Or.inl ⟨d', hold, rfl, rfl⟩
    · exact Or.inl ⟨d, List.mem_of_getElem? hd, deleteNext_key hmoved, deleteNext_st hmoved⟩

theorem finished_pod (t : RestartTask) (s : Sys) (st : PodState) :
    (t.finished s st).1.pod = st.pod := by
  rw [finished_eq]
  split <;> rfl

theorem finished_inc (t : RestartTask) (s : Sys) (st : PodState) :
    (t.finished s st).1.inc = st.inc := by
  rw [finished_eq]
  split <;> rfl

/-- A tracked Pod was tracked before, or `CreatePod` stores it now. -/
def PodFrom (s : Sys) (l : Label) (key : String) (pod : Pod) : Prop :=
  (∃ st, s.pods key = some st ∧ pod = st.pod) ∨
    ∃ c o, l = .create o ∧ s.creating = some c ∧ c.pod.key = key ∧ pod = c.pod

/-- Where the Pod tracked under a key after a step comes from. -/
theorem step_pod {s : Sys} (hstep : step s l = some s') {key : String}
    (hst' : s'.pods key = some st') : PodFrom s l key st'.pod := by
  rcases step_stored hstep hst' with hsame | ⟨e, hnotices, happly⟩
  · exact Or.inl ⟨st', hsame, rfl⟩
  · have hmade {f : PodState → PodState} (h : (s.pods key).map f = some st')
        (hpod : ∀ st, (f st).pod = st.pod) : PodFrom s l key st'.pod := by
      obtain ⟨st, hst, rfl⟩ := Option.map_eq_some_iff.mp h
      exact Or.inl ⟨st, hst, hpod st⟩
    cases hnotices with
    | commit c o hc hkey _ =>
      obtain rfl := Option.some.inj happly
      exact Or.inr ⟨c, o, rfl, hc, hkey, (committed_sameCore s c o).pod⟩
    | refuse c o _ _ hc hkey _ =>
      obtain rfl := Option.some.inj happly
      exact Or.inr ⟨c, o, rfl, hc, hkey, rfl⟩
    | delete pod _ => cases happly
    | read o => exact hmade happly fun st => (read_sameCore s st o).pod
    | snapshot => exact hmade happly fun st => (snapshotUpdate_sameCore st).pod
    | finish place o t _ _ _ => exact hmade happly (finished_pod t s)
    | startupIgnored => exact hmade happly fun _ => rfl
    | act place o p ok _ _ _ =>
      exact hmade happly fun st => (actUpdate_acts (p.count ok) _ ok st).sameCore.pod

theorem step_keyed {s : Sys} (hkeyed : Keyed s) (hstep : step s l = some s') : Keyed s' := by
  intro key st' hst'
  rcases step_pod hstep hst' with ⟨st, hst, hpod⟩ | ⟨c, o, _, _, hkey, hpod⟩
  · rw [hpod]
    exact hkeyed key st hst
  · rw [hpod]
    exact hkey

/-- A prober was there before the step, or has moved, or is launched for the Pod stored. -/
theorem step_prober_cases {s : Sys} (hkeyed : Keyed s) (hstep : step s l = some s') {p' : Prober}
    (hp' : p' ∈ s'.probers) : p' ∈ s.probers ∨
      (∃ place o p, l = .probe place o ∧ s.probers[place]? = some p ∧
        probeNext s p o = some p') ∨
      l.party s = some p'.key ∧ ∃ st inst,
        s'.pods p'.key = some (startProbes st s.nextArm inst).1 ∧
          p' ∈ (startProbes st s.nextArm inst).2 := by
  rcases (step_probers hstep).mem_cases (fun _ _ _ _ h => by cases h; exact ⟨rfl, rfl⟩) hp' with
    ⟨i, hi, _⟩ | hmoved | ⟨key, e, _, hevent, hadded⟩
  · exact Or.inl (List.mem_of_getElem? hi)
  · exact Or.inr (Or.inl hmoved)
  · rcases (podEvent_cases hevent).launched with hnil | ⟨st, inst, happly, hlaunched⟩
    · rw [hnil] at hadded
      cases hadded
    · rw [hlaunched] at hadded
      have hstored : s'.pods key = some (startProbes st s.nextArm inst).1 := by
        rw [step_noticed hstep, hevent]
        exact happly
      -- the key of a launched prober is that of the Pod stored
      obtain rfl : p'.key = key :=
        (startProbes_key hadded).trans (step_keyed hkeyed hstep key _ hstored)
      exact Or.inr (Or.inr ⟨(podEvent_cases hevent).party, st, inst, hstored, hadded⟩)

/-- Along a run, each Pod is stored under its own key. -/
theorem run_keyed {P : Sys → Label → Prop} {podNet : Bool} {hostIP : String} {base : Int}
    {ipam : Option PodIPAM} {vms : VMTable} {nextInst : Nat} {ls : List Label} {s : Sys}
    (hrun : Run step P (Sys.fresh podNet hostIP base ipam vms nextInst) ls s) : Keyed s :=
  hrun.invariant (fun _ _ h => by cases h) fun h _ hstep => step_keyed h hstep

end MacVz
