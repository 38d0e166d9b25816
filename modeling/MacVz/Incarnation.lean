/-
Deleting a Pod and creating one of the same name.  Restarts and probers carry
the key of their Pod and nothing else, so what tells the earlier Pod from the
later one is only that the tasks of the earlier one are gone when the later one
is created.
-/
import MacVz.Evolution
import MacVz.ProbeLog
import MacVz.StepConditions

namespace MacVz

open Interleaving

/-- A restart, or a prober whose failure is acted upon, works for this
incarnation of the key. -/
inductive Background (key : String) (s : Sys) (inc : Nat) : Prop
  | restart (t : RestartTask) : t ∈ s.restarts → t.key = key → t.inc = inc →
      Background key s inc
  | prober (p : Prober) : p ∈ s.probers → p.key = key → p.kind ≠ .readiness → p.inc = inc →
      Background key s inc

/-- The label moves a restart, or a prober whose failure is acted upon, of this
incarnation of the key. -/
inductive BackgroundStep (key : String) (s : Sys) (l : Label) (inc : Nat) : Prop
  | restart (t : RestartTask) (o : Outcome) : Moves s l t o → t.key = key → t.inc = inc →
      BackgroundStep key s l inc
  | prober (place : Nat) (o : Outcome) (p : Prober) : l = .probe place o →
      s.probers[place]? = some p → p.key = key → p.kind ≠ .readiness → p.inc = inc →
      BackgroundStep key s l inc

theorem BackgroundStep.background {key : String} {s : Sys} {l : Label} {inc : Nat}
    (h : BackgroundStep key s l inc) : Background key s inc := by
  rcases h with ⟨t, o, ⟨place, _, ht⟩, hkey, hinc⟩ | ⟨place, o, p, _, hp, hkey, hkind, hinc⟩
  · exact .restart t (List.mem_of_getElem? ht) hkey hinc
  · exact .prober p (List.mem_of_getElem? hp) hkey hkind hinc

/-- A step leaves every other incarnation of the key alone: the state of the Pod
and its micro-VM once it is tracked, the micro-VM while it is being created. -/
structure Spares (key : String) (inc : Nat) (s s' : Sys) : Prop where
  tracked : ∀ st, s.pods key = some st → st.inc ≠ inc → s'.pods key = some st ∧
    ∀ w ∈ st.workloads, s'.vms w.id = s.vms w.id
  creating : ∀ c, s.creating = some c → c.pod.key = key → c.pc.pending = true → c.inc ≠ inc →
    s'.vms c.spec.name = s.vms c.spec.name

/-- `CreatePod` finds the key untracked only when no restart and no startup or
liveness prober of an earlier Pod of that name is left. -/
def recreatesLate (key : String) (s : Sys) : Label → Bool
  | .create _ => s.creating.all fun c =>
    c.pod.key ≠ key || c.pc ≠ .check || (s.pods key).isSome ||
      (s.restarts.all (fun t => t.key ≠ key) &&
        s.probers.all fun p => p.key ≠ key || p.kind = .readiness)
  | _ => true

/-- Every restart and prober at work on the key is one of the Pod that is tracked, and there is
none while a Pod of that name is being created. -/
structure Incarnate (key : String) (s : Sys) : Prop where
  keyed : Keyed s
  untracked : PendingUntracked key s
  own : ∀ inc, Background key s inc → ∀ st, s.pods key = some st → st.inc = inc
  alone : ∀ c, s.creating = some c → c.pod.key = key → c.pc.pending = true →
    ∀ inc, ¬ Background key s inc

section Incarnate

variable {s s' : Sys} {key : String} {l : Label} {st st' : PodState}

/-- What works for the key after a step did so before, or was launched for the
Pod that is tracked now. -/
theorem step_background (hkeyed : Keyed s) (hstep : step s l = some s') {inc : Nat}
    (h : Background key s' inc) :
    Background key s inc ∨ ∃ st, s'.pods key = some st ∧ st.inc = inc := by
  rcases h with ⟨t', ht', rfl, rfl⟩ | ⟨p', hp', rfl, hkind, rfl⟩
  · rcases step_restart_origin hstep ht' with ⟨hold, _⟩ | ⟨place, o, t, _, ht, hnext⟩ |
      ⟨st', launch, _, hst', heq⟩
    · exact Or.inl (.restart t' hold rfl rfl)
    · have hmove := restartNext_move s t o
      rw [hnext] at hmove
      exact Or.inl (.restart t (List.mem_of_getElem? ht) hmove.key_eq.symm hmove.inc_eq.symm)
    · exact Or.inr ⟨st', hst', by rw [heq]; rfl⟩
  · rcases step_prober_from hkeyed hstep hp' with ⟨p, hp, hsame⟩ | ⟨_, st', hst', hinc⟩
    · exact Or.inl (.prober p hp hsame.key.symm (hsame.kind ▸ hkind) hsame.inc.symm)
    · exact Or.inr ⟨st', hst', hinc.symm⟩

theorem Evolves.inc (h : Evolves key s st l st') : st'.inc = st.inc := by
  cases h with
  | same => rfl
  | read o => exact (read_sameCore s st o).inc
  | snapshot place o t _ _ _ => exact (snapshotUpdate_sameCore st).inc
  | finish place o t _ _ _ => exact finished_inc t s st
  | unsupported place o p _ _ _ _ _ => exact (setProbeUpdate_sameCore _ st).inc
  | act place o p ok _ _ _ => exact (actUpdate_acts _ _ _ st).sameCore.inc

theorem step_inc (huntracked : PendingUntracked key s) (hstep : step s l = some s')
    (hst : s.pods key = some st) (hst' : s'.pods key = some st') : st'.inc = st.inc :=
  (step_evolves_to_of huntracked hstep hst hst').inc

/-- A call that is pending after a step has just found the key untracked, or nobody was at work
before. -/
theorem step_pending_cases (h : Incarnate key s) (hstep : step s l = some s') {c' : CreateCall}
    (hc' : s'.creating = some c') (hkey : c'.pod.key = key) (hpending : c'.pc.pending = true) :
    (∃ c o, l = .create o ∧ s.creating = some c ∧ c.pod.key = key ∧ c.pc = .check ∧
        s.pods key = none) ∨ ∀ inc, ¬ Background key s inc := by
  rcases step_creating hstep hc' with ⟨hc, _⟩ | ⟨pod, _, rfl⟩ | ⟨c, o, rfl, hc, rfl⟩
  · exact Or.inr (h.alone c' hc hkey hpending)
  · cases hpending
  · have hmove := createNext_move s c o
    rw [hmove.pod_eq] at hkey
    rcases hmove.pending_cases hpending with ⟨huntracked, hpc⟩ | ⟨hpc, _⟩
    · exact Or.inl ⟨c, o, rfl, hc, hkey, hpc, hkey ▸ huntracked⟩
    · exact Or.inr (h.alone c hc hkey hpc)

theorem recreatesLate_alone {c : CreateCall} {o : Outcome}
    (hl : recreatesLate key s (.create o) = true) (hc : s.creating = some c)
    (hkey : c.pod.key = key) (hpc : c.pc = .check) (hnone : s.pods key = none) (inc : Nat) :
    ¬ Background key s inc := by
  simp only [recreatesLate, hc, hkey, hpc, hnone, Option.all_some, Option.isSome_none, ne_eq,
    not_true_eq_false, decide_false, Bool.false_or, Bool.and_eq_true, List.all_eq_true,
    decide_eq_true_eq, Bool.or_eq_true] at hl
  rintro (⟨t, ht, htkey, _⟩ | ⟨p, hp, hpkey, hkind, _⟩)
  · exact hl.1 t ht htkey
  · rcases hl.2 p hp with hother | hreadiness
    · exact hother hpkey
    · exact hkind hreadiness

/-- A step keeps a Pod's calls, tasks and probers to its present incarnation. -/
theorem step_incarnate (h : Incarnate key s) (hl : recreatesLate key s l = true)
    (hstep : step s l = some s') : Incarnate key s' where
  keyed := step_keyed h.keyed hstep
  untracked := step_pendingUntracked h.untracked hstep
  own := by
    intro inc hback st' hst'
    rcases step_background h.keyed hstep hback with hold | ⟨st₁, hst₁, hinc⟩
    · cases hst : s.pods key with
      | some st =>
        rw [step_inc h.untracked hstep hst hst']
        exact h.own inc hold st hst
      | none =>
        -- the Pod was just stored by a call that found nobody at work
        obtain ⟨c, o, _, hc, hkey, ⟨hpc, _⟩ | ⟨_, _, hpc, _⟩⟩ := step_born hstep hst hst'
        · exact absurd hold (h.alone c hc hkey (by rw [hpc]; rfl) inc)
        · exact absurd hold (h.alone c hc hkey (by rw [hpc]; rfl) inc)
    · obtain rfl := Option.some.inj (hst₁.symm.trans hst')
      exact hinc
  alone := by
    intro c' hc' hkey hpending inc hback
    have hnone := step_pendingUntracked h.untracked hstep c' hc' hkey hpending
    rcases step_background h.keyed hstep hback with hold | ⟨st, hst, _⟩
    · rcases step_pending_cases h hstep hc' hkey hpending with
        ⟨c, o, rfl, hc, hckey, hpc, huntracked⟩ | halone
      · exact recreatesLate_alone hl hc hckey hpc huntracked inc hold
      · exact halone inc hold
    · rw [hnone] at hst
      cases hst

theorem fresh_incarnate (key : String) (podNet : Bool) (hostIP : String) (base : Int)
    (ipam : Option PodIPAM) (vms : VMTable) (nextInst : Nat) :
    Incarnate key (Sys.fresh podNet hostIP base ipam vms nextInst) where
  keyed := fun _ _ h => by cases h
  untracked := fun _ h => by cases h
  own := fun _ _ _ h => by cases h
  alone := fun _ h => by cases h

end Incarnate

/-- Over every run in which a Pod is created again only after the restart and the
startup and liveness probers of the earlier Pod of that name have ended: a
restart or a failing probe at work is one of the Pod that is tracked, and no other Pod of that
name is being created.  No task of another incarnation is left, so that none is touched. -/
theorem background_spares_other_incarnations {podNet : Bool} {hostIP : String} {base : Int}
    {ipam : Option PodIPAM} {vms : VMTable} {nextInst : Nat} {key : String} {ls : List Label}
    {s : Sys} (hrun : Run step (fun s l => recreatesLate key s l = true)
      (Sys.fresh podNet hostIP base ipam vms nextInst) ls s) {l : Label} {inc : Nat}
    (hback : BackgroundStep key s l inc) : (∀ st, s.pods key = some st → st.inc = inc) ∧
      (∀ c, s.creating = some c → c.pod.key = key → c.pc.pending = false) ∧
      ∀ s', step s l = some s' → Spares key inc s s' := by
  have h : Incarnate key s := hrun.invariant
    (fresh_incarnate key podNet hostIP base ipam vms nextInst)
    fun h hl hstep => step_incarnate h hl hstep
  have hold := hback.background
  have halone : ∀ c, s.creating = some c → c.pod.key = key → c.pc.pending = false :=
    fun c hc hkey => Bool.eq_false_iff.mpr fun hpending => h.alone c hc hkey hpending inc hold
  refine ⟨h.own inc hold, halone, fun s' _ => ⟨?_, ?_⟩⟩
  · intro st hst hother
    exact absurd (h.own inc hold st hst) hother
  · intro c hc hkey hpending
    rw [halone c hc hkey] at hpending
    cases hpending

namespace IncarnationWitness

open Sample

def crashed : List Label :=
  createPod web "192.168.64.5" ++ [.vmExit webID false 1, .status "default/web" .ok]

def deleted : List Label := .deleteBegin web :: List.replicate 5 (.delete 0 .ok)

/-- The Pod is deleted and created again once its restart has ended, and crashes
again. -/
def patient : List Label :=
  crashed ++ List.replicate 9 (.restart 0 (okAt "192.168.64.6")) ++ deleted ++ crashed

/-- The Pod is deleted and created again while its restart waits; the restart goes
on and is about to stop the workload it finds. -/
def hasty : List Label :=
  crashed ++ deleted ++ createPod web "192.168.64.6" ++ List.replicate 2 (.restart 0 .ok)

def atWork (inc : Nat) (s : Sys) : Bool :=
  (s.restarts[0]?).any (fun t => t.key = "default/web" && t.inc = inc) &&
    (s.pods "default/web").any fun st => st.inc = 1 && st.workloads = [⟨"app", webID⟩]

theorem atWork_spec {inc : Nat} {s : Sys} (h : atWork inc s = true) :
    (∀ o, BackgroundStep "default/web" s (.restart 0 o) inc) ∧
      ∃ st, s.pods "default/web" = some st ∧ st.inc = 1 ∧ st.workloads = [⟨"app", webID⟩] := by
  simp only [atWork, Bool.and_eq_true, Option.any_eq_true, decide_eq_true_eq] at h
  obtain ⟨⟨t, ht, hkey, hinc⟩, st, hst, hsecond, hworkloads⟩ := h
  exact ⟨fun o => .restart t o ⟨0, rfl, ht⟩ hkey hinc, st, hst, hsecond, hworkloads⟩

end IncarnationWitness

open IncarnationWitness Sample in
/-- After a patient re-creation the restart at work is one of the second Pod. -/
theorem background_spares_other_incarnations_recreated :
    ∃ s : Sys, BackgroundStep "default/web" s (.restart 0 .ok) 1 ∧
      (∀ st, s.pods "default/web" = some st → st.inc = 1) ∧
      (∀ c, s.creating = some c → c.pod.key = "default/web" → c.pc.pending = false) ∧
      ∀ s', step s (.restart 0 .ok) = some s' → Spares "default/web" 1 s s' := by
  have hexec : ∃ s, Run step (fun s l => recreatesLate "default/web" s l = true) node patient s ∧
      atWork 1 s = true :=
    exists_run_of_check (recreatesLate "default/web") (fun _ _ h => h) (by decide +kernel)
  obtain ⟨s, hrun, hcheck⟩ := hexec
  obtain ⟨hback, _⟩ := atWork_spec hcheck
  exact ⟨s, hback .ok, background_spares_other_incarnations hrun (hback .ok)⟩

open IncarnationWitness Sample in
/-- A restart that waited through a deletion and a re-creation stops the micro-VM
of the later Pod. -/
theorem waiting_restart_stops_later_pod :
    ¬ ∀ (podNet : Bool) (hostIP : String) (base : Int) (ipam : Option PodIPAM) (vms : VMTable)
      (nextInst : Nat) (key : String) (ls : List Label) (s s' : Sys) (l : Label) (inc : Nat),
      Run step (fun _ _ => True) (Sys.fresh podNet hostIP base ipam vms nextInst) ls s →
      BackgroundStep key s l inc → step s l = some s' → Spares key inc s s' := by
  intro hall
  have hexec : ∃ s, Run step (fun _ _ => True) node hasty s ∧
      (atWork 0 s && (s.runs webID && (step s (.restart 0 .ok)).any fun s' =>
        !s'.runs webID)) = true :=
    exists_run_of_check (fun _ _ => true) (fun _ _ _ => trivial) (by decide +kernel)
  obtain ⟨s, hrun, hcheck⟩ := hexec
  simp only [Bool.and_eq_true, Option.any_eq_true, Bool.not_eq_true'] at hcheck
  obtain ⟨hwork, hruns, s', hstep, hstopped⟩ := hcheck
  obtain ⟨hback, st, hst, hsecond, hworkloads⟩ := atWork_spec hwork
  have hspares := hall _ _ _ _ _ _ _ _ s s' _ _ hrun (hback .ok) hstep
  have hsame := (hspares.tracked st hst (by simp [hsecond])).2 ⟨"app", webID⟩ (by simp [hworkloads])
  have hstill : s'.runs webID = s.runs webID := by
    unfold Sys.runs
    rw [hsame]
  rw [hstill, hruns] at hstopped
  cases hstopped

end MacVz
