/-
The counters of the probers against the log of their attempts.  Each launch of
probers has a number of its own and at most one prober of each kind, so what a
prober counts as consecutive successes is a run of successes in the log of its
launch and kind.
-/
import MacVz.KeyFrame
import MacVz.Streak

namespace MacVz

open Interleaving Streak

variable {p p' : Prober} {s s' : Sys} {o : Outcome} {l : Label} {attempts : List Attempt}
  {e : PodEvent}

/-- The attempts of one prober, newest first. -/
def attemptsOf (attempts : List Attempt) (arm : Nat) (kind : ProbeKind) : List Attempt :=
  attempts.filter fun a => a.arm = arm && a.kind = kind

/-- The counters are at most the streaks in the log. -/
structure Counted (attempts : List Attempt) (p : Prober) : Prop where
  low : -2 ^ 31 ≤ p.successes
  bound : p.pc.result = none →
    p.successes ≤ latest Attempt.ok (attemptsOf attempts p.arm p.kind)
  pending : p.pc.result = some true →
    p.successes + 1 ≤ latest Attempt.ok (attemptsOf attempts p.arm p.kind)

theorem wrap32_le {n : Int} (h : -2 ^ 31 ≤ n) : wrap32 n ≤ n ∧ -2 ^ 31 ≤ wrap32 n := by
  rw [wrap32, Int.bmod_def]
  constructor <;> split <;> omega

theorem wrap32_of_lt {n : Nat} (h : n < 2 ^ 31) : wrap32 n = n := by
  exact Int.bmod_eq_of_le (by omega) (by omega)

theorem wrap32_succ (n : Int) : wrap32 (wrap32 n + 1) = wrap32 (n + 1) := by
  unfold wrap32
  rw [Int.bmod_add_bmod]

theorem Counted.count_le (h : Counted attempts p) (hpc : p.pc = .act true) :
    (p.count true).successes ≤ latest Attempt.ok (attemptsOf attempts p.arm p.kind) := by
  have hlow := h.low
  have hpending := h.pending (by simp [hpc, ProbePC.result])
  have hwrap : wrap32 (p.successes + 1) ≤ p.successes + 1 := (wrap32_le (by omega)).1
  exact hwrap.trans hpending

theorem record_nil (h : attemptAt s o p.pc = none) : p.record s o = [] := by
  simp [Prober.record, h]

theorem probeEffect_attempts (s : Sys) (p : Prober) (o : Outcome) :
    (probeEffect s p o).attempts = p.record s o ++ s.attempts := by
  have hnil : attemptAt s o p.pc = none → s.attempts = p.record s o ++ s.attempts := by
    intro hnone
    rw [record_nil hnone, List.nil_append]
  cases hpc : p.pc with
  | exec id => simp only [probeEffect, hpc]
  | dial addr => simp only [probeEffect, hpc]
  | start =>
    rw [← hnil (by rw [hpc]; rfl)]
    simp only [probeEffect, hpc]
    split <;> simp
  | _ =>
    rw [← hnil (by rw [hpc]; rfl)]
    simp [probeEffect, hpc]

theorem mem_record {a : Attempt} (h : a ∈ p.record s o) :
    ∃ met, attemptAt s o p.pc = some met ∧ a = ⟨p.arm, p.kind, met.1, met.2⟩ := by
  obtain ⟨met, hmet, rfl⟩ := Option.map_eq_some_iff.mp (Option.mem_toList.mp h)
  exact ⟨met, hmet, rfl⟩

theorem attemptsOf_record_other {arm : Nat} {kind : ProbeKind} (h : (p.arm, p.kind) ≠ (arm, kind)) :
    attemptsOf (p.record s o ++ s.attempts) arm kind = attemptsOf s.attempts arm kind := by
  have hnil : (p.record s o).filter (fun a => a.arm = arm && a.kind = kind) = [] := by
    rw [List.filter_eq_nil_iff]
    intro a ha
    obtain ⟨id, _, rfl⟩ := mem_record ha
    simpa [Prod.ext_iff] using h
  unfold attemptsOf
  rw [List.filter_append, hnil, List.nil_append]

/-- A prober's successes stay covered by its logged attempts. -/
theorem ProbeMove.counted_of (hmove : ProbeMove s o p (some p')) (h : Counted s.attempts p) :
    Counted (p.record s o ++ s.attempts) p' := by
  cases hmove with
  | attempted met hmet hresult =>
    refine ⟨h.low, (fun h => by cases h), ?_⟩
    intro hok
    have hanswered : met.2 = true := by simpa [ProbePC.result] using hok
    have hbound := h.bound hresult
    have hlog : attemptsOf (p.record s o ++ s.attempts) p.arm p.kind =
        ⟨p.arm, p.kind, met.1, met.2⟩ :: attemptsOf s.attempts p.arm p.kind := by
      simp [attemptsOf, Prober.record, hmet]
    change p.successes + 1 ≤ latest Attempt.ok (attemptsOf _ p.arm p.kind)
    rw [hlog, latest_cons_of_pos (show Attempt.ok _ = true from hanswered)]
    omega
  | counted ok pc hpc hresult =>
    rw [record_nil (by rw [hpc]; rfl)]
    cases ok with
    | true =>
      have hlow := h.low
      have hwrap : wrap32 (p.successes + 1) ≤ p.successes + 1 ∧
          -2 ^ 31 ≤ wrap32 (p.successes + 1) := wrap32_le (by omega)
      exact ⟨hwrap.2, fun _ => h.count_le hpc, by simp [hresult]⟩
    | false =>
      refine ⟨by simp [Prober.count], fun _ => ?_, by simp [hresult]⟩
      simp [Prober.count]
  | moved pc hresult hattempt hpc =>
    rw [record_nil hattempt]
    exact ⟨h.low, fun _ => h.bound hresult, fun hyes => absurd hyes hpc⟩

def PodEvent.arms : PodEvent → Bool
  | .commit .. | .finish .. => true
  | _ => false

theorem PodEvent.arms_of_launched {st : Option PodState} (hp : p ∈ e.launched st) :
    e.arms = true := by
  cases e <;> first | rfl | cases hp

theorem locked_nextArm (s : Sys) (key : String) (f : PodState → Update) :
    s.nextArm ≤ (s.locked key f).nextArm := by
  unfold Sys.locked
  split
  · exact Nat.le_refl _
  · exact Nat.le_succ _

theorem probeEffect_nextArm (s : Sys) (p : Prober) (o : Outcome) :
    s.nextArm ≤ (probeEffect s p o).nextArm := by
  unfold probeEffect
  split
  · split
    · exact locked_nextArm _ _ _
    · exact Nat.le_refl _
  case h_4 => exact locked_nextArm _ _ _
  all_goals exact Nat.le_refl _

theorem step_nextArm (hstep : step s l = some s') : s.nextArm ≤ s'.nextArm := by
  cases step_cases hstep with
  | create c o _ =>
    rw [createStep_frame s c o Sys.nextArm fun _ _ _ => rfl]
    unfold createEffect
    split
    case h_7 => exact Nat.le_succ _
    all_goals exact Nat.le_refl _
  | delete place o d _ =>
    unfold deleteEffect
    split <;> exact Nat.le_refl _
  | restart place o t _ =>
    unfold restartEffect
    split
    case h_1 | h_10 => exact locked_nextArm _ _ _
    all_goals exact Nat.le_refl _
  | probe place o p _ => exact probeEffect_nextArm s p o
  | status => exact locked_nextArm _ _ _
  | createBegin | deleteBegin | notFound | vmExit | vmLost => exact Nat.le_refl _

/-- An event that arms a tracked Pod takes a new generation. -/
theorem step_arms {key : String} (hstep : step s l = some s') (hnotices : Notices key s l e)
    (harms : e.arms = true) (htracked : (e.apply (s.pods key)).isSome) :
    s'.nextArm = s.nextArm + 1 := by
  cases hnotices with
  | commit c o hc _ hpc =>
    obtain ⟨c₁, hc₁, rfl⟩ := Option.map_eq_some_iff.mp hstep
    obtain rfl := Option.some.inj (hc.symm.trans hc₁)
    rw [createStep_frame s c o Sys.nextArm fun _ _ _ => rfl]
    simp only [createEffect, hpc]
    rfl
  | finish place o t ht hkey hpc =>
    obtain ⟨st, hst⟩ := Option.isSome_iff_exists.mp (Option.isSome_map.symm.trans htracked)
    obtain ⟨t₁, ht₁, rfl⟩ := Option.map_eq_some_iff.mp hstep
    obtain rfl := Option.some.inj (ht.symm.trans ht₁)
    simp only [restartEffect, hpc, hkey, Sys.locked, hst]
  | _ => cases harms

/-- A step logs at most the attempt of the prober it moves. -/
theorem step_log (hstep : step s l = some s') : ∃ new, s'.attempts = new ++ s.attempts ∧
      ((new = [] ∧ ∀ place o, l ≠ .probe place o) ∨
        ∃ place o p, l = .probe place o ∧ s.probers[place]? = some p ∧ new = p.record s o) := by
  cases step_cases hstep with
  | create c o _ =>
    refine ⟨[], ?_, Or.inl ⟨rfl, fun _ _ h => by cases h⟩⟩
    rw [createStep_frame s c o Sys.attempts fun _ _ _ => rfl]
    unfold createEffect
    split <;> rfl
  | delete place o d _ =>
    refine ⟨[], ?_, Or.inl ⟨rfl, fun _ _ h => by cases h⟩⟩
    unfold deleteEffect
    split <;> rfl
  | restart place o t _ =>
    unfold restartEffect
    split <;> simp
  | probe place o p hp => exact ⟨_, probeEffect_attempts s p o, Or.inr ⟨place, o, p, rfl, hp, rfl⟩⟩
  | status => exact ⟨[], locked_attempts _ _ _, Or.inl ⟨rfl, fun _ _ h => by cases h⟩⟩
  | createBegin | deleteBegin | notFound | vmExit | vmLost =>
    exact ⟨[], rfl, Or.inl ⟨rfl, fun _ _ h => by cases h⟩⟩

/-- Every prober was there before the step, or is one of the next number, of the Pod just
stored. -/
theorem step_prober_from (hkeyed : Keyed s) (hstep : step s l = some s') (hp' : p' ∈ s'.probers) :
    (∃ p ∈ s.probers, SameProber p p') ∨
      p'.arm = s.nextArm ∧ ∃ st', s'.pods p'.key = some st' ∧ p'.inc = st'.inc := by
  rcases step_prober_cases hkeyed hstep hp' with hold | ⟨place, o, p, _, hp, hnext⟩ |
    ⟨_, st, inst, hst', hlaunched⟩
  · exact Or.inl ⟨p', hold, rfl, rfl, rfl, rfl, rfl, rfl⟩
  · have hmove := probeNext_move s p o
    rw [hnext] at hmove
    exact Or.inl ⟨p, List.mem_of_getElem? hp, hmove.same⟩
  · have hinc := (startProbes_sameCore st s.nextArm inst).inc
    obtain ⟨c, rest, kind, probe, _, _, rfl⟩ := mem_startProbes hlaunched
    exact Or.inr ⟨rfl, _, hst', hinc.symm⟩

theorem step_prober_origin (hkeyed : Keyed s) (hstep : step s l = some s') (hp' : p' ∈ s'.probers)
    (harm : p'.arm < s.nextArm) : ∃ p ∈ s.probers, SameProber p p' := by
  rcases step_prober_from hkeyed hstep hp' with hold | ⟨hnew, _⟩
  · exact hold
  · exact absurd hnew (Nat.ne_of_lt harm)

theorem attemptsOf_append (new old : List Attempt) (arm : Nat) (kind : ProbeKind) :
    attemptsOf (new ++ old) arm kind = attemptsOf new arm kind ++ attemptsOf old arm kind :=
  List.filter_append ..

/-- Every prober is numbered once and its counters are backed by the log. -/
structure Logged (s : Sys) : Prop where
  keyed : Keyed s
  distinct : (s.probers.map fun p => (p.arm, p.kind)).Nodup
  armed : ∀ p ∈ s.probers, p.arm < s.nextArm
  attempted : ∀ a ∈ s.attempts, a.arm < s.nextArm
  declared : ∀ p ∈ s.probers, p.container.probe p.kind = some p.probe
  counted : ∀ p ∈ s.probers, Counted s.attempts p

theorem Logged.place_eq (h : Logged s) {i j : Nat} (hi : s.probers[i]? = some p)
    (hj : s.probers[j]? = some p') (hsame : (p.arm, p.kind) = (p'.arm, p'.kind)) : i = j := by
  have hleft : (s.probers.map fun p => (p.arm, p.kind))[i]? = some (p'.arm, p'.kind) := by
    rw [List.getElem?_map, hi]
    exact congrArg some hsame
  have hright : (s.probers.map fun p => (p.arm, p.kind))[j]? = some (p'.arm, p'.kind) := by
    rw [List.getElem?_map, hj]
    rfl
  have hlength : i < (s.probers.map fun p => (p.arm, p.kind)).length := by
    rw [List.length_map]
    exact (List.getElem?_eq_some_iff.mp hi).1
  exact (List.getElem?_inj hlength h.distinct).mp (hleft.trans hright.symm)

theorem begin_counted (st : PodState) (c : Container) (arm : Nat) (kind : ProbeKind)
    (probe : Probe) : Counted attempts (Prober.begin st c arm kind probe) where
  low := by simp [Prober.begin]
  bound := fun _ => by simp [Prober.begin]
  pending := fun h => by cases h

theorem launchProbers_distinct (st : PodState) (c : Container) (arm : Nat) :
    ((launchProbers st c arm).map fun p => (p.arm, p.kind)).Nodup := by
  unfold launchProbers
  cases c.startupProbe <;> cases c.readinessProbe <;> cases c.livenessProbe <;> simp [Prober.begin]

theorem startProbes_distinct (st : PodState) (arm : Nat) (inst : Option Nat) :
    ((startProbes st arm inst).2.map fun p => (p.arm, p.kind)).Nodup := by
  rcases startProbes_probers st arm inst with hnil | ⟨c, rest, _, hlaunch⟩
  · rw [hnil]
    exact List.nodup_nil
  · rw [hlaunch]
    exact launchProbers_distinct st c arm

theorem Logged.moved (h : Logged s) (hkeyed : Keyed s') {place : Nat}
    (hp : s.probers[place]? = some p)
    (hprobers : s'.probers = advance s.probers place (probeNext s p o))
    (hattempts : s'.attempts = p.record s o ++ s.attempts) (hnextArm : s.nextArm ≤ s'.nextArm) :
    Logged s' := by
  have hmem : p ∈ s.probers := List.mem_of_getElem? hp
  have hmove := probeNext_move s p o
  have hcases : ∀ p' ∈ s'.probers, ∃ p₁ ∈ s.probers, SameProber p₁ p' := by
    intro p' hp'
    rw [hprobers] at hp'
    rcases mem_advance hp' with hold | hnext
    · exact ⟨p', hold, rfl, rfl, rfl, rfl, rfl, rfl⟩
    · rw [hnext] at hmove
      exact ⟨p, hmem, hmove.same⟩
  refine ⟨hkeyed, ?_, ?_, ?_, ?_, ?_⟩
  · rw [hprobers]
    cases hnext : probeNext s p o with
    | none => exact (h.distinct.sublist ((List.eraseIdx_sublist _ _).map _))
    | some p' =>
      rw [hnext] at hmove
      have hmap : (advance s.probers place (some p')).map (fun p => (p.arm, p.kind)) =
          s.probers.map fun p => (p.arm, p.kind) :=
        map_advance _ hp (by rw [hmove.same.arm, hmove.same.kind])
      rw [hmap]
      exact h.distinct
  · intro p' hp'
    obtain ⟨p₁, hp₁, hsame⟩ := hcases p' hp'
    rw [hsame.arm]
    exact Nat.lt_of_lt_of_le (h.armed p₁ hp₁) hnextArm
  · intro a ha
    rw [hattempts] at ha
    rcases List.mem_append.mp ha with hnew | hold
    · obtain ⟨id, _, rfl⟩ := mem_record hnew
      exact Nat.lt_of_lt_of_le (h.armed p hmem) hnextArm
    · exact Nat.lt_of_lt_of_le (h.attempted a hold) hnextArm
  · intro p' hp'
    obtain ⟨p₁, hp₁, hsame⟩ := hcases p' hp'
    rw [hsame.container, hsame.kind, hsame.probe]
    exact h.declared p₁ hp₁
  · intro p' hp'
    rw [hattempts]
    rw [hprobers] at hp'
    by_cases hsame : (p.arm, p.kind) = (p'.arm, p'.kind)
    · rcases mem_advance_place hp hp' with ⟨i, hi, hne⟩ | hnext
      · exact absurd (h.place_eq hi hp hsame.symm) hne
      · rw [hnext] at hmove
        exact hmove.counted_of (h.counted p hmem)
    · rcases mem_advance hp' with hold | hnext
      · have hcounted := h.counted p' hold
        have hlog := attemptsOf_record_other (s := s) (o := o) hsame
        exact ⟨hcounted.low, hlog ▸ hcounted.bound, hlog ▸ hcounted.pending⟩
      · rw [hnext] at hmove
        exact absurd (by rw [hmove.same.arm, hmove.same.kind]) hsame

theorem Logged.launched (h : Logged s) (hkeyed : Keyed s') {st : PodState} {inst : Option Nat}
    (hprobers : s'.probers = s.probers ++ (startProbes st s.nextArm inst).2)
    (hnextArm : s'.nextArm = s.nextArm + 1) (hattempts : s'.attempts = s.attempts) : Logged s' := by
  have hcases : ∀ p ∈ s'.probers, p ∈ s.probers ∨ ∃ c kind probe,
      c.probe kind = some probe ∧ p = Prober.begin st c s.nextArm kind probe := by
    intro p hp
    rw [hprobers] at hp
    rcases List.mem_append.mp hp with hold | hnew
    · exact Or.inl hold
    · obtain ⟨c, _, kind, probe, _, hprobe, rfl⟩ := mem_startProbes hnew
      exact Or.inr ⟨c, kind, probe, hprobe, rfl⟩
  refine ⟨hkeyed, ?_, ?_, ?_, ?_, ?_⟩
  · rw [hprobers, List.map_append, List.nodup_append]
    refine ⟨h.distinct, startProbes_distinct st s.nextArm inst, ?_⟩
    intro old hold new hnew heq
    obtain ⟨p, hp, rfl⟩ := List.mem_map.mp hold
    obtain ⟨p', hp', rfl⟩ := List.mem_map.mp hnew
    obtain ⟨c, _, kind, probe, _, _, rfl⟩ := mem_startProbes hp'
    have harm : p.arm = s.nextArm := congrArg Prod.fst heq
    exact absurd harm (Nat.ne_of_lt (h.armed p hp))
  · intro p hp
    rw [hnextArm]
    rcases hcases p hp with hold | ⟨c, kind, probe, _, rfl⟩
    · exact Nat.lt_succ_of_lt (h.armed p hold)
    · exact Nat.lt_succ_self _
  · intro a ha
    rw [hattempts] at ha
    rw [hnextArm]
    exact Nat.lt_succ_of_lt (h.attempted a ha)
  · intro p hp
    rcases hcases p hp with hold | ⟨c, kind, probe, hprobe, rfl⟩
    · exact h.declared p hold
    · exact hprobe
  · intro p hp
    rw [hattempts]
    rcases hcases p hp with hold | ⟨c, kind, probe, _, rfl⟩
    · exact h.counted p hold
    · exact begin_counted st c s.nextArm kind probe

/-- A step keeps the probers distinct and their successes covered by the log. -/
theorem step_logged (h : Logged s) (hstep : step s l = some s') : Logged s' := by
  have hkeyed := step_keyed h.keyed hstep
  have hnextArm := step_nextArm hstep
  rcases step_probers hstep with ⟨place, o, p, rfl, hp, hprobers⟩ | ⟨hother, hprobers⟩
  · obtain ⟨p₁, hp₁, rfl⟩ := Option.map_eq_some_iff.mp hstep
    obtain rfl := Option.some.inj (hp.symm.trans hp₁)
    exact h.moved hkeyed hp hprobers (probeEffect_attempts s p o) hnextArm
  · have hattempts : s'.attempts = s.attempts := by
      obtain ⟨new, hattempts, ⟨rfl, _⟩ | ⟨place, o, _, hl, _⟩⟩ := step_log hstep
      · exact hattempts
      · exact absurd hl (hother place o)
    have hsame : s'.probers = s.probers → Logged s' := by
      intro hsame
      refine ⟨hkeyed, hsame ▸ h.distinct, ?_, ?_, hsame ▸ h.declared, ?_⟩
      · intro p hp
        exact Nat.lt_of_lt_of_le (h.armed p (hsame ▸ hp)) hnextArm
      · intro a ha
        exact Nat.lt_of_lt_of_le (h.attempted a (hattempts ▸ ha)) hnextArm
      · rw [hsame, hattempts]
        exact h.counted
    cases hevent : l.event s with
    | none =>
      rw [hevent, Option.elim_none, List.append_nil] at hprobers
      exact hsame hprobers
    | some at_ =>
      rw [hevent, Option.elim_some] at hprobers
      have hnotices := podEvent_cases (event_eq_some.mp hevent)
      rcases hnotices.launched with hnil | ⟨st, inst, happly, hlaunched⟩
      · rw [hnil, List.append_nil] at hprobers
        exact hsame hprobers
      · cases hadded : at_.2.launched (s.pods at_.1) with
        | nil =>
          rw [hadded, List.append_nil] at hprobers
          exact hsame hprobers
        | cons p rest =>
          have harms := PodEvent.arms_of_launched (hadded ▸ List.mem_cons_self)
          rw [hlaunched] at hprobers
          have hnext := step_arms hstep hnotices harms (by rw [happly]; rfl)
          exact h.launched hkeyed hprobers hnext hattempts

theorem fresh_logged (podNet : Bool) (hostIP : String) (base : Int) (ipam : Option PodIPAM)
    (vms : VMTable) (nextInst : Nat) : Logged (Sys.fresh podNet hostIP base ipam vms nextInst) where
  keyed := fun _ _ h => by cases h
  distinct := List.nodup_nil
  armed := fun _ h => by cases h
  attempted := fun _ h => by cases h
  declared := fun _ h => by cases h
  counted := fun _ h => by cases h

end MacVz
