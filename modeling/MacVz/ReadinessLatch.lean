/-
The ready flag of a container whose readiness prober runs undisturbed.  The prober compares two
counters of 32 bits, which wrap, with its thresholds after every attempt; the flag it keeps is
up exactly when a run of enough successes was completed after which no run of enough failures
was.
-/
import MacVz.ProbeReadiness
import MacVz.StatusRecord

namespace MacVz

open Interleaving Streak

variable {p : Prober} {ok : Bool} {st : PodState} {ps : ProbeState} {arm : Nat} {v default : Int}

section Attempt

variable {up down : Nat} {threshold : Int} {history : List Bool}

/-- A success is counted as far as the counter goes.  Where it has wrapped, the flag has long
been raised. -/
theorem raised_iff (hpos : 0 < threshold) (hmax : threshold < 2 ^ 31) (hdown : 0 < down) :
    threshold ≤ wrap32 (trailing true history + 1) ∨ Streak.Latched threshold.toNat down history ↔
      Streak.Latched threshold.toNat down (history ++ [true]) := by
  rw [latched_snoc_true hdown, trailing_snoc_self]
  constructor
  · rintro (hreached | hold)
    · have hwrap := (wrap32_le (n := trailing true history + 1) (by omega)).1
      exact Or.inl (by omega)
    · exact Or.inr hold
  · rintro (hreached | hold)
    · by_cases hfits : trailing true history + 1 < 2 ^ 31
      · have hwrap := wrap32_of_lt hfits
        push_cast at hwrap
        exact Or.inl (by omega)
      · exact Or.inr (latched_of_trailing hdown (by omega))
    · exact Or.inr hold

/-- A failure is counted as far as the counter goes.  Where it has wrapped, the flag has long
been lowered. -/
theorem lowered_iff (hpos : 0 < threshold) (hmax : threshold < 2 ^ 31) (hup : 0 < up) :
    ¬ threshold ≤ wrap32 (trailing false history + 1) ∧ Streak.Latched up threshold.toNat history ↔
      Streak.Latched up threshold.toNat (history ++ [false]) := by
  rw [latched_snoc_false hup, trailing_snoc_self, and_comm]
  refine and_congr_right fun hlatched => not_congr ⟨fun hreached => ?_, fun hreached => ?_⟩
  · have hwrap := (wrap32_le (n := trailing false history + 1) (by omega)).1
    omega
  · by_cases hfits : trailing false history + 1 < 2 ^ 31
    · have hwrap := wrap32_of_lt hfits
      push_cast at hwrap
      omega
    · exact absurd hlatched (not_latched_of_trailing hup (by omega) (by omega))

end Attempt

/-- The readiness flag after an attempt. -/
def Prober.latch (p : Prober) (ok ready : Bool) : Bool :=
  if ok then p.successThreshold ≤ (p.count ok).successes || ready
  else !(p.failureThreshold ≤ (p.count ok).failures : Bool) && ready

theorem count_thresholds (p : Prober) (ok : Bool) :
    (p.count ok).successThreshold = p.successThreshold ∧
      (p.count ok).failureThreshold = p.failureThreshold ∧ (p.count ok).kind = p.kind := by
  cases ok with
  | true => exact ⟨rfl, rfl, rfl⟩
  | false => exact ⟨rfl, rfl, rfl⟩

theorem actUpdate_probes (hkind : p.kind = .readiness) (base : Int) (ok : Bool) (st : PodState) :
    ((p.count ok).actUpdate base ok st).st.probes =
      st.probes.map fun ps => ps.setReady (p.latch ok ps.ready) := by
  obtain ⟨hsuccess, hfailure, hsame⟩ := count_thresholds p ok
  have hkeep : st.probes = st.probes.map fun ps => ps.setReady ps.ready := by
    simp [ProbeState.setReady]
  cases ok with
  | true =>
    simp only [Prober.actUpdate, Prober.latch, hsuccess, hsame, hkind, if_true]
    by_cases hreached : p.successThreshold ≤ (p.count true).successes
    · simp [hreached, setProbeUpdate, Update.only]
    · simpa [hreached, Update.only] using hkeep
  | false =>
    simp only [Prober.actUpdate, Prober.latch, hfailure, hsame, hkind, Bool.false_eq_true, if_false]
    by_cases hreached : p.failureThreshold ≤ (p.count false).failures
    · simp [hreached, setProbeUpdate, Update.only]
    · simpa [hreached, Update.only] using hkeep

theorem actUpdate_ready (hkind : p.kind ≠ .readiness) (hfails : p.fails ok = false) (base : Int)
    (hps : st.probes = some ps) :
    ∃ ps', (p.actUpdate base ok st).st.probes = some ps' ∧ ps'.ready = ps.ready := by
  have hacts := actUpdate_acts p base ok st
  generalize p.actUpdate base ok st = u at hacts ⊢
  cases hacts with
  | nothing => exact ⟨ps, hps, rfl⟩
  | startup => exact ⟨ps.setStartupDone, by simp [setProbeUpdate, Update.only, hps], rfl⟩
  | ready _ _ hreadiness | unready _ _ hreadiness => exact absurd hreadiness hkind
  | restart hok hreached _ _ _ _ | fail hok hreached _ _ _ =>
    simp [Prober.fails, hok, hkind, hreached] at hfails

/-- The result the step counts for the readiness of a generation. -/
def countsReadiness (key : String) (arm : Nat) (s : Sys) : Label → Option Bool
  | .probe place _ => (s.probers[place]?).bind fun p =>
    if p.key = key ∧ p.arm = arm ∧ p.kind = .readiness then p.pc.result else none
  | _ => none

/-- Nobody but this readiness prober touches the probe state of the Pod: it is not deleted, no
restart stops or starts probers, no other readiness prober writes its flag, and no probe fails
the container. -/
def undisturbed (key : String) (arm : Nat) (s : Sys) : Label → Bool
  | .deleteBegin pod => pod.key ≠ key
  | .restart place _ => (s.restarts[place]?).all fun t =>
    t.key ≠ key || t.pc ≠ .waiting && t.pc ≠ .finish
  | .probe place _ => (s.probers[place]?).all fun p =>
    p.key ≠ key || p.arm = arm && p.kind = .readiness ||
      p.pc.result.all fun ok => p.kind ≠ .readiness && !(p.count ok).fails ok
  | _ => true

theorem keepsKey_of_undisturbed {key : String} {s : Sys} {l : Label}
    (h : undisturbed key arm s l = true) : keepsKey key l = true := by
  cases l with
  | deleteBegin pod => exact h
  | _ => rfl

theorem ProbeMove.counters {s : Sys} {o : Outcome} {p' : Prober} (h : ProbeMove s o p (some p')) :
    p.pc.result = none ∧ p'.successes = p.successes ∧ p'.failures = p.failures ∨
      ∃ ok, p.pc = .act ok ∧ p'.successes = (p.count ok).successes ∧
        p'.failures = (p.count ok).failures := by
  cases h with
  | attempted met _ hresult => exact Or.inl ⟨hresult, rfl, rfl⟩
  | counted ok pc hpc _ => exact Or.inr ⟨ok, hpc, rfl, rfl⟩
  | moved pc hresult _ _ => exact Or.inl ⟨hresult, rfl, rfl⟩

theorem ProbePC.eq_act {pc : ProbePC} (h : pc.result = some ok) : pc = .act ok := by
  cases pc with
  | act result => rw [Option.some.inj h]
  | _ => cases h

theorem orDefault_pos (h : 0 < default) : 0 < orDefault v default := by
  unfold orDefault
  split
  · exact h
  · omega

theorem orDefault_lt {bound : Int} (hv : v < bound) (h : default < bound) :
    orDefault v default < bound := by
  unfold orDefault
  split
  · exact h
  · exact hv

/-- The counters tell the last results of one kind. -/
structure Prober.Tells (p : Prober) (history : List Bool) : Prop where
  successes : p.successes = wrap32 (trailing true history)
  failures : p.failures = wrap32 (trailing false history)

/-- Counting one more attempt keeps the counters telling the history. -/
theorem Prober.Tells.count {history : List Bool} (h : p.Tells history) (ok : Bool) :
    (p.count ok).Tells (history ++ [ok]) := by
  cases ok with
  | true =>
    refine ⟨?_, ?_⟩
    · change wrap32 (p.successes + 1) = _
      rw [h.successes, wrap32_succ, trailing_snoc_self]
      rfl
    · rw [trailing_snoc_of_ne (by decide)]
      rfl
  | false =>
    refine ⟨?_, ?_⟩
    · rw [trailing_snoc_of_ne (by decide)]
      rfl
    · change wrap32 (p.failures + 1) = _
      rw [h.failures, wrap32_succ, trailing_snoc_self]
      rfl

/-- The latch after an attempt is that of the history with the attempt. -/
theorem latch_iff {history : List Bool} (htells : p.Tells history) (hkind : p.kind = .readiness)
    (hsuccess : p.probe.successThreshold < 2 ^ 31) (hfailure : p.probe.failureThreshold < 2 ^ 31)
    {ready : Bool}
    (hready : ready = true ↔ Streak.Latched (orDefault p.probe.successThreshold 1).toNat
      (orDefault p.probe.failureThreshold 3).toNat history) (ok : Bool) :
    p.latch ok ready = true ↔ Streak.Latched (orDefault p.probe.successThreshold 1).toNat
      (orDefault p.probe.failureThreshold 3).toNat (history ++ [ok]) := by
  have hup : 0 < orDefault p.probe.successThreshold 1 := orDefault_pos (by decide)
  have hdown : 0 < orDefault p.probe.failureThreshold 3 := orDefault_pos (by decide)
  have hthreshold : p.successThreshold = orDefault p.probe.successThreshold 1 := by
    rw [Prober.successThreshold, if_pos hkind]
  have htold := htells.count ok
  cases ok with
  | true =>
    rw [← raised_iff hup (orDefault_lt hsuccess (by decide)) (by omega), ← hready]
    simp only [Prober.latch, if_true, Bool.or_eq_true, decide_eq_true_eq, hthreshold,
      htold.successes, trailing_snoc_self]
    rfl
  | false =>
    rw [← lowered_iff hdown (orDefault_lt hfailure (by decide)) (by omega), ← hready]
    simp only [Prober.latch, Bool.false_eq_true, if_false, Bool.and_eq_true, Bool.not_eq_true',
      decide_eq_false_iff_not, Prober.failureThreshold, htold.failures, trailing_snoc_self]
    rfl

/-- The flag and the counters tell the attempts of the prober so far. -/
structure Latching (key : String) (p₀ : Prober) (history : List Bool) (s : Sys) : Prop where
  logged : Logged s
  untracked : PendingUntracked key s
  armed : p₀.arm < s.nextArm
  flag : ∃ st ps, s.pods key = some st ∧ st.probes = some ps ∧
    (ps.ready = true ↔ Streak.Latched (orDefault p₀.probe.successThreshold 1).toNat
      (orDefault p₀.probe.failureThreshold 3).toNat history)
  own : ∀ p ∈ s.probers, p.arm = p₀.arm → p.kind = .readiness → p.key = key ∧
    p.probe = p₀.probe ∧ p.Tells history

section Step

variable {s s' : Sys} {key : String} {l : Label} {p₀ : Prober} {history : List Bool}

/-- A step that counts no attempt keeps the readiness. -/
theorem Evolves.ready_of_undisturbed {st' : PodState} (h : Evolves key s st l st')
    (hl : undisturbed key arm s l = true) (hcounts : countsReadiness key arm s l = none)
    (hps : st.probes = some ps) : ∃ ps', st'.probes = some ps' ∧ ps'.ready = ps.ready := by
  cases h with
  | same => exact ⟨ps, hps, rfl⟩
  | read o => exact ⟨ps, (read_probes s st o).trans hps, rfl⟩
  | snapshot place o t ht hkey hpc => simp [undisturbed, ht, hkey, hpc] at hl
  | finish place o t ht hkey hpc => simp [undisturbed, ht, hkey, hpc] at hl
  | unsupported place o p _ _ _ _ _ =>
    exact ⟨ps.setStartupDone, by simp [setProbeUpdate, Update.only, hps], rfl⟩
  | act place o p ok hp hkey hpc =>
    have hother : ¬ (p.arm = arm ∧ p.kind = .readiness) := by
      rintro ⟨harm, hkind⟩
      simp [countsReadiness, hp, hkey, harm, hkind, hpc, ProbePC.result] at hcounts
    have hquiet : p.kind ≠ .readiness ∧ (p.count ok).fails ok = false := by
      simpa [undisturbed, hp, hkey, hother, hpc, ProbePC.result] using hl
    obtain ⟨-, -, hsame⟩ := count_thresholds p ok
    exact actUpdate_ready (hsame ▸ hquiet.1) hquiet.2 _ hps

/-- A counted attempt keeps the readiness that of the history. -/
theorem Latching.counted (h : Latching key p₀ history s) (hstep : step s l = some s')
    (hcounts : countsReadiness key p₀.arm s l = some ok)
    (hsuccess : p₀.probe.successThreshold < 2 ^ 31)
    (hfailure : p₀.probe.failureThreshold < 2 ^ 31) :
    Latching key p₀ (history ++ [ok]) s' := by
  have hlogged := step_logged h.logged hstep
  have hnext := step_nextArm hstep
  have huntracked := step_pendingUntracked h.untracked hstep
  cases step_cases hstep with
  | probe place o p hp =>
    simp only [countsReadiness, hp, Option.bind_some, Option.ite_none_right_eq_some] at hcounts
    obtain ⟨⟨hkey, harm, hkind⟩, hresult⟩ := hcounts
    have hpc : p.pc = .act ok := ProbePC.eq_act hresult
    obtain ⟨-, hprobe, htells⟩ := h.own p (List.mem_of_getElem? hp) harm hkind
    obtain ⟨st, ps, hst, hps, hflag⟩ := h.flag
    refine ⟨hlogged, huntracked, Nat.lt_of_lt_of_le h.armed hnext, ?_, ?_⟩
    · refine ⟨((p.count ok).actUpdate s.restartBackoffBase ok st).st,
        ps.setReady (p.latch ok ps.ready), ?_, ?_, ?_⟩
      · simp only [probeEffect, hpc, hkey]
        exact locked_pods_self hst
      · rw [actUpdate_probes hkind, hps]
        rfl
      · rw [← hprobe] at hflag hsuccess hfailure ⊢
        exact latch_iff htells hkind hsuccess hfailure hflag ok
    · intro p' hp' harm' hkind'
      rcases mem_advance_place hp hp' with ⟨i, hi, hne⟩ | hmoves
      · have hsame : (p'.arm, p'.kind) = (p.arm, p.kind) := by rw [harm', hkind', harm, hkind]
        exact absurd (h.logged.place_eq hi hp hsame) hne
      · have hmove := probeNext_move s p o
        rw [hmoves] at hmove
        refine ⟨hmove.same.key.trans hkey, hmove.same.probe.trans hprobe, ?_⟩
        rcases hmove.counters with ⟨hnone, -, -⟩ | ⟨ok', hpc', hcounters⟩
        · rw [hresult] at hnone
          cases hnone
        · obtain rfl : ok' = ok := by simpa using hpc'.symm.trans hpc
          have htold := htells.count ok'
          exact ⟨hcounters.1.trans htold.successes, hcounters.2.trans htold.failures⟩
  | _ => cases hcounts

/-- An undisturbed step that counts nothing keeps the readiness that of the history. -/
theorem Latching.kept (h : Latching key p₀ history s) (hl : undisturbed key p₀.arm s l = true)
    (hstep : step s l = some s') (hcounts : countsReadiness key p₀.arm s l = none) :
    Latching key p₀ history s' := by
  refine ⟨step_logged h.logged hstep, step_pendingUntracked h.untracked hstep,
    Nat.lt_of_lt_of_le h.armed (step_nextArm hstep), ?_, ?_⟩
  · obtain ⟨st, ps, hst, hps, hflag⟩ := h.flag
    obtain ⟨st', hst', hevolves⟩ := step_evolves_of h.untracked
      (keepsKey_of_undisturbed hl) hstep hst
    obtain ⟨ps', hps', hready⟩ := hevolves.ready_of_undisturbed hl hcounts hps
    exact ⟨st', ps', hst', hps', hready ▸ hflag⟩
  · intro p' hp' harm hkind
    rcases step_prober_cases h.logged.keyed hstep hp' with hold | ⟨place, o, p, rfl, hp, hmoves⟩ |
      ⟨-, st, inst, -, hnew⟩
    · exact h.own p' hold harm hkind
    · have hmove := probeNext_move s p o
      rw [hmoves] at hmove
      obtain ⟨hkey, hprobe, htells⟩ := h.own p (List.mem_of_getElem? hp)
        (hmove.same.arm ▸ harm) (hmove.same.kind ▸ hkind)
      have hresult : p.pc.result = none := by
        simpa [countsReadiness, hp, hkey, ← hmove.same.arm, ← hmove.same.kind, harm, hkind]
          using hcounts
      refine ⟨hmove.same.key.trans hkey, hmove.same.probe.trans hprobe, ?_⟩
      rcases hmove.counters with ⟨-, hsuccesses, hfailures⟩ | ⟨ok, hpc, -, -⟩
      · exact ⟨hsuccesses.trans htells.successes, hfailures.trans htells.failures⟩
      · rw [hpc] at hresult
        cases hresult
    · obtain ⟨c, -, kind, probe, -, -, rfl⟩ := mem_startProbes hnew
      exact absurd harm (Nat.ne_of_gt h.armed)

theorem step_latching (h : Latching key p₀ history s) (hl : undisturbed key p₀.arm s l = true)
    (hstep : step s l = some s') (hsuccess : p₀.probe.successThreshold < 2 ^ 31)
    (hfailure : p₀.probe.failureThreshold < 2 ^ 31) :
    Latching key p₀ (history ++ (countsReadiness key p₀.arm s l).toList) s' := by
  cases hcounts : countsReadiness key p₀.arm s l with
  | none =>
    rw [Option.toList_none, List.append_nil]
    exact h.kept hl hstep hcounts
  | some ok => exact h.counted hstep hcounts hsuccess hfailure

end Step

/-- A readiness prober that has counted nothing yet, of a Pod that is not ready, runs
undisturbed: at any time the flag is up exactly when a run of enough successes was completed
after which no run of enough failures was. -/
theorem readiness_latches {podNet : Bool} {hostIP : String} {base : Int} {ipam : Option PodIPAM}
    {vms : VMTable} {nextInst : Nat} {before : List Label} {s₀ : Sys}
    (hreach : Run step (fun _ _ => True) (Sys.fresh podNet hostIP base ipam vms nextInst) before s₀)
    {key : String} {st₀ : PodState} {ps₀ : ProbeState} {p₀ : Prober} (hst₀ : s₀.pods key = some st₀)
    (hps₀ : st₀.probes = some ps₀) (hready₀ : ps₀.ready = false) (hp₀ : p₀ ∈ s₀.probers)
    (hkey : p₀.key = key) (hkind : p₀.kind = .readiness) (hsuccesses : p₀.successes = 0)
    (hfailures : p₀.failures = 0) (hsuccess : p₀.probe.successThreshold < 2 ^ 31)
    (hfailure : p₀.probe.failureThreshold < 2 ^ 31) {ls : List Label} {s : Sys}
    (hrun : Run step (fun s l => undisturbed key p₀.arm s l = true) s₀ ls s) :
    ∃ st ps, s.pods key = some st ∧ st.probes = some ps ∧
      (ps.ready = true ↔ Streak.Latched (orDefault p₀.probe.successThreshold 1).toNat
        (orDefault p₀.probe.failureThreshold 3).toNat
        (observed step (countsReadiness key p₀.arm) s₀ ls)) := by
  have hstart : Logged s₀ ∧ PendingUntracked key s₀ :=
    hreach.invariant (I := fun s => Logged s ∧ PendingUntracked key s)
      ⟨fresh_logged podNet hostIP base ipam vms nextInst, fun _ h => (by cases h)⟩
      fun h _ hstep => ⟨step_logged h.1 hstep, step_pendingUntracked h.2 hstep⟩
  have hbegin : Latching key p₀ [] s₀ := by
    have hpos : 0 < orDefault p₀.probe.successThreshold 1 := orDefault_pos (by decide)
    refine ⟨hstart.1, hstart.2, hstart.1.armed p₀ hp₀, ⟨st₀, ps₀, hst₀, hps₀, ?_⟩, ?_⟩
    · rw [hready₀]
      exact iff_of_false (by simp) (not_latched_nil (by omega))
    · intro p hp harm hkind'
      obtain ⟨i, hi⟩ := List.mem_iff_getElem?.mp hp
      obtain ⟨j, hj⟩ := List.mem_iff_getElem?.mp hp₀
      obtain rfl := hstart.1.place_eq hi hj (by rw [harm, hkind', hkind])
      obtain rfl := Option.some.inj (hi.symm.trans hj)
      exact ⟨hkey, rfl, hsuccesses, hfailures⟩
  have hlatching := hrun.history
    (I := fun ls s => Latching key p₀ (observed step (countsReadiness key p₀.arm) s₀ ls) s)
    hbegin fun hrun h hl hstep => by
      rw [hrun.observed_snoc hstep]
      exact step_latching h hl hstep hsuccess hfailure
  exact hlatching.flag

namespace LatchWitness

open Sample

def checked : Container :=
  { app with readinessProbe := some ⟨.exec ["/bin/check"], 0, 1, 1, 2, 2⟩ }

def created : List Label := createPod { web with containers := [checked] } "192.168.64.5"

def armed : Sys := (execWhen step (fun _ _ => true) node created).getD node

def prober : Prober :=
  ⟨.start, "default/web", checked, ⟨.exec ["/bin/check"], 0, 1, 1, 2, 2⟩, .readiness,
    "10.244.1.2", 0, 0, 0, 0⟩

def attempt (ok : Bool) : List Label :=
  List.replicate 5 (.probe 0 { Outcome.ok with
    fault := if ok then none else some ⟨.other "exec" "exit 1", false⟩ })

def attempts : List Label :=
  List.replicate 2 (.probe 0 .ok) ++ attempt true ++ attempt false ++ attempt true ++ attempt true

theorem armed_reached : Run step (fun _ _ => True) node created armed :=
  run_of_execWhen (fun _ _ _ => trivial) (eq_some_getD node (by decide))

theorem armed_prober : prober ∈ armed.probers := by decide

theorem armed_not_ready : ∃ st ps, armed.pods "default/web" = some st ∧ st.probes = some ps ∧
    ps.ready = false := by
  have hcheck : ((armed.pods "default/web").any fun st =>
      st.probes.any fun ps => !ps.ready) = true := by decide
  obtain ⟨st, hst, hprobes⟩ := (Option.any_eq_true _ _).mp hcheck
  obtain ⟨ps, hps, hready⟩ := (Option.any_eq_true _ _).mp hprobes
  exact ⟨st, ps, hst, hps, by simpa using hready⟩

theorem attempts_seen : observed step (countsReadiness "default/web" 0) armed attempts =
    [true, false, true, true] := by decide

end LatchWitness

open LatchWitness Sample in
theorem readiness_latches_after_two_successes :
    ∃ (s : Sys) (st : PodState) (ps : ProbeState), s.pods "default/web" = some st ∧
      st.probes = some ps ∧ ps.ready = true := by
  obtain ⟨st₀, ps₀, hst₀, hps₀, hready₀⟩ := armed_not_ready
  have hexec : ∃ s, Run step (fun s l => undisturbed "default/web" 0 s l = true) armed attempts s ∧
      (s.pods "default/web").isSome = true :=
    exists_run_of_check (undisturbed "default/web" 0) (fun _ _ h => h) (by decide)
  obtain ⟨s, hrun, -⟩ := hexec
  obtain ⟨st, ps, hst, hps, hready⟩ := readiness_latches armed_reached hst₀ hps₀ hready₀
    armed_prober rfl rfl rfl rfl (by decide) (by decide) hrun
  refine ⟨s, st, ps, hst, hps, hready.mpr ?_⟩
  have hseen : observed step (countsReadiness "default/web" prober.arm) armed attempts =
      [true, false, true, true] := attempts_seen
  rw [hseen]
  exact latched_of_trailing (by decide) (by decide)

end MacVz
