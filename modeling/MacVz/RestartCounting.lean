/-
The restarts of a Pod that is not deleted.  Reads, startup probes and liveness probes may all
ask for one, and a restart works without the lock; still there is never more than one, the
in-flight flag says whether there is, and the restart count is the number of those that ended
with a new micro-VM.  The count sets the delay before the next one.
-/
import MacVz.ProbeLog
import MacVz.RestartScheduling

namespace MacVz

open Interleaving

/-- The ID of the new workload, where the step is the end of a restart that has one and finds
its Pod tracked. -/
def commitsRestart (key : String) (s : Sys) : Label → Option String
  | .restart place _ => (s.restarts[place]?).bind fun t =>
    if t.key = key ∧ t.pc = .finish ∧ t.newID ≠ "" ∧ (s.pods key).isSome then some t.newID
    else none
  | _ => none

section

variable {s s' : Sys} {key : String} {l : Label} {st st' : PodState}

/-- A restart that ends with a new workload counts, for the first container of its Pod. -/
theorem step_restarts_of_commit {id : String} (hcommits : commitsRestart key s l = some id)
    (hstep : step s l = some s') (hst : s.pods key = some st) (hst' : s'.pods key = some st')
    {x : Container} (hx : st.pod.containers.head? = some x) :
    st'.restarts x.name = wrap32 (st.restarts x.name + 1) := by
  cases step_cases hstep with
  | restart place o t ht =>
    simp only [commitsRestart, ht, Option.bind_some, Option.ite_none_right_eq_some] at hcommits
    obtain ⟨⟨hkey, hpc, hnew, -⟩, -⟩ := hcommits
    have hends : (restartEffect s t o).pods key = some (t.finished s st).1 := by
      simp only [restartEffect, hpc, hkey]
      exact locked_pods_self hst
    obtain rfl := Option.some.inj (hends.symm.trans hst')
    obtain ⟨rest, hcontainers⟩ := List.head?_eq_some_iff.mp hx
    rw [finished_eq, if_neg hnew, RestartTask.swapIn, hcontainers]
    exact Function.update_self _ _ _
  | _ => cases hcommits

theorem Evolves.restarts_of_not_commit (h : Evolves key s st l st') (hst : s.pods key = some st)
    (hcommits : commitsRestart key s l = none) : st'.restarts = st.restarts := by
  cases h with
  | same => rfl
  | read o => rw [read_eq]
  | snapshot place o t _ _ _ => rw [snapshotUpdate_eq]
  | finish place o t ht hkey hpc =>
    have hnew : t.newID = "" := by
      by_contra hnew
      simp [commitsRestart, ht, hkey, hpc, hnew, hst] at hcommits
    rw [RestartTask.finished, if_pos hnew]
    rfl
  | unsupported place o p _ _ _ _ _ => rfl
  | act place o p ok _ _ _ => exact (actUpdate_policy _ _ _ st).2.2

theorem commitsRestart_untracked (hnone : s.pods key = none) : commitsRestart key s l = none := by
  cases l with
  | restart place o => simp [commitsRestart, hnone]
  | _ => rfl

end

def committedRestarts (key : String) (start : Sys) (ls : List Label) : List String :=
  observed step (commitsRestart key) start ls

/-- The first container of the Pod has this restart count, and before the Pod is tracked there
is nothing to count. -/
structure RestartsCounted (key : String) (n : Nat) (s : Sys) : Prop where
  untracked : s.pods key = none → n = 0
  count : ∀ st x, s.pods key = some st → st.pod.containers.head? = some x →
    st.restarts x.name = wrap32 n

section

variable {s s' : Sys} {key : String} {l : Label} {n : Nat}

theorem step_born_restarts (hstep : step s l = some s') (hnone : s.pods key = none)
    {st : PodState} (hst : s'.pods key = some st) (name : String) : st.restarts name = 0 := by
  obtain ⟨c, o, -, -, -, ⟨-, rfl⟩ | ⟨_, _, -, rfl⟩⟩ := step_born hstep hnone hst
  · rw [committed_eq, read_eq]
    rfl
  · rfl

/-- A step counts a restart exactly where it commits one. -/
theorem step_restartsCounted (hbound : Bound key s) (h : RestartsCounted key n s)
    (hkeep : keepsKey key l = true) (hstep : step s l = some s') :
    RestartsCounted key (n + (commitsRestart key s l).toList.length) s' := by
  cases hst : s.pods key with
  | none =>
    rw [commitsRestart_untracked hst, h.untracked hst]
    refine ⟨fun _ => rfl, fun st' x hst' _ => ?_⟩
    rw [step_born_restarts hstep hst hst']
    rfl
  | some st =>
    obtain ⟨st₁, hst₁, hevolves⟩ := step_evolves hbound hkeep hstep hst
    refine ⟨fun hnone => ?_, fun st' x hst' hx => ?_⟩
    · rw [hst₁] at hnone
      cases hnone
    · obtain rfl := Option.some.inj (hst₁.symm.trans hst')
      rw [(hevolves.work hbound hst).pod] at hx
      have hbefore := h.count st x hst hx
      cases hcommits : commitsRestart key s l with
      | none =>
        rw [hevolves.restarts_of_not_commit hst hcommits]
        exact hbefore
      | some id =>
        rw [step_restarts_of_commit hcommits hstep hst hst' hx, hbefore, wrap32_succ]
        rfl

end

/-- Over every run in which the key is not deleted, it has at most one restart in flight, its
flag is raised exactly as long as there is one, and its restart count is the number of restarts
that ended with a new workload, as far as the counter goes. -/
theorem restarts_exclusive_and_counted {podNet : Bool} {hostIP : String} {base : Int}
    {ipam : Option PodIPAM} {vms : VMTable} {nextInst : Nat} {key : String} {ls : List Label}
    {s : Sys} (hrun : Run step (fun _ l => keepsKey key l = true)
      (Sys.fresh podNet hostIP base ipam vms nextInst) ls s) :
    AtMostOne (fun t => t.key = key) s.restarts ∧
      (∀ st, s.pods key = some st →
        (st.restarting = true ↔ ∃ t ∈ s.restarts, t.key = key)) ∧
      ∀ st x, s.pods key = some st → st.pod.containers.head? = some x →
        (committedRestarts key (Sys.fresh podNet hostIP base ipam vms nextInst) ls).length <
          2 ^ 31 →
        st.restarts x.name =
          (committedRestarts key (Sys.fresh podNet hostIP base ipam vms nextInst) ls).length := by
  have hbound : Bound key s := run_bound (fun _ _ hl => hl) hrun
  have hbacked : Bound key s ∧ Backed key s :=
    hrun.invariant (I := fun s => Bound key s ∧ Backed key s)
      ⟨fresh_bound podNet hostIP base ipam vms nextInst key, fun _ h => (by cases h),
        fun _ h => (by cases h)⟩
      fun h hkeep hstep => ⟨step_bound h.1 hkeep hstep, step_backed h.1 h.2 hstep⟩
  have hcounted := hrun.history
    (I := fun ls s => RestartsCounted key
      (committedRestarts key (Sys.fresh podNet hostIP base ipam vms nextInst) ls).length s)
    ⟨fun _ => rfl, fun _ _ h => by cases h⟩
    fun hrun h hkeep hstep => by
      rw [committedRestarts, hrun.observed_snoc hstep, List.length_append]
      exact step_restartsCounted (run_bound (fun _ _ hl => hl) hrun) h hkeep hstep
  refine ⟨hbound.unique, fun st hst => ⟨hbacked.2.flag st hst, ?_⟩, fun st x hst hx hlt => ?_⟩
  · rintro ⟨t, ht, hkey⟩
    obtain ⟨st', hst', hrestarting⟩ := hbound.restart t ht hkey
    obtain rfl := Option.some.inj (hst.symm.trans hst')
    exact hrestarting.flag
  · rw [hcounted.count st x hst hx, wrap32_of_lt hlt]

namespace RestartCountWitness

open Sample RestartWitness

def restartedTwice : List Label :=
  ended ++ List.replicate 9 (.restart 0 (okAt "192.168.64.6")) ++
    [.vmExit webID false 1, .status "default/web" .ok] ++
    List.replicate 9 (.restart 0 (okAt "192.168.64.7"))

theorem restartedTwice_commits :
    committedRestarts "default/web" node restartedTwice = [webID, webID] := by
  decide

end RestartCountWitness

open RestartCountWitness Sample in
theorem restarts_exclusive_and_counted_twice :
    ∃ (s : Sys) (st : PodState), s.pods "default/web" = some st ∧ st.restarts "app" = 2 := by
  have hexec : ∃ s, Run step (fun _ l => keepsKey "default/web" l = true) node restartedTwice s ∧
      ((s.pods "default/web").any fun st => st.pod.containers.head? = some app) = true :=
    exists_run_of_check (fun _ l => keepsKey "default/web" l) (fun _ _ h => h) (by decide)
  obtain ⟨s, hrun, hcheck⟩ := hexec
  obtain ⟨st, hst, hx⟩ := (Option.any_eq_true _ _).mp hcheck
  have hcount := (restarts_exclusive_and_counted hrun).2.2 st app hst (by simpa using hx)
  have hcommits := restartedTwice_commits
  rw [node] at hcommits
  rw [hcommits] at hcount
  exact ⟨s, st, hst, hcount (by decide)⟩

theorem restartBackoff_double {d : Int} (hd : 0 < d) (hmax : d ≤ restartBackoffMax) :
    Int.bmod (d * 2) (2 ^ 64) = d * 2 := by
  unfold restartBackoffMax at hmax
  exact Int.bmod_eq_of_le (by omega) (by omega)

theorem restartBackoffLoop_eq_min (n : Nat) {d : Int} (hd : 0 < d) (hmax : d ≤ restartBackoffMax) :
    restartBackoffLoop n d = min (d * 2 ^ n) restartBackoffMax := by
  induction n generalizing d with
  | zero =>
    rw [pow_zero, mul_one, min_eq_left hmax]
    rfl
  | succ n ih =>
    rw [restartBackoffLoop, restartBackoff_double hd hmax, pow_succ', ← mul_assoc]
    split
    · rename_i hcap
      have hpow : (1 : Int) ≤ 2 ^ n := one_le_pow₀ (by decide)
      exact (min_eq_right (hcap.trans (le_mul_of_one_le_right (by omega) hpow))).symm
    · exact ih (by omega) (by omega)

/-- The delay before a restart is the base doubled for every completed restart and cut off at the
maximum, as if computed without overflow; so it grows with the restarts and stays within the
maximum. -/
theorem restartBackoff_eq_min (base : Int) (hbase : 0 < base) (hmax : base ≤ restartBackoffMax) :
    (∀ count : Int, restartBackoff base count = min (base * 2 ^ count.toNat) restartBackoffMax) ∧
      (∀ count more : Int, count ≤ more → restartBackoff base count ≤ restartBackoff base more) ∧
      ∀ count : Int, restartBackoff base count ≤ restartBackoffMax := by
  have hclosed (count : Int) :
      restartBackoff base count = min (base * 2 ^ count.toNat) restartBackoffMax :=
    restartBackoffLoop_eq_min count.toNat hbase hmax
  refine ⟨hclosed, fun count more hle => ?_, fun count => ?_⟩
  · have hpow : (2 : Int) ^ count.toNat ≤ 2 ^ more.toNat :=
      pow_le_pow_right₀ (by decide) (Int.toNat_le_toNat hle)
    rw [hclosed, hclosed]
    exact min_le_min_right _ (mul_le_mul_of_nonneg_left hpow hbase.le)
  · rw [hclosed]
    exact min_le_right _ _

theorem restartBackoff_eq_min_default : restartBackoff defaultRestartBackoffBase 3 = 80 * 10 ^ 9 ∧
      restartBackoff defaultRestartBackoffBase (2 ^ 31 - 1) ≤ restartBackoffMax := by
  have hmin := restartBackoff_eq_min defaultRestartBackoffBase (by decide) (by decide)
  refine ⟨?_, hmin.2.2 _⟩
  rw [hmin.1]
  decide

end MacVz
