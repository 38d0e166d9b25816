/-
The instances under a workload ID.  A micro-VM that is there after a step was
there before with the same instance number and address, or the step is the
`Create` that made it.
-/
import MacVz.KeyFrame
import MacVz.RuntimeCalls

namespace MacVz

open Interleaving

/-- The spec and the outcome of a `Create` at this step. -/
def creates (s : Sys) : Label → Option (ContainerSpec × Outcome)
  | .create o => s.creating.bind fun c => if c.pc = .create then some (c.spec, o) else none
  | .restart place o =>
    (s.restarts[place]?).bind fun t => if t.pc = .create then some (t.spec, o) else none
  | _ => none

/-- The ID and the address of the micro-VM this step makes.  `Create` finds an
existing one good enough. -/
def makes (s : Sys) (l : Label) : Option (String × String) :=
  (creates s l).bind fun (spec, o) =>
    if spec.name ≠ "" ∧ spec.image ≠ "" ∧ effective o.fault ∧ s.vms spec.name = none then
      some (spec.name, o.addr)
    else none

/-- A micro-VM under an ID after a step: an old one, or the one just made. -/
inductive VMFrom (s : Sys) (l : Label) (id : String) (vm' : VM) : Prop
  | old (vm : VM) : s.vms id = some vm → vm'.inst = vm.inst → vm'.addr = vm.addr →
      VMFrom s l id vm'
  | made : s.vms id = none → makes s l = some (id, vm'.addr) → vm'.inst = s.nextInst →
      VMFrom s l id vm'

section Instances

variable {s : Sys} {id : String} {vm' : VM} {l : Label} {s' : Sys} {addr : String}
  {call : RuntimeCall} {inst : Nat}

theorem VMFrom.of_same (h : s.vms id = some vm') : VMFrom s l id vm' :=
  .old vm' h rfl rfl

/-- A `Create` at a step is the one of `CreatePod` or of a restart. -/
theorem creates_of_call (h : runtimeCall s l = some call)
    (hchange : call.change = .create inst addr) :
    ∃ spec o, creates s l = some (spec, o) ∧ createRequest s spec o = some call := by
  cases l with
  | create o =>
    obtain ⟨c, hc, hrequest⟩ := Option.bind_eq_some_iff.mp h
    unfold CreateCall.request at hrequest
    split at hrequest
    case h_3 hpc => exact ⟨c.spec, o, by simp [creates, hc, hpc], hrequest⟩
    all_goals cases hrequest <;> cases hchange
  | restart place o =>
    obtain ⟨t, ht, hrequest⟩ := Option.bind_eq_some_iff.mp h
    unfold RestartTask.request at hrequest
    split at hrequest
    case h_3 hpc => exact ⟨t.spec, o, by simp [creates, ht, hpc], hrequest⟩
    all_goals cases hrequest <;> cases hchange
  | delete place o =>
    obtain ⟨d, _, hrequest⟩ := Option.bind_eq_some_iff.mp h
    unfold DeleteCall.request at hrequest
    split at hrequest <;> cases hrequest <;> cases hchange
  | probe place o =>
    obtain ⟨p, _, hrequest⟩ := Option.bind_eq_some_iff.mp h
    unfold Prober.request at hrequest
    split at hrequest <;> cases hrequest <;> cases hchange
  | vmExit target failed exitCode =>
    cases h
    cases hchange
  | vmLost target =>
    cases h
    cases hchange
  | _ => cases h

theorem makes_of_call (h : runtimeCall s l = some call) (hchange : call.change = .create inst addr)
    (heffective : effective call.fault = true) (hnone : s.vms call.id = none) :
    makes s l = some (call.id, addr) ∧ inst = s.nextInst := by
  obtain ⟨spec, o, hcreates, hrequest⟩ := creates_of_call h hchange
  unfold createRequest at hrequest
  split at hrequest
  · cases hrequest
  · rename_i hspec
    rw [not_or] at hspec
    cases hrequest
    cases hchange
    have hnone' : s.vms spec.name = none := hnone
    have heffective' : effective o.fault = true := heffective
    exact ⟨by simp [makes, hcreates, hspec, heffective', hnone'], rfl⟩

theorem VMFrom.exists_old (h : VMFrom s l id vm') (hl : makes s l = none) :
    ∃ vm, s.vms id = some vm := by
  rcases h with ⟨vm, hvm, _, _⟩ | ⟨_, hmakes, _⟩
  · exact ⟨vm, hvm⟩
  · rw [hl] at hmakes
    cases hmakes

theorem makes_restart {place : Nat} {t : RestartTask} {o : Outcome}
    (ht : s.restarts[place]? = some t) (h : makes s (.restart place o) = some (id, addr)) :
    t.pc = .create ∧ t.spec.name = id ∧ t.spec.image ≠ "" ∧ t.spec.name ≠ "" ∧
      effective o.fault = true ∧ o.addr = addr := by
  obtain ⟨⟨spec, o'⟩, hcreates, hmade⟩ := Option.bind_eq_some_iff.mp h
  simp only [creates, ht, Option.bind_some] at hcreates
  split at hcreates
  · rename_i hpc
    cases hcreates
    dsimp only at hmade
    split at hmade
    · rename_i hspec
      cases hmade
      exact ⟨hpc, rfl, hspec.2.1, hspec.1, hspec.2.2.1, rfl⟩
    · cases hmade
  · cases hcreates

/-- A micro-VM after a step was there before, or the step made it. -/
theorem step_vms (hstep : step s l = some s') (h : s'.vms id = some vm') : VMFrom s l id vm' := by
  rw [step_runtime hstep] at h
  rcases served_cases s.vms (runtimeCall s l) id with
    ⟨_, hsame⟩ | ⟨call, hcall, rfl, heffective, happly⟩
  · exact .of_same (hsame ▸ h)
  · rw [happly] at h
    by_cases hcreate : ∃ inst addr, call.change = .create inst addr
    · obtain ⟨inst, addr, hchange⟩ := hcreate
      rw [hchange] at h
      cases hvm : s.vms call.id with
      | some vm =>
        obtain rfl : vm = vm' := by simpa [VMChange.apply, createVM, hvm] using h
        exact .of_same hvm
      | none =>
        obtain rfl : VM.fresh inst addr = vm' := by
          simpa [VMChange.apply, createVM, hvm] using h
        obtain ⟨hmakes, hinst⟩ := makes_of_call hcall hchange heffective hvm
        exact .made hvm hmakes hinst
    · have hpreserves : Preserves call.change.apply :=
        VMChange.preserves fun inst addr heq => hcreate ⟨inst, addr, heq⟩
      obtain ⟨vm, hvm, hinst, haddr⟩ := hpreserves _ _ h
      exact .old vm hvm hinst haddr

theorem createEffect_nextInst (s : Sys) (c : CreateCall) (o : Outcome) :
    (createEffect s c o).nextInst = if c.pc = .create then s.nextInst + 1 else s.nextInst := by
  cases hpc : c.pc with
  | rollback remaining => cases remaining <;> simp only [createEffect, hpc] <;> rfl
  | _ =>
    simp only [createEffect, hpc]
    rfl

theorem restartEffect_nextInst (s : Sys) (t : RestartTask) (o : Outcome) :
    (restartEffect s t o).nextInst = if t.pc = .create then s.nextInst + 1 else s.nextInst := by
  unfold restartEffect
  split <;> simp [*]

/-- The instance counter counts the micro-VMs made. -/
theorem step_nextInst (hstep : step s l = some s') :
    s'.nextInst = if (creates s l).isSome then s.nextInst + 1 else s.nextInst := by
  cases step_cases hstep with
  | create c o hc =>
    rw [createStep_frame s c o Sys.nextInst fun _ _ _ => rfl, createEffect_nextInst]
    by_cases hpc : c.pc = .create <;> simp [creates, hc, hpc]
  | delete place o d _ =>
    unfold deleteEffect
    split <;> rfl
  | restart place o t ht =>
    refine (restartEffect_nextInst s t o).trans ?_
    by_cases hpc : t.pc = .create <;> simp [creates, ht, hpc]
  | probe place o p _ =>
    unfold probeEffect
    split
    · split
      · exact locked_nextInst _ _ _
      · rfl
    case h_4 => exact locked_nextInst _ _ _
    all_goals rfl
  | status key o => exact locked_nextInst _ _ _
  | createBegin | deleteBegin | notFound | vmExit | vmLost => rfl

theorem step_nextInst_le (hstep : step s l = some s') : s.nextInst ≤ s'.nextInst := by
  rw [step_nextInst hstep]
  split <;> omega

theorem makes_nextInst (hstep : step s l = some s') {made : String × String}
    (h : makes s l = some made) : s.nextInst < s'.nextInst := by
  obtain ⟨call, hcreates, _⟩ := Option.bind_eq_some_iff.mp h
  rw [step_nextInst hstep, hcreates, Option.isSome_some, if_pos rfl]
  omega

end Instances

end MacVz
