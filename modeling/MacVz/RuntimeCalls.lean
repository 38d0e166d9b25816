/-
The calls to the runtime.  A step of the provider makes at most one, and a guest
that ends or is lost counts as one: each changes the entry of one ID and nothing
else.
-/
import MacVz.ProviderFrame

namespace MacVz

open Interleaving

/-- What a call of the runtime does to a micro-VM. -/
inductive VMChange where
  | create (inst : Nat) (addr : String)
  | start (now : Nat)
  | stop (exitCode : Int)
  | destroy
  | exit (failed : Bool) (exitCode : Int)
deriving Repr, DecidableEq

def VMChange.apply : VMChange → Option VM → Option VM
  | .create inst addr => createVM inst addr
  | .start now => startVM now
  | .stop exitCode => stopVM exitCode
  | .destroy => destroyVM
  | .exit failed exitCode => exitVM (if failed then .failed else .stopped) exitCode

/-- A call of the runtime, with its failure. -/
structure RuntimeCall where
  id : String
  change : VMChange
  fault : Option Fault
deriving Repr, DecidableEq

/-- `Create` of a spec; one without name or image is refused. -/
def createRequest (s : Sys) (spec : ContainerSpec) (o : Outcome) : Option RuntimeCall :=
  if spec.name = "" ∨ spec.image = "" then none
  else some ⟨spec.name, .create s.nextInst o.addr, o.fault⟩

/-- The call `CreatePod` makes at its place. -/
def CreateCall.request (c : CreateCall) (s : Sys) (o : Outcome) : Option RuntimeCall :=
  match c.pc with
  | .startAdopted | .start => some ⟨c.id, .start o.now, o.fault⟩
  | .create => createRequest s c.spec o
  | .rollback (w :: _) => some ⟨w.id, .destroy, o.fault⟩
  | _ => none

/-- The call `DeletePod` makes at its place. -/
def DeleteCall.request (d : DeleteCall) (o : Outcome) : Option RuntimeCall :=
  match d.pc with
  | .stop (w :: _) => some ⟨w.id, .stop o.exitCode, o.fault⟩
  | .destroy w _ => some ⟨w.id, .destroy, o.fault⟩
  | _ => none

def RestartTask.request (t : RestartTask) (s : Sys) (o : Outcome) : Option RuntimeCall :=
  match t.pc with
  | .stop => some ⟨t.oldID, .stop o.exitCode, o.fault⟩
  | .destroy => some ⟨t.oldID, .destroy, o.fault⟩
  | .create => createRequest s t.spec o
  | .start => some ⟨t.newID, .start o.now, o.fault⟩
  | .destroyHalf | .orphan => some ⟨t.newID, .destroy, o.fault⟩
  | _ => none

def Prober.request (p : Prober) (o : Outcome) : Option RuntimeCall :=
  match p.pc with
  | .stop id => some ⟨id, .stop o.exitCode, o.fault⟩
  | .destroy id => some ⟨id, .destroy, o.fault⟩
  | _ => none

/-- The call of the runtime a step makes. -/
def runtimeCall (s : Sys) : Label → Option RuntimeCall
  | .create o => s.creating.bind fun c => c.request s o
  | .delete place o => (s.deletes[place]?).bind fun d => d.request o
  | .restart place o => (s.restarts[place]?).bind fun t => t.request s o
  | .probe place o => (s.probers[place]?).bind fun p => p.request o
  | .vmExit id failed exitCode => some ⟨id, .exit failed exitCode, none⟩
  | .vmLost id => some ⟨id, .destroy, none⟩
  | _ => none

def VMTable.served (vms : VMTable) : Option RuntimeCall → VMTable
  | none => vms
  | some call => vms.call call.id call.change.apply call.fault

section Requests

variable {s : Sys} {o : Outcome}

theorem createCall_served (s : Sys) (spec : ContainerSpec) (o : Outcome) :
    createCall s spec o = s.vms.served (createRequest s spec o) := by
  unfold createCall createRequest
  split <;> rfl

theorem createEffect_vms (s : Sys) (c : CreateCall) (o : Outcome) :
    (createEffect s c o).vms = s.vms.served (c.request s o) := by
  cases hpc : c.pc with
  | create =>
    simp only [createEffect, CreateCall.request, hpc]
    exact createCall_served s c.spec o
  | rollback remaining =>
    cases remaining <;> simp only [createEffect, CreateCall.request, hpc] <;> rfl
  | _ =>
    simp only [createEffect, CreateCall.request, hpc]
    rfl

theorem deleteEffect_vms (s : Sys) (d : DeleteCall) (o : Outcome) :
    (deleteEffect s d o).vms = s.vms.served (d.request o) := by
  cases hpc : d.pc with
  | stop remaining => cases remaining <;> simp only [deleteEffect, DeleteCall.request, hpc] <;> rfl
  | _ =>
    simp only [deleteEffect, DeleteCall.request, hpc]
    rfl

theorem restartEffect_vms (s : Sys) (t : RestartTask) (o : Outcome) :
    (restartEffect s t o).vms = s.vms.served (t.request s o) := by
  cases hpc : t.pc with
  | create =>
    simp only [restartEffect, RestartTask.request, hpc]
    exact createCall_served s t.spec o
  | waiting | finish =>
    simp only [restartEffect, RestartTask.request, hpc]
    exact locked_vms _ _ _
  | _ =>
    simp only [restartEffect, RestartTask.request, hpc]
    rfl

theorem probeEffect_vms (s : Sys) (p : Prober) (o : Outcome) :
    (probeEffect s p o).vms = s.vms.served (p.request o) := by
  cases hpc : p.pc with
  | start =>
    simp only [probeEffect, Prober.request, hpc]
    split
    · exact locked_vms _ _ _
    · rfl
  | act ok =>
    simp only [probeEffect, Prober.request, hpc]
    exact locked_vms _ _ _
  | _ =>
    simp only [probeEffect, Prober.request, hpc]
    rfl

/-- The runtime after a step is the runtime before it, changed by the one call. -/
theorem step_runtime {s' : Sys} {l : Label} (hstep : step s l = some s') :
    s'.vms = s.vms.served (runtimeCall s l) := by
  cases step_cases hstep with
  | create c o hc => rw [createStep_vms, createEffect_vms, runtimeCall, hc, Option.bind_some]
  | delete place o d hd =>
    rw [runtimeCall, hd]
    exact deleteEffect_vms s d o
  | restart place o t ht =>
    rw [runtimeCall, ht]
    exact restartEffect_vms s t o
  | probe place o p hp =>
    rw [runtimeCall, hp]
    exact probeEffect_vms s p o
  | status key o => exact locked_vms _ _ _
  | createBegin | deleteBegin | notFound | vmExit | vmLost => rfl

end Requests

/-- An entry after a step: no effective call was about it and it is as it was, or it is
the one of an effective call. -/
theorem served_cases (vms : VMTable) (call : Option RuntimeCall) (id : String) :
    ((∀ made, call = some made → made.id = id → effective made.fault = false) ∧
        vms.served call id = vms id) ∨
      ∃ made, call = some made ∧ made.id = id ∧ effective made.fault = true ∧
        vms.served call id = made.change.apply (vms id) := by
  cases call with
  | none => exact Or.inl ⟨(fun _ h => by cases h), rfl⟩
  | some made =>
    by_cases hid : made.id = id
    · subst hid
      cases heffective : effective made.fault with
      | true =>
        refine Or.inr ⟨made, rfl, rfl, heffective, ?_⟩
        rw [VMTable.served, VMTable.call_self, if_pos heffective]
      | false =>
        refine Or.inl ⟨fun other hother _ => ?_, ?_⟩
        · obtain rfl := Option.some.inj hother
          exact heffective
        · rw [VMTable.served, VMTable.call_self, heffective, if_neg Bool.false_ne_true]
    · refine Or.inl ⟨fun other hother hother' => ?_, ?_⟩
      · obtain rfl := Option.some.inj hother
        exact absurd hother' hid
      · rw [VMTable.served, VMTable.call_other (Ne.symm hid)]

/-- Every change but `Create` leaves a micro-VM with its instance and address, and
makes none. -/
theorem VMChange.preserves {change : VMChange} (h : ∀ inst addr, change ≠ .create inst addr) :
    Preserves change.apply := by
  cases change with
  | create inst addr => exact absurd rfl (h inst addr)
  | start now => exact startVM_preserves now
  | stop exitCode => exact stopVM_preserves exitCode
  | destroy => exact destroyVM_preserves
  | exit failed exitCode => exact exitVM_preserves _ exitCode

end MacVz
