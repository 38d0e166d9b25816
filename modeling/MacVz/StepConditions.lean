/-
Conditions on single steps: which calls fail, what the runtime answers, and when
nothing is in flight.  They are decidable, so that a concrete execution can be
checked against them.
-/
import MacVz.ProviderStep

namespace MacVz

variable {o : Outcome} {vms : VMTable} {id : String}

/-- No `CreatePod`, `DeletePod` or restart is in flight. -/
def Quiescent (s : Sys) : Prop :=
  s.creating = none ∧ s.deletes = [] ∧ s.restarts = []

/-- The place of the call or task a label moves, with the outcome of the step:
`CreatePod`, `DeletePod`, a restart, or a prober. -/
def stepWhere (s : Sys) (create : CreatePC → Outcome → Bool) (delete : DeletePC → Outcome → Bool)
    (restart : RestartPC → Outcome → Bool) (probe : ProbePC → Outcome → Bool) :
    Label → Bool
  | .create o => s.creating.all fun c => create c.pc o
  | .delete place o => (s.deletes[place]?).all fun d => delete d.pc o
  | .restart place o => (s.restarts[place]?).all fun t => restart t.pc o
  | .probe place o => (s.probers[place]?).all fun p => probe p.pc o
  | _ => true

/-- A `Detach` at this step succeeds. -/
def detachSucceeds (s : Sys) : Label → Bool :=
  stepWhere s (fun _ _ => true) (fun pc o => pc ≠ .detach || o.fault.isNone)
    (fun pc o => pc ≠ .detach || o.fault.isNone) (fun _ _ => true)

/-- A `Destroy` at this step succeeds. -/
def destroySucceeds (s : Sys) : Label → Bool :=
  stepWhere s
    (fun pc o => match pc with | .rollback _ => o.fault.isNone | _ => true)
    (fun pc o => match pc with | .destroy _ _ => o.fault.isNone | _ => true)
    (fun pc o => match pc with
      | .destroy | .destroyHalf | .orphan => o.fault.isNone
      | _ => true)
    (fun pc o => match pc with | .destroy _ => o.fault.isNone | _ => true)

/-- An `Attach` that fails at this step has no effect. -/
def attachFailsClean (s : Sys) : Label → Bool :=
  stepWhere s (fun pc o => pc ≠ .attach || o.fault.all fun fault => !fault.applied)
    (fun _ _ => true) (fun pc o => pc ≠ .attach || o.fault.all fun fault => !fault.applied)
    (fun _ _ => true)

def Outcome.failsClean (o : Outcome) : Bool := o.fault.all fun fault => !fault.applied

/-- A `Stop`, `Create` or `Start` that fails at this step has no effect. -/
def runtimeFailsClean (s : Sys) : Label → Bool :=
  stepWhere s
    (fun pc o => match pc with
      | .startAdopted | .create | .start => o.failsClean
      | _ => true)
    (fun pc o => match pc with | .stop _ => o.failsClean | _ => true)
    (fun pc o => match pc with
      | .stop | .create | .start => o.failsClean
      | _ => true)
    (fun pc o => match pc with | .stop _ => o.failsClean | _ => true)

/-- `Status` fails or tells what the runtime holds. -/
def Outcome.truthful (o : Outcome) : Bool :=
  match o.status with
  | .actual _ => true
  | .given (.error _) => true
  | .given (.ok _) => false

/-- A truthful answer has the micro-VM's own phase and address. -/
theorem truthful_status (h : o.truthful = true) {rs : VMStatus}
    (hrs : vms.status id o.status = .ok rs) :
    ∃ vm, vms id = some vm ∧ rs.phase = vm.phase ∧ (rs.ip ≠ "" → rs.ip = vm.addr) := by
  unfold Outcome.truthful at h
  split at h
  · rename_i shown hactual
    simp only [hactual, VMTable.status] at hrs
    split at hrs
    · rename_i vm hvm
      cases hrs
      refine ⟨vm, hvm, rfl, ?_⟩
      intro hip
      cases shown with
      | true => rfl
      | false => exact absurd rfl hip
    · cases hrs
  · rename_i e hgiven
    simp only [hgiven, VMTable.status] at hrs
    cases hrs
  · cases h

theorem truthful_poll (h : o.truthful = true) {ip : String} (hip : pollVMIP vms id o = some ip) :
    ∃ vm, vms id = some vm ∧ vm.addr = ip := by
  unfold pollVMIP at hip
  split at hip
  · rename_i rs hrs
    split at hip
    · cases hip
    · rename_i hne
      obtain ⟨vm, hvm, _, haddr⟩ := truthful_status h hrs
      cases hip
      exact ⟨vm, hvm, (haddr hne).symm⟩
  · cases hip

/-- The status of this Pod, when it is read or first stored, comes from a truthful
answer. -/
def readsTruth (key : String) (s : Sys) : Label → Bool
  | .status other o => other ≠ key || o.truthful
  | .create o => s.creating.all fun c => c.pod.key ≠ key || c.pc ≠ .commit || o.truthful
  | _ => true

namespace Sample

def app : Container := ⟨"app", "nginx:1.27", none, none, none, []⟩

def web : Pod where
  ns := "default"
  name := "web"
  uid := "8f4b"
  labels := []
  annotations := []
  nodeName := "mac-1"
  serviceAccountName := ""
  volumes := []
  containers := [app]
  initContainers := 0
  ephemeralContainers := 0
  restartPolicy := .always
  securityReasons := []
  hostNetwork := false
  hostPID := false
  hostIPC := false
  status := .empty

def webID : String := "macvz-default-web-app"

def podCIDR : IPNet := ⟨GoNet.mappedBase + 0x0af40100, 4, 24⟩

def node : Sys :=
  Sys.fresh true "192.168.1.10" defaultRestartBackoffBase (some (newPodIPAM podCIDR))
    (fun _ => none) 0

def okAt (addr : String) : Outcome := { Outcome.ok with addr := addr }

theorem eq_some_getD {S : Type} {x : Option S} (other : S) (h : x.isSome = true) :
    x = some (x.getD other) := by
  cases x with
  | none => cases h
  | some s => rfl

/-- `CreatePod` with everything going well, up to its last step. -/
def createPod (pod : Pod) (addr : String) : List Label :=
  .createBegin pod :: List.replicate 14 (.create (okAt addr))

end Sample

end MacVz
