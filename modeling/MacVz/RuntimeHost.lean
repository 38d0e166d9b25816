/-
The container runtime as the provider sees it: a table of micro-VMs under their
workload IDs, changed by the calls of the driver and by the guests themselves.
Any call may fail, before or after its effect has taken place.
-/
import Mathlib.Logic.Function.Basic

namespace MacVz

/-- `runtime.Phase`. -/
inductive VMPhase where
  | unknown
  | created
  | running
  | stopped
  | failed
deriving Repr, DecidableEq

/-- The errors the provider tells apart; any other one is its text after the
name of the call. -/
inductive RuntimeError where
  | notFound (call : String)
  | incompatibleArch (call : String)
  | other (call detail : String)
deriving Repr, DecidableEq

/-- The text of an error: the driver puts the call in front of the cause. -/
def RuntimeError.text : RuntimeError → String
  | .notFound call => call ++ ": runtime: workload not found"
  | .incompatibleArch call => call ++ ": runtime: image architecture incompatible"
  | .other call detail => call ++ ": " ++ detail

def RuntimeError.isNotFound : RuntimeError → Bool
  | .notFound _ => true
  | _ => false

def RuntimeError.isIncompatibleArch : RuntimeError → Bool
  | .incompatibleArch _ => true
  | _ => false

theorem RuntimeError.text_ne_empty (e : RuntimeError) : e.text ≠ "" := by
  intro hempty
  have hlen := congrArg String.length hempty
  have hcolon : ": ".length = 2 := by decide
  have hnotFound : ": runtime: workload not found".length = 29 := by decide
  have harch : ": runtime: image architecture incompatible".length = 42 := by decide
  have hzero : "".length = 0 := by decide
  cases e <;> simp only [RuntimeError.text, String.length_append] at hlen <;> omega

/-- `runtime.Status`. -/
structure VMStatus where
  id : String
  phase : VMPhase
  exitCode : Int
  message : String
  startedAt : Nat
  ip : String
deriving Repr, DecidableEq

/-- A micro-VM.  `inst` tells the instances created under one ID apart; `addr`
is the host-only address the guest acquires. -/
structure VM where
  inst : Nat
  phase : VMPhase
  exitCode : Int
  message : String
  startedAt : Nat
  addr : String
deriving Repr, DecidableEq

/-- The micro-VMs by workload. -/
abbrev VMTable := String → Option VM

/-- A failed call; `applied` says that its effect took place all the same. -/
structure Fault where
  error : RuntimeError
  applied : Bool
deriving Repr, DecidableEq

/-- The answer to a status query: what the table holds, with the address if the
guest has acquired it, or something else about the same ID. -/
inductive StatusAnswer where
  | actual (shown : Bool)
  | given (result : Except RuntimeError VMStatus)

def VM.status (vm : VM) (id : String) (shown : Bool) : VMStatus where
  id := id
  phase := vm.phase
  exitCode := vm.exitCode
  message := vm.message
  startedAt := vm.startedAt
  ip := if shown then vm.addr else ""

/-- `Status`. -/
def VMTable.status (vms : VMTable) (id : String) :
    StatusAnswer → Except RuntimeError VMStatus
  | .actual shown =>
    match vms id with
    | some vm => .ok (vm.status id shown)
    | none => .error (.notFound ("status " ++ id))
  | .given result => result.map fun rs => { rs with id := id }

theorem VMTable.status_id {vms : VMTable} {id : String} {answer : StatusAnswer}
    {rs : VMStatus} (h : vms.status id answer = .ok rs) : rs.id = id := by
  unfold VMTable.status at h
  split at h
  · split at h
    · cases h
      rfl
    · cases h
  · rename_i result
    cases result with
    | error e => cases h
    | ok rs₀ =>
      cases h
      rfl

/-- The effect of a call took place: it succeeded, or failed too late. -/
def effective : Option Fault → Bool
  | none => true
  | some fault => fault.applied

/-- A call on one micro-VM; one that fails may have had its effect. -/
def VMTable.call (vms : VMTable) (id : String) (change : Option VM → Option VM)
    (fault : Option Fault) : VMTable :=
  if effective fault then Function.update vms id (change (vms id)) else vms

def VM.fresh (inst : Nat) (addr : String) : VM :=
  ⟨inst, .created, 0, "", 0, addr⟩

/-- `Create`: an existing micro-VM of the name satisfies the request. -/
def createVM (inst : Nat) (addr : String) (found : Option VM) : Option VM :=
  some (found.getD (VM.fresh inst addr))

def VM.boot (now : Nat) (vm : VM) : VM :=
  if vm.phase = .running then vm
  else { vm with phase := .running, exitCode := 0, message := "", startedAt := now }

/-- `Start`: boots a micro-VM that does not run. -/
def startVM (now : Nat) : Option VM → Option VM := Option.map (VM.boot now)

def VM.halt (exitCode : Int) (vm : VM) : VM :=
  if vm.phase = .running then { vm with phase := .stopped, exitCode := exitCode }
  else vm

/-- `Stop`: a running micro-VM ends with some exit code; a missing or stopped
one is left alone. -/
def stopVM (exitCode : Int) : Option VM → Option VM := Option.map (VM.halt exitCode)

/-- `Destroy`. -/
def destroyVM (_ : Option VM) : Option VM := none

def exitVM (phase : VMPhase) (exitCode : Int) : Option VM → Option VM :=
  Option.map fun vm => { vm with phase := phase, exitCode := exitCode }

@[simp]
theorem effective_none : effective none = true := rfl

@[simp]
theorem VMTable.call_other {id other : String} (hother : other ≠ id) (vms : VMTable)
    (change : Option VM → Option VM) (fault : Option Fault) :
    vms.call id change fault other = vms other := by
  unfold VMTable.call
  split
  · exact Function.update_of_ne hother _ _
  · rfl

theorem VMTable.call_self (vms : VMTable) (id : String) (change : Option VM → Option VM)
    (fault : Option Fault) : vms.call id change fault id =
      if effective fault then change (vms id) else vms id := by
  unfold VMTable.call
  split
  · exact Function.update_self _ _ _
  · rfl

@[simp]
theorem VM.boot_inst (now : Nat) (vm : VM) : (vm.boot now).inst = vm.inst := by
  unfold VM.boot
  split <;> rfl

@[simp]
theorem VM.boot_addr (now : Nat) (vm : VM) : (vm.boot now).addr = vm.addr := by
  unfold VM.boot
  split <;> rfl

@[simp]
theorem VM.halt_inst (exitCode : Int) (vm : VM) : (vm.halt exitCode).inst = vm.inst := by
  unfold VM.halt
  split <;> rfl

@[simp]
theorem VM.halt_addr (exitCode : Int) (vm : VM) : (vm.halt exitCode).addr = vm.addr := by
  unfold VM.halt
  split <;> rfl

/-- The change keeps the instance and the address of a micro-VM, and makes none. -/
def Preserves (change : Option VM → Option VM) : Prop :=
  ∀ found vm', change found = some vm' → ∃ vm, found = some vm ∧
    vm'.inst = vm.inst ∧ vm'.addr = vm.addr

theorem startVM_preserves (now : Nat) : Preserves (startVM now) := by
  intro found vm' h
  obtain ⟨vm, hvm, rfl⟩ := Option.map_eq_some_iff.mp h
  exact ⟨vm, hvm, by simp, by simp⟩

theorem stopVM_preserves (exitCode : Int) : Preserves (stopVM exitCode) := by
  intro found vm' h
  obtain ⟨vm, hvm, rfl⟩ := Option.map_eq_some_iff.mp h
  exact ⟨vm, hvm, by simp, by simp⟩

theorem exitVM_preserves (phase : VMPhase) (exitCode : Int) :
    Preserves (exitVM phase exitCode) := by
  intro found vm' h
  obtain ⟨vm, hvm, rfl⟩ := Option.map_eq_some_iff.mp h
  exact ⟨vm, hvm, rfl, rfl⟩

theorem destroyVM_preserves : Preserves destroyVM := by
  intro found vm' h
  cases h

end MacVz
