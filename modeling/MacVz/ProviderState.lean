/-
The provider and everything that runs beside it: the tracked Pods, the Pod
network, the address allocator and the runtime, together with the calls and
background tasks in flight.  `inc`, `arm` and `inst` fields and the log of probe
attempts are not part of the program; they tell incarnations, launches of
probers and micro-VM instances apart.
-/
import MacVz.PodIPAM
import MacVz.StatusReconcile

namespace MacVz

structure Mapping where
  podIP : String
  vmIP : String
deriving Repr, DecidableEq

/-- What `CreatePod` returns when it does not return nil. -/
inductive CreateError where
  | configurationNotReady (key cause : String)
  | prepareVolumes (key : String) (cause : RuntimeError)
  | materializeConfigMaps (key : String) (cause : RuntimeError)
  | allocateIP (key : String) (cause : IPAMError)
  | startRecovered (container : String) (cause : RuntimeError)
  | pullCredentials (key : String) (cause : RuntimeError)
  | pull (image container : String) (cause : RuntimeError)
  | create (container : String) (cause : RuntimeError)
  | start (container : String) (cause : RuntimeError)
  | addressNotAvailable (key : String)
  | attach (key podIP vmIP : String) (cause : RuntimeError)
deriving Repr, DecidableEq

/-- The places between the steps of `CreatePod`: one lock-protected section, one
allocator call, one network call or one runtime call each. -/
inductive CreatePC where
  | check
  | translate
  | volumeDirs
  | configFiles
  | hadIP
  | allocate
  | lookup
  | startAdopted
  | credentials
  | pull
  | create
  | start
  | observe
  | attach
  | commit
  | terminal (reason message : String)
  | rollback (remaining : List Workload)
  | release
  | done
deriving Repr, DecidableEq

/-- `CreatePod` in flight: it holds `createMu`. -/
structure CreateCall where
  pc : CreatePC
  pod : Pod
  inc : Nat
  spec : ContainerSpec
  hadPodIP : Bool
  podIP : String
  startTime : Nat
  workloads : List Workload
  adopted : Bool
  polls : Nat
  vmIP : String
  attached : Bool
  err : Option CreateError
deriving Repr, DecidableEq

/-- Where `DeletePod` stands. -/
inductive DeletePC where
  | detach
  | release
  | stop (remaining : List Workload)
  | destroy (w : Workload) (remaining : List Workload)
deriving Repr, DecidableEq

/-- `DeletePod` after the Pod was dropped from the store. -/
structure DeleteCall where
  pc : DeletePC
  key : String
  st : PodState

/-- Where `restartWorkload` stands. -/
inductive RestartPC where
  | waiting
  | detach
  | stop
  | destroy
  | create
  | start
  | destroyHalf
  | observe
  | attach
  | finish
  | orphan
deriving Repr, DecidableEq

/-- `restartWorkload` in flight. -/
structure RestartTask where
  pc : RestartPC
  key : String
  oldID : String
  backoff : Int
  inc : Nat
  spec : ContainerSpec
  podIP : String
  wasAttached : Bool
  newID : String
  inst : Option Nat
  polls : Nat
  vmIP : String
  attached : Bool
deriving Repr, DecidableEq

inductive ProbeKind where
  | startup
  | readiness
  | liveness
deriving Repr, DecidableEq

/-- Where `runProbe` stands. -/
inductive ProbePC where
  | start
  | delay
  | gateDeclared
  | gateDone
  | resolve
  | exec (id : String)
  | dial (addr : String)
  | act (ok : Bool)
  | sleep
  | stop (id : String)
  | destroy (id : String)
deriving Repr, DecidableEq

/-- `runProbe` in flight.  `host` is the Pod address when the prober was launched. -/
structure Prober where
  pc : ProbePC
  key : String
  container : Container
  probe : Probe
  kind : ProbeKind
  host : String
  arm : Nat
  inc : Nat
  successes : Int
  failures : Int
deriving Repr, DecidableEq

/-- One attempt of a probe: the launch it belongs to, the instance it met, and
its result. -/
structure Attempt where
  arm : Nat
  kind : ProbeKind
  inst : Option Nat
  ok : Bool
deriving Repr, DecidableEq

/-- What a call returned: `CreatePod` nil or an error, `DeletePod` nil or
NotFound. -/
inductive Returned where
  | created (key : String) (err : Option CreateError)
  | deleted (key : String) (found : Bool)
deriving Repr, DecidableEq

/-- The provider with its runtime: what it tracks, what it has handed out, and every call and task
under way. -/
structure Sys where
  podNet : Bool
  hostIP : String
  restartBackoffBase : Int
  pods : String → Option PodState
  ipam : Option PodIPAM
  net : String → Option Mapping
  vms : VMTable
  creating : Option CreateCall
  deletes : List DeleteCall
  restarts : List RestartTask
  probers : List Prober
  cancelled : Nat → Bool
  attempts : List Attempt
  returned : List Returned
  nextInc : Nat
  nextArm : Nat
  nextInst : Nat

/-- What lies outside the provider at one step: how the call ends, what the
runtime answers, the address a new guest acquires, the exit code of a stopped
one, the time, the resolution of the Pod's configuration, whether a context has
ended, and the workload that answers at the address a probe dials. -/
structure Outcome where
  fault : Option Fault
  status : StatusAnswer
  addr : String
  exitCode : Int
  now : Nat
  resolved : Except TranslateError Unit
  giveUp : Bool
  responder : Option String

def Outcome.ok : Outcome where
  fault := none
  status := .actual true
  addr := ""
  exitCode := 0
  now := 0
  resolved := .ok ()
  giveUp := false
  responder := none

/-- A provider that has just been started: no Pod tracked, nothing in flight.
The allocator may hold recovered reservations and the runtime micro-VMs of an
earlier process, with instance numbers below the next one. -/
def Sys.fresh (podNet : Bool) (hostIP : String) (base : Int) (ipam : Option PodIPAM)
    (vms : VMTable) (nextInst : Nat) : Sys where
  podNet := podNet
  hostIP := hostIP
  restartBackoffBase := base
  pods := fun _ => none
  ipam := ipam
  net := fun _ => none
  vms := vms
  creating := none
  deletes := []
  restarts := []
  probers := []
  cancelled := fun _ => false
  attempts := []
  returned := []
  nextInc := 0
  nextArm := 0
  nextInst := nextInst

end MacVz
