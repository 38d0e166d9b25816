/-
The steps of the provider.  Of each call and task, one function says what a step
does to the shared state and another where the task goes next, so that what
holds of the state can be read off without following the control flow.
-/
import MacVz.Interleaving
import MacVz.ProviderState

namespace MacVz

open Interleaving

/-- `vmIPPollAttempts`. -/
def vmIPPollAttempts : Nat := 20

/-- The Pod network after `Attach` or `Detach` of a key. -/
def netCall (net : String → Option Mapping) (key : String) (mapping : Option Mapping)
    (fault : Option Fault) : String → Option Mapping :=
  if effective fault then Function.update net key mapping else net

/-- The Pod network after `Detach` of a Pod that was attached. -/
def detachCall (s : Sys) (attached : Bool) (key : String) (fault : Option Fault) :
    String → Option Mapping :=
  if attached ∧ s.podNet then netCall s.net key none fault else s.net

/-- The error of `Start`, which needs a micro-VM to boot. -/
def startError (vms : VMTable) (id : String) (fault : Option Fault) : Option RuntimeError :=
  match fault, vms id with
  | some fault, _ => some fault.error
  | none, some _ => none
  | none, none => some (.notFound ("start " ++ id))

/-- The error of `Create`, which needs a name and an image. -/
def createError (spec : ContainerSpec) (fault : Option Fault) : Option RuntimeError :=
  if spec.name = "" then some (.other "create" "spec.Name is required")
  else if spec.image = "" then
    some (.other "create" ("spec.Image is required for \"" ++ spec.name ++ "\""))
  else fault.map Fault.error

/-- The runtime after `Create`: a spec without name or image changes nothing. -/
def createCall (s : Sys) (spec : ContainerSpec) (o : Outcome) : VMTable :=
  if spec.name = "" ∨ spec.image = "" then s.vms
  else s.vms.call spec.name (createVM s.nextInst o.addr) o.fault

/-- One poll of `observeVMIPByID`: the address, if it is there. -/
def pollVMIP (vms : VMTable) (id : String) (o : Outcome) : Option String :=
  match vms.status id o.status with
  | .ok rs => if rs.ip = "" then none else some rs.ip
  | .error _ => none

/-- The last look for the address, or the caller has gone. -/
def lastPoll (polls : Nat) (o : Outcome) : Bool :=
  polls + 1 = vmIPPollAttempts || o.giveUp

def Pod.firstContainer (pod : Pod) : String := (pod.containers.head?.map Container.name).getD ""

def RestartTask.begin (key : String) (inc : Nat) (launch : Launch) : RestartTask where
  pc := .waiting
  key := key
  oldID := launch.oldID
  backoff := launch.backoff
  inc := inc
  spec := ⟨"", ""⟩
  podIP := ""
  wasAttached := false
  newID := ""
  inst := none
  polls := 0
  vmIP := ""
  attached := false

def Prober.begin (st : PodState) (c : Container) (arm : Nat) (kind : ProbeKind)
    (probe : Probe) : Prober where
  pc := .start
  key := st.pod.key
  container := c
  probe := probe
  kind := kind
  host := st.status.podIP
  arm := arm
  inc := st.inc
  successes := 0
  failures := 0

def launchProbers (st : PodState) (c : Container) (arm : Nat) : List Prober :=
  (c.startupProbe.map (Prober.begin st c arm .startup)).toList ++
    (c.readinessProbe.map (Prober.begin st c arm .readiness)).toList ++
    (c.livenessProbe.map (Prober.begin st c arm .liveness)).toList

def ProbeState.begin (c : Container) (arm : Nat) (inst : Option Nat) : ProbeState where
  hasStartup := c.startupProbe.isSome
  hasReadiness := c.readinessProbe.isSome
  hasLiveness := c.livenessProbe.isSome
  startupDone := c.startupProbe.isNone
  ready := false
  arm := arm
  inst := inst

/-- `startProbes`: nothing for a container that declares no probe. -/
def startProbes (st : PodState) (arm : Nat) (inst : Option Nat) : PodState × List Prober :=
  match st.pod.containers with
  | [] => (st, [])
  | c :: _ =>
    if c.startupProbe = none ∧ c.readinessProbe = none ∧ c.livenessProbe = none then
      (st, [])
    else ({ st with probes := some (ProbeState.begin c arm inst) }, launchProbers st c arm)

/-- `stopProbes` on the state of the Pod. -/
def PodState.withoutProbes (st : PodState) : PodState := { st with probes := none }

/-- `stopProbes` on the contexts: the one of the current probers ends. -/
def cancelProbes (st : PodState) (cancelled : Nat → Bool) : Nat → Bool :=
  match st.probes with
  | some ps => Function.update cancelled ps.arm true
  | none => cancelled

/-- Store a new state of a tracked Pod, with the restart tasks it launches. -/
def Sys.store (s : Sys) (key : String) (st : PodState) (launched : List Launch) : Sys :=
  { s with
    pods := Function.update s.pods key (some st)
    restarts := s.restarts ++ launched.map (RestartTask.begin key st.inc) }

/-- `reconcileStatus` of a tracked Pod, its status stored. -/
def Sys.read (s : Sys) (st : PodState) (o : Outcome) : PodState × List Launch :=
  let result := reconcileStatus s.hostIP s.restartBackoffBase
    (fun id => s.vms.status id o.status) st
  ({ result.2.1 with status := result.1 }, result.2.2)

/-- What a locked section does to a tracked Pod: its new state, the restart tasks
and probers it launches, and whether it stops the probers that run. -/
structure Update where
  st : PodState
  launched : List Launch
  probers : List Prober
  stopped : Bool

def Update.only (st : PodState) : Update := ⟨st, [], [], false⟩

/-- A locked section about one key; without a tracked Pod it does nothing. -/
def Sys.locked (s : Sys) (key : String) (f : PodState → Update) : Sys :=
  match s.pods key with
  | none => s
  | some st =>
    { s with
      pods := Function.update s.pods key (some (f st).st)
      restarts := s.restarts ++ (f st).launched.map (RestartTask.begin key st.inc)
      probers := s.probers ++ (f st).probers
      cancelled := if (f st).stopped then cancelProbes st s.cancelled else s.cancelled
      nextArm := s.nextArm + 1 }

/-- `allocateIP`: no address when there is no allocator. -/
def allocateIP (ipam : Option PodIPAM) (key : String) :
    Except IPAMError (String × Option PodIPAM) :=
  match ipam with
  | none => .ok ("", none)
  | some a => (a.allocate key).map fun result => (result.1, some result.2)

/-- The allocator after `allocateIP`. -/
def afterAllocate (ipam : Option PodIPAM) (key : String) : Option PodIPAM :=
  match allocateIP ipam key with
  | .ok (_, ipam) => ipam
  | .error _ => ipam

/-- `hasAllocatedIP`. -/
def hasAllocatedIP (ipam : Option PodIPAM) (key : String) : Bool :=
  ipam.any fun a => a.ip key ≠ ""

/-- `releaseIP`. -/
def releaseIP (ipam : Option PodIPAM) (key : String) : Option PodIPAM :=
  ipam.map fun a => a.release key

/-- A call of `CreatePod` at its start. -/
def CreateCall.begin (pod : Pod) : CreateCall where
  pc := .check
  pod := pod
  inc := 0
  spec := ⟨"", ""⟩
  hadPodIP := false
  podIP := ""
  startTime := 0
  workloads := []
  adopted := false
  polls := 0
  vmIP := ""
  attached := false
  err := none

def CreateCall.id (c : CreateCall) : String := (c.workloads.head?.map Workload.id).getD ""

/-- The state `CreatePod` stores. -/
def CreateCall.state (c : CreateCall) : PodState where
  inc := c.inc
  pod := c.pod
  status := { c.pod.status with startTime := some c.startTime, podIP := c.podIP }
  workloads := c.workloads
  terminalStatus := none
  vmIP := c.vmIP
  attached := c.attached
  spec := c.spec
  restartPolicy := effectiveRestartPolicy c.pod
  restarts := fun _ => 0
  restarting := false
  probes := none

/-- The status `markTerminalFailure` stores. -/
def terminalFailureStatus (reason message : String) (now : Nat) : PodStatus :=
  { PodStatus.empty with
    phase := .failed
    reason := reason
    message := message
    startTime := some now
    conditions := [⟨.initialized, false, reason, ""⟩, ⟨.ready, false, reason, ""⟩,
      ⟨.containersReady, false, reason, ""⟩] }

/-- The state `markTerminalFailure` stores. -/
def CreateCall.terminalState (c : CreateCall) (reason message : String) (now : Nat) :
    PodState where
  inc := c.inc
  pod := c.pod
  status := terminalFailureStatus reason message now
  workloads := []
  terminalStatus := some (terminalFailureStatus reason message now)
  vmIP := ""
  attached := false
  spec := ⟨"", ""⟩
  restartPolicy := .unset
  restarts := fun _ => 0
  restarting := false
  probes := none

/-- The state stored at the end of `CreatePod`, its status read and its probers
armed if it runs, with the probers. -/
def CreateCall.committed (c : CreateCall) (s : Sys) (o : Outcome) : PodState × List Prober :=
  let read := (s.read c.state o).1
  if read.status.phase = .running then
    startProbes read s.nextArm ((s.vms c.id).map VM.inst)
  else (read, [])

/-- The locked section at the end of `CreatePod`. -/
def Sys.commitPod (s : Sys) (c : CreateCall) (o : Outcome) : Sys :=
  { s.store c.pod.key (c.committed s o).1 (s.read c.state o).2 with
    probers := s.probers ++ (c.committed s o).2
    nextArm := s.nextArm + 1 }

/-- What one step of `CreatePod` does to the shared state. -/
def createEffect (s : Sys) (c : CreateCall) (o : Outcome) : Sys :=
  match c.pc with
  | .check => { s with nextInc := s.nextInc + 1 }
  | .allocate => { s with ipam := afterAllocate s.ipam c.pod.key }
  | .startAdopted => { s with vms := s.vms.call c.id (startVM o.now) o.fault }
  | .create =>
    { s with
      vms := createCall s c.spec o
      nextInst := s.nextInst + 1 }
  | .start => { s with vms := s.vms.call c.id (startVM o.now) o.fault }
  | .attach => { s with net := netCall s.net c.pod.key (some ⟨c.podIP, c.vmIP⟩) o.fault }
  | .commit => s.commitPod c o
  | .terminal reason message => s.store c.pod.key (c.terminalState reason message o.now) []
  | .rollback (w :: _) => { s with vms := s.vms.call w.id destroyVM o.fault }
  | .release => { s with ipam := releaseIP s.ipam c.pod.key }
  | _ => s

/-- The end of `CreatePod`: an address assigned by this call and not committed
is released. -/
def CreateCall.leave (c : CreateCall) : CreateCall :=
  if c.podIP ≠ "" ∧ c.hadPodIP = false then { c with pc := .release }
  else { c with pc := .done }

def CreateCall.failWith (c : CreateCall) (e : CreateError) : CreateCall :=
  { c with err := some e }.leave

/-- Return an error after the workloads of this call were destroyed. -/
def CreateCall.rollBack (c : CreateCall) (e : CreateError) : CreateCall :=
  { c with pc := .rollback c.workloads, err := some e }

/-- `unwindCreate`: an adopted micro-VM stays. -/
def CreateCall.unwind (c : CreateCall) (e : CreateError) : CreateCall :=
  if c.adopted then c.failWith e else c.rollBack e

/-- On to the network path, if there is one and the Pod has an address. -/
def CreateCall.toNetwork (c : CreateCall) (podNet : Bool) : CreateCall :=
  if podNet ∧ c.podIP ≠ "" then { c with pc := .observe } else { c with pc := .commit }

def CreateCall.pullMessage (c : CreateCall) (e : RuntimeError) : String :=
  "pull image \"" ++ c.spec.image ++ "\" for container \"" ++ c.pod.firstContainer ++
    "\": " ++ e.text

/-- Where `CreatePod` goes after one step. -/
def createNext (s : Sys) (c : CreateCall) (o : Outcome) : CreateCall :=
  match c.pc with
  | .check =>
    if (s.pods c.pod.key).isSome then { c with pc := .done }
    else { c with pc := .translate, inc := s.nextInc }
  | .translate =>
    match translatePod c.pod o.resolved with
    | .error (.unsupported message) => { c with pc := .terminal "UnsupportedPodSpec" message }
    | .error e => c.failWith (.configurationNotReady c.pod.key e.text)
    | .ok (_, spec) => { c with pc := .volumeDirs, spec := spec }
  | .volumeDirs =>
    match o.fault with
    | some fault => c.failWith (.prepareVolumes c.pod.key fault.error)
    | none => { c with pc := .configFiles }
  | .configFiles =>
    match o.fault with
    | some fault => c.failWith (.materializeConfigMaps c.pod.key fault.error)
    | none => { c with pc := .hadIP }
  | .hadIP => { c with pc := .allocate, hadPodIP := hasAllocatedIP s.ipam c.pod.key }
  | .allocate =>
    match allocateIP s.ipam c.pod.key with
    | .ok (ip, _) => { c with pc := .lookup, podIP := ip, startTime := o.now }
    | .error e => c.failWith (.allocateIP c.pod.key e)
  | .lookup =>
    match s.vms.status c.spec.name o.status with
    | .ok rs =>
      let adopting : CreateCall :=
        { c with adopted := true, workloads := [⟨c.pod.firstContainer, rs.id⟩] }
      if rs.phase = .created then { adopting with pc := .startAdopted }
      else adopting.toNetwork s.podNet
    | .error _ => { c with pc := .credentials }
  | .startAdopted =>
    match startError s.vms c.id o.fault with
    | some e => c.failWith (.startRecovered c.pod.firstContainer e)
    | none => c.toNetwork s.podNet
  | .credentials =>
    match o.fault with
    | some fault => c.failWith (.pullCredentials c.pod.key fault.error)
    | none => { c with pc := .pull }
  | .pull =>
    match o.fault with
    | some fault =>
      if fault.error.isIncompatibleArch then
        { c with pc := .terminal "ImageArchitectureMismatch" (c.pullMessage fault.error) }
      else c.failWith (.pull c.spec.image c.pod.firstContainer fault.error)
    | none => { c with pc := .create }
  | .create =>
    match createError c.spec o.fault with
    | some e => c.rollBack (.create c.pod.firstContainer e)
    | none => { c with pc := .start, workloads := [⟨c.pod.firstContainer, c.spec.name⟩] }
  | .start =>
    match startError s.vms c.id o.fault with
    | some e => c.rollBack (.start c.pod.firstContainer e)
    | none => c.toNetwork s.podNet
  | .observe =>
    match pollVMIP s.vms c.id o with
    | some ip => { c with pc := .attach, vmIP := ip }
    | none =>
      if lastPoll c.polls o then c.unwind (.addressNotAvailable c.pod.key)
      else { c with polls := c.polls + 1 }
  | .attach =>
    match o.fault with
    | some fault => c.unwind (.attach c.pod.key c.podIP c.vmIP fault.error)
    | none => { c with pc := .commit, attached := true }
  | .commit => { c with pc := .done }
  | .terminal _ _ => c.leave
  | .rollback (_ :: remaining) => { c with pc := .rollback remaining }
  | .rollback [] => c.leave
  | .release => { c with pc := .done }
  | .done => c

/-- One step of `CreatePod`. -/
def createStep (s : Sys) (c : CreateCall) (o : Outcome) : Sys :=
  if (createNext s c o).pc = .done then
    { createEffect s c o with
      creating := none
      returned := .created c.pod.key (createNext s c o).err :: s.returned }
  else { createEffect s c o with creating := some (createNext s c o) }

/-- The locked section of `DeletePod`: the probers are stopped and the Pod is
dropped; an unknown Pod is reported as NotFound. -/
def Sys.beginDelete (s : Sys) (pod : Pod) : Sys :=
  match s.pods pod.key with
  | none => { s with returned := .deleted pod.key false :: s.returned }
  | some st =>
    { s with
      pods := Function.update s.pods pod.key none
      cancelled := cancelProbes st s.cancelled
      deletes := s.deletes ++ [⟨.detach, pod.key, st.withoutProbes⟩] }

/-- What one step of `DeletePod` does to the shared state. -/
def deleteEffect (s : Sys) (d : DeleteCall) (o : Outcome) : Sys :=
  match d.pc with
  | .detach => { s with net := detachCall s d.st.attached d.key o.fault }
  | .release => { s with ipam := releaseIP s.ipam d.key }
  | .stop (w :: _) => { s with vms := s.vms.call w.id (stopVM o.exitCode) o.fault }
  | .stop [] => { s with returned := .deleted d.key true :: s.returned }
  | .destroy w _ => { s with vms := s.vms.call w.id destroyVM o.fault }

/-- Where `DeletePod` goes after one step. -/
def deleteNext (d : DeleteCall) : Option DeleteCall :=
  match d.pc with
  | .detach => some { d with pc := .release }
  | .release => some { d with pc := .stop d.st.workloads }
  | .stop (w :: remaining) => some { d with pc := .destroy w remaining }
  | .stop [] => none
  | .destroy _ remaining => some { d with pc := .stop remaining }

def PodState.idle (st : PodState) : PodState := { st with restarting := false }

/-- The new workload takes the place of the old one. -/
def RestartTask.swapIn (t : RestartTask) (st : PodState) : PodState :=
  { st with
    restarting := false
    workloads := st.workloads.map fun w => if w.id = t.oldID then { w with id := t.newID } else w
    restarts := match st.pod.containers with
      | [] => st.restarts
      | c :: _ => Function.update st.restarts c.name (wrap32 (st.restarts c.name + 1))
    vmIP := t.vmIP
    attached := t.attached }

/-- The state at the end of a restart of a Pod that is still tracked, with fresh
probers if there is a new workload. -/
def RestartTask.finished (t : RestartTask) (s : Sys) (st : PodState) :
    PodState × List Prober :=
  if t.newID = "" then (st.idle, [])
  else startProbes (t.swapIn st) s.nextArm t.inst

/-- The snapshot a restart takes once its delay is over: a terminal Pod is left
alone, and the probers of the dying workload are stopped. -/
def snapshotUpdate (st : PodState) : Update :=
  if st.terminalStatus.isSome then .only st.idle
  else { Update.only st.withoutProbes with stopped := true }

/-- The locked section of `finishRestart`. -/
def RestartTask.finishUpdate (t : RestartTask) (s : Sys) (st : PodState) : Update :=
  { Update.only (t.finished s st).1 with probers := (t.finished s st).2 }

/-- What a step of `restartWorkload` does to the provider. -/
def restartEffect (s : Sys) (t : RestartTask) (o : Outcome) : Sys :=
  match t.pc with
  | .waiting => s.locked t.key snapshotUpdate
  | .detach => { s with net := detachCall s t.wasAttached t.key o.fault }
  | .stop => { s with vms := s.vms.call t.oldID (stopVM o.exitCode) o.fault }
  | .destroy => { s with vms := s.vms.call t.oldID destroyVM o.fault }
  | .create =>
    { s with
      vms := createCall s t.spec o
      nextInst := s.nextInst + 1 }
  | .start => { s with vms := s.vms.call t.newID (startVM o.now) o.fault }
  | .destroyHalf => { s with vms := s.vms.call t.newID destroyVM o.fault }
  | .observe => s
  | .attach => { s with net := netCall s.net t.key (some ⟨t.podIP, t.vmIP⟩) o.fault }
  | .finish => s.locked t.key (t.finishUpdate s)
  | .orphan => { s with vms := s.vms.call t.newID destroyVM o.fault }

def RestartTask.giveUp (t : RestartTask) : RestartTask :=
  { t with pc := .finish, newID := "", vmIP := "", attached := false }

/-- Where `restartWorkload` goes on. -/
def restartNext (s : Sys) (t : RestartTask) (o : Outcome) : Option RestartTask :=
  match t.pc with
  | .waiting =>
    match s.pods t.key with
    | none => none
    | some st =>
      if st.terminalStatus.isSome then none
      else some { t with
        pc := .detach
        spec := st.spec
        podIP := st.status.podIP
        wasAttached := st.attached }
  | .detach => some { t with pc := .stop }
  | .stop => some { t with pc := .destroy }
  | .destroy => some { t with pc := .create }
  | .create =>
    match createError t.spec o.fault with
    | some _ => some t.giveUp
    | none => some { t with
        pc := .start
        newID := t.spec.name
        inst := (createVM s.nextInst o.addr (s.vms t.spec.name)).map VM.inst }
  | .start =>
    match startError s.vms t.newID o.fault with
    | some _ => some { t with pc := .destroyHalf }
    | none =>
      if s.podNet ∧ t.podIP ≠ "" then some { t with pc := .observe }
      else some { t with pc := .finish }
  | .destroyHalf => some t.giveUp
  | .observe =>
    match pollVMIP s.vms t.newID o with
    | some ip => some { t with pc := .attach, vmIP := ip }
    | none =>
      if lastPoll t.polls o then some { t with pc := .finish }
      else some { t with polls := t.polls + 1 }
  | .attach =>
    match o.fault with
    | some _ => some { t with pc := .finish, vmIP := "" }
    | none => some { t with pc := .finish, attached := true }
  | .finish =>
    match s.pods t.key with
    | none => if t.newID = "" then none else some { t with pc := .orphan }
    | some _ => none
  | .orphan => none

/-- `orDefault`. -/
def orDefault (v default : Int) : Int := if v ≤ 0 then default else v

def Prober.successThreshold (p : Prober) : Int :=
  if p.kind = .readiness then orDefault p.probe.successThreshold 1 else 1

def Prober.failureThreshold (p : Prober) : Int := orDefault p.probe.failureThreshold 3

/-- `sleepCtx`: a cancelled context ends the sleep, unless the timer was first. -/
def Prober.wakes (p : Prober) (s : Sys) (seconds : Int) (o : Outcome) : Bool :=
  if s.cancelled p.arm then 0 < seconds && !o.giveUp else true

/-- The instance an attempt meets and its result: a command runs in a micro-VM
that is up, a dialed address is answered by whoever is there. -/
def attemptAt (s : Sys) (o : Outcome) : ProbePC → Option (Option Nat × Bool)
  | .exec id => some ((s.vms id).map VM.inst,
      o.fault.isNone && (s.vms id).any fun vm => vm.phase = .running)
  | .dial _ => some ((o.responder.bind s.vms).map VM.inst, o.fault.isNone)
  | _ => none

def Prober.record (p : Prober) (s : Sys) (o : Outcome) : List Attempt :=
  ((attemptAt s o p.pc).map fun met => ⟨p.arm, p.kind, met.1, met.2⟩).toList

def Prober.addr (p : Prober) (host : String) : String := if host = "" then p.host else host

/-- `currentWorkloadID`. -/
def currentWorkloadID (s : Sys) (key container : String) : Option String :=
  (s.pods key).bind fun st =>
    (st.workloads.find? fun w => w.container = container && w.id ≠ "").map Workload.id

/-- `hasStartupProbe`. -/
def hasStartupProbe (s : Sys) (key : String) : Bool :=
  (s.pods key).any fun st => st.probes.any ProbeState.hasStartup

/-- `startupDone`. -/
def startupDone (s : Sys) (key : String) : Bool :=
  (s.pods key).any fun st => st.probes.all ProbeState.startupDone

/-- `setStartupDone` and `setReady`: they write into whatever probe state the
key has. -/
def setProbeUpdate (f : ProbeState → ProbeState) (st : PodState) : Update :=
  .only { st with probes := st.probes.map f }

def ProbeState.setStartupDone (ps : ProbeState) : ProbeState := { ps with startupDone := true }

def ProbeState.setReady (ready : Bool) (ps : ProbeState) : ProbeState := { ps with ready := ready }

/-- The status of a Pod killed by a probe under restartPolicy Never. -/
def probeFailureStatus (st : PodState) (id : String) : PodStatus where
  phase := .failed
  reason := "ProbeFailure"
  message := "container failed its liveness/startup probe"
  startTime := st.status.startTime
  podIP := st.status.podIP
  podIPs := st.status.podIPs
  hostIP := st.status.hostIP
  hostIPs := st.status.hostIPs
  containerStatuses := [terminatedStatus (st.pod.containers.head?.getD
    ⟨"", "", none, none, none, []⟩)
    id 137 "ProbeFailure" "container failed its liveness/startup probe"]
  conditions := [⟨.initialized, true, "", ""⟩, ⟨.containersReady, false, "ProbeFailure", ""⟩,
    ⟨.ready, false, "ProbeFailure", ""⟩]

def Prober.workload (p : Prober) (st : PodState) : String :=
  ((workloadOf st.workloads p.container.name).map Workload.id).getD ""

/-- The locked section of `failProbe`: a terminal Pod is left alone; under a
policy that restarts a restart is asked for, under Never the failure is final. -/
def Prober.failUpdate (p : Prober) (base : Int) (st : PodState) : Update :=
  if st.terminalStatus.isSome then .only st
  else
    match maybeTriggerRestart base st p.container.name (p.workload st) 1 with
    | (true, st', launched) => { Update.only st' with launched := launched }
    | (false, _, _) =>
      { Update.only { st.withoutProbes with
          terminalStatus := some (probeFailureStatus st (p.workload st))
          status := probeFailureStatus st (p.workload st) } with
        stopped := true }

/-- Where `failProbe` goes after its locked section. -/
def failProbeNext (s : Sys) (p : Prober) : Option Prober :=
  match s.pods p.key with
  | none => none
  | some st =>
    if st.terminalStatus.isSome then none
    else if shouldRestart st.restartPolicy 1 then none
    else some { p with pc := .stop (p.workload st) }

/-- The counters after an attempt. -/
def Prober.count (p : Prober) (ok : Bool) : Prober :=
  if ok then { p with successes := wrap32 (p.successes + 1), failures := 0 }
  else { p with successes := 0, failures := wrap32 (p.failures + 1) }

/-- What `runProbe` does about the result of an attempt. -/
def Prober.actUpdate (p : Prober) (base : Int) (ok : Bool) (st : PodState) : Update :=
  if ok then
    if p.successThreshold ≤ p.successes then
      match p.kind with
      | .startup => setProbeUpdate ProbeState.setStartupDone st
      | .readiness => setProbeUpdate (ProbeState.setReady true) st
      | .liveness => .only st
    else .only st
  else if p.failureThreshold ≤ p.failures then
    match p.kind with
    | .readiness => setProbeUpdate (ProbeState.setReady false) st
    | _ => p.failUpdate base st
  else .only st

def actNext (s : Sys) (p : Prober) (ok : Bool) : Option Prober :=
  if ok then
    if p.successThreshold ≤ p.successes ∧ p.kind = .startup then none
    else some { p with pc := .sleep }
  else if p.failureThreshold ≤ p.failures ∧ p.kind ≠ .readiness then failProbeNext s p
  else some { p with pc := .sleep }

/-- What a step of `runProbe` does to the provider. -/
def probeEffect (s : Sys) (p : Prober) (o : Outcome) : Sys :=
  match p.pc with
  | .start =>
    if p.probe.action = .unsupported ∧ p.kind = .startup then
      s.locked p.key (setProbeUpdate ProbeState.setStartupDone)
    else s
  | .exec _ | .dial _ => { s with attempts := p.record s o ++ s.attempts }
  | .act ok => s.locked p.key ((p.count ok).actUpdate s.restartBackoffBase ok)
  | .stop id => { s with vms := s.vms.call id (stopVM o.exitCode) o.fault }
  | .destroy id => { s with vms := s.vms.call id destroyVM o.fault }
  | _ => s

/-- Where `runProbe` goes on. -/
def probeNext (s : Sys) (p : Prober) (o : Outcome) : Option Prober :=
  match p.pc with
  | .start => if p.probe.action = .unsupported then none else some { p with pc := .delay }
  | .delay =>
    if p.wakes s p.probe.initialDelaySeconds o then some { p with pc := .gateDeclared }
    else none
  | .gateDeclared =>
    if p.kind ≠ .startup ∧ hasStartupProbe s p.key then some { p with pc := .gateDone }
    else some { p with pc := .resolve }
  | .gateDone =>
    if startupDone s p.key then some { p with pc := .resolve }
    else some { p with pc := .sleep }
  | .resolve =>
    match p.probe.action with
    | .exec _ =>
      match currentWorkloadID s p.key p.container.name with
      | some id => some { p with pc := .exec id }
      | none => some { p with pc := .act false }
    | .httpGet host _ => some { p with pc := .dial (p.addr host) }
    | .tcpSocket host => some { p with pc := .dial (p.addr host) }
    | .unsupported => none
  | .exec _ | .dial _ => (attemptAt s o p.pc).map fun met => { p with pc := .act met.2 }
  | .act ok => actNext s (p.count ok) ok
  | .sleep =>
    if p.wakes s (orDefault p.probe.periodSeconds 10) o then
      some { p with pc := .gateDeclared }
    else none
  | .stop id => some { p with pc := .destroy id }
  | .destroy _ => none

/-- `GetPodStatus`, and each turn of `GetPods`. -/
def Sys.readUpdate (s : Sys) (o : Outcome) (st : PodState) : Update :=
  { Update.only (s.read st o).1 with launched := (s.read st o).2 }

def Sys.runs (s : Sys) (id : String) : Bool := (s.vms id).any fun vm => vm.phase = .running

/-- Who takes the next step, and what it meets. -/
inductive Label where
  | createBegin (pod : Pod)
  | create (o : Outcome)
  | deleteBegin (pod : Pod)
  | delete (place : Nat) (o : Outcome)
  | restart (place : Nat) (o : Outcome)
  | probe (place : Nat) (o : Outcome)
  | status (key : String) (o : Outcome)
  | vmExit (id : String) (failed : Bool) (exitCode : Int)
  | vmLost (id : String)

/-- One step of one party; `none` when it is not enabled. -/
def step (s : Sys) : Label → Option Sys
  | .createBegin pod =>
    match s.creating with
    | none => some { s with creating := some (CreateCall.begin pod) }
    | some _ => none
  | .create o => s.creating.map fun c => createStep s c o
  | .deleteBegin pod => some (s.beginDelete pod)
  | .delete place o => (s.deletes[place]?).map fun d =>
    { deleteEffect s d o with deletes := advance s.deletes place (deleteNext d) }
  | .restart place o => (s.restarts[place]?).map fun t =>
    { restartEffect s t o with restarts := advance s.restarts place (restartNext s t o) }
  | .probe place o => (s.probers[place]?).map fun p =>
    { probeEffect s p o with probers := advance s.probers place (probeNext s p o) }
  | .status key o => some (s.locked key (s.readUpdate o))
  | .vmExit id failed exitCode =>
    if s.runs id then
      some { s with
        vms := s.vms.call id (exitVM (if failed then .failed else .stopped) exitCode) none }
    else none
  | .vmLost id => some { s with vms := s.vms.call id destroyVM none }

/-- The step relation, one case per label. -/
inductive Steps (s : Sys) : Label → Sys → Prop
  | createBegin (pod : Pod) : s.creating = none →
      Steps s (.createBegin pod) { s with creating := some (CreateCall.begin pod) }
  | create (c : CreateCall) (o : Outcome) : s.creating = some c →
      Steps s (.create o) (createStep s c o)
  | notFound (pod : Pod) : s.pods pod.key = none →
      Steps s (.deleteBegin pod) { s with returned := .deleted pod.key false :: s.returned }
  | deleteBegin (pod : Pod) (st : PodState) : s.pods pod.key = some st →
      Steps s (.deleteBegin pod) { s with
        pods := Function.update s.pods pod.key none
        cancelled := cancelProbes st s.cancelled
        deletes := s.deletes ++ [⟨.detach, pod.key, st.withoutProbes⟩] }
  | delete (place : Nat) (o : Outcome) (d : DeleteCall) : s.deletes[place]? = some d →
      Steps s (.delete place o)
        { deleteEffect s d o with deletes := advance s.deletes place (deleteNext d) }
  | restart (place : Nat) (o : Outcome) (t : RestartTask) : s.restarts[place]? = some t →
      Steps s (.restart place o)
        { restartEffect s t o with restarts := advance s.restarts place (restartNext s t o) }
  | probe (place : Nat) (o : Outcome) (p : Prober) : s.probers[place]? = some p →
      Steps s (.probe place o)
        { probeEffect s p o with probers := advance s.probers place (probeNext s p o) }
  | status (key : String) (o : Outcome) :
      Steps s (.status key o) (s.locked key (s.readUpdate o))
  | vmExit (id : String) (failed : Bool) (exitCode : Int) : s.runs id = true →
      Steps s (.vmExit id failed exitCode) { s with
        vms := s.vms.call id (exitVM (if failed then .failed else .stopped) exitCode) none }
  | vmLost (id : String) :
      Steps s (.vmLost id) { s with vms := s.vms.call id destroyVM none }

/-- The labels a step can have, and what each does. -/
theorem step_cases {s s' : Sys} {l : Label} (hstep : step s l = some s') : Steps s l s' := by
  cases l with
  | createBegin pod =>
    simp only [step] at hstep
    split at hstep
    · rename_i hfree
      obtain rfl := Option.some.inj hstep
      exact .createBegin pod hfree
    · cases hstep
  | create o =>
    obtain ⟨c, hc, rfl⟩ := Option.map_eq_some_iff.mp hstep
    exact .create c o hc
  | deleteBegin pod =>
    obtain rfl := Option.some.inj hstep
    unfold Sys.beginDelete
    split
    · rename_i hnone
      exact .notFound pod hnone
    · rename_i st hst
      exact .deleteBegin pod st hst
  | delete place o =>
    obtain ⟨d, hd, rfl⟩ := Option.map_eq_some_iff.mp hstep
    exact .delete place o d hd
  | restart place o =>
    obtain ⟨t, ht, rfl⟩ := Option.map_eq_some_iff.mp hstep
    exact .restart place o t ht
  | probe place o =>
    obtain ⟨p, hp, rfl⟩ := Option.map_eq_some_iff.mp hstep
    exact .probe place o p hp
  | status key o =>
    obtain rfl := Option.some.inj hstep
    exact .status key o
  | vmExit id failed exitCode =>
    simp only [step] at hstep
    split at hstep
    · rename_i hruns
      obtain rfl := Option.some.inj hstep
      exact .vmExit id failed exitCode hruns
    · cases hstep
  | vmLost id =>
    obtain rfl := Option.some.inj hstep
    exact .vmLost id

section CreateStep

variable (s : Sys) (c : CreateCall) (o : Outcome)

theorem createStep_frame {α : Type} (f : Sys → α)
    (hf : ∀ s call returned, f { s with creating := call, returned := returned } = f s) :
    f (createStep s c o) = f (createEffect s c o) := by
  unfold createStep
  split
  · exact hf (createEffect s c o) none _
  · exact hf (createEffect s c o) _ (createEffect s c o).returned

@[simp]
theorem createStep_podNet : (createStep s c o).podNet = (createEffect s c o).podNet :=
  createStep_frame s c o Sys.podNet fun _ _ _ => rfl

@[simp]
theorem createStep_pods : (createStep s c o).pods = (createEffect s c o).pods :=
  createStep_frame s c o Sys.pods fun _ _ _ => rfl

@[simp]
theorem createStep_ipam : (createStep s c o).ipam = (createEffect s c o).ipam :=
  createStep_frame s c o Sys.ipam fun _ _ _ => rfl

@[simp]
theorem createStep_net : (createStep s c o).net = (createEffect s c o).net :=
  createStep_frame s c o Sys.net fun _ _ _ => rfl

@[simp]
theorem createStep_vms : (createStep s c o).vms = (createEffect s c o).vms :=
  createStep_frame s c o Sys.vms fun _ _ _ => rfl

@[simp]
theorem createStep_deletes : (createStep s c o).deletes = (createEffect s c o).deletes :=
  createStep_frame s c o Sys.deletes fun _ _ _ => rfl

@[simp]
theorem createStep_restarts : (createStep s c o).restarts = (createEffect s c o).restarts :=
  createStep_frame s c o Sys.restarts fun _ _ _ => rfl

@[simp]
theorem createStep_probers : (createStep s c o).probers = (createEffect s c o).probers :=
  createStep_frame s c o Sys.probers fun _ _ _ => rfl

variable {s c o}

theorem createStep_goes {c' : CreateCall} (h : (createStep s c o).creating = some c') :
    c' = createNext s c o ∧ (createNext s c o).pc ≠ .done := by
  unfold createStep at h
  split at h
  · cases h
  · rename_i hgoes
    exact ⟨(Option.some.inj h).symm, hgoes⟩

theorem createStep_done (h : (createStep s c o).creating = none) :
    (createNext s c o).pc = .done := by
  unfold createStep at h
  split at h
  · assumption
  · cases h

end CreateStep

theorem createBegin_eq {s s' : Sys} {pod : Pod} (h : step s (.createBegin pod) = some s') :
    s.creating = none ∧ s' = { s with creating := some (CreateCall.begin pod) } := by
  cases step_cases h with
  | createBegin _ hfree => exact ⟨hfree, rfl⟩

end MacVz
