/-
The Pod as the provider tracks it: the parts of its spec the provider reads, with its volumes and
where a container mounts them, the status it reports, and the bookkeeping of the workload behind
it.
-/
import MacVz.RuntimeHost
import MacVz.WorkloadNaming

namespace MacVz

/-- `corev1.KeyToPath`. -/
structure KeyToPath where
  key : String
  path : String
  mode : Option Int
deriving Repr, DecidableEq

/-- The fields a ConfigMap and a Secret source share, in a volume of their own or
projected.  A projected source has no default mode. -/
structure KeyedSource where
  name : String
  items : List KeyToPath
  optional : Option Bool
deriving Repr, DecidableEq

/-- `corev1.DownwardAPIVolumeFile`; `fieldPath` is that of its `fieldRef`. -/
structure DownwardItem where
  path : String
  fieldPath : Option String
  mode : Option Int
deriving Repr, DecidableEq

/-- `corev1.VolumeProjection`: one of its fields is set. -/
inductive VolumeProjection where
  | serviceAccountToken (audience : String) (expirationSeconds : Option Int) (path : String)
  | configMap (src : KeyedSource)
  | secret (src : KeyedSource)
  | downwardAPI (items : List DownwardItem)
  | other
deriving Repr, DecidableEq

/-- `corev1.VolumeSource`: one of its fields is set. -/
inductive VolumeSource where
  | hostPath (path : String) (type : String)
  | emptyDir (memory : Bool)
  | configMap (src : KeyedSource) (defaultMode : Option Int)
  | secret (src : KeyedSource) (defaultMode : Option Int)
  | projected (sources : List VolumeProjection) (defaultMode : Option Int)
  | unsupported
deriving Repr, DecidableEq

/-- `corev1.Volume`. -/
structure Volume where
  name : String
  source : VolumeSource
deriving Repr, DecidableEq

/-- `corev1.VolumeMount`. -/
structure VolumeMount where
  name : String
  mountPath : String
  readOnly : Bool
  subPath : String
  subPathExpr : String
deriving Repr, DecidableEq

/-- `corev1.RestartPolicy` as a Pod may spell it. -/
inductive RestartPolicy where
  | unset
  | always
  | onFailure
  | never
  | unrecognized (value : String)
deriving Repr, DecidableEq

/-- The handlers `probeHandler` compiles, and any other one. -/
inductive ProbeAction where
  | exec (command : List String)
  | httpGet (host path : String)
  | tcpSocket (host : String)
  | unsupported
deriving Repr, DecidableEq

/-- `corev1.Probe`. -/
structure Probe where
  action : ProbeAction
  initialDelaySeconds : Int
  periodSeconds : Int
  timeoutSeconds : Int
  failureThreshold : Int
  successThreshold : Int
deriving Repr, DecidableEq

/-- `corev1.Container`, as far as the provider reads it. -/
structure Container where
  name : String
  image : String
  startupProbe : Option Probe
  readinessProbe : Option Probe
  livenessProbe : Option Probe
  volumeMounts : List VolumeMount
deriving Repr, DecidableEq

/-- `types.ContainerSpec`, as far as the provider and the model of the runtime
read it. -/
structure ContainerSpec where
  name : String
  image : String
deriving Repr, DecidableEq

/-- `corev1.PodPhase`. -/
inductive PodPhase where
  | pending
  | running
  | succeeded
  | failed
deriving Repr, DecidableEq

/-- `corev1.ContainerState`: one of its three fields is set. -/
inductive ContainerState where
  | waiting (reason message : String)
  | running (startedAt : Nat)
  | terminated (exitCode : Int) (reason message containerID : String)
deriving Repr, DecidableEq

/-- `corev1.ContainerStatus`. -/
structure ContainerStatus where
  name : String
  image : String
  imageID : String
  containerID : String
  state : ContainerState
  ready : Bool
  started : Option Bool
  restartCount : Int
deriving Repr, DecidableEq

inductive ConditionType where
  | initialized
  | containersReady
  | ready
deriving Repr, DecidableEq

/-- `corev1.PodCondition`. -/
structure PodCondition where
  type : ConditionType
  status : Bool
  reason : String
  message : String
deriving Repr, DecidableEq

/-- `corev1.PodStatus`. -/
structure PodStatus where
  phase : PodPhase
  reason : String
  message : String
  startTime : Option Nat
  podIP : String
  podIPs : List String
  hostIP : String
  hostIPs : List String
  containerStatuses : List ContainerStatus
  conditions : List PodCondition
deriving Repr, DecidableEq

/-- The status of a Pod that was never reported. -/
def PodStatus.empty : PodStatus where
  phase := .pending
  reason := ""
  message := ""
  startTime := none
  podIP := ""
  podIPs := []
  hostIP := ""
  hostIPs := []
  containerStatuses := []
  conditions := []

/-- `corev1.Pod`, as far as the provider reads it.  `securityReasons` is what
`securityContextReasons` finds to refuse, and `status` is the status recorded in
the API when the Pod arrives. -/
structure Pod where
  ns : String
  name : String
  uid : String
  labels : List (String × String)
  annotations : List (String × String)
  nodeName : String
  serviceAccountName : String
  volumes : List Volume
  containers : List Container
  initContainers : Nat
  ephemeralContainers : Nat
  restartPolicy : RestartPolicy
  securityReasons : List String
  hostNetwork : Bool
  hostPID : Bool
  hostIPC : Bool
  status : PodStatus
deriving Repr, DecidableEq

/-- `podKey`: the store key of a Pod. -/
def podKey (ns name : String) : String := ns ++ "/" ++ name

def Pod.key (pod : Pod) : String := podKey pod.ns pod.name

def Pod.workloadID (pod : Pod) (container : String) : String :=
  ContainerIdentity.workloadID ⟨pod.ns, pod.name, container⟩

/-- The status has the condition `PodReady` with value True. -/
def PodStatus.isReady (status : PodStatus) : Bool :=
  status.conditions.any fun c => c.type = .ready && c.status

/-- `workload`: a container bound to a runtime workload ID. -/
structure Workload where
  container : String
  id : String
deriving Repr, DecidableEq

/-- `probeState`.  `arm` identifies the launch of probers it belongs to, and so
their context; `inst` is the instance they were launched against. -/
structure ProbeState where
  hasStartup : Bool
  hasReadiness : Bool
  hasLiveness : Bool
  startupDone : Bool
  ready : Bool
  arm : Nat
  inst : Option Nat
deriving Repr, DecidableEq

/-- `podState`.  `status` is the status the provider maintains for the tracked
Pod, and `inc` tells the
incarnations created under one key apart. -/
structure PodState where
  inc : Nat
  pod : Pod
  status : PodStatus
  workloads : List Workload
  terminalStatus : Option PodStatus
  vmIP : String
  attached : Bool
  spec : ContainerSpec
  restartPolicy : RestartPolicy
  restarts : String → Int
  restarting : Bool
  probes : Option ProbeState

/-- A value of type `int32` after arithmetic. -/
def wrap32 (n : Int) : Int := Int.bmod n (2 ^ 32)

/-- `effectiveRestartPolicy`: an unset policy is Always. -/
def effectiveRestartPolicy (pod : Pod) : RestartPolicy :=
  if pod.restartPolicy = .unset then .always else pod.restartPolicy

/-- Why a Pod is not translated: configuration that is not there yet, or a shape
this node can never run. -/
inductive TranslateError where
  | configPending (message : String)
  | secretUnavailable (message : String)
  | unsupported (message : String)
deriving Repr, DecidableEq

def TranslateError.text : TranslateError → String
  | .configPending message => message
  | .secretUnavailable message => message
  | .unsupported message => message

def containerReasons (pod : Pod) : List String :=
  match pod.containers.length with
  | 0 => ["Pod has no containers"]
  | 1 => []
  | n => ["multi-container Pods are not supported yet (found " ++ toString n ++
      " containers; the MVP runs a single container)"]

def restartPolicyReasons : RestartPolicy → List String
  | .unrecognized value => ["restartPolicy \"" ++ value ++
      "\" is not a recognized value (use Always, OnFailure, or Never)"]
  | _ => []

/-- `unsupportedReasons`. -/
def unsupportedReasons (pod : Pod) : List String :=
  containerReasons pod ++
    (if 0 < pod.initContainers then
      ["init containers are not supported yet (found " ++
        toString pod.initContainers ++ ")"] else []) ++
    (if 0 < pod.ephemeralContainers then
      ["ephemeral containers are not supported yet (found " ++
        toString pod.ephemeralContainers ++ ")"] else []) ++
    restartPolicyReasons pod.restartPolicy ++ pod.securityReasons ++
    (if pod.hostNetwork then ["hostNetwork is not supported"] else []) ++
    (if pod.hostPID then ["hostPID is not supported"] else []) ++
    (if pod.hostIPC then ["hostIPC is not supported"] else [])

/-- `translatePod`; `resolved` is the outcome of resolving the Pod's volumes and
environment. -/
def translatePod (pod : Pod) (resolved : Except TranslateError Unit) :
    Except TranslateError (Container × ContainerSpec) :=
  match unsupportedReasons pod with
  | reason :: reasons =>
    .error (.unsupported ("unsupported Pod spec: " ++
      "; ".intercalate (reason :: reasons)))
  | [] =>
    match resolved, pod.containers with
    | .error e, _ => .error e
    | .ok (), c :: _ => .ok (c, ⟨pod.workloadID c.name, c.image⟩)
    | .ok (), [] => .error (.unsupported "unsupported Pod spec: Pod has no containers")

theorem translatePod_error {pod : Pod} {e : TranslateError} {result : Container × ContainerSpec} :
    translatePod pod (.error e) ≠ .ok result := by
  intro h
  unfold translatePod at h
  split at h <;> cases h

/-- A translated Pod has exactly one container, and its spec is named by the
workload ID of that container. -/
theorem translatePod_ok {pod : Pod} {resolved : Except TranslateError Unit} {c : Container}
    {spec : ContainerSpec} (h : translatePod pod resolved = .ok (c, spec)) :
    pod.containers = [c] ∧ spec.name = pod.workloadID c.name := by
  unfold translatePod at h
  split at h
  · cases h
  · rename_i hreasons
    have hcontainers : containerReasons pod = [] := by
      unfold unsupportedReasons at hreasons
      simp only [List.append_eq_nil_iff] at hreasons
      exact hreasons.1.1.1.1.1.1.1
    split at h
    · cases h
    · rename_i first rest hpod
      obtain ⟨rfl, hspec⟩ := Prod.mk.inj (Except.ok.inj h)
      refine And.intro ?_ (by rw [← hspec])
      unfold containerReasons at hcontainers
      rw [hpod] at hcontainers ⊢
      cases rest with
      | nil => rfl
      | cons second others => simp at hcontainers
    · cases h

end MacVz
