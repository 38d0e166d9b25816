/-
The packet-filter anchor of the Pod network path: the endpoints and Service
rules that are recorded, their validation, and the text that is rendered from
them and handed to `pfctl`.
-/
import MacVz.GoNet
import MacVz.GoPackages
import Mathlib.Data.Finmap
import Mathlib.Data.List.Sort
import Mathlib.Data.Prod.Lex
import Mathlib.Data.String.Basic

namespace MacVz

namespace Podnet

/-- A Pod's assigned IP bound to the host-only address of its micro-VM, on the
vmnet bridge that routes to it. -/
structure Endpoint where
  podKey : String
  podIP : String
  vmIP : String
  interface : String
deriving Repr, DecidableEq

/-- One ClusterIP port and the ready backends it is redirected to. -/
structure ServiceRule where
  serviceKey : String
  clusterIP : String
  protocol : String
  port : Int
  targetPort : Int
  backends : List String
deriving Repr, DecidableEq

/-- `Config`. -/
structure Config where
  interface : String
  meshInterface : String
  anchor : String
  enableForwarding : Bool
deriving Repr, DecidableEq

/-- `DefaultAnchor`. -/
def defaultAnchor : String := "macvz/pods"

/-- A failed command: its exit code and what it wrote to stderr. -/
structure CommandError where
  exitCode : Int
  stderr : String
deriving Repr, DecidableEq

/-- The errors of the router, each with the data its message names. -/
inductive Error where
  | noPodKey
  | invalidPodIP (podKey podIP : String)
  | invalidVMIP (podKey vmIP : String)
  | invalidInterface (podKey interface : String)
  | noServiceKey
  | invalidClusterIP (serviceKey clusterIP : String)
  | unsupportedProtocol (serviceKey protocol : String)
  | portOutOfRange (serviceKey : String) (port : Int)
  | targetPortOutOfRange (serviceKey : String) (targetPort : Int)
  | invalidBackend (serviceKey backend : String)
  | interfaceRequired
  | attachBeforeStart (podKey : String)
  | attachServiceWithoutKey
  | attachServiceBeforeStart (key : String)
  | enableForwarding (cause : CommandError)
  | enablePF (cause : CommandError)
  | removeDefaultRoute (iface : String) (cause : CommandError)
  | loadAnchor (anchor : String) (cause : CommandError)
  | beforeAttach (podKey : String) (cause : Error)
  | onInterfaceBeforeAttach (podKey : String) (cause : Error)
  | attach (ep : Endpoint) (cause : Error)
  | detach (podKey : String) (cause : Error)
  | attachService (key : String) (cause : Error)
  | detachService (key : String) (cause : Error)
deriving Repr, DecidableEq

/-- The interface check of `Endpoint.validate`: no blanks around the name. -/
def Endpoint.interfaceTrimmed (e : Endpoint) : Bool :=
  e.interface = "" || GoStrings.trimSpace e.interface.toList = e.interface.toList

/-- `Endpoint.validate`. -/
def Endpoint.validate (e : Endpoint) : Except Error Unit :=
  if e.podKey = "" then .error .noPodKey
  else if GoNet.parseIP e.podIP = none then
    .error (.invalidPodIP e.podKey e.podIP)
  else if GoNet.parseIP e.vmIP = none then
    .error (.invalidVMIP e.podKey e.vmIP)
  else if !e.interfaceTrimmed then
    .error (.invalidInterface e.podKey e.interface)
  else .ok ()

/-- `ServiceRule.validate`. -/
def ServiceRule.validate (r : ServiceRule) : Except Error Unit :=
  if r.serviceKey = "" then .error .noServiceKey
  else if GoNet.parseIP r.clusterIP = none then
    .error (.invalidClusterIP r.serviceKey r.clusterIP)
  else if r.protocol ≠ "tcp" ∧ r.protocol ≠ "udp" then
    .error (.unsupportedProtocol r.serviceKey r.protocol)
  else if r.port < 1 ∨ 65535 < r.port then
    .error (.portOutOfRange r.serviceKey r.port)
  else if r.targetPort < 1 ∨ 65535 < r.targetPort then
    .error (.targetPortOutOfRange r.serviceKey r.targetPort)
  else
    match r.backends.find? (fun b => GoNet.parseIP b = none) with
    | some b => .error (.invalidBackend r.serviceKey b)
    | none => .ok ()

/-- The validation loop of `AttachService`: the first invalid rule ends it, and
rules with no backend are left out. -/
def keepRules : List ServiceRule → Except Error (List ServiceRule)
  | [] => .ok []
  | r :: rest =>
    match r.validate with
    | .error e => .error e
    | .ok () =>
      match keepRules rest with
      | .error e => .error e
      | .ok kept => .ok (if r.backends = [] then kept else r :: kept)

/-- The rules kept are valid ones of those given, each with a backend. -/
theorem keepRules_spec {rules kept : List ServiceRule} (h : keepRules rules = .ok kept) :
    ∀ r ∈ kept, r ∈ rules ∧ r.validate = .ok () ∧ r.backends ≠ [] := by
  induction rules generalizing kept with
  | nil =>
    cases h
    simp
  | cons first rest ih =>
    unfold keepRules at h
    split at h
    · cases h
    · rename_i hvalid
      split at h
      · cases h
      · rename_i kept' hrest
        have hlater : ∀ r ∈ kept', r ∈ first :: rest ∧ r.validate = .ok () ∧ r.backends ≠ [] :=
          fun r hr => (ih hrest r hr).imp_left (List.mem_cons_of_mem _)
        cases h
        split
        · exact hlater
        · rename_i hbackends
          rw [List.forall_mem_cons]
          exact ⟨⟨List.mem_cons_self, hvalid, hbackends⟩, hlater⟩

/-- A set of interface names, sorted; the empty name is never a member. -/
def sortedInterfaces (names : List String) : List String :=
  ((names.filter (· ≠ "")).dedup).insertionSort (· ≤ ·)

/-- `endpointBinatInterfaces`. -/
def endpointBinatInterfaces (defaultIface meshIface : String) (ep : Endpoint) :
    List String :=
  sortedInterfaces
    [if ep.interface = "" then defaultIface else ep.interface, meshIface]

def binatLine (iface : String) (ep : Endpoint) : String :=
  "binat on " ++ iface ++ " from " ++ ep.vmIP ++ " to any -> " ++ ep.podIP ++ "\n"

def renderEndpoint (iface meshIface : String) (ep : Endpoint) : String :=
  "# " ++ ep.podKey ++ "\n" ++
    String.join ((endpointBinatInterfaces iface meshIface ep).map (binatLine · ep))

/-- The anchor body for endpoints that are already sorted by Pod key. -/
def renderAnchor (iface meshIface : String) (endpoints : List Endpoint) : String :=
  "# Managed by macvz (issue #22). Do not edit by hand.\n" ++
    String.join (endpoints.map (renderEndpoint iface meshIface))

/-- `vmipByPodIPLocked` over the endpoints in the order of one iteration: of
two endpoints with one Pod IP the later wins. -/
def vmipByPodIP (endpoints : List Endpoint) : String → Option String :=
  endpoints.foldl (fun m ep => Function.update m ep.podIP (some ep.vmIP))
    (fun _ => none)

def rdrLine (r : ServiceRule) (targets : List String) (iface : String) : String :=
  "rdr on " ++ iface ++ " inet proto " ++ r.protocol ++ " from any to " ++
    r.clusterIP ++ " port " ++ toString r.port ++ " -> " ++
    match targets with
    | [target] => target ++ " port " ++ toString r.targetPort ++ "\n"
    | targets => "\x7b " ++ ", ".intercalate targets ++ " \x7d port " ++
        toString r.targetPort ++ " round-robin\n"

/-- One rule: a backend on this node is reached at its micro-VM, any other one
at its Pod IP over the mesh. -/
def renderServiceRule (ifaces : List String) (vmip : String → Option String)
    (r : ServiceRule) : String :=
  let targets := (r.backends.map fun podIP => (vmip podIP).getD podIP).insertionSort
    (· ≤ ·)
  "# " ++ r.serviceKey ++ " " ++ r.clusterIP ++ ":" ++ toString r.port ++
    " -> :" ++ toString r.targetPort ++ "\n" ++
    String.join (ifaces.map (rdrLine r targets))

/-- The order of the rules of one Service: by ClusterIP, then by port. -/
def ServiceRule.less (a b : ServiceRule) : Bool :=
  if a.clusterIP ≠ b.clusterIP then a.clusterIP < b.clusterIP else a.port < b.port

theorem ServiceRule.less_eq_false_iff (a b : ServiceRule) : ServiceRule.less b a = false ↔
      toLex (a.clusterIP, a.port) ≤ toLex (b.clusterIP, b.port) := by
  simp only [ServiceRule.less, Prod.Lex.toLex_le_toLex]
  by_cases heq : b.clusterIP = a.clusterIP
  · simp [heq]
  · simp only [ne_eq, heq, not_false_eq_true, ↓reduceIte, decide_eq_false_iff_not, not_lt]
    constructor
    · intro hle
      exact Or.inl (lt_of_le_of_ne hle (Ne.symm heq))
    · rintro (hlt | ⟨hsame, _⟩)
      · exact hlt.le
      · exact absurd hsame.symm heq

/-- `renderServiceRules` over the services in the order of one iteration;
`sortRules` is the sort of one Service's rules. -/
def renderServiceRules (sortRules : List ServiceRule → List ServiceRule)
    (ifaces : List String) (services : List (String × List ServiceRule))
    (vmip : String → Option String) : String :=
  if ifaces = [] then ""
  else
    String.join
      ((services.insertionSort (fun a b => a.1 ≤ b.1)).map fun service =>
        String.join ((sortRules service.2).map (renderServiceRule ifaces vmip)))

/-- `vmnetInterfacesLocked`. -/
def vmnetInterfaces (cfg : Config) (endpoints : List Endpoint) : List String :=
  sortedInterfaces (cfg.interface :: endpoints.map Endpoint.interface)

/-- The whole ruleset `loadAnchorLocked` writes, for one iteration order of the
two maps. -/
def ruleset (sortRules : List ServiceRule → List ServiceRule) (cfg : Config)
    (endpoints : List Endpoint) (services : List (String × List ServiceRule)) :
    String :=
  renderAnchor cfg.interface cfg.meshInterface
      (endpoints.insertionSort (fun a b => a.podKey ≤ b.podKey)) ++
    renderServiceRules sortRules (vmnetInterfaces cfg endpoints) services
      (vmipByPodIP endpoints)

end Podnet

end MacVz
