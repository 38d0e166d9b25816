/-
The configuration of a node process: the fields that are checked before it
starts, and what the router of the Pod network, the service controller and the
WireGuard mesh are configured with.
-/
import MacVz.GoPackages
import MacVz.PodnetRouter
import MacVz.WireguardConfig

namespace MacVz

open Checks
open Wireguard (Key KeyError InterfaceConfig Peer parseKey)

/-- `OrphanCleanupConfig`. -/
structure OrphanCleanupConfig where
  enabled : Bool
  interval : String
  gracePeriod : String
deriving Repr, DecidableEq

structure TaintConfig where
  key : String
  value : String
  effect : String
deriving Repr, DecidableEq

/-- `VolumesConfig`. -/
structure VolumesConfig where
  root : String
  hostPathAllowedPrefixes : List String
deriving Repr, DecidableEq

/-- `NodeConfig`. -/
structure NodeConfig where
  cpu : String
  memory : String
  pods : String
  podCIDR : String
  taints : List TaintConfig
  enableLease : Bool
  leaseDurationSeconds : Int
  pingInterval : String
  statusUpdateInterval : String
  kubeletPort : Int
  servingTLSCertFile : String
  servingTLSKeyFile : String
  servingClientCAFile : String
  volumes : VolumesConfig
deriving Repr, DecidableEq

/-- `MeshPeerConfig`. -/
structure MeshPeerConfig where
  name : String
  publicKey : String
  endpoint : String
  podCIDR : String
  address : String
  persistentKeepalive : Int
deriving Repr, DecidableEq

/-- `MeshConfig`. -/
structure MeshConfig where
  enabled : Bool
  interface : String
  privateKeyFile : String
  address : String
  listenPort : Int
  mtu : Int64
  peers : List MeshPeerConfig
deriving DecidableEq

/-- `PodNetworkConfig`. -/
structure PodNetworkConfig where
  enabled : Bool
  interface : String
  anchor : String
  enableForwarding : Option Bool
  vmnetCIDRs : List String
deriving Repr, DecidableEq

/-- `Config`, as far as it is checked and used. -/
structure Config where
  nodeName : String
  runtimeDataRoot : String
  node : NodeConfig
  mesh : MeshConfig
  podNetwork : PodNetworkConfig
  privilegedHelperSocket : String
  orphanCleanup : OrphanCleanupConfig
deriving DecidableEq

/-- The parsers of other packages the checks rest on: whether a text is a
quantity, and the nanoseconds of a duration. -/
structure Parsers where
  quantity : String → Bool
  duration : String → Option Int

/-- What the checks report, each with the data its message names. -/
inductive ConfigError where
  | nodeName
  | quantity (field raw : String)
  | taintKey
  | taintEffect (key effect : String)
  | runtimeDataRoot (path : String)
  | duration (field raw : String)
  | notPositive (field raw : String)
  | graceBelowInterval (grace interval : String)
  | leaseDuration (seconds : Int)
  | statusNotBelowLease (status lease : Int)
  | kubeletPort (port : Int)
  | tlsFilesTogether
  | clientCAWithoutTLS
  | podCIDR (cidr : String)
  | meshInterfaceRequired
  | meshKeyFileRequired
  | meshAddress (address : String)
  | meshListenPort (port : Int)
  | peerPublicKey (index : Nat) (name : String) (cause : KeyError)
  | peerPodCIDR (index : Nat) (name cidr : String)
  | peerAddress (index : Nat) (name address : String)
  | peerEndpoint (index : Nat) (name endpoint : String)
  | podNetworkInterfaceRequired
  | vmnetCIDR (cidr : String)
  | podCIDRRequired
  | volumesRoot (path : String)
  | hostPathPrefix (path : String)
  | keyFile (message : String)
  | peerKey (name : String) (cause : KeyError)
deriving Repr, DecidableEq

/-- `DefaultMeshListenPort`. -/
def defaultMeshListenPort : Int := 51820

/-- `DefaultVMNetCIDR`. -/
def defaultVMNetCIDR : String := "192.168.64.0/22"

namespace Config

variable (parsers : Parsers) (c : Config)

/-- `Capacity`, as far as it fails. -/
def capacity : Except ConfigError Unit :=
  each (fun entry => demand (parsers.quantity entry.2) (.quantity entry.1 entry.2))
    [("cpu", c.node.cpu), ("memory", c.node.memory), ("pods", c.node.pods)]

/-- `Taints`, as far as it fails. -/
def taints : Except ConfigError Unit :=
  each (fun t => do
    demand (t.key ≠ "") .taintKey
    demand (t.effect ∈ ["NoSchedule", "PreferNoSchedule", "NoExecute"])
      (.taintEffect t.key t.effect)) c.node.taints

def parseDuration (field raw : String) : Except ConfigError Int :=
  match parsers.duration raw with
  | some d => .ok d
  | none => .error (.duration field raw)

/-- `HeartbeatIntervals`: the ping and the status interval. -/
def heartbeatIntervals : Except ConfigError (Int × Int) := do
  let ping ← parseDuration parsers "node.pingInterval" c.node.pingInterval
  demand (0 < ping) (.notPositive "node.pingInterval" c.node.pingInterval)
  let status ← parseDuration parsers "node.statusUpdateInterval" c.node.statusUpdateInterval
  demand (0 < status) (.notPositive "node.statusUpdateInterval" c.node.statusUpdateInterval)
  return (ping, status)

/-- `OrphanCleanupIntervals`: the scan interval and the grace period. -/
def orphanCleanupIntervals : Except ConfigError (Int × Int) := do
  let interval ← parseDuration parsers "orphanCleanup.interval" c.orphanCleanup.interval
  demand (0 < interval) (.notPositive "orphanCleanup.interval" c.orphanCleanup.interval)
  let grace ← parseDuration parsers "orphanCleanup.gracePeriod" c.orphanCleanup.gracePeriod
  demand (interval ≤ grace)
    (.graceBelowInterval c.orphanCleanup.gracePeriod c.orphanCleanup.interval)
  return (interval, grace)

/-- The check of the lease against the status interval, with leases enabled. -/
def validateLease : Except ConfigError Unit := do
  let (_, status) ← c.heartbeatIntervals parsers
  let lease := c.node.leaseDurationSeconds * 1000000000
  demand (status < lease) (.statusNotBelowLease status lease)

/-- The loop body of `validateMesh`. -/
def validatePeer (index : Nat) (p : MeshPeerConfig) : Except ConfigError Unit := do
  match parseKey p.publicKey with
  | .ok _ => .ok ()
  | .error e => .error (.peerPublicKey index p.name e)
  demand ((parseCIDR p.podCIDR).isSome) (.peerPodCIDR index p.name p.podCIDR)
  demand (p.address = "" ∨ (parseCIDR p.address).isSome) (.peerAddress index p.name p.address)
  demand (p.endpoint = "" ∨ (GoNet.splitHostPort p.endpoint).isSome)
    (.peerEndpoint index p.name p.endpoint)

/-- `Config.validateMesh`. -/
def validateMesh : Except ConfigError Unit :=
  if c.mesh.enabled then do
    demand (c.mesh.interface ≠ "") .meshInterfaceRequired
    demand (c.mesh.privateKeyFile ≠ "") .meshKeyFileRequired
    demand ((parseCIDR c.mesh.address).isSome) (.meshAddress c.mesh.address)
    demand (0 ≤ c.mesh.listenPort ∧ c.mesh.listenPort ≤ 65535) (.meshListenPort c.mesh.listenPort)
    each (fun entry => validatePeer entry.2 entry.1) c.mesh.peers.zipIdx
  else .ok ()

/-- `Config.validatePodNetwork`. -/
def validatePodNetwork : Except ConfigError Unit :=
  if c.podNetwork.enabled then do
    demand (c.podNetwork.interface ≠ "") .podNetworkInterfaceRequired
    each (fun cidr => demand ((parseCIDR cidr).isSome) (.vmnetCIDR cidr)) c.podNetwork.vmnetCIDRs
  else .ok ()

/-- `Config.validateVolumes`. -/
def validateVolumes : Except ConfigError Unit := do
  demand (c.node.volumes.root = "" ∨ GoFilepath.isAbs c.node.volumes.root)
    (.volumesRoot c.node.volumes.root)
  each (fun path => demand (GoFilepath.isAbs path) (.hostPathPrefix path))
    c.node.volumes.hostPathAllowedPrefixes

/-- The checks of `Validate` that concern the node itself: its name, its
resources and its heartbeat. -/
def validateNode : Except ConfigError Unit := do
  demand (c.nodeName ≠ "") .nodeName
  c.capacity parsers
  c.taints
  demand (c.runtimeDataRoot = "" ∨ GoFilepath.isAbs c.runtimeDataRoot)
    (.runtimeDataRoot c.runtimeDataRoot)
  let _ ← c.heartbeatIntervals parsers
  if c.orphanCleanup.enabled then
    let _ ← c.orphanCleanupIntervals parsers
  if c.node.enableLease then
    demand (0 < c.node.leaseDurationSeconds) (.leaseDuration c.node.leaseDurationSeconds)
    c.validateLease parsers
  demand (0 < c.node.kubeletPort ∧ c.node.kubeletPort ≤ 65535) (.kubeletPort c.node.kubeletPort)
  demand (c.node.servingTLSCertFile = "" ↔ c.node.servingTLSKeyFile = "") .tlsFilesTogether
  demand (c.node.servingClientCAFile = "" ∨ c.node.servingTLSCertFile ≠ "") .clientCAWithoutTLS

/-- `Validate`. -/
def validate : Except ConfigError Unit := do
  c.validateNode parsers
  demand (c.node.podCIDR = "" ∨ (parseCIDR c.node.podCIDR).isSome) (.podCIDR c.node.podCIDR)
  c.validateMesh
  c.validatePodNetwork
  demand (¬ (c.privilegedHelperSocket ≠ "" ∧ c.podNetwork.enabled ∧ c.node.podCIDR = ""))
    .podCIDRRequired
  c.validateVolumes

/-- `PodNetworkRouterConfig`. -/
def podNetworkRouterConfig : Podnet.Config where
  interface := c.podNetwork.interface
  meshInterface := c.mesh.interface
  anchor := c.podNetwork.anchor
  enableForwarding := c.podNetwork.enableForwarding.getD true

/-- `RoutableServiceCIDRs`. -/
def routableServiceCIDRs : List String :=
  (if c.node.podCIDR ≠ "" then [c.node.podCIDR] else []) ++
    (if c.podNetwork.enabled ∧ c.podNetwork.vmnetCIDRs = [] then [defaultVMNetCIDR]
      else c.podNetwork.vmnetCIDRs) ++
    (if c.mesh.enabled then (c.mesh.peers.map MeshPeerConfig.podCIDR).filter (· ≠ "") else [])

end Config

/-- The loop body of `resolvePeers`. -/
def MeshPeerConfig.resolve (p : MeshPeerConfig) : Except ConfigError Peer :=
  match parseKey p.publicKey with
  | .error e => .error (.peerKey p.name e)
  | .ok key =>
    .ok {
      name := p.name
      publicKey := key
      endpoint := p.endpoint
      allowedIPs := p.podCIDR :: (if p.address ≠ "" then [p.address] else [])
      persistentKeepalive := p.persistentKeepalive }

/-- `MeshConfig.resolvePeers`. -/
def MeshConfig.resolvePeers (m : MeshConfig) : Except ConfigError (List Peer) :=
  m.peers.mapM MeshPeerConfig.resolve

/-- `MeshInterfaceConfig`; `loadKey` is what reading or creating a key file
gives, or the message of its failure. -/
def Config.meshInterfaceConfig (loadKey : String → Except String Key) (c : Config) :
    Except ConfigError InterfaceConfig :=
  match loadKey c.mesh.privateKeyFile with
  | .error message => .error (.keyFile message)
  | .ok priv => do
      let peers ← c.mesh.resolvePeers
      return {
        name := c.mesh.interface
        privateKey := priv
        address := c.mesh.address
        listenPort := if c.mesh.listenPort = 0 then defaultMeshListenPort else c.mesh.listenPort
        mtu := c.mesh.mtu
        peers := peers }

end MacVz
