/-
The policy of the helper, derived from the node's configuration.  Router and
policy are derived from the same fields under different conditions: they agree
on the managed interfaces exactly when the mesh is enabled or its interface is
one the policy permits anyway, and a policy of disabled stanzas still permits
what the fields it copies allow.
-/
import MacVz.NodeConfig
import MacVz.PolicyGrammar

namespace MacVz

open Checks Privhelper
open Podnet (Table)
open Wireguard (Key InterfaceConfig)

variable {ip : String} {set : Table Bool} {cidrs : List String} {keys : List String} {key : String}

/-- The policy of a node without a mesh. -/
def Config.localPolicy (c : Config) : Policy where
  meshInterface := ""
  vmnetInterface := c.podNetwork.interface
  anchor := if c.podNetwork.anchor ≠ "" then c.podNetwork.anchor else Podnet.defaultAnchor
  meshAddressIP := ""
  mtu := 0
  routeCIDRs := ∅
  podCIDRs := if c.node.podCIDR ≠ "" then normalizeCIDRSet [c.node.podCIDR] else ∅
  vmnetCIDRs :=
    if c.podNetwork.enabled then
      normalizeCIDRSet
        (if c.podNetwork.vmnetCIDRs = [] then [defaultVMNetCIDR] else c.podNetwork.vmnetCIDRs)
    else ∅
  peerPublicKeys := ∅

/-- What the mesh adds to the policy. -/
def Privhelper.Policy.withMesh (p : Policy) (peers : List MeshPeerConfig) (ifc : InterfaceConfig) :
    Policy :=
  { p with
    meshInterface := ifc.name
    mtu := ifc.mtu.toInt
    meshAddressIP :=
      match parseCIDR ifc.address with
      | some (ip, _) => GoNet.ipString 16 ip
      | none => ""
    routeCIDRs := normalizeCIDRSet ifc.routeTargets
    podCIDRs := putAll
      (((peers.map MeshPeerConfig.podCIDR).filter (· ≠ "")).filterMap normalizeCIDR) p.podCIDRs
    peerPublicKeys := putAll (ifc.peers.map fun peer => peer.publicKey.string) p.peerPublicKeys }

/-- `PrivilegedHelperPolicy`. -/
def Config.privilegedHelperPolicy (loadKey : String → Except String Key) (c : Config) :
    Except ConfigError Policy :=
  if c.mesh.enabled then do
    let ifc ← c.meshInterfaceConfig loadKey
    return c.localPolicy.withMesh c.mesh.peers ifc
  else .ok c.localPolicy

theorem mem_putAll : key ∈ putAll keys set ↔ key ∈ keys ∨ key ∈ set := by
  induction keys generalizing set with
  | nil => simp [putAll]
  | cons first rest ih =>
    have hstep : putAll (first :: rest) set = putAll rest (set.insert first true) := rfl
    rw [hstep, ih, Finmap.mem_insert, List.mem_cons]
    tauto

theorem holds_putAll (h : key ∈ keys ∨ holds set key = true) :
    holds (putAll keys set) key = true := by
  induction keys generalizing set with
  | nil => simpa [putAll] using h
  | cons first rest ih =>
    apply ih
    by_cases hfirst : key = first
    · subst hfirst
      exact Or.inr (by rw [holds, Finmap.lookup_insert]; rfl)
    · rcases h with hmem | hset
      · exact Or.inl ((List.mem_cons.mp hmem).resolve_left hfirst)
      · exact Or.inr (by rwa [holds, Finmap.lookup_insert_of_ne _ hfirst])

theorem inside_putAll : Inside ip (putAll (cidrs.filterMap normalizeCIDR) set) ↔
      (∃ cidr ∈ cidrs, Within ip cidr) ∨ Inside ip set := by
  constructor
  · rintro ⟨text, htext, hwithin⟩
    rcases mem_putAll.mp htext with hmasked | hset
    · obtain ⟨cidr, hcidr, hnormal⟩ := List.mem_filterMap.mp hmasked
      obtain ⟨written, net, hparse, rfl⟩ := normalizeCIDR_eq_some.mp hnormal
      exact Or.inl ⟨cidr, hcidr, (within_string_iff hparse).mp hwithin⟩
    · exact Or.inr ⟨text, hset, hwithin⟩
  · rintro (⟨cidr, hcidr, hwithin⟩ | ⟨text, htext, hwithin⟩)
    · obtain ⟨addr, -, written, net, hparse, -⟩ := id hwithin
      refine ⟨net.string, mem_putAll.mpr (Or.inl ?_), (within_string_iff hparse).mpr hwithin⟩
      rw [List.mem_filterMap]
      exact ⟨cidr, hcidr, normalizeCIDR_eq_some.mpr ⟨written, net, hparse, rfl⟩⟩
    · exact ⟨text, mem_putAll.mpr (Or.inr htext), hwithin⟩

theorem not_inside_empty (ip : String) : ¬ Inside ip ∅ := by
  rintro ⟨cidr, hcidr, -⟩
  exact Finmap.notMem_empty hcidr

theorem inside_normalizeCIDRSet :
    Inside ip (normalizeCIDRSet cidrs) ↔ ∃ cidr ∈ cidrs, Within ip cidr := by
  rw [normalizeCIDRSet, inside_putAll]
  exact or_iff_left (not_inside_empty ip)

theorem configured_normalizeCIDRSet {cidr : String} (hcidr : cidr ∈ cidrs)
    (hparse : (parseCIDR cidr).isSome = true) : Configured cidr (normalizeCIDRSet cidrs) := by
  obtain ⟨⟨written, net⟩, hparsed⟩ := Option.isSome_iff_exists.mp hparse
  refine ⟨written, net, hparsed, holds_putAll (Or.inl ?_)⟩
  rw [List.mem_filterMap]
  exact ⟨cidr, hcidr, normalizeCIDR_eq_some.mpr ⟨written, net, hparsed, rfl⟩⟩

namespace Config

variable {parsers : Parsers} {loadKey : String → Except String Key} {c : Config} {p : Policy}
  {ifc : InterfaceConfig}

/-- What `Validate` has checked of a configuration. -/
structure Accepted (c : Config) : Prop where
  podCIDR : c.node.podCIDR = "" ∨ (parseCIDR c.node.podCIDR).isSome = true
  mesh : c.validateMesh = .ok ()
  podNetwork : c.validatePodNetwork = .ok ()
  helper : ¬ (c.privilegedHelperSocket ≠ "" ∧ c.podNetwork.enabled = true ∧ c.node.podCIDR = "")

theorem accepted_of_validate (h : c.validate parsers = .ok ()) : c.Accepted := by
  simp only [validate, then_eq_ok, demand_eq_ok] at h
  obtain ⟨-, hpodCIDR, hmesh, hpodNetwork, hhelper, -⟩ := h
  exact ⟨hpodCIDR, hmesh, hpodNetwork, hhelper⟩

theorem Accepted.podNetwork_interface (h : c.Accepted) (henabled : c.podNetwork.enabled = true) :
    c.podNetwork.interface ≠ "" := by
  have hchecks := h.podNetwork
  simp only [validatePodNetwork, henabled, ↓reduceIte, then_eq_ok, demand_eq_ok] at hchecks
  exact hchecks.1

theorem privilegedHelperPolicy_enabled (hmesh : c.mesh.enabled = true)
    (h : c.privilegedHelperPolicy loadKey = .ok p) :
    ∃ ifc, c.meshInterfaceConfig loadKey = .ok ifc ∧
      p = c.localPolicy.withMesh c.mesh.peers ifc := by
  simp only [privilegedHelperPolicy, hmesh, ↓reduceIte, bind_eq_ok] at h
  obtain ⟨ifc, hifc, hp⟩ := h
  exact ⟨ifc, hifc, (Except.ok.inj hp).symm⟩

theorem privilegedHelperPolicy_cases (h : c.privilegedHelperPolicy loadKey = .ok p) :
    (c.mesh.enabled = false ∧ p = c.localPolicy) ∨
      (c.mesh.enabled = true ∧ ∃ ifc, c.meshInterfaceConfig loadKey = .ok ifc ∧
        p = c.localPolicy.withMesh c.mesh.peers ifc) := by
  cases hmesh : c.mesh.enabled with
  | false =>
    simp only [privilegedHelperPolicy, hmesh, Bool.false_eq_true, ↓reduceIte] at h
    exact Or.inl ⟨rfl, (Except.ok.inj h).symm⟩
  | true => exact Or.inr ⟨rfl, privilegedHelperPolicy_enabled hmesh h⟩

theorem privilegedHelperPolicy_of_interface (hmesh : c.mesh.enabled = true)
    (hifc : c.meshInterfaceConfig loadKey = .ok ifc) :
    c.privilegedHelperPolicy loadKey = .ok (c.localPolicy.withMesh c.mesh.peers ifc) := by
  simp only [privilegedHelperPolicy, hmesh, ↓reduceIte, bind_eq_ok]
  exact ⟨ifc, hifc, rfl⟩

theorem meshInterfaceConfig_eq_ok (h : c.meshInterfaceConfig loadKey = .ok ifc) :
    ifc.name = c.mesh.interface ∧ ifc.address = c.mesh.address ∧ ifc.mtu = c.mesh.mtu ∧
      c.mesh.resolvePeers = .ok ifc.peers := by
  unfold meshInterfaceConfig at h
  split at h
  · cases h
  · rw [bind_eq_ok] at h
    obtain ⟨peers, hpeers, hifc⟩ := h
    cases hifc
    exact ⟨rfl, rfl, rfl, hpeers⟩

theorem policy_vmnetInterface (h : c.privilegedHelperPolicy loadKey = .ok p) :
    p.vmnetInterface = c.podNetwork.interface := by
  rcases privilegedHelperPolicy_cases h with ⟨-, rfl⟩ | ⟨-, ifc, -, rfl⟩
  · rfl
  · rfl

theorem policy_meshInterface (h : c.privilegedHelperPolicy loadKey = .ok p) :
    p.meshInterface = if c.mesh.enabled then c.mesh.interface else "" := by
  rcases privilegedHelperPolicy_cases h with ⟨hmesh, rfl⟩ | ⟨hmesh, ifc, hifc, rfl⟩
  · rw [hmesh]
    rfl
  · rw [hmesh]
    exact (meshInterfaceConfig_eq_ok hifc).1

theorem policy_anchor (h : c.privilegedHelperPolicy loadKey = .ok p) :
    p.anchor = if c.podNetwork.anchor ≠ "" then c.podNetwork.anchor else Podnet.defaultAnchor := by
  rcases privilegedHelperPolicy_cases h with ⟨-, rfl⟩ | ⟨-, ifc, -, rfl⟩
  · rfl
  · rfl

/-- The ranges of the micro-VMs, or the default one. -/
def vmnetRanges (c : Config) : List String :=
  if c.podNetwork.vmnetCIDRs = [] then [defaultVMNetCIDR] else c.podNetwork.vmnetCIDRs

theorem inside_vmnetCIDRs (h : c.privilegedHelperPolicy loadKey = .ok p) : Inside ip p.vmnetCIDRs ↔
      c.podNetwork.enabled = true ∧ ∃ cidr ∈ c.vmnetRanges, Within ip cidr := by
  have hlocal : Inside ip c.localPolicy.vmnetCIDRs ↔
      c.podNetwork.enabled = true ∧ ∃ cidr ∈ c.vmnetRanges, Within ip cidr := by
    by_cases henabled : c.podNetwork.enabled = true
    · simp only [localPolicy, henabled, ↓reduceIte, inside_normalizeCIDRSet, true_and]
      rfl
    · simp [localPolicy, henabled, not_inside_empty]
  rcases privilegedHelperPolicy_cases h with ⟨-, rfl⟩ | ⟨-, ifc, -, rfl⟩
  · exact hlocal
  · exact hlocal

/-- The Pod networks of the policy: the node's own, and those of the peers of an
enabled mesh. -/
theorem inside_podCIDRs (h : c.privilegedHelperPolicy loadKey = .ok p) :
    Inside ip p.podCIDRs ↔ (c.node.podCIDR ≠ "" ∧ Within ip c.node.podCIDR) ∨
      (c.mesh.enabled = true ∧
        ∃ cidr ∈ (c.mesh.peers.map MeshPeerConfig.podCIDR).filter (· ≠ ""), Within ip cidr) := by
  have hlocal : Inside ip c.localPolicy.podCIDRs ↔
      c.node.podCIDR ≠ "" ∧ Within ip c.node.podCIDR := by
    by_cases hempty : c.node.podCIDR = ""
    · simp [localPolicy, hempty, not_inside_empty]
    · simp [localPolicy, hempty, inside_normalizeCIDRSet]
  rcases privilegedHelperPolicy_cases h with ⟨hmesh, rfl⟩ | ⟨hmesh, ifc, -, rfl⟩
  · rw [hlocal, hmesh]
    simp
  · rw [← hlocal, hmesh]
    simp only [true_and]
    exact inside_putAll.trans or_comm

/-- The networks a policy permits redirects to, from the configuration it is
derived from. -/
def redirectRanges (c : Config) : List String :=
  (if c.node.podCIDR ≠ "" then [c.node.podCIDR] else []) ++
    (if c.podNetwork.enabled then c.vmnetRanges else []) ++
    (if c.mesh.enabled then (c.mesh.peers.map MeshPeerConfig.podCIDR).filter (· ≠ "") else [])

/-- The targets the derived policy permits are those in the configuration's redirect ranges. -/
theorem redirect_permitted_iff (h : c.privilegedHelperPolicy loadKey = .ok p) :
    Inside ip p.podCIDRs ∨ Inside ip p.vmnetCIDRs ↔ ∃ cidr ∈ c.redirectRanges, Within ip cidr := by
  have hown : (∃ cidr ∈ if c.node.podCIDR ≠ "" then [c.node.podCIDR] else [], Within ip cidr) ↔
      c.node.podCIDR ≠ "" ∧ Within ip c.node.podCIDR := by
    split <;> simp_all
  have hvmnet : (∃ cidr ∈ if c.podNetwork.enabled then c.vmnetRanges else [], Within ip cidr) ↔
      c.podNetwork.enabled = true ∧ ∃ cidr ∈ c.vmnetRanges, Within ip cidr := by
    split <;> simp_all
  have hpeers (peers : List String) :
      (∃ cidr ∈ if c.mesh.enabled then peers else [], Within ip cidr) ↔
        c.mesh.enabled = true ∧ ∃ cidr ∈ peers, Within ip cidr := by
    split <;> simp_all
  simp only [redirectRanges, List.mem_append, or_and_right, exists_or]
  rw [hown, hvmnet, hpeers, inside_podCIDRs h, inside_vmnetCIDRs h, or_assoc, or_assoc,
    or_comm (a := c.mesh.enabled = true ∧ _)]

/-- What the service controller takes for reachable on a node with the Pod network
enabled. -/
theorem routableServiceCIDRs_eq (henabled : c.podNetwork.enabled = true) :
    c.routableServiceCIDRs = c.redirectRanges := by
  simp only [routableServiceCIDRs, redirectRanges, vmnetRanges, henabled, true_and, ↓reduceIte]

end Config

/-- The interfaces of an endpoint that has none of its own: the configured ones
that are not empty. -/
theorem mem_endpointBinatInterfaces {iface meshIface name : String} {ep : Podnet.Endpoint}
    (hep : ep.interface = "") : name ∈ Podnet.endpointBinatInterfaces iface meshIface ep ↔
      name ≠ "" ∧ (name = iface ∨ name = meshIface) := by
  simp [Podnet.endpointBinatInterfaces, Podnet.sortedInterfaces, hep, and_comm]

/-- The router translates addresses on interfaces the policy permits exactly
when the mesh is enabled, or its interface is empty, the configured one of the
Pod network or a bridge. -/
theorem binat_interfaces_permitted_iff {parsers : Parsers} {loadKey : String → Except String Key}
    {c : Config} {p : Policy} (hvalid : c.validate parsers = .ok ())
    (henabled : c.podNetwork.enabled = true) (_hsocket : c.privilegedHelperSocket ≠ "")
    (hpolicy : c.privilegedHelperPolicy loadKey = .ok p) (ep : Podnet.Endpoint)
    (hep : ep.interface = "") :
    (∀ name ∈ Podnet.endpointBinatInterfaces c.podNetworkRouterConfig.interface
        c.podNetworkRouterConfig.meshInterface ep, p.checkPodNATInterface name = .ok ()) ↔
      c.mesh.enabled = true ∨ c.mesh.interface = "" ∨
        c.mesh.interface = c.podNetwork.interface ∨ IsBridge c.mesh.interface := by
  have hvmnet := (Config.accepted_of_validate hvalid).podNetwork_interface henabled
  simp only [mem_endpointBinatInterfaces hep, Policy.checkPodNATInterface_eq_ok, Policy.OnVMNet,
    Policy.OnMesh, Config.policy_vmnetInterface hpolicy, Config.policy_meshInterface hpolicy,
    Config.podNetworkRouterConfig]
  constructor
  · intro h
    by_cases hmesh : c.mesh.interface = ""
    · exact Or.inr (Or.inl hmesh)
    · rcases h c.mesh.interface ⟨hmesh, Or.inr rfl⟩ with ⟨-, hsame | hbridge⟩ | ⟨hne, -⟩
      · exact Or.inr (Or.inr (Or.inl hsame))
      · exact Or.inr (Or.inr (Or.inr hbridge))
      · refine Or.inl ?_
        by_contra hdisabled
        simp [hdisabled] at hne
  · rintro h name ⟨hname, rfl | rfl⟩
    · exact Or.inl ⟨hvmnet, Or.inl rfl⟩
    · rcases h with hmesh | hempty | hsame | hbridge
      · exact Or.inr (by simp [hmesh, hname])
      · exact absurd hempty hname
      · exact Or.inl ⟨hvmnet, Or.inl hsame⟩
      · exact Or.inl ⟨hvmnet, Or.inr hbridge⟩

def knownParsers : Parsers where
  quantity := fun raw => raw ∈ ["2", "4Gi", "20"]
  duration := fun raw => if raw = "10s" then some 10000000000 else none

def unreadableKey : String → Except String Key := fun _ => .error "permission denied"

/-- A node with the mesh disabled, and the Pod network enabled or not. -/
def worker (podNetwork : Bool) (interface meshInterface : String) : Config where
  nodeName := "mac-1"
  runtimeDataRoot := ""
  node := {
    cpu := "2", memory := "4Gi", pods := "20", podCIDR := "10.244.1.0/24"
    taints := [⟨"virtual-kubelet.io/provider", "macvz", "NoSchedule"⟩]
    enableLease := true, leaseDurationSeconds := 40
    pingInterval := "10s", statusUpdateInterval := "10s", kubeletPort := 10250
    servingTLSCertFile := "", servingTLSKeyFile := "", servingClientCAFile := ""
    volumes := ⟨"/var/lib/macvz/volumes", []⟩ }
  mesh := ⟨false, meshInterface, "", "", 0, 0, []⟩
  podNetwork := ⟨podNetwork, interface, "", none, []⟩
  privilegedHelperSocket := "/var/run/macvz-netd.sock"
  orphanCleanup := ⟨false, "", ""⟩

theorem worker_accepted : (worker true "bridge100" "").validate knownParsers = .ok () := by
  decide

theorem worker_binat_interfaces_permitted :
    (worker true "bridge100" "").validate knownParsers = .ok () ∧
      ∀ name ∈ Podnet.endpointBinatInterfaces "bridge100" ""
          ⟨"default/web", "10.244.1.2", "192.168.64.3", ""⟩,
        (worker true "bridge100" "").localPolicy.checkPodNATInterface name = .ok () := by
  have hpolicy : (worker true "bridge100" "").privilegedHelperPolicy unreadableKey =
    .ok (worker true "bridge100" "").localPolicy := rfl
  refine ⟨worker_accepted, ?_⟩
  exact (binat_interfaces_permitted_iff worker_accepted rfl (by decide) hpolicy _ rfl).mpr
    (Or.inr (Or.inl rfl))

/-- The interface of a disabled mesh is rendered into the anchor all the same. -/
theorem disabled_mesh_interface_refused :
    (worker true "bridge100" "utun7").validate knownParsers = .ok () ∧
      (worker true "bridge100" "utun7").privilegedHelperPolicy unreadableKey =
        .ok (worker true "bridge100" "utun7").localPolicy ∧
      "utun7" ∈ Podnet.endpointBinatInterfaces
        (worker true "bridge100" "utun7").podNetworkRouterConfig.interface
        (worker true "bridge100" "utun7").podNetworkRouterConfig.meshInterface
        ⟨"default/web", "10.244.1.2", "192.168.64.3", ""⟩ ∧
      (worker true "bridge100" "utun7").localPolicy.checkPodNATInterface "utun7" =
        .error (.notPodNATInterface "utun7") := by
  refine ⟨by decide, rfl, ?_, by decide⟩
  rw [mem_endpointBinatInterfaces rfl]
  exact ⟨by decide, Or.inr rfl⟩

/-- A request that only asks. -/
def ReadOnlyProbe (req : Request) : Prop :=
  req = ⟨"sysctl", ["-n", "kern.ostype"], ""⟩ ∨ ∃ ip, req = ⟨"route", ["-n", "get", ip], ""⟩

/-- A request for something to be changed that a policy without a mesh may grant: a `pfctl`
command, a kernel setting, or the deletion of a scoped default route. -/
def AsksForChange (req : Request) : Prop :=
  req.name = "pfctl" ∨ (∃ setting, req = ⟨"sysctl", ["-w", setting], ""⟩) ∨
    ∃ iface, req = ⟨"route", ["-q", "-n", "delete", "-inet", "default", "-ifscope", iface], ""⟩

/-- Without a mesh interface a policy permits only probes and the three kinds of changes. -/
theorem Privhelper.Policy.Permitted.probe_iff {p : Policy} {req : Request}
    (h : p.Permitted req) (hmesh : p.meshInterface = "") :
    ReadOnlyProbe req ↔ ¬ AsksForChange req := by
  cases h with
  | osType | lookup | enable | flush | load | forwarding | defaultRoute =>
    simp [ReadOnlyProbe, AsksForChange]
  | meshRoute hne | address hne | mtu hne | link hne | configure hne | create hne | kill hne =>
    exact absurd hmesh hne

/-- The zero policy, and that of any accepted configuration with mesh and Pod network disabled:
the requests it accepts are probes exactly when they do not ask for a change. -/
theorem disabled_policy_accepts_probes {p : Policy} {req : Request}
    (hp : p = Policy.zero ∨ ∃ parsers loadKey, ∃ c : Config, c.validate parsers = .ok () ∧
      c.mesh.enabled = false ∧ c.podNetwork.enabled = false ∧
      c.privilegedHelperPolicy loadKey = .ok p)
    (haccepted : p.validate req = .ok ()) : ReadOnlyProbe req ↔ ¬ AsksForChange req := by
  have hpermitted := Policy.permitted_of_accepted haccepted
  rcases hp with rfl | ⟨parsers, loadKey, c, -, hmesh, -, hpolicy⟩
  · exact hpermitted.probe_iff rfl
  · apply hpermitted.probe_iff
    rw [Config.policy_meshInterface hpolicy, hmesh]
    rfl

/-- An interface that is left in the disabled stanza does not take the probe away. -/
theorem zero_policy_accepts_probe :
    (worker false "bridge100" "").validate knownParsers = .ok () ∧
      ReadOnlyProbe ⟨"sysctl", ["-n", "kern.ostype"], ""⟩ := by
  have hvalid : (worker false "bridge100" "").validate knownParsers = .ok () := by decide
  refine ⟨hvalid, (disabled_policy_accepts_probes (p := (worker false "bridge100" "").localPolicy)
    (Or.inr ⟨knownParsers, unreadableKey, _, hvalid, rfl, rfl, rfl⟩) rfl).mpr ?_⟩
  simp [AsksForChange]

/-- With nothing configured the helper still enables the packet filter, and with
both stanzas disabled it flushes the default anchor; an interface that is left
in the disabled stanza adds the forwarding toggle. -/
theorem disabled_policy_accepts_changes : (Policy.zero.validate ⟨"pfctl", ["-e"], ""⟩ = .ok () ∧
        ¬ ReadOnlyProbe ⟨"pfctl", ["-e"], ""⟩) ∧
      (worker false "" "").validate knownParsers = .ok () ∧
      (worker false "" "").privilegedHelperPolicy unreadableKey =
        .ok (worker false "" "").localPolicy ∧
      (worker false "" "").localPolicy.validate ⟨"pfctl", ["-a", "macvz/pods", "-F", "all"], ""⟩ =
        .ok () ∧
      (worker false "bridge100" "").validate knownParsers = .ok () ∧
      (worker false "bridge100" "").privilegedHelperPolicy unreadableKey =
        .ok (worker false "bridge100" "").localPolicy ∧
      (worker false "bridge100" "").localPolicy.validate
        ⟨"sysctl", ["-w", "net.inet.ip.forwarding=1"], ""⟩ = .ok () := by
  refine ⟨⟨rfl, by simp [ReadOnlyProbe]⟩, by decide, rfl, by decide,
    by decide, rfl, by decide⟩

end MacVz
