/-
Every command of the mesh manager passes the helper.  Mesh and policy are
derived from one configuration, and the peers that are synced are those of the
configuration; so in every history of calls what the mesh issues is permitted.
-/
import MacVz.PolicyDerivation
import MacVz.WireguardMesh
import MacVz.WireguardText

namespace MacVz

variable {peers : List Peer} {entry : MeshPeerConfig} {ip : String} {entries : List MeshPeerConfig}
  {key : Key}

namespace Wireguard

open GoStrings Privhelper StatefulFrame
open Podnet (Command CommandError Reply)

variable {p : Policy} {host : MeshHost} {cfg : InterfaceConfig} {target : String}

/-- What a session keeps: the interface stays one with `C`, every installed route
is one of the policy's, and every command so far was permitted. -/
structure SessionFits (p : Policy) (C : InterfaceConfig → Prop) (s : MeshSession) : Prop where
  cfg : C s.mesh.cfg
  routes : ∀ target ∈ s.mesh.routes, Configured target p.routeCIDRs
  issued : ∀ entry ∈ s.issued, p.validate entry.1 = .ok ()

variable {C : InterfaceConfig → Prop}

/-- A command the policy accepts keeps every command accepted. -/
theorem run_maintains {c : Command} (hc : p.validate c = .ok ()) :
    Maintains (SessionFits p C) (fun _ => True) (run host c) := by
  intro s hs
  refine ⟨⟨hs.cfg, hs.routes, ?_⟩, fun _ _ _ => trivial⟩
  intro entry hentry
  rcases List.mem_cons.mp hentry with rfl | hold
  · exact hc
  · exact hs.issued entry hold

theorem runTolerating_maintains {c : Command} (hc : p.validate c = .ok ()) (benign : List String) :
    Maintains (SessionFits p C) (fun _ => True) (runTolerating host c benign) := by
  refine (run_maintains hc).bind ?_
  intro reply _
  cases reply with
  | ok out => exact .pure trivial
  | error e => exact .pure trivial

theorem attempt_maintains {c : Command} (hc : p.validate c = .ok ()) (benign : List String)
    (failure : CommandError → MeshError) :
    Maintains (SessionFits p C) (fun _ => True) (attempt host c benign failure) := by
  refine (runTolerating_maintains hc benign).bind ?_
  intro outcome _
  cases outcome with
  | none => exact .pure trivial
  | some e => exact .throw _

theorem attemptAnyway_maintains {c : Command} (hc : p.validate c = .ok ()) (benign : List String) :
    Maintains (SessionFits p C) (fun _ => True) (attemptAnyway host c benign) :=
  (runTolerating_maintains hc benign).bind fun _ _ => .pure trivial

theorem getMesh_maintains : Maintains (SessionFits p C)
      (fun m => C m.cfg ∧ ∀ target ∈ m.routes, Configured target p.routeCIDRs) getMesh :=
  Maintains.get.bind fun _ hs => .pure ⟨hs.cfg, hs.routes⟩

theorem modifyMesh_maintains {f : Mesh → Mesh}
    (hf : ∀ s, SessionFits p C s → SessionFits p C { s with mesh := f s.mesh }) :
    Maintains (SessionFits p C) (fun _ => True) (modifyMesh f) :=
  fun s hs => ⟨hf s hs, fun _ _ _ => trivial⟩

theorem checked_maintains (result : Except ConfigError Unit) :
    Maintains (SessionFits p C) (fun _ => True) (checked result) := by
  cases result with
  | ok => exact .pure trivial
  | error e => exact .throw _

theorem routeFamily_cases (target : String) :
    routeFamily target = "-inet" ∨ routeFamily target = "-inet6" := by
  unfold routeFamily
  split
  · exact Or.inl rfl
  · split
    · exact Or.inl rfl
    · exact Or.inr rfl

theorem routeCmd_accepted {m : Mesh} (hname : p.OnMesh m.cfg.name) {op : String}
    (hop : op = "add" ∨ op = "delete") (htarget : Configured target p.routeCIDRs) :
    p.validate (m.routeCmd op target) = .ok () := by
  rw [Mesh.routeCmd, hname.2]
  exact (Policy.Permitted.meshRoute hname.1 hop (routeFamily_cases target) htarget).accepted

section Routes

variable (hC : ∀ cfg, C cfg → p.OnMesh cfg.name)
include hC

theorem removeStale_maintains (want : List String) :
    Maintains (SessionFits p C) (fun _ => True) (removeStale host want) := by
  refine Maintains.get.bind fun s hs => Maintains.forM fun target htarget => ?_
  have hconfigured := hs.routes target (host.mem_order.mp htarget)
  unfold removeUnwanted
  split
  · exact .pure trivial
  · refine (attempt_maintains (routeCmd_accepted (hC _ hs.cfg) (Or.inr rfl) hconfigured) _ _).bind
      fun _ _ => modifyMesh_maintains fun s hs => ⟨hs.cfg, ?_, hs.issued⟩
    exact fun t ht => hs.routes t (Finset.mem_of_mem_erase ht)

theorem addRoute_maintains (htarget : Configured target p.routeCIDRs) :
    Maintains (SessionFits p C) (fun _ => True) (addRoute host target) := by
  refine getMesh_maintains.bind fun m hm => ?_
  split
  · exact .pure trivial
  · refine (attempt_maintains (routeCmd_accepted (hC _ hm.1) (Or.inl rfl) htarget) _ _).bind
      fun _ _ => modifyMesh_maintains fun s hs => ⟨hs.cfg, ?_, hs.issued⟩
    intro t ht
    rcases Finset.mem_insert.mp ht with rfl | hold
    · exact htarget
    · exact hs.routes t hold

theorem reconcileRoutesLocked_maintains {desired : List String}
    (hdesired : ∀ target ∈ desired, Configured target p.routeCIDRs) :
    Maintains (SessionFits p C) (fun _ => True) (reconcileRoutesLocked host desired) :=
  (removeStale_maintains hC desired).bind fun _ _ =>
    Maintains.forM fun target htarget => addRoute_maintains hC (hdesired target htarget)

/-- Every command of the teardown is accepted. -/
theorem teardownLocked_maintains :
    Maintains (SessionFits p C) (fun _ => True) (teardownLocked host) := by
  refine Maintains.get.bind fun s hs => ?_
  have hname := hC _ hs.cfg
  have hlink {state : String} (hstate : state = "up" ∨ state = "down" ∨ state = "destroy") :
      p.validate ⟨"ifconfig", [s.mesh.cfg.name, state], ""⟩ = .ok () := by
    rw [hname.2]
    exact (Policy.Permitted.link hname.1 hstate).accepted
  have hkill : p.validate s.mesh.killWireGuardGoCmd = .ok () := by
    rw [Mesh.killWireGuardGoCmd, hname.2]
    exact (Policy.Permitted.kill hname.1).accepted
  refine (Maintains.forM fun target htarget => ?_).bind fun _ _ => ?_
  · have hconfigured := hs.routes target (host.mem_order.mp htarget)
    exact attemptAnyway_maintains (routeCmd_accepted hname (Or.inr rfl) hconfigured) _
  · refine (modifyMesh_maintains fun s hs => ⟨hs.cfg, ?_, hs.issued⟩).bind fun _ _ => ?_
    · exact fun t ht => absurd ht (Finset.notMem_empty t)
    · refine (attemptAnyway_maintains (hlink (Or.inr (Or.inl rfl))) _).bind fun _ _ => ?_
      refine (attemptAnyway_maintains hkill _).bind fun _ _ => ?_
      refine (attemptAnyway_maintains (hlink (Or.inr (Or.inr rfl))) _).bind fun _ _ => ?_
      exact modifyMesh_maintains fun s hs => ⟨hs.cfg, hs.routes, hs.issued⟩

/-- Every command of `Sync` with permitted peers is accepted. -/
theorem sync_maintains (hpeers : ∀ peer ∈ peers, PeerFits p peer)
    (hnext : ∀ cfg, C cfg → C { cfg with peers := peers }) :
    Maintains (SessionFits p C) (fun _ => True) (sync host peers) := by
  refine getMesh_maintains.bind fun m hm => (checked_maintains _).bind fun _ _ => ?_
  split
  · have hname := hC _ hm.1
    have haccepted : p.validate ⟨"wg", ["syncconf", m.cfg.name, "/dev/stdin"],
        { m.cfg with peers := peers }.syncConfig⟩ = .ok () := by
      rw [hname.2]
      exact (Policy.Permitted.configure hname.1 (Or.inr rfl) (syncConfig_linted hpeers)).accepted
    refine (attempt_maintains haccepted _ _).bind fun _ _ => ?_
    refine (modifyMesh_maintains fun s hs => ⟨hnext _ hm.1, hs.routes, hs.issued⟩).bind
      fun _ _ => reconcileRoutesLocked_maintains hC ?_
    intro target htarget
    obtain ⟨peer, hpeer, hcidr⟩ := mem_routeTargets.mp htarget
    exact (hpeers peer hpeer).allowedIPs target hcidr
  · exact .throw _

end Routes

/-- An interface that is configured with the resources of the policy. -/
structure InterfaceFits (p : Policy) (cfg : InterfaceConfig) : Prop where
  onMesh : p.OnMesh cfg.name
  address : ∀ ip, addressIP cfg.address = .ok ip → ipEqual ip p.meshAddressIP = true
  mtu : p.mtu = cfg.mtu.toInt
  peers : ∀ peer ∈ cfg.peers, PeerFits p peer

theorem InterfaceFits.targets (h : InterfaceFits p cfg) :
    ∀ target ∈ cfg.routeTargets, Configured target p.routeCIDRs := by
  intro target htarget
  obtain ⟨peer, hpeer, hcidr⟩ := mem_routeTargets.mp htarget
  exact (h.peers peer hpeer).allowedIPs target hcidr

theorem buildInterface_maintains (h : InterfaceFits p cfg) (hip : addressIP cfg.address = .ok ip) :
    Maintains (SessionFits p C) (fun _ => True) (buildInterface host cfg ip) := by
  obtain ⟨hne, hname⟩ := h.onMesh
  have hequal := h.address ip hip
  unfold buildInterface
  rw [hname]
  refine (attempt_maintains (Policy.Permitted.create hne).accepted _ _).bind fun _ _ => ?_
  refine (attempt_maintains (Policy.Permitted.configure hne (Or.inl rfl)
    (syncConfig_linted h.peers)).accepted _ _).bind fun _ _ => ?_
  exact attempt_maintains (Policy.Permitted.address hne hequal hequal).accepted _ _

theorem setMTU_maintains (h : InterfaceFits p cfg) :
    Maintains (SessionFits p C) (fun _ => True) (setMTU host cfg) := by
  obtain ⟨hne, hname⟩ := h.onMesh
  unfold setMTU
  split
  · rename_i hpos
    obtain ⟨n, hn⟩ := Int.eq_ofNat_of_zero_le hpos.le
    have hmax : cfg.mtu.toInt < 2 ^ 63 := Int64.toInt_lt cfg.mtu
    have htext : atoi (toString cfg.mtu.toInt) = some cfg.mtu.toInt := by
      rw [hn]
      exact atoi_toString (by omega)
    rw [hname]
    exact attempt_maintains (Policy.Permitted.mtu hne htext hpos fun _ => h.mtu.symm).accepted _ _
  · exact .pure trivial

/-- Every command of `Up` is accepted. -/
theorem up_maintains (hC : ∀ cfg, C cfg → InterfaceFits p cfg) :
    Maintains (SessionFits p C) (fun _ => True) (up host) := by
  refine getMesh_maintains.bind fun m hm => (checked_maintains _).bind fun _ _ => ?_
  have hfits := hC _ hm.1
  obtain ⟨hne, hname⟩ := hfits.onMesh
  have hlink : p.validate ⟨"ifconfig", [m.cfg.name, "up"], ""⟩ = .ok () := by
    rw [hname]
    exact (Policy.Permitted.link hne (Or.inl rfl)).accepted
  split
  · exact .throw _
  · rename_i ip hip
    refine (buildInterface_maintains hfits hip).bind fun _ _ => ?_
    refine (setMTU_maintains hfits).bind fun _ _ => ?_
    refine (attempt_maintains hlink _ _).bind fun _ _ => ?_
    refine (modifyMesh_maintains fun s hs => ⟨hs.cfg, hs.routes, hs.issued⟩).bind fun _ _ => ?_
    exact reconcileRoutesLocked_maintains (fun cfg hcfg => (hC cfg hcfg).onMesh) hfits.targets

theorem remove_maintains (hC : ∀ cfg, C cfg → InterfaceFits p cfg) :
    Maintains (SessionFits p C) (fun _ => True) (remove host) := by
  refine (modifyMesh_maintains fun s hs => ⟨hs.cfg, ?_, hs.issued⟩).bind fun _ _ =>
    teardownLocked_maintains fun cfg hcfg => (hC cfg hcfg).onMesh
  intro target htarget
  rcases Finset.mem_union.mp htarget with hold | hown
  · exact hs.routes target hold
  · exact (hC _ hs.cfg).targets target (List.mem_toFinset.mp hown)

/-- Every command of a call with permitted peers is accepted. -/
theorem perform_maintains {call : MeshCall}
    (hcall : ∀ peers, call = .sync peers → ∀ peer ∈ peers, PeerFits p peer) :
    Maintains (SessionFits p (InterfaceFits p)) (fun _ => True) (call.perform host) := by
  have hname : ∀ cfg, InterfaceFits p cfg → p.OnMesh cfg.name := fun _ h => h.onMesh
  cases call with
  | up => exact up_maintains fun _ h => h
  | sync peers =>
    have hpeers := hcall peers rfl
    exact sync_maintains hname hpeers fun _ h => ⟨h.onMesh, h.address, h.mtu, hpeers⟩
  | down => exact teardownLocked_maintains hname
  | remove => exact remove_maintains fun _ h => h

end Wireguard

open GoStrings Privhelper StatefulFrame Interleaving
open Wireguard (InterfaceConfig Key Mesh MeshCall MeshHost MeshSession Peer PeerFits meshStep)

variable {parsers : Parsers} {loadKey loadKey' : String → Except String Key} {c : Config}
  {p : Policy} {host : MeshHost}

/-- The networks of an entry: its Pod network and, if it has one, its address. -/
def MeshPeerConfig.networks (entry : MeshPeerConfig) : List String :=
  entry.podCIDR :: (if entry.address ≠ "" then [entry.address] else [])

theorem MeshPeerConfig.resolve_eq_ok {peer : Peer} (h : entry.resolve = .ok peer) :
    ∃ key, Wireguard.parseKey entry.publicKey = .ok key ∧
      peer = ⟨entry.name, key, entry.endpoint, entry.networks, entry.persistentKeepalive⟩ := by
  unfold MeshPeerConfig.resolve at h
  split at h
  · cases h
  · rename_i key hkey
    exact ⟨key, hkey, (Except.ok.inj h).symm⟩

/-- What an accepted configuration says about an entry of an enabled mesh. -/
structure MeshPeerConfig.Accepted (entry : MeshPeerConfig) : Prop where
  publicKey : ∃ key, Wireguard.parseKey entry.publicKey = .ok key
  podCIDR : (parseCIDR entry.podCIDR).isSome = true
  address : entry.address = "" ∨ (parseCIDR entry.address).isSome = true
  endpoint : entry.endpoint = "" ∨ (GoNet.splitHostPort entry.endpoint).isSome = true

theorem MeshPeerConfig.Accepted.networks (h : entry.Accepted) :
    ∀ cidr ∈ entry.networks, (parseCIDR cidr).isSome = true := by
  intro cidr hcidr
  rcases List.mem_cons.mp hcidr with rfl | hcidr
  · exact h.podCIDR
  · split at hcidr
    · rename_i hne
      rw [List.mem_singleton.mp hcidr]
      exact h.address.resolve_left hne
    · cases hcidr

/-- What an accepted configuration says about an enabled mesh. -/
structure Config.MeshAccepted (c : Config) : Prop where
  interface : c.mesh.interface ≠ ""
  address : (parseCIDR c.mesh.address).isSome = true
  listenPort : 0 ≤ c.mesh.listenPort ∧ c.mesh.listenPort ≤ 65535
  peers : ∀ entry ∈ c.mesh.peers, entry.Accepted

/-- An accepted configuration with the mesh on has an accepted mesh. -/
theorem Config.Accepted.meshAccepted (h : c.Accepted) (hmesh : c.mesh.enabled = true) :
    c.MeshAccepted := by
  have hchecks := h.mesh
  simp only [Config.validateMesh, hmesh, ↓reduceIte, Checks.then_eq_ok, Checks.demand_eq_ok,
    Checks.each_eq_ok] at hchecks
  obtain ⟨hinterface, -, haddress, hport, hpeers⟩ := hchecks
  refine ⟨hinterface, haddress, hport, ?_⟩
  intro entry hentry
  obtain ⟨i, hi⟩ := List.mem_iff_getElem?.mp hentry
  have hpeer := hpeers (entry, i) (List.mem_zipIdx_iff_getElem?.mpr hi)
  unfold Config.validatePeer at hpeer
  split at hpeer
  · rename_i key hkey
    simp only [Checks.then_eq_ok, Checks.demand_eq_ok] at hpeer
    obtain ⟨-, hpodCIDR, haddress, hendpoint⟩ := hpeer
    exact ⟨⟨key, hkey⟩, hpodCIDR, haddress, hendpoint⟩
  · cases hpeer

/-- No name and no endpoint of a peer breaks a line. -/
def Config.PeersOnLines (c : Config) : Prop :=
  ∀ entry ∈ c.mesh.peers, '\n' ∉ entry.name.toList ∧ '\n' ∉ entry.endpoint.toList

theorem Config.PeersOnLines.breaks (h : c.PeersOnLines)
    (hpeers : c.mesh.resolvePeers = .ok peers) : ∀ peer ∈ peers, peer.breaks = [] := by
  intro peer hpeer
  obtain ⟨entry, hentry, hresolve⟩ := Checks.exists_of_mem_mapM hpeers hpeer
  obtain ⟨key, -, rfl⟩ := MeshPeerConfig.resolve_eq_ok hresolve
  rw [Peer.breaks, lines_eq_singleton (h entry hentry).1, lines_eq_singleton (h entry hentry).2]
  rfl

/-- The peers of an accepted configuration fit the policy derived from it. -/
theorem Config.Accepted.peers_fit (h : c.Accepted) (hmesh : c.mesh.enabled = true)
    (hpolicy : c.privilegedHelperPolicy loadKey = .ok p)
    (hpeers : c.mesh.resolvePeers = .ok peers)
    (hbreaks : ∀ peer ∈ peers, ∀ line ∈ peer.breaks, Wireguard.ConfigLine p line) :
    ∀ peer ∈ peers, PeerFits p peer := by
  obtain ⟨ifc, hifc, rfl⟩ := Config.privilegedHelperPolicy_enabled hmesh hpolicy
  obtain ⟨-, -, -, hsame⟩ := Config.meshInterfaceConfig_eq_ok hifc
  cases hpeers.symm.trans hsame
  intro peer hpeer
  obtain ⟨entry, hentry, hresolve⟩ := Checks.exists_of_mem_mapM hpeers hpeer
  obtain ⟨key, -, rfl⟩ := MeshPeerConfig.resolve_eq_ok hresolve
  refine ⟨hbreaks _ hpeer, ?_, List.cons_ne_nil _ _, ?_⟩
  · exact holds_putAll (Or.inl (List.mem_map_of_mem hpeer))
  · intro cidr hcidr
    refine configured_normalizeCIDRSet (Wireguard.mem_routeTargets.mpr ⟨_, hpeer, hcidr⟩) ?_
    exact ((h.meshAccepted hmesh).peers entry hentry).networks cidr hcidr

theorem Wireguard.addressIP_eq_ok {cidr : String} (h : addressIP cidr = .ok ip) :
    ∃ written net, parseCIDR cidr = some (written, net) ∧ ip = GoNet.ipString 16 written ∧
      ipEqual ip ip = true := by
  unfold addressIP at h
  split at h
  · rename_i written net hparse
    cases h
    obtain ⟨addr, mask, -, hip, -⟩ := parseCIDR_parts hparse
    have hread := GoNet.parseIP_ipString (GoNet.parseIP_spec hip).2
    refine ⟨written, net, hparse, rfl, ?_⟩
    simp [ipEqual, hread, GoNet.ipString_ne_empty]
  · cases h

/-- The interface of an accepted configuration fits the policy derived from it. -/
theorem Config.Accepted.interface_fits (h : c.Accepted) (hmesh : c.mesh.enabled = true)
    (hbreaks : c.PeersOnLines) (hpolicy : c.privilegedHelperPolicy loadKey = .ok p)
    {ifc : InterfaceConfig} (hifc : c.meshInterfaceConfig loadKey' = .ok ifc) :
    Wireguard.InterfaceFits p ifc := by
  obtain ⟨hname, haddress, hmtu, hpeers⟩ := Config.meshInterfaceConfig_eq_ok hifc
  have hfits := h.peers_fit hmesh hpolicy hpeers fun peer hpeer => by
    simp [hbreaks.breaks hpeers peer hpeer]
  obtain ⟨ifc', hifc', rfl⟩ := Config.privilegedHelperPolicy_enabled hmesh hpolicy
  obtain ⟨hname', haddress', hmtu', -⟩ := Config.meshInterfaceConfig_eq_ok hifc'
  refine ⟨⟨?_, hname.trans hname'.symm⟩, ?_, ?_, hfits⟩
  · change ifc'.name ≠ ""
    rw [hname']
    exact (h.meshAccepted hmesh).interface
  · intro ip hip
    obtain ⟨written, net, hparse, rfl, hequal⟩ := Wireguard.addressIP_eq_ok hip
    rw [haddress, ← haddress'] at hparse
    simpa only [Policy.withMesh, hparse] using hequal
  · change ifc'.mtu.toInt = ifc.mtu.toInt
    rw [hmtu', hmtu]

/-- A call a node with this configuration makes. -/
def Config.Meshes (c : Config) (call : MeshCall) : Prop :=
  ∀ peers, call = .sync peers → c.mesh.resolvePeers = .ok peers

/-- In every history of the mesh's calls, whatever the host answers, every
command that was issued is one the policy of the same configuration permits. -/
theorem mesh_commands_accepted (hvalid : c.validate parsers = .ok ())
    (hmesh : c.mesh.enabled = true) (hbreaks : c.PeersOnLines) {ifc : InterfaceConfig}
    (hifc : c.meshInterfaceConfig loadKey = .ok ifc)
    (hpolicy : c.privilegedHelperPolicy loadKey' = .ok p) {calls : List MeshCall} {s : MeshSession}
    (hrun : Run (meshStep host) (fun _ => c.Meshes) ⟨Mesh.new ifc, []⟩ calls s) :
    ∀ entry ∈ s.issued, p.validate entry.1 = .ok () := by
  have haccepted := Config.accepted_of_validate hvalid
  have hfits := haccepted.interface_fits hmesh hbreaks hpolicy hifc
  have hkept : Wireguard.SessionFits p (Wireguard.InterfaceFits p) s := by
    refine hrun.invariant ?_ ?_
    · refine ⟨hfits, ?_, ?_⟩
      · exact fun target htarget => absurd htarget (Finset.notMem_empty target)
      · exact fun entry hentry => by cases hentry
    · intro s s' call hs hcall hstep
      cases hstep
      refine (Wireguard.perform_maintains ?_ s hs).1
      intro peers hsync
      have hpeers := hcall peers hsync
      exact haccepted.peers_fit hmesh hpolicy hpeers fun peer hpeer => by
        simp [hbreaks.breaks hpeers peer hpeer]
  exact hkept.issued

def nodeKey : Key := ⟨List.replicate 32 1, rfl⟩

def nodeKeyFile : String → Except String Key := fun _ => .ok nodeKey

def meshWorker (peers : List MeshPeerConfig) : Config :=
  { worker true "bridge100" "" with
    mesh := ⟨true, "utun7", "/etc/macvz/wireguard.key", "10.99.0.1/24", 0, 1420, peers⟩ }

def secondNode : MeshPeerConfig :=
  ⟨"node-2", "AgICAgICAgICAgICAgICAgICAgICAgICAgICAgICAgI=", "203.0.113.7:51820", "10.244.2.0/24",
    "10.99.0.2/24", 25⟩

def secondPeer : Peer :=
  ⟨"node-2", ⟨List.replicate 32 2, rfl⟩, "203.0.113.7:51820", ["10.244.2.0/24", "10.99.0.2/24"], 25⟩

def meshWorkerInterface (peers : List Peer) : InterfaceConfig :=
  ⟨"utun7", nodeKey, "10.99.0.1/24", 51820, 1420, peers⟩

def meshWorkerPolicy (entries : List MeshPeerConfig) (peers : List Peer) : Policy :=
  (meshWorker entries).localPolicy.withMesh entries (meshWorkerInterface peers)

def easyHost : MeshHost := Wireguard.meshHostAnswering fun _ _ => .ok ""

theorem meshWorker_alone_accepted : (meshWorker []).validate knownParsers = .ok () := by
  decide

theorem meshWorker_validate
    (hentries : Checks.each (fun e => Config.validatePeer e.2 e.1) entries.zipIdx = .ok ()) :
    (meshWorker entries).validate knownParsers = .ok () := by
  have halone := meshWorker_alone_accepted
  simp only [Config.validate, Checks.then_eq_ok] at halone ⊢
  obtain ⟨hnode, hpodCIDR, hmesh, hpodNetwork, hhelper, hvolumes⟩ := halone
  refine ⟨hnode, hpodCIDR, ?_, hpodNetwork, hhelper, hvolumes⟩
  simp only [Config.validateMesh, meshWorker, ↓reduceIte, Checks.then_eq_ok] at hmesh ⊢
  exact ⟨hmesh.1, hmesh.2.1, hmesh.2.2.1, hmesh.2.2.2.1, hentries⟩

theorem meshWorker_interface_of (hpeers : entries.mapM MeshPeerConfig.resolve = .ok peers) :
    (meshWorker entries).meshInterfaceConfig nodeKeyFile = .ok (meshWorkerInterface peers) := by
  have hresolve : (meshWorker entries).mesh.resolvePeers = .ok peers := hpeers
  simp only [Config.meshInterfaceConfig, nodeKeyFile, hresolve]
  rfl

/-- The key of an entry, once parsed, leaves the networks and the endpoint to check. -/
theorem validatePeer_of_key (hkey : Wireguard.parseKey entry.publicKey = .ok key) (index : Nat)
    (hpodCIDR : (parseCIDR entry.podCIDR).isSome = true)
    (haddress : entry.address = "" ∨ (parseCIDR entry.address).isSome = true)
    (hendpoint : entry.endpoint = "" ∨ (GoNet.splitHostPort entry.endpoint).isSome = true) :
    Config.validatePeer index entry = .ok () := by
  simp only [Config.validatePeer, hkey, Checks.then_eq_ok, Checks.demand_eq_ok]
  exact ⟨trivial, hpodCIDR, haddress, hendpoint⟩

theorem resolve_of_key (hkey : Wireguard.parseKey entry.publicKey = .ok key) :
    entry.resolve = .ok ⟨entry.name, key, entry.endpoint,
      entry.podCIDR :: (if entry.address ≠ "" then [entry.address] else []),
      entry.persistentKeepalive⟩ := by
  rw [MeshPeerConfig.resolve, hkey]

theorem secondNode_key : Wireguard.parseKey secondNode.publicKey = .ok secondPeer.publicKey := by
  decide +kernel

theorem secondNode_valid : Config.validatePeer 0 secondNode = .ok () :=
  validatePeer_of_key secondNode_key 0 (by decide) (by decide) (by decide)

theorem meshWorker_accepted : (meshWorker [secondNode]).validate knownParsers = .ok () := by
  apply meshWorker_validate
  simp only [List.zipIdx_cons, List.zipIdx_nil, Checks.each, Checks.then_eq_ok]
  exact ⟨secondNode_valid, trivial⟩

theorem meshWorker_interface : (meshWorker [secondNode]).meshInterfaceConfig nodeKeyFile =
    .ok (meshWorkerInterface [secondPeer]) := by
  rfl

theorem second_node_commands_accepted :
    ∃ s, Run (meshStep easyHost) (fun _ => (meshWorker [secondNode]).Meshes)
        ⟨Mesh.new (meshWorkerInterface [secondPeer]), []⟩ [.up, .sync [secondPeer], .remove] s ∧
      s.issued.length = 13 ∧
      ∀ entry ∈ s.issued,
        (meshWorkerPolicy [secondNode] [secondPeer]).validate entry.1 = .ok () := by
  have hpolicy := Config.privilegedHelperPolicy_of_interface rfl meshWorker_interface
  have hpeers := (Config.meshInterfaceConfig_eq_ok meshWorker_interface).2.2.2
  have hbreaks : (meshWorker [secondNode]).PeersOnLines :=
    List.forall_mem_singleton.mpr (by decide)
  have hrun : Run (meshStep easyHost) (fun _ => (meshWorker [secondNode]).Meshes)
      ⟨Mesh.new (meshWorkerInterface [secondPeer]), []⟩ [.up, .sync [secondPeer], .remove] _ :=
    .cons (fun _ h => by cases h) rfl (.cons (fun _ h => by cases h; exact hpeers) rfl
      (.cons (fun _ h => by cases h) rfl .nil))
  refine ⟨_, hrun, by decide +kernel, ?_⟩
  exact mesh_commands_accepted meshWorker_accepted rfl hbreaks meshWorker_interface hpolicy hrun

end MacVz
