/-
The two checks of a mesh: that of the configuration file, made before a reload
is accepted, and that of the interface, made when it is applied.  The second
one also looks at the MTU, the keepalives and the keys of the peers among each
other, so a configuration that passes the first may still fail the second.
-/
import MacVz.MeshCommands

namespace MacVz

variable {peers : List Peer} {p : Peer} {entry : MeshPeerConfig}

namespace Wireguard

open Checks

variable {cfg : InterfaceConfig}

theorem Peer.validate_eq_ok : p.validate = .ok () ↔
    p.publicKey.isZero = false ∧ p.allowedIPs ≠ [] ∧
      (∀ cidr ∈ p.allowedIPs, (parseCIDR cidr).isSome = true) ∧
      (p.endpoint = "" ∨ (GoNet.splitHostPort p.endpoint).isSome = true) ∧
      0 ≤ p.persistentKeepalive := by
  simp only [Peer.validate, then_eq_ok, demand_eq_ok, each_eq_ok]

/-- The loop over the peers accepts when every peer is accepted by itself and no
two of them, the ones seen before included, share a key. -/
theorem validatePeers_eq_ok {seen : List Peer} : validatePeers seen peers = .ok () ↔
    (∀ p ∈ peers, p.validate = .ok ()) ∧
      (∀ p ∈ peers, ∀ other ∈ seen, other.publicKey ≠ p.publicKey) ∧
      peers.Pairwise fun a b => a.publicKey ≠ b.publicKey := by
  induction peers generalizing seen with
  | nil => simp [validatePeers]
  | cons p rest ih =>
    rw [validatePeers, then_eq_ok]
    cases hfound : seen.find? (·.publicKey = p.publicKey) with
    | some other =>
      have hsame : other.publicKey = p.publicKey := by
        simpa using List.find?_some hfound
      have hmem := List.mem_of_find?_eq_some hfound
      constructor
      · rintro ⟨-, h⟩
        cases h
      · rintro ⟨-, hseen, -⟩
        exact absurd hsame (hseen p List.mem_cons_self other hmem)
    | none =>
      have hfresh : ∀ other ∈ seen, other.publicKey ≠ p.publicKey := by
        simpa using List.find?_eq_none.mp hfound
      simp only [ih, List.forall_mem_cons, List.pairwise_cons]
      constructor
      · rintro ⟨hp, hrest, hseen, hpairs⟩
        refine ⟨⟨hp, hrest⟩, ⟨hfresh, fun q hq => (hseen q hq).2⟩, ?_, hpairs⟩
        exact fun q hq => (hseen q hq).1
      · rintro ⟨⟨hp, hrest⟩, ⟨-, hseen⟩, hfirst, hpairs⟩
        exact ⟨hp, hrest, fun q hq => ⟨hfirst q hq, hseen q hq⟩, hpairs⟩

theorem InterfaceConfig.validate_eq_ok : cfg.validate = .ok () ↔
    cfg.name ≠ "" ∧ cfg.privateKey.isZero = false ∧ cfg.address ≠ "" ∧
      (parseCIDR cfg.address).isSome = true ∧ (1 ≤ cfg.listenPort ∧ cfg.listenPort ≤ 65535) ∧
      0 ≤ cfg.mtu.toInt ∧ validatePeers [] cfg.peers = .ok () := by
  simp only [InterfaceConfig.validate, then_eq_ok, demand_eq_ok]

theorem InterfaceConfig.validate_withPeers (h : cfg.validate = .ok ()) :
    { cfg with peers := peers }.validate = .ok () ↔ validatePeers [] peers = .ok () := by
  rw [validate_eq_ok] at h ⊢
  obtain ⟨hname, hprivate, haddress, hcidr, hport, hmtu, -⟩ := h
  constructor
  · rintro ⟨-, -, -, -, -, -, hpeers⟩
    exact hpeers
  · intro hpeers
    exact ⟨hname, hprivate, haddress, hcidr, hport, hmtu, hpeers⟩

end Wireguard

open Wireguard (InterfaceConfig Key Peer)

variable {parsers : Parsers} {loadKey : String → Except String Key} {c : Config}

/-- What the interface asks of an entry beyond the configuration's own checks. -/
def MeshPeerConfig.Applies (entry : MeshPeerConfig) : Prop :=
  0 ≤ entry.persistentKeepalive ∧
    ∀ key, Wireguard.parseKey entry.publicKey = .ok key → key.isZero = false

/-- What the interface asks of the entries beyond the configuration's own checks. -/
structure Config.PeersApply (c : Config) : Prop where
  each : ∀ entry ∈ c.mesh.peers, entry.Applies
  distinct : c.mesh.peers.Pairwise fun a b =>
    Wireguard.parseKey a.publicKey ≠ Wireguard.parseKey b.publicKey

theorem MeshPeerConfig.Accepted.exists_resolve (h : entry.Accepted) :
    ∃ peer, entry.resolve = .ok peer := by
  obtain ⟨key, hkey⟩ := h.publicKey
  exact ⟨_, by rw [MeshPeerConfig.resolve, hkey]⟩

/-- An accepted entry's peer validates exactly where the entry applies. -/
theorem MeshPeerConfig.Accepted.validate_iff (h : entry.Accepted) {peer : Peer}
    (hresolve : entry.resolve = .ok peer) : entry.Applies ↔ peer.validate = .ok () := by
  obtain ⟨key, hkey, rfl⟩ := resolve_eq_ok hresolve
  rw [Wireguard.Peer.validate_eq_ok, MeshPeerConfig.Applies, hkey]
  constructor
  · rintro ⟨hkeepalive, hnonzero⟩
    exact ⟨hnonzero key rfl, List.cons_ne_nil _ _, h.networks, h.endpoint, hkeepalive⟩
  · rintro ⟨hnonzero, -, -, -, hkeepalive⟩
    refine ⟨hkeepalive, fun key' hkey' => ?_⟩
    cases hkey'
    exact hnonzero

theorem MeshPeerConfig.keys_ne_iff {a b : MeshPeerConfig} {q : Peer} (hp : a.resolve = .ok p)
    (hq : b.resolve = .ok q) : Wireguard.parseKey a.publicKey ≠ Wireguard.parseKey b.publicKey ↔
      p.publicKey ≠ q.publicKey := by
  obtain ⟨key, hkey, rfl⟩ := resolve_eq_ok hp
  obtain ⟨key', hkey', rfl⟩ := resolve_eq_ok hq
  rw [hkey, hkey', ne_eq, Except.ok.injEq]

/-- An accepted mesh with a readable key has an interface configuration. -/
theorem Config.MeshAccepted.exists_interface (h : c.MeshAccepted) {key : Key}
    (hkey : loadKey c.mesh.privateKeyFile = .ok key) :
    ∃ peers, c.mesh.resolvePeers = .ok peers ∧ c.meshInterfaceConfig loadKey =
      .ok ⟨c.mesh.interface, key, c.mesh.address,
        if c.mesh.listenPort = 0 then defaultMeshListenPort else c.mesh.listenPort,
        c.mesh.mtu, peers⟩ := by
  obtain ⟨peers, hpeers⟩ : ∃ peers, c.mesh.resolvePeers = .ok peers :=
    Checks.exists_mapM fun entry hentry => (h.peers entry hentry).exists_resolve
  refine ⟨peers, hpeers, ?_⟩
  rw [Config.meshInterfaceConfig, hkey, hpeers]
  rfl

/-- The peers of an accepted configuration pass the interface's check exactly when
they apply. -/
theorem Config.MeshAccepted.validatePeers_iff (h : c.MeshAccepted)
    (hpeers : c.mesh.resolvePeers = .ok peers) :
    Wireguard.validatePeers [] peers = .ok () ↔ c.PeersApply := by
  have hpairs := (List.forall₂_and_left _ _).mpr ⟨h.peers, (Checks.mapM_eq_ok _ _ _).mp hpeers⟩
  have heach := Checks.forall_mem_iff_of_forall₂
    (fun _ _ hpair => hpair.1.validate_iff hpair.2) hpairs
  have hdistinct := Checks.pairwise_iff_of_forall₂
    (fun _ _ _ _ hpair hpair' => MeshPeerConfig.keys_ne_iff hpair.2 hpair'.2) hpairs
  rw [Wireguard.validatePeers_eq_ok, ← heach, ← hdistinct]
  constructor
  · rintro ⟨hall, -, hkeys⟩
    exact ⟨hall, hkeys⟩
  · rintro ⟨hall, hkeys⟩
    exact ⟨hall, fun _ _ _ hseen => absurd hseen List.not_mem_nil, hkeys⟩

/-- The configured mesh can be applied exactly when its MTU is not negative and its
peers apply; a running interface takes the peers over exactly when they apply. -/
theorem mesh_interface_valid_iff (hvalid : c.validate parsers = .ok ())
    (hmesh : c.mesh.enabled = true) {key : Key} (hkey : loadKey c.mesh.privateKeyFile = .ok key)
    (hnonzero : key.isZero = false) : ∃ ifc, c.meshInterfaceConfig loadKey = .ok ifc ∧
      (ifc.validate = .ok () ↔ 0 ≤ c.mesh.mtu.toInt ∧ c.PeersApply) ∧
      ∀ running : InterfaceConfig, running.validate = .ok () →
        ({ running with peers := ifc.peers }.validate = .ok () ↔ c.PeersApply) := by
  have haccepted := (Config.accepted_of_validate hvalid).meshAccepted hmesh
  obtain ⟨peers, hpeers, hifc⟩ := haccepted.exists_interface hkey
  have hchecks := haccepted.validatePeers_iff hpeers
  refine ⟨_, hifc, ?_, ?_⟩
  · rw [Wireguard.InterfaceConfig.validate_eq_ok, ← hchecks]
    constructor
    · rintro ⟨-, -, -, -, -, hmtu, hown⟩
      exact ⟨hmtu, hown⟩
    · rintro ⟨hmtu, hown⟩
      refine ⟨haccepted.interface, hnonzero, ?_, haccepted.address, ?_, hmtu, hown⟩
      · intro hempty
        have haddress := haccepted.address
        rw [show c.mesh.address = "" from hempty] at haddress
        exact absurd haddress (by decide)
      · have hport := haccepted.listenPort
        simp only [defaultMeshListenPort]
        split <;> omega
  · intro running hrunning
    rw [Wireguard.InterfaceConfig.validate_withPeers hrunning, hchecks]

/-- A third node that was copied from the second one, with a network of its own. -/
def copiedNode : MeshPeerConfig :=
  { secondNode with name := "node-3", podCIDR := "10.244.3.0/24", address := "10.99.0.3/24" }

/-- The third node with a key of its own. -/
def thirdNode : MeshPeerConfig :=
  { copiedNode with publicKey := "AwMDAwMDAwMDAwMDAwMDAwMDAwMDAwMDAwMDAwMDAwM=" }

theorem two_peers_interface_valid :
    ∃ ifc, (meshWorker [secondNode, thirdNode]).meshInterfaceConfig nodeKeyFile = .ok ifc ∧
      ifc.validate = .ok () := by
  have hkey : Wireguard.parseKey thirdNode.publicKey = .ok ⟨List.replicate 32 3, rfl⟩ := by
    decide +kernel
  have hvalid : (meshWorker [secondNode, thirdNode]).validate knownParsers = .ok () := by
    apply meshWorker_validate
    simp only [List.zipIdx_cons, List.zipIdx_nil, Checks.each, Checks.then_eq_ok]
    exact ⟨secondNode_valid, validatePeer_of_key hkey 1 (by decide +kernel) (by decide +kernel)
      (by decide +kernel), trivial⟩
  have happlies : (meshWorker [secondNode, thirdNode]).PeersApply := by
    constructor
    · have hboth : secondNode.Applies ∧ thirdNode.Applies := by
        refine ⟨⟨by decide, fun key hparsed => ?_⟩, ⟨by decide, fun key hparsed => ?_⟩⟩
        · cases hparsed.symm.trans secondNode_key
          rfl
        · cases hparsed.symm.trans hkey
          rfl
      simpa [meshWorker] using hboth
    · refine List.pairwise_pair.mpr ?_
      rw [secondNode_key, hkey]
      decide
  obtain ⟨ifc, hifc, hiff, -⟩ :=
    mesh_interface_valid_iff hvalid rfl (show nodeKeyFile _ = .ok nodeKey from rfl) (by decide)
  exact ⟨ifc, hifc, hiff.mpr ⟨by decide, happlies⟩⟩

def copiedPeer : Peer :=
  { secondPeer with name := "node-3", allowedIPs := ["10.244.3.0/24", "10.99.0.3/24"] }

/-- The key left in the copy is found only when the mesh is applied. -/
theorem shared_key_refused_late :
    (meshWorker [secondNode, copiedNode]).validate knownParsers = .ok () ∧
      (meshWorker [secondNode, copiedNode]).meshInterfaceConfig nodeKeyFile =
        .ok (meshWorkerInterface [secondPeer, copiedPeer]) ∧
      nodeKey.isZero = false ∧
      (meshWorkerInterface [secondPeer, copiedPeer]).validate =
        .error (.sharedPublicKey "node-2" "node-3") ∧
      (meshWorkerInterface [secondPeer]).validate = .ok () := by
  have hkey : Wireguard.parseKey copiedNode.publicKey = .ok copiedPeer.publicKey := secondNode_key
  refine ⟨?_, ?_, by decide⟩
  · apply meshWorker_validate
    simp only [List.zipIdx_cons, List.zipIdx_nil, Checks.each, Checks.then_eq_ok]
    exact ⟨secondNode_valid, validatePeer_of_key hkey 1 (by decide) (by decide)
      (by decide), trivial⟩
  · apply meshWorker_interface_of
    simp only [List.mapM_cons, resolve_of_key secondNode_key, resolve_of_key hkey]
    rfl

end MacVz
