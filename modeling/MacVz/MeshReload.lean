/-
A reload of the peers while the mesh is up.  The helper switches to the policy
of the new configuration first, and then the mesh deletes the routes of the
peers that are gone, which the new policy does not know any more.
-/
import MacVz.MeshCommands

namespace MacVz

namespace Wireguard

open Privhelper StatefulFrame
open Podnet (Command CommandError)

variable {p : Policy} {host : MeshHost} {target : String}

def Grows (s s' : MeshSession) : Prop := s.issued ⊆ s'.issued

instance : Std.Refl Grows := ⟨fun s => List.Subset.refl s.issued⟩

instance : IsTrans MeshSession Grows := ⟨fun _ _ _ => List.Subset.trans⟩

theorem attempt_grows {c : Command} {benign : List String} {failure : CommandError → MeshError} :
    Frame Grows (attempt host c benign failure) :=
  attempt_frame fun s _ => List.subset_cons_self _ s.issued

theorem modifyMesh_grows (f : Mesh → Mesh) : Frame Grows (modifyMesh f) :=
  fun s => List.Subset.refl s.issued

theorem addMissing_grows (desired : List String) : Frame Grows (addMissing host desired) := by
  refine Frame.forM fun target _ => Frame.bind (Frame.get.bind fun s => Frame.pure _) fun m => ?_
  split
  · exact Frame.pure _
  · exact attempt_grows.bind fun _ => modifyMesh_grows _

theorem attempt_ok (hhost : ∀ issued c, host.reply issued c = .ok "") (c : Command)
    (benign : List String) (failure : CommandError → MeshError) (s : MeshSession) :
    (attempt host c benign failure).run s =
      .ok () { s with issued := (c, .ok "") :: s.issued } := by
  rcases attempt_cases host c benign failure s with ⟨e, hreply, -⟩ | ⟨-, hrun⟩
  · cases (hhost s.issued c).symm.trans hreply
  · rw [hrun, hhost]

/-- With a host that obliges, each recorded route no longer wanted gets a `route delete`. -/
theorem removeStale_issues (hhost : ∀ issued c, host.reply issued c = .ok "") (want : List String)
    (s : MeshSession) : ∃ s', (removeStale host want).run s = .ok () s' ∧ Grows s s' ∧
      ∀ target ∈ s.mesh.routes, target ∉ want →
        (s.mesh.routeCmd "delete" target, .ok "") ∈ s'.issued := by
  have hround : ∀ target ∈ host.order s.issued s.mesh.routes, ∀ s₁, ∃ s₂,
      (removeUnwanted host s.mesh want target).run s₁ = .ok () s₂ ∧ Grows s₁ s₂ ∧
        (target ∉ want → (s.mesh.routeCmd "delete" target, .ok "") ∈ s₂.issued) := by
    intro target _ s₁
    unfold removeUnwanted
    split
    · rename_i hwant
      exact ⟨s₁, rfl, refl s₁, fun hnot => absurd hwant hnot⟩
    · rw [EStateM.run_bind, attempt_ok hhost]
      exact ⟨_, rfl, List.subset_cons_self _ _, fun _ => List.mem_cons_self⟩
  obtain ⟨s', hrun, hgrows, hissued⟩ :=
    exists_run_forM (fun _ _ _ hmem hgrows hnot => hgrows (hmem hnot)) hround s
  exact ⟨s', hrun, hgrows, fun target htarget => hissued target (host.mem_order.mpr htarget)⟩

theorem reconcileRoutesLocked_issues (hhost : ∀ issued c, host.reply issued c = .ok "")
    (s : MeshSession) (desired : List String) :
    Grows s (final ((reconcileRoutesLocked host desired).run s)) ∧
      ∀ target ∈ s.mesh.routes, target ∉ desired → (s.mesh.routeCmd "delete" target, .ok "") ∈
        (final ((reconcileRoutesLocked host desired).run s)).issued := by
  obtain ⟨s', hrun, hgrows, hissued⟩ := removeStale_issues hhost desired s
  have hlater : Grows s' (final ((addMissing host desired).run s')) := addMissing_grows desired s'
  rw [reconcileRoutesLocked, EStateM.run_bind, hrun]
  exact ⟨IsTrans.trans _ _ _ hgrows hlater,
    fun target htarget hgone => hlater (hissued target htarget hgone)⟩

/-- A reload behind its checks, where nothing fails: it configures the new peers and deletes every
route of the peers that are gone. -/
theorem sync_issues (hhost : ∀ issued c, host.reply issued c = .ok "") (s : MeshSession)
    (hup : s.mesh.up = true) {peers : List Peer}
    (hvalid : { s.mesh.cfg with peers := peers }.validate = .ok ()) :
    (⟨"wg", ["syncconf", s.mesh.cfg.name, "/dev/stdin"],
        { s.mesh.cfg with peers := peers }.syncConfig⟩, .ok "") ∈
        (final ((sync host peers).run s)).issued ∧
      ∀ target ∈ s.mesh.routes, target ∉ { s.mesh.cfg with peers := peers }.routeTargets →
        (s.mesh.routeCmd "delete" target, .ok "") ∈ (final ((sync host peers).run s)).issued := by
  rw [sync_run hup hvalid, EStateM.run_bind, attempt_ok hhost]
  obtain ⟨hgrows, hdeletes⟩ := reconcileRoutesLocked_issues hhost
    ⟨{ s.mesh with cfg := { s.mesh.cfg with peers := peers } }, _⟩ _
  exact ⟨hgrows List.mem_cons_self, hdeletes⟩

theorem configured_of_routeCmd {m : Mesh} {op : String}
    (h : p.validate (m.routeCmd op target) = .ok ()) : Configured target p.routeCIDRs := by
  simp only [Policy.validate, Mesh.routeCmd, Policy.validateRoute, Checks.then_eq_ok,
    Checks.demand_eq_ok] at h
  obtain ⟨-, -, -, h⟩ := h
  split at h
  · simp at h
  · simp only [Checks.then_eq_ok, Policy.checkRouteCIDR_eq_ok] at h
    exact h.2.2

theorem config_of_accepted {op iface text : String}
    (h : p.validate ⟨"wg", [op, iface, "/dev/stdin"], text⟩ = .ok ()) : p.WireGuardConfig text := by
  simp only [Policy.validate, Policy.validateWG, Checks.then_eq_ok,
    Policy.lintWireGuardConfig_eq_ok] at h
  exact h.2.2

end Wireguard

open Privhelper StatefulFrame Interleaving
open Wireguard (Key Mesh MeshHost Peer meshStep)

variable {parsers : Parsers} {loadKey loadKey' : String → Except String Key} {p : Policy}

/-- The helper has reloaded its policy when `Sync` begins.  Every command of the
reload is permitted, whatever the host answers, exactly when the new peers are
refused before any command, or every installed route is still one of theirs and a
line break in a name or an endpoint begins nothing the policy refuses. -/
theorem reload_commands_accepted_iff {old new : Config} {m : Mesh} {peers : List Peer}
    (hnew : new.validate parsers = .ok ()) (hmesh : new.mesh.enabled = true)
    (hcfg : old.meshInterfaceConfig loadKey = .ok m.cfg)
    (hup : m.up = true) (hinterface : new.mesh.interface = old.mesh.interface)
    (hpolicy : new.privilegedHelperPolicy loadKey' = .ok p)
    (hpeers : new.mesh.resolvePeers = .ok peers) :
    (∀ host, ∀ entry ∈ (final ((Wireguard.sync host peers).run ⟨m, []⟩)).issued,
        p.validate entry.1 = .ok ()) ↔
      ({ m.cfg with peers := peers }.validate = .ok () →
        (∀ peer ∈ peers, ∀ line ∈ peer.breaks, Wireguard.ConfigLine p line) ∧
          ∀ target ∈ m.routes, Configured target p.routeCIDRs) := by
  have haccepted := Config.accepted_of_validate hnew
  have hname : p.OnMesh m.cfg.name := by
    have hmanaged := Config.policy_meshInterface hpolicy
    rw [hmesh, if_pos rfl] at hmanaged
    rw [Policy.OnMesh, hmanaged, (Config.meshInterfaceConfig_eq_ok hcfg).1]
    exact ⟨(haccepted.meshAccepted hmesh).interface, hinterface.symm⟩
  constructor
  · intro hall hvalid
    have hissued := Wireguard.sync_issues
      (fun _ _ => rfl : ∀ issued c, easyHost.reply issued c = .ok "") ⟨m, []⟩ hup hvalid
    have hconfig := Wireguard.config_of_accepted (hall easyHost _ hissued.1)
    have hbreaks : ∀ peer ∈ peers, ∀ line ∈ peer.breaks, Wireguard.ConfigLine p line :=
      fun _ hpeer => Wireguard.breaks_of_linted hconfig hpeer
    have hfits := haccepted.peers_fit hmesh hpolicy hpeers hbreaks
    refine ⟨hbreaks, fun target htarget => ?_⟩
    by_cases hgone : target ∈ { m.cfg with peers := peers }.routeTargets
    · obtain ⟨peer, hpeer, hcidr⟩ := Wireguard.mem_routeTargets.mp hgone
      exact (hfits peer hpeer).allowedIPs target hcidr
    · exact Wireguard.configured_of_routeCmd (hall easyHost _ (hissued.2 target htarget hgone))
  · intro hroutes host
    cases hvalid : { m.cfg with peers := peers }.validate with
    | error e =>
      rw [Wireguard.sync_run_invalid (s := ⟨m, []⟩) hvalid]
      exact List.forall_mem_nil _
    | ok =>
      have hstart : Wireguard.SessionFits p (fun cfg => p.OnMesh cfg.name) ⟨m, []⟩ :=
        ⟨hname, (hroutes hvalid).2, List.forall_mem_nil _⟩
      have hfits := haccepted.peers_fit hmesh hpolicy hpeers (hroutes hvalid).1
      exact (Wireguard.sync_maintains (fun _ h => h) hfits (fun _ h => h) _ hstart).1.issued

def upWithSecondNode : Mesh :=
  ⟨meshWorkerInterface [secondPeer], {"10.244.2.0/24", "10.99.0.2/24"}, true⟩

/-- The same node with its mesh address written without host bits, and a note in its name that
the configuration carries as a comment line. -/
def secondNodeMasked : MeshPeerConfig :=
  { secondNode with name := "node-2\n# rack 4", address := "10.99.0.0/24" }

def secondPeerMasked : Peer :=
  { secondPeer with
    name := "node-2\n# rack 4", allowedIPs := ["10.244.2.0/24", "10.99.0.0/24"] }

theorem respelled_peer_reload_accepted :
    (meshWorker [secondNodeMasked]).validate knownParsers = .ok () ∧
      ∀ host, ∀ entry ∈ (final ((Wireguard.sync host [secondPeerMasked]).run
          ⟨upWithSecondNode, []⟩)).issued,
        (meshWorkerPolicy [secondNodeMasked] [secondPeerMasked]).validate entry.1 = .ok () := by
  have hkey : Wireguard.parseKey secondNodeMasked.publicKey = .ok secondPeerMasked.publicKey :=
    secondNode_key
  have hnew : (meshWorker [secondNodeMasked]).validate knownParsers = .ok () := by
    apply meshWorker_validate
    simp only [List.zipIdx_cons, List.zipIdx_nil, Checks.each, Checks.then_eq_ok]
    exact ⟨validatePeer_of_key hkey 0 (by decide) (by decide) (by decide),
      trivial⟩
  have hifc : (meshWorker [secondNodeMasked]).meshInterfaceConfig nodeKeyFile =
      .ok (meshWorkerInterface [secondPeerMasked]) := by
    apply meshWorker_interface_of
    simp only [List.mapM_cons, resolve_of_key hkey]
    rfl
  have hpolicy := Config.privilegedHelperPolicy_of_interface rfl hifc
  have hpeers := (Config.meshInterfaceConfig_eq_ok hifc).2.2.2
  have hbreaks : secondPeerMasked.breaks = ["# rack 4".toList] := by decide
  have hinterface : (meshWorker [secondNodeMasked]).mesh.interface =
    (meshWorker [secondNode]).mesh.interface := rfl
  refine ⟨hnew, ?_⟩
  refine (reload_commands_accepted_iff (m := upWithSecondNode) hnew rfl
    meshWorker_interface rfl hinterface hpolicy hpeers).mpr fun _ => ⟨?_, fun target htarget => ?_⟩
  · refine List.forall_mem_singleton.mpr ?_
    rw [hbreaks, List.forall_mem_singleton]
    exact .inr (.inl (by decide))
  rw [upWithSecondNode, Finset.mem_insert, Finset.mem_singleton] at htarget
  rcases htarget with rfl | rfl
  · exact ⟨_, _, rfl, by decide⟩
  · exact ⟨_, _, rfl, by decide⟩

/-- What runs the commands for the mesh: the helper with its policy. -/
def helperHost (p : Policy) : MeshHost := Wireguard.meshHostAnswering fun _ c =>
  if p.validate c = .ok () then .ok "" else .error ⟨-1, ""⟩

/-- The second node is removed: the reload stops at the first route of the old
peer, which the helper refuses to delete, and the route stays. -/
theorem removed_peer_route_refused : (meshWorker [secondNode]).validate knownParsers = .ok () ∧
      (meshWorker []).validate knownParsers = .ok () ∧
      (meshWorker [secondNode]).meshInterfaceConfig nodeKeyFile =
        .ok (meshWorkerInterface [secondPeer]) ∧
      (meshWorker []).meshInterfaceConfig nodeKeyFile = .ok (meshWorkerInterface []) ∧
      (meshWorker []).privilegedHelperPolicy nodeKeyFile = .ok (meshWorkerPolicy [] []) ∧
      (∃ s, Run (meshStep easyHost) (fun _ _ => True)
        ⟨Mesh.new (meshWorkerInterface [secondPeer]), []⟩ [.up] s ∧ s.mesh = upWithSecondNode) ∧
      "10.244.2.0/24" ∈ (final ((Wireguard.sync (helperHost (meshWorkerPolicy [] [])) []).run
        ⟨upWithSecondNode, []⟩)).mesh.routes ∧
      ∃ entry ∈ (final ((Wireguard.sync (helperHost (meshWorkerPolicy [] [])) []).run
          ⟨upWithSecondNode, []⟩)).issued,
        (meshWorkerPolicy [] []).validate entry.1 =
          .error (.routeTargetNotConfigured "10.244.2.0/24") := by
  have hnew : (meshWorker []).meshInterfaceConfig nodeKeyFile = .ok (meshWorkerInterface []) :=
    meshWorker_interface_of rfl
  refine ⟨meshWorker_accepted, meshWorker_alone_accepted, meshWorker_interface, hnew,
    Config.privilegedHelperPolicy_of_interface rfl hnew, ⟨_, .cons trivial rfl .nil, ?_⟩, ?_⟩
  · exact Mesh.ext (by decide +kernel) (by decide +kernel) (by decide +kernel)
  · decide +kernel

end MacVz
