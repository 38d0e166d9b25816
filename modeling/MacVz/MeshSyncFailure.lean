/-
A `Sync` that fails.  By the time its routes are reconciled, `wg` has accepted
the new configuration and the mesh reports the new peers, so a route that cannot
be changed is reported as a failure of something that has half happened.
-/
import MacVz.MeshRouteHistory

namespace MacVz

namespace Wireguard

open Interleaving StatefulFrame
open Podnet (Command CommandError Reply benignError)

variable {desired : List String}

/-- `Peers`: the names of the peers, sorted. -/
def Mesh.peers (m : Mesh) : List String := (m.cfg.peers.map Peer.name).insertionSort (· ≤ ·)

/-- The configuration `wg` accepted last, from the commands run so far. -/
def acceptedConfig : List (Command × Reply) → Option String
  | [] => none
  | (c, .ok _) :: earlier => if c.name = "wg" then some c.stdin else acceptedConfig earlier
  | (_, .error _) :: earlier => acceptedConfig earlier

variable {host : MeshHost} {s s' : MeshSession} {peers : List Peer}

theorem acceptedConfig_other {c : Command} (hname : c.name ≠ "wg") (reply : Reply)
    (issued : List (Command × Reply)) :
    acceptedConfig ((c, reply) :: issued) = acceptedConfig issued := by
  cases reply with
  | ok out => rw [acceptedConfig, if_neg hname]
  | error e => rfl

/-- The peers in force: those of the mesh, and the configuration accepted last. -/
def MeshSession.inForce (s : MeshSession) : InterfaceConfig × Option String :=
  (s.mesh.cfg, acceptedConfig s.issued)

theorem reconcileRoutesLocked_inForce (desired : List String) :
    Frame (Same MeshSession.inForce) (reconcileRoutesLocked host desired) := by
  refine reconcileRoutesLocked_frame (fun s c reply hname => ?_) (fun _ _ => rfl) desired
  exact Prod.ext rfl (acceptedConfig_other (by simp [hname]) reply s.issued)

theorem reconcileRoutesLocked_idle (host : MeshHost)
    (h : ∀ target, target ∈ s.mesh.routes ↔ target ∈ desired) :
    (reconcileRoutesLocked host desired).run s = .ok () s := by
  have hstale : (removeStale host desired).run s = .ok () s := by
    refine run_forM_idle fun target htarget => ?_
    rw [removeUnwanted, if_pos ((h target).mp (host.mem_order.mp htarget))]
    rfl
  rw [reconcileRoutesLocked, EStateM.run_bind, hstale]
  refine run_forM_idle fun target htarget => ?_
  change (if target ∈ s.mesh.routes then pure () else _ : MeshM Unit).run s = _
  rw [if_pos ((h target).mpr htarget)]
  rfl

/-- The configuration a `Sync` moves to. -/
abbrev Mesh.next (m : Mesh) (peers : List Peer) : InterfaceConfig := { m.cfg with peers := peers }

/-- The command that hands the new peers to `wg`. -/
def Mesh.syncconfCmd (m : Mesh) (peers : List Peer) : Command :=
  ⟨"wg", ["syncconf", m.cfg.name, "/dev/stdin"], (m.next peers).syncConfig⟩

/-- What `Sync` has changed before its routes. -/
def MeshSession.configured (s : MeshSession) (peers : List Peer) (out : String) : MeshSession :=
  ⟨{ s.mesh with cfg := s.mesh.next peers }, (s.mesh.syncconfCmd peers, .ok out) :: s.issued⟩

/-- `Sync` of a mesh that is up, to peers that pass the checks: `wg` refuses the
configuration, or it is in force when the routes are reconciled. -/
theorem sync_cases (host : MeshHost) (hup : s.mesh.up = true)
    (hvalid : (s.mesh.next peers).validate = .ok ()) :
    (∃ e, host.reply s.issued (s.mesh.syncconfCmd peers) = .error e ∧
        ∃ failure s', (sync host peers).run s = .error failure s' ∧ s'.inForce = s.inForce) ∨
      ∃ out, (sync host peers).run s =
        (reconcileRoutesLocked host (s.mesh.next peers).routeTargets).run
          (s.configured peers out) := by
  rw [sync_run hup hvalid, EStateM.run_bind]
  rcases attempt_cases host (s.mesh.syncconfCmd peers) [] (.syncConfig s.mesh.cfg.name) s with
    ⟨e, hreply, -, hrun⟩ | ⟨hsettled, hrun⟩
  · rw [Mesh.syncconfCmd] at hrun
    rw [hrun]
    refine Or.inl ⟨e, hreply, _, _, rfl, ?_⟩
    rw [Mesh.syncconfCmd] at hreply
    rw [hreply]
    rfl
  · -- no failure of `wg` is benign
    cases hreply : host.reply s.issued (s.mesh.syncconfCmd peers) with
    | ok out =>
      rw [hreply, Mesh.syncconfCmd] at hrun
      rw [hrun]
      exact Or.inr ⟨out, rfl⟩
    | error e => cases hsettled e hreply

theorem reconcileRoutesLocked_configured {out : String} {e : MeshError}
    (hrun : (reconcileRoutesLocked host desired).run (s.configured peers out) = .error e s') :
    s'.inForce = (s.mesh.next peers, some (s.mesh.next peers).syncConfig) := by
  have hkept : Same MeshSession.inForce (s.configured peers out)
      (final ((reconcileRoutesLocked host desired).run (s.configured peers out))) :=
    reconcileRoutesLocked_inForce desired _
  rw [hrun] at hkept
  exact hkept

def notRoot : CommandError := ⟨77, "route: must be root to alter routing table"⟩

def routesRefused : MeshHost := meshHostAnswering fun _ c =>
  if c.name = "wg" then .ok "" else .error notRoot

theorem routesRefused_truthful : TruthfulHost routesRefused := by
  constructor
  · intro issued m target net e _ hreply hbenign
    cases hreply
    exact absurd hbenign (by decide)
  · intro issued m target net e _ hreply hbenign
    cases hreply
    exact absurd hbenign (by decide)

theorem attempt_refused {benign : List String} (hbenign : benignError benign notRoot = false)
    (m : Mesh) (op target : String) (failure : CommandError → MeshError)
    (next : Unit → MeshM Unit) :
    Frame Quiet (attempt routesRefused (m.routeCmd op target) benign failure >>= next) := by
  intro s
  have hreply : routesRefused.reply s.issued (m.routeCmd op target) = .error notRoot := rfl
  rcases attempt_cases routesRefused (m.routeCmd op target) benign failure s with
    ⟨e, -, -, hrun⟩ | ⟨hsettled, -⟩
  · rw [EStateM.run_bind, hrun]
    rfl
  · cases hbenign.symm.trans (hsettled notRoot hreply)

theorem reconcileRoutesLocked_refused (desired : List String) :
    Frame Quiet (reconcileRoutesLocked routesRefused desired) := by
  refine (Frame.get.bind fun s => Frame.forM fun target _ => ?_).bind fun _ =>
    Frame.forM fun target _ => (Frame.get.bind fun s => Frame.pure _).bind fun m => ?_
  · unfold removeUnwanted
    split
    · exact Frame.pure _
    · exact attempt_refused (by decide) _ _ _ _ _
  · split
    · exact Frame.pure _
    · exact attempt_refused (by decide) _ _ _ _ _

theorem reconcileRoutesLocked_stuck (h : ¬ ∀ target, target ∈ s.mesh.routes ↔ target ∈ desired) :
    ∃ e s', (reconcileRoutesLocked routesRefused desired).run s = .error e s' := by
  cases hrun : (reconcileRoutesLocked routesRefused desired).run s with
  | error e s' => exact ⟨e, s', rfl⟩
  | ok _ s' =>
    have hquiet := reconcileRoutesLocked_refused desired s
    rw [hrun] at hquiet
    refine absurd (fun target => ?_) h
    rw [← show s'.mesh.routes = s.mesh.routes from hquiet.routes]
    exact reconcileRoutesLocked_tracked routesRefused_truthful hrun target

/-- Whatever fails, a `Sync` that returns an error leaves the reported peers and the
accepted configuration as they were, exactly when the new peers do not pass the checks,
or no route has to change, or names and configuration are the old ones anyway. -/
theorem failed_sync_keeps_peers_iff (hup : s.mesh.up = true) (peers : List Peer) :
    (∀ host e s', (sync host peers).run s = .error e s' →
        s'.mesh.peers = s.mesh.peers ∧ acceptedConfig s'.issued = acceptedConfig s.issued) ↔
      (s.mesh.next peers).validate ≠ .ok () ∨
        (∀ target, target ∈ s.mesh.routes ↔ target ∈ (s.mesh.next peers).routeTargets) ∨
        ({ s.mesh with cfg := s.mesh.next peers }.peers = s.mesh.peers ∧
          acceptedConfig s.issued = some (s.mesh.next peers).syncConfig) := by
  constructor
  · intro hkeeps
    by_cases hvalid : (s.mesh.next peers).validate = .ok ()
    · refine Or.inr (or_iff_not_imp_left.mpr fun hroutes => ?_)
      rcases sync_cases routesRefused hup hvalid with ⟨e, hreply, -⟩ | ⟨out, hreconcile⟩
      · cases hreply
      · obtain ⟨e, s', hstuck⟩ := reconcileRoutesLocked_stuck (s := s.configured peers out) hroutes
        have hnew := reconcileRoutesLocked_configured hstuck
        obtain ⟨hpeers, haccepted⟩ := hkeeps _ e s' (hreconcile.trans hstuck)
        refine ⟨?_, haccepted.symm.trans (congrArg Prod.snd hnew)⟩
        rw [← hpeers, Mesh.peers, Mesh.peers, show s'.mesh.cfg = _ from congrArg Prod.fst hnew]
    · exact Or.inl hvalid
  · intro hcases host e s' hrun
    cases hvalid : (s.mesh.next peers).validate with
    | error cause =>
      cases (sync_run_invalid hvalid).symm.trans hrun
      exact ⟨rfl, rfl⟩
    | ok =>
      rcases sync_cases host hup hvalid with ⟨-, -, failure, s₁, hfails, hsame⟩ | ⟨out, hreconcile⟩
      · cases hfails.symm.trans hrun
        refine ⟨?_, congrArg Prod.snd hsame⟩
        rw [Mesh.peers, Mesh.peers, show s'.mesh.cfg = _ from congrArg Prod.fst hsame]
        rfl
      · have hstop := hreconcile.symm.trans hrun
        have hnew := reconcileRoutesLocked_configured hstop
        rcases hcases with hinvalid | hidle | ⟨hpeers, haccepted⟩
        · exact absurd hvalid hinvalid
        · have hdone := reconcileRoutesLocked_idle host (s := s.configured peers out) hidle
          cases hdone.symm.trans hstop
        · refine ⟨?_, (congrArg Prod.snd hnew).trans haccepted.symm⟩
          rw [← hpeers, Mesh.peers, Mesh.peers, show s'.mesh.cfg = _ from congrArg Prod.fst hnew]

def movedPeer : Peer := { secondPeer with endpoint := "203.0.113.9:51820" }

theorem moved_peer_failed_sync_keeps_peers : (upWith [secondPeer]).mesh.peers = ["node-2"] ∧
      ∀ host e s', (sync host [movedPeer]).run (upWith [secondPeer]) = .error e s' →
        s'.mesh.peers = (upWith [secondPeer]).mesh.peers ∧
          acceptedConfig s'.issued = acceptedConfig (upWith [secondPeer]).issued := by
  -- one evaluation for all, so that the mesh is brought up only once
  have hstate : (upWith [secondPeer]).mesh.up = true ∧
      (upWith [secondPeer]).mesh.peers = ["node-2"] ∧
      (upWith [secondPeer]).mesh.routes =
        ((upWith [secondPeer]).mesh.next [movedPeer]).routeTargets.toFinset := by
    decide +kernel
  obtain ⟨hup, hpeers, hroutes⟩ := hstate
  refine ⟨hpeers, (failed_sync_keeps_peers_iff hup [movedPeer]).mpr
    (Or.inr (Or.inl fun target => ?_))⟩
  rw [hroutes, List.mem_toFinset]

def deletesRefused : MeshHost := meshHostAnswering fun _ c =>
  match routeRequest c with
  | some ("delete", _) => .error notRoot
  | _ => .ok ""

def upOnDeletesRefused : MeshSession :=
  final ((up deletesRefused).run ⟨Mesh.new (meshWorkerInterface [secondPeer]), []⟩)

/-- The second node is removed: the first route cannot be deleted, and the failed call
has taken over the new peers all the same. -/
theorem failed_sync_changes_peers : Run (meshStep deletesRefused) (fun _ _ => True)
        ⟨Mesh.new (meshWorkerInterface [secondPeer]), []⟩ [.up] upOnDeletesRefused ∧
      upOnDeletesRefused.mesh.up = true ∧ upOnDeletesRefused.mesh.peers = ["node-2"] ∧
      ∃ e s', (sync deletesRefused []).run upOnDeletesRefused = .error e s' ∧
        s'.mesh.peers = [] ∧
        acceptedConfig s'.issued ≠ acceptedConfig upOnDeletesRefused.issued := by
  have hstate : succeeded ((sync deletesRefused []).run upOnDeletesRefused) = false ∧
      upOnDeletesRefused.mesh.up = true ∧ upOnDeletesRefused.mesh.peers = ["node-2"] ∧
      (final ((sync deletesRefused []).run upOnDeletesRefused)).mesh.peers = [] ∧
      acceptedConfig (final ((sync deletesRefused []).run upOnDeletesRefused)).issued ≠
        acceptedConfig upOnDeletesRefused.issued := by
    decide +kernel
  obtain ⟨hfailed, hup, hpeers, hgone, haccepted⟩ := hstate
  obtain ⟨e, hrun⟩ := eq_error_of_not_succeeded hfailed
  exact ⟨.cons trivial rfl .nil, hup, hpeers, e, _, hrun, hgone, haccepted⟩

end Wireguard

end MacVz
