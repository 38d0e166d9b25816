/-
Histories of the mesh over the kernel's table of routes: what the table holds
after `Up` and `Sync`, and that `Down` empties it.
-/
import MacVz.MeshRouteTable

namespace MacVz

namespace Wireguard

open Interleaving StatefulFrame
open Podnet (Command CommandError Reply benignError)
open Privhelper (normalizeCIDR)

variable {host : MeshHost} {m : Mesh} {s s' : MeshSession} {next : InterfaceConfig}
  {call : MeshCall}

/-- The configuration a call of `Up` or `Sync` brings into force. -/
def MeshCall.wanted (m : Mesh) : MeshCall → Option InterfaceConfig
  | .up => some m.cfg
  | .sync peers => some { m.cfg with peers := peers }
  | .down => none
  | .remove => none

/-- `Up` before its routes. -/
def prepareUp (host : MeshHost) (m : Mesh) : MeshM Unit := do
  checked m.cfg.validate
  match addressIP m.cfg.address with
  | .error e => throw e
  | .ok ip => do
      buildInterface host m.cfg ip
      setMTU host m.cfg
      attempt host ⟨"ifconfig", [m.cfg.name, "up"], ""⟩ [] (.bringUp m.cfg.name)
      modifyMesh fun m => { m with up := true }

/-- `Sync` before its routes. -/
def prepareSync (host : MeshHost) (m : Mesh) (next : InterfaceConfig) : MeshM Unit := do
  checked next.validate
  if m.up then do
    attempt host ⟨"wg", ["syncconf", m.cfg.name, "/dev/stdin"], next.syncConfig⟩ []
      (.syncConfig m.cfg.name)
    modifyMesh fun m => { m with cfg := next }
  else throw (.syncBeforeUp m.cfg.name)

/-- `Up` prepares the interface and reconciles the routes. -/
theorem up_run (host : MeshHost) (s : MeshSession) : (up host).run s =
    (prepareUp host s.mesh >>= fun _ =>
      reconcileRoutesLocked host s.mesh.cfg.routeTargets).run s := by
  have hget : (up host).run s = (do
      checked s.mesh.cfg.validate
      match addressIP s.mesh.cfg.address with
      | .error e => throw e
      | .ok ip => do
          buildInterface host s.mesh.cfg ip
          setMTU host s.mesh.cfg
          attempt host ⟨"ifconfig", [s.mesh.cfg.name, "up"], ""⟩ [] (.bringUp s.mesh.cfg.name)
          modifyMesh fun m => { m with up := true }
          reconcileRoutesLocked host s.mesh.cfg.routeTargets : MeshM Unit).run s := rfl
  rw [hget, prepareUp]
  cases addressIP s.mesh.cfg.address with
  | error e => simp
  | ok ip => simp

theorem sync_run_prepared (host : MeshHost) (peers : List Peer) (s : MeshSession) :
    (sync host peers).run s =
      (prepareSync host s.mesh { s.mesh.cfg with peers := peers } >>= fun _ =>
        reconcileRoutesLocked host { s.mesh.cfg with peers := peers }.routeTargets).run s := by
  have hget : (sync host peers).run s = (do
      checked { s.mesh.cfg with peers := peers }.validate
      if s.mesh.up then do
        attempt host ⟨"wg", ["syncconf", s.mesh.cfg.name, "/dev/stdin"],
          { s.mesh.cfg with peers := peers }.syncConfig⟩ [] (.syncConfig s.mesh.cfg.name)
        modifyMesh fun m => { m with cfg := { s.mesh.cfg with peers := peers } }
        reconcileRoutesLocked host { s.mesh.cfg with peers := peers }.routeTargets
      else throw (.syncBeforeUp s.mesh.cfg.name) : MeshM Unit).run s := rfl
  rw [hget, prepareSync]
  cases s.mesh.up with
  | false => simp
  | true => simp

section Frames

variable {R : MeshSession → MeshSession → Prop} [Std.Refl R]

theorem checked_frame (result : Except ConfigError Unit) : Frame R (checked result) := by
  cases result with
  | ok => exact Frame.pure _
  | error e => exact Frame.throw _

variable [IsTrans MeshSession R]

/-- `Up` runs no `route` command before its routes, and changes no more of the mesh
than that it is up. -/
theorem prepareUp_frame
    (hissue : ∀ s c reply, c.name ≠ "route" → R s { s with issued := (c, reply) :: s.issued })
    (hup : ∀ s, R s { s with mesh := { s.mesh with up := true } }) (m : Mesh) :
    Frame R (prepareUp host m) := by
  have hattempt {c : Command} (hname : c.name ≠ "route") (benign : List String)
      (failure : CommandError → MeshError) : Frame R (attempt host c benign failure) :=
    attempt_frame fun s reply => hissue s c reply hname
  have hmtu : Frame R (setMTU host m.cfg) := by
    unfold setMTU
    split
    · exact hattempt (by simp) _ _
    · exact Frame.pure _
  refine (checked_frame _).bind fun _ => ?_
  cases addressIP m.cfg.address with
  | error e => exact Frame.throw e
  | ok ip =>
    refine Frame.bind ?_ fun _ => hmtu.bind fun _ => ?_
    · exact (hattempt (by simp) _ _).bind fun _ => (hattempt (by simp) _ _).bind fun _ =>
        hattempt (by simp) _ _
    · exact (hattempt (by simp) _ _).bind fun _ s => hup s

end Frames

theorem quiet_issue {c : Command} (hname : c.name ≠ "route") (s : MeshSession) (reply : Reply) :
    Quiet s { s with issued := (c, reply) :: s.issued } :=
  Prod.ext (routeTable_other hname reply s.issued) rfl

theorem prepareUp_quiet (m : Mesh) : Frame Quiet (prepareUp host m) :=
  prepareUp_frame (fun s _ reply hname => quiet_issue hname s reply) (fun _ => rfl) m

theorem prepareSync_quiet (m : Mesh) (next : InterfaceConfig) :
    Frame Quiet (prepareSync host m next) := by
  refine (checked_frame _).bind fun _ => ?_
  split
  · exact (attempt_frame fun s reply => quiet_issue (by simp) s reply).bind fun _ s => rfl
  · exact Frame.throw _

theorem prepareSync_cfg (hrun : (prepareSync host m next).run s = .ok () s') :
    s'.mesh.cfg = next := by
  rcases run_bind_cases (checked next.validate) _ s with ⟨e, s₁, -, hfails⟩ | ⟨⟨⟩, s₁, -, hrest⟩
  · cases hfails.symm.trans hrun
  · have hlater := hrest.symm.trans hrun
    split at hlater
    · rcases run_bind_cases (attempt host _ [] _) _ s₁ with
        ⟨e, s₂, -, hfails⟩ | ⟨⟨⟩, s₂, -, hmodify⟩
      · cases hfails.symm.trans hlater
      · cases hmodify.symm.trans hlater
        rfl
    · cases hlater

/-- `Up` and `Sync` are a part that leaves the routes alone, and the reconciliation of
the routes with the configuration they bring into force. -/
theorem MeshCall.perform_run (h : call.wanted s.mesh = some next) : ∃ prepare : MeshM Unit,
      (call.perform host).run s =
        (prepare >>= fun _ => reconcileRoutesLocked host next.routeTargets).run s ∧
      Quiet s (final (prepare.run s)) ∧
      ∀ s₁, prepare.run s = .ok () s₁ → s₁.mesh.cfg = next := by
  cases call with
  | up =>
    cases h
    refine ⟨prepareUp host s.mesh, up_run host s, prepareUp_quiet s.mesh s, fun s₁ hrun => ?_⟩
    have hcfg : SameConfig s (final ((prepareUp host s.mesh).run s)) :=
      prepareUp_frame (R := SameConfig) (fun _ _ _ _ => rfl) (fun _ => rfl) s.mesh s
    rw [hrun] at hcfg
    exact hcfg
  | sync peers =>
    cases h
    exact ⟨_, sync_run_prepared host peers s, prepareSync_quiet s.mesh _ s,
      fun s₁ hrun => prepareSync_cfg hrun⟩
  | down => cases h
  | remove => cases h

/-- A call keeps every installed route recorded. -/
theorem MeshCall.perform_covered (h : TruthfulHost host) (hwanted : call.wanted s.mesh = some next)
    (hs : Covered s) : Covered (final ((call.perform host).run s)) := by
  obtain ⟨prepare, hperform, hquiet, -⟩ := MeshCall.perform_run hwanted
  rw [hperform]
  rcases run_bind_cases prepare (fun _ => reconcileRoutesLocked host next.routeTargets) s with
    ⟨e, s₁, hstop, hrun⟩ | ⟨⟨⟩, s₁, hdone, hrun⟩
  · rw [hstop] at hquiet
    rw [hrun]
    exact hs.quiet hquiet
  · rw [hdone] at hquiet
    rw [hrun]
    exact (reconcileRoutesLocked_covered h next.routeTargets s₁ (hs.quiet hquiet)).1

/-- The tracked routes stay installed, and a call that returns normally tracks exactly
the routes of the configuration it brought into force. -/
theorem MeshCall.perform_installed (h : TruthfulHost host)
    (hwanted : call.wanted s.mesh = some next) (hs : Installed s)
    (halone : ∀ target ∈ s.mesh.routes, target ∉ next.routeTargets → Alone target s) :
    Installed (final ((call.perform host).run s)) ∧
      ∀ s', (call.perform host).run s = .ok () s' →
        ∀ target, target ∈ s'.mesh.routes ↔ target ∈ s'.mesh.cfg.routeTargets := by
  obtain ⟨prepare, hperform, hquiet, hcfg⟩ := MeshCall.perform_run hwanted
  rw [hperform]
  rcases run_bind_cases prepare (fun _ => reconcileRoutesLocked host next.routeTargets) s with
    ⟨e, s₁, hstop, hrun⟩ | ⟨⟨⟩, s₁, hdone, hrun⟩
  · rw [hstop] at hquiet
    rw [hrun]
    exact ⟨hs.quiet hquiet, fun s' hs' => by cases hs'⟩
  · rw [hdone] at hquiet
    have halone' : ∀ target ∈ s₁.mesh.routes, target ∉ next.routeTargets → Alone target s₁ := by
      have hroutes : s₁.mesh.routes = s.mesh.routes := hquiet.routes
      simp only [Alone, hroutes]
      exact halone
    rw [hrun]
    refine ⟨reconcileRoutesLocked_installed h (hs.quiet hquiet) halone', fun s' hs' target => ?_⟩
    have hkept : SameConfig s₁ (final ((reconcileRoutesLocked host next.routeTargets).run s₁)) :=
      reconcileRoutesLocked_frame (R := SameConfig) (fun _ _ _ _ => rfl) (fun _ _ => rfl) _ s₁
    rw [hs'] at hkept
    rw [show s'.mesh.cfg = next from Eq.trans hkept (hcfg s₁ hdone)]
    exact reconcileRoutesLocked_tracked h hs' target

/-- The call is one of `Up` or `Sync`, and a route it drops is the only tracked one for
its network. -/
def MeshCall.DropsAlone (s : MeshSession) (call : MeshCall) : Prop :=
  ∃ next, call.wanted s.mesh = some next ∧
    ∀ target ∈ s.mesh.routes, target ∉ next.routeTargets → Alone target s

theorem dropsAlone_sync (peers : List Peer) (h : ∀ target ∈ s.mesh.routes, Alone target s) :
    (MeshCall.sync peers).DropsAlone s :=
  ⟨_, rfl, fun target htarget _ => h target htarget⟩

/-- The command succeeded, or failed for a route that is missing. -/
def Settled (entry : Command × Reply) : Prop :=
  ∀ e, entry.2 = .error e → benignError ["not in table"] e = true

instance (entry : Command × Reply) : Decidable (Settled entry) :=
  match h : entry.2 with
  | .ok _ => isTrue fun e he => by cases h.symm.trans he
  | .error e =>
    decidable_of_iff (benignError ["not in table"] e = true)
      ⟨fun hbenign e' he' => by cases h.symm.trans he'; exact hbenign, fun hall => hall e h⟩

/-- The loop of the teardown: past every failure, and if none of its deletes is left
undone, the networks of all its targets are gone. -/
theorem deleteAll_run (h : TruthfulHost host) (m : Mesh) (targets : List String)
    (s : MeshSession) : ∃ s' fresh,
      (targets.forM fun target =>
        attemptAnyway host (m.routeCmd "delete" target) ["not in table"]).run s = .ok () s' ∧
      s'.issued = fresh ++ s.issued ∧
      ((∀ entry ∈ fresh, entry.1.name = "route" → Settled entry) →
        ∀ net, net ∈ routeTable s'.issued ↔
          net ∈ routeTable s.issued ∧ ∀ target ∈ targets, normalizeCIDR target ≠ some net) := by
  induction targets generalizing s with
  | nil => exact ⟨s, [], rfl, rfl, fun _ net => by simp⟩
  | cons target rest ih =>
    let c := m.routeCmd "delete" target
    let s₁ : MeshSession := { s with issued := (c, host.reply s.issued c) :: s.issued }
    obtain ⟨s', fresh, hrun, hissued, htable⟩ := ih s₁
    refine ⟨s', fresh ++ [(c, host.reply s.issued c)], ?_, ?_, fun hsettled net => ?_⟩
    · change (attemptAnyway host c ["not in table"] >>= fun _ => rest.forM _).run s = _
      rw [EStateM.run_bind, attemptAnyway_run]
      exact hrun
    · rw [hissued, List.append_assoc]
      rfl
    · have hfirst := hsettled _ (List.mem_append_right _ List.mem_cons_self) rfl
      have hlater := htable fun entry hentry => hsettled entry (List.mem_append_left _ hentry)
      rw [hlater net, h.table_delete hfirst, List.forall_mem_cons, and_assoc]

def destroyInterface (host : MeshHost) (m : Mesh) : MeshM Unit := do
  modifyMesh fun m => { m with routes := ∅ }
  attemptAnyway host ⟨"ifconfig", [m.cfg.name, "down"], ""⟩ ["does not exist"]
  attemptAnyway host m.killWireGuardGoCmd ["no matching processes"]
  attemptAnyway host ⟨"ifconfig", [m.cfg.name, "destroy"], ""⟩
    ["does not exist", "invalid argument"]
  modifyMesh fun m => { m with up := false }

theorem destroyInterface_run (host : MeshHost) (m : Mesh) (s : MeshSession) : ∃ s' fresh,
    (destroyInterface host m).run s = .ok () s' ∧ s'.issued = fresh ++ s.issued ∧
      routeTable s'.issued = routeTable s.issued := by
  simp only [destroyInterface, EStateM.run_bind, attemptAnyway_run, modifyMesh, EStateM.run_modify]
  refine ⟨_, [_, _, _], rfl, rfl, ?_⟩
  rw [routeTable_other (by simp), routeTable_other (by simp [Mesh.killWireGuardGoCmd]),
    routeTable_other (by simp)]

/-- `Down` always returns; if none of its deletes is left undone, the networks of all
tracked routes are gone. -/
theorem down_run (h : TruthfulHost host) (s : MeshSession) : ∃ s' fresh,
    (down host).run s = .ok () s' ∧ s'.issued = fresh ++ s.issued ∧
      ((∀ entry ∈ fresh, entry.1.name = "route" → Settled entry) →
        ∀ net, net ∈ routeTable s'.issued ↔ net ∈ routeTable s.issued ∧
          ∀ target ∈ s.mesh.routes, normalizeCIDR target ≠ some net) := by
  obtain ⟨s₁, deletes, hloop, hissued, htable⟩ :=
    deleteAll_run h s.mesh (host.order s.issued s.mesh.routes) s
  obtain ⟨s', others, hrun, hissued', htable'⟩ := destroyInterface_run host s.mesh s₁
  refine ⟨s', others ++ deletes, ?_, ?_, fun hsettled net => ?_⟩
  · change ((host.order s.issued s.mesh.routes).forM _ >>= fun _ =>
      destroyInterface host s.mesh).run s = _
    rw [EStateM.run_bind, hloop]
    exact hrun
  · rw [hissued', hissued, List.append_assoc]
  · have hdeletes := htable fun entry hentry => hsettled entry (List.mem_append_right _ hentry)
    rw [htable', hdeletes net]
    simp only [MeshHost.mem_order]

/-- A run of `Up` and `Sync` from the beginning.  In a history of calls that drop
only routes that are alone, whatever the host refuses, the table after a call that
returns normally is that of the peers in force. -/
theorem table_matches_peers (htruth : TruthfulHost host) {cfg : InterfaceConfig}
    {calls : List MeshCall}
    (hrun : Run (meshStep host) MeshCall.DropsAlone ⟨Mesh.new cfg, []⟩ calls s) {call : MeshCall}
    (hcall : call.DropsAlone s) (hreturns : (call.perform host).run s = .ok () s') :
    ∀ net, net ∈ routeTable s'.issued ↔
      ∃ peer ∈ s'.mesh.cfg.peers, ∃ cidr ∈ peer.allowedIPs, normalizeCIDR cidr = some net := by
  have hkept : Covered s ∧ Installed s := by
    refine hrun.invariant (I := fun s => Covered s ∧ Installed s) ⟨?_, ?_⟩ ?_
    · exact fun net hnet => absurd hnet (Finset.notMem_empty net)
    · exact fun target htarget => absurd htarget (Finset.notMem_empty target)
    · intro s s' call hs hcall hstep
      obtain ⟨next, hwanted, halone⟩ := hcall
      cases hstep
      exact ⟨MeshCall.perform_covered htruth hwanted hs.1,
        (MeshCall.perform_installed htruth hwanted hs.2 halone).1⟩
  obtain ⟨next, hwanted, halone⟩ := hcall
  have hcovered := MeshCall.perform_covered htruth hwanted hkept.1
  obtain ⟨hinstalled, htracked⟩ := MeshCall.perform_installed htruth hwanted hkept.2 halone
  rw [hreturns] at hcovered hinstalled
  have htargets : ∀ target, target ∈ s'.mesh.routes ↔
      ∃ peer ∈ s'.mesh.cfg.peers, target ∈ peer.allowedIPs := fun target =>
    (htracked s' hreturns target).trans mem_routeTargets
  intro net
  constructor
  · intro hnet
    obtain ⟨target, htarget, hmasked⟩ := hcovered net hnet
    obtain ⟨peer, hpeer, hcidr⟩ := (htargets target).mp htarget
    exact ⟨peer, hpeer, target, hcidr, hmasked⟩
  · rintro ⟨peer, hpeer, cidr, hcidr, hmasked⟩
    exact hinstalled cidr ((htargets cidr).mpr ⟨peer, hpeer, hcidr⟩) net hmasked

/-- The kernel's side of the `route` commands; nothing else fails. -/
def kernelHost : MeshHost := meshHostAnswering fun issued c =>
  match routeRequest c with
  | none => .ok ""
  | some (op, target) =>
    let present := (normalizeCIDR target).any (· ∈ routeTable issued)
    if op = "add" ∧ present then .error ⟨1, "route: writing to routing socket: File exists"⟩
    else if op = "delete" ∧ ¬ present then
      .error ⟨1, "route: writing to routing socket: not in table"⟩
    else .ok ""

theorem kernelHost_reply_add (issued : List (Command × Reply)) (m : Mesh) (target : String) :
    kernelHost.reply issued (m.routeCmd "add" target) =
      if (normalizeCIDR target).any (· ∈ routeTable issued) then
        .error ⟨1, "route: writing to routing socket: File exists"⟩
      else .ok "" := by
  simp [kernelHost, routeRequest, Mesh.routeCmd]

theorem kernelHost_reply_delete (issued : List (Command × Reply)) (m : Mesh) (target : String) :
    kernelHost.reply issued (m.routeCmd "delete" target) =
      if (normalizeCIDR target).any (· ∈ routeTable issued) then .ok ""
      else .error ⟨1, "route: writing to routing socket: not in table"⟩ := by
  by_cases hpresent : (normalizeCIDR target).any (· ∈ routeTable issued) = true
  · simp [kernelHost, routeRequest, Mesh.routeCmd, hpresent]
  · simp [kernelHost, routeRequest, Mesh.routeCmd, hpresent]

theorem kernelHost_truthful : TruthfulHost kernelHost := by
  constructor
  · intro issued m target net e hmasked hreply _
    rw [kernelHost_reply_add, hmasked] at hreply
    split at hreply
    · rename_i hpresent
      simpa using hpresent
    · cases hreply
  · intro issued m target net e hmasked hreply _
    rw [kernelHost_reply_delete, hmasked] at hreply
    split at hreply
    · cases hreply
    · rename_i habsent
      simpa using habsent

def thirdPeer : Peer :=
  ⟨"node-3", ⟨List.replicate 32 3, rfl⟩, "203.0.113.8:51820", ["10.244.3.0/24", "10.99.0.3/24"], 25⟩

/-- The mesh with the given peers when it is up on the kernel's host. -/
def upWith (peers : List Peer) : MeshSession :=
  final ((up kernelHost).run ⟨Mesh.new (meshWorkerInterface peers), []⟩)

theorem run_upWith {allowed : MeshSession → MeshCall → Prop} (peers : List Peer)
    (hallowed : allowed ⟨Mesh.new (meshWorkerInterface peers), []⟩ .up) :
    Run (meshStep kernelHost) allowed ⟨Mesh.new (meshWorkerInterface peers), []⟩ [.up]
      (upWith peers) :=
  .cons hallowed rfl .nil

/-- The second node takes the place of the third, on the same mesh network. -/
theorem replaced_node_table_matches :
    ∃ s', (sync kernelHost [secondPeer]).run (upWith [thirdPeer]) = .ok () s' ∧
      ∀ net, net ∈ routeTable s'.issued ↔
        ∃ peer ∈ s'.mesh.cfg.peers, ∃ cidr ∈ peer.allowedIPs, normalizeCIDR cidr = some net := by
  have hup : MeshCall.up.DropsAlone ⟨Mesh.new (meshWorkerInterface [thirdPeer]), []⟩ :=
    ⟨_, rfl, fun target htarget => absurd htarget (Finset.notMem_empty target)⟩
  have hstate : succeeded ((sync kernelHost [secondPeer]).run (upWith [thirdPeer])) = true ∧
      ∀ target ∈ (upWith [thirdPeer]).mesh.routes, ∀ other ∈ (upWith [thirdPeer]).mesh.routes,
        normalizeCIDR other = normalizeCIDR target → other = target := by
    decide +kernel
  obtain ⟨hreturns, halone⟩ := hstate
  exact ⟨_, eq_ok_of_succeeded hreturns, table_matches_peers kernelHost_truthful
    (run_upWith [thirdPeer] hup) (dropsAlone_sync [secondPeer] halone)
    (eq_ok_of_succeeded hreturns)⟩

/-- The third node leaves: its mesh address is deleted, and with it the route to the
mesh network that the second node still has. -/
theorem shared_network_route_lost : TruthfulHost kernelHost ∧
      Run (meshStep kernelHost) (fun s call => (call.wanted s.mesh).isSome = true)
        ⟨Mesh.new (meshWorkerInterface [secondPeer, thirdPeer]), []⟩ [.up]
        (upWith [secondPeer, thirdPeer]) ∧
      ∃ s', (sync kernelHost [secondPeer]).run (upWith [secondPeer, thirdPeer]) = .ok () s' ∧
        s'.mesh.cfg.peers = [secondPeer] ∧ "10.99.0.2/24" ∈ secondPeer.allowedIPs ∧
        normalizeCIDR "10.99.0.2/24" = some "10.99.0.0/24" ∧
        "10.99.0.0/24" ∉ routeTable s'.issued := by
  refine ⟨kernelHost_truthful, run_upWith _ rfl,
    final ((sync kernelHost [secondPeer]).run (upWith [secondPeer, thirdPeer])), ?_⟩
  -- one evaluation for all, so that the run is made only once
  have hlost : succeeded ((sync kernelHost [secondPeer]).run (upWith [secondPeer, thirdPeer])) =
        true ∧
      (final ((sync kernelHost [secondPeer]).run (upWith [secondPeer, thirdPeer]))).mesh.cfg.peers =
        [secondPeer] ∧
      "10.99.0.2/24" ∈ secondPeer.allowedIPs ∧
      normalizeCIDR "10.99.0.2/24" = some "10.99.0.0/24" ∧
      "10.99.0.0/24" ∉ routeTable
        (final ((sync kernelHost [secondPeer]).run (upWith [secondPeer, thirdPeer]))).issued := by
    decide +kernel
  exact ⟨eq_ok_of_succeeded hlost.1, hlost.2⟩

/-- After any history of `Up` and `Sync`, whatever failed in it, a `Down` none of
whose deletes is left undone leaves no route. -/
theorem down_leaves_no_route (htruth : TruthfulHost host) {cfg : InterfaceConfig}
    {calls : List MeshCall}
    (hrun : Run (meshStep host) (fun s call => (call.wanted s.mesh).isSome = true)
      ⟨Mesh.new cfg, []⟩ calls s) :
    ∃ s' fresh, (down host).run s = .ok () s' ∧ s'.issued = fresh ++ s.issued ∧
      ((∀ entry ∈ fresh, entry.1.name = "route" → Settled entry) →
        routeTable s'.issued = ∅) := by
  have hcovered : Covered s := by
    refine hrun.invariant ?_ ?_
    · exact fun net hnet => absurd hnet (Finset.notMem_empty net)
    · intro s s' call hs hcall hstep
      obtain ⟨next, hwanted⟩ := Option.isSome_iff_exists.mp hcall
      cases hstep
      exact MeshCall.perform_covered htruth hwanted hs
  obtain ⟨s', fresh, hdown, hissued, htable⟩ := down_run htruth s
  refine ⟨s', fresh, hdown, hissued, fun hsettled => ?_⟩
  refine Finset.eq_empty_of_forall_notMem fun net hnet => ?_
  obtain ⟨hbefore, hgone⟩ := (htable hsettled net).mp hnet
  obtain ⟨target, htarget, hmasked⟩ := hcovered net hbefore
  exact hgone target htarget hmasked

theorem third_node_leaves_no_route :
    ∃ s', (down kernelHost).run (upWith [thirdPeer]) = .ok () s' ∧ routeTable s'.issued = ∅ := by
  obtain ⟨s', fresh, hdown, hissued, htable⟩ :=
    down_leaves_no_route kernelHost_truthful (run_upWith [thirdPeer] rfl)
  have hsettled : ∀ entry ∈ (final ((down kernelHost).run (upWith [thirdPeer]))).issued,
      entry.1.name = "route" → Settled entry := by
    decide +kernel
  rw [hdown] at hsettled
  refine ⟨s', hdown, htable fun entry hentry => hsettled entry ?_⟩
  rw [final_ok, hissued]
  exact List.mem_append_left _ hentry

end Wireguard

end MacVz
