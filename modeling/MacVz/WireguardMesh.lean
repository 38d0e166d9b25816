/-
The mesh manager: the WireGuard interface of the node and the host routes that
steer the traffic of remote Pods into the tunnel.  `Up` builds them, `Sync`
moves them to another list of peers in place, `Down` and `Remove` tear them
down past every failure.
-/
import MacVz.Interleaving
import MacVz.PodnetRouter
import MacVz.StatefulFrame
import MacVz.WireguardConfig

namespace MacVz

namespace Wireguard

open Podnet (Command CommandError Reply benignError)
open StatefulFrame

/-- The state of the manager; `routes` are the targets currently installed. -/
@[ext]
structure Mesh where
  cfg : InterfaceConfig
  routes : Finset String
  up : Bool

/-- The mesh together with the commands it has run so far, newest first. -/
structure MeshSession where
  mesh : Mesh
  issued : List (Command × Reply)

/-- What lies outside the mesh: the answers of the host's tools, and the order in
which the installed routes are iterated. -/
structure MeshHost where
  reply : List (Command × Reply) → Command → Reply
  order : List (Command × Reply) → Finset String → List String
  order_spec : ∀ issued routes, (order issued routes : Multiset String) = routes.val

theorem MeshHost.mem_order (host : MeshHost) {issued : List (Command × Reply)}
    {routes : Finset String} {target : String} :
    target ∈ host.order issued routes ↔ target ∈ routes := by
  rw [← Multiset.mem_coe, host.order_spec, Finset.mem_val]

/-- The host with a given pattern of replies, and the routes in alphabetical order. -/
def meshHostAnswering (reply : List (Command × Reply) → Command → Reply) : MeshHost where
  reply := reply
  order := fun _ routes => Quot.liftOn routes.val (List.insertionSort (· ≤ ·)) fun l l' h =>
    ((List.perm_insertionSort _ l).trans
      (h.trans (List.perm_insertionSort _ l').symm)).eq_of_pairwise'
        (List.pairwise_insertionSort (· ≤ ·) l) (List.pairwise_insertionSort (· ≤ ·) l')
  order_spec := by
    rintro issued ⟨⟨l⟩, hl⟩
    exact Quot.sound (List.perm_insertionSort (· ≤ ·) l)

@[simp]
theorem meshHostAnswering_reply (reply : List (Command × Reply) → Command → Reply) :
    (meshHostAnswering reply).reply = reply := rfl

/-- The errors of the mesh, each with the data its message names. -/
inductive MeshError where
  | config (cause : ConfigError)
  | parseAddress (cidr : String)
  | createInterface (name : String) (cause : CommandError)
  | applyConfig (name : String) (cause : CommandError)
  | assignAddress (ip name : String) (cause : CommandError)
  | setMTU (mtu : Int) (name : String) (cause : CommandError)
  | bringUp (name : String) (cause : CommandError)
  | syncBeforeUp (name : String)
  | syncConfig (name : String) (cause : CommandError)
  | deleteRoute (target : String) (cause : CommandError)
  | addRoute (target : String) (cause : CommandError)

/-- The methods of the mesh: a failed one keeps what it changed before. -/
abbrev MeshM := EStateM MeshError MeshSession

/-- `New`. -/
def Mesh.new (cfg : InterfaceConfig) : Mesh where
  cfg := cfg
  routes := ∅
  up := false

def getMesh : MeshM Mesh := do
  return (← get).mesh

def modifyMesh (f : Mesh → Mesh) : MeshM Unit :=
  modify fun s => { s with mesh := f s.mesh }

/-- A command, with the reply of the host. -/
def run (host : MeshHost) (c : Command) : MeshM Reply :=
  modifyGet fun s =>
    let reply := host.reply s.issued c
    (reply, { s with issued := (c, reply) :: s.issued })

/-- `Mesh.runTolerating`. -/
def runTolerating (host : MeshHost) (c : Command) (benign : List String) :
    MeshM (Option CommandError) := do
  match ← run host c with
  | .ok _ => pure none
  | .error e => pure (if benignError benign e then none else some e)

/-- A command whose failure ends the method; none is benign for most of them. -/
def attempt (host : MeshHost) (c : Command) (benign : List String)
    (failure : CommandError → MeshError) : MeshM Unit := do
  match ← runTolerating host c benign with
  | none => pure ()
  | some e => throw (failure e)

def attemptAnyway (host : MeshHost) (c : Command) (benign : List String) : MeshM Unit := do
  let _ ← runTolerating host c benign

def checked (result : Except ConfigError Unit) : MeshM Unit :=
  match result with
  | .ok () => pure ()
  | .error e => throw (.config e)

/-- `addressIP`: the bare address of the mesh CIDR. -/
def addressIP (cidr : String) : Except MeshError String :=
  match parseCIDR cidr with
  | some (ip, _) => .ok (GoNet.ipString 16 ip)
  | none => .error (.parseAddress cidr)

/-- `routeFamily`: what is not an IPv6 network counts as IPv4. -/
def routeFamily (target : String) : String :=
  match parseCIDR target with
  | none => "-inet"
  | some (ip, _) => if (GoNet.to4 ip).isSome then "-inet" else "-inet6"

/-- `Mesh.routeCmd`. -/
def Mesh.routeCmd (m : Mesh) (op target : String) : Command :=
  ⟨"route", ["-q", "-n", op, routeFamily target, target, "-interface", m.cfg.name], ""⟩

def Mesh.killWireGuardGoCmd (m : Mesh) : Command :=
  ⟨"pkill", ["-f", "wireguard-go " ++ m.cfg.name], ""⟩

/-- One round of the first loop: delete a route unless it is still wanted. -/
def removeUnwanted (host : MeshHost) (m : Mesh) (want : List String) (target : String) :
    MeshM Unit :=
  if target ∈ want then pure ()
  else do
    attempt host (m.routeCmd "delete" target) ["not in table"] (.deleteRoute target)
    modifyMesh fun m => { m with routes := m.routes.erase target }

/-- The first loop of the reconciliation, over the installed routes. -/
def removeStale (host : MeshHost) (want : List String) : MeshM Unit := do
  let s ← get
  (host.order s.issued s.mesh.routes).forM (removeUnwanted host s.mesh want)

def addRoute (host : MeshHost) (target : String) : MeshM Unit := do
  let m ← getMesh
  if target ∈ m.routes then pure ()
  else do
    attempt host (m.routeCmd "add" target) ["file exists"] (.addRoute target)
    modifyMesh fun m => { m with routes := insert target m.routes }

def addMissing (host : MeshHost) (desired : List String) : MeshM Unit :=
  desired.forM (addRoute host)

/-- `Mesh.reconcileRoutesLocked`. -/
def reconcileRoutesLocked (host : MeshHost) (desired : List String) : MeshM Unit := do
  removeStale host desired
  addMissing host desired

/-- The interface as `Up` builds it: created, configured, addressed. -/
def buildInterface (host : MeshHost) (cfg : InterfaceConfig) (ip : String) : MeshM Unit := do
  attempt host ⟨"wireguard-go", [cfg.name], ""⟩ ["already exists"] (.createInterface cfg.name)
  attempt host ⟨"wg", ["setconf", cfg.name, "/dev/stdin"], cfg.syncConfig⟩ []
    (.applyConfig cfg.name)
  attempt host ⟨"ifconfig", [cfg.name, "inet", ip, ip, "alias"], ""⟩ ["already in list"]
    (.assignAddress ip cfg.name)

def setMTU (host : MeshHost) (cfg : InterfaceConfig) : MeshM Unit :=
  if 0 < cfg.mtu.toInt then
    attempt host ⟨"ifconfig", [cfg.name, "mtu", toString cfg.mtu.toInt], ""⟩ []
      (.setMTU cfg.mtu.toInt cfg.name)
  else pure ()

/-- `Up`. -/
def up (host : MeshHost) : MeshM Unit := do
  let m ← getMesh
  checked m.cfg.validate
  match addressIP m.cfg.address with
  | .error e => throw e
  | .ok ip => do
      buildInterface host m.cfg ip
      setMTU host m.cfg
      attempt host ⟨"ifconfig", [m.cfg.name, "up"], ""⟩ [] (.bringUp m.cfg.name)
      modifyMesh fun m => { m with up := true }
      reconcileRoutesLocked host m.cfg.routeTargets

/-- `Sync`. -/
def sync (host : MeshHost) (peers : List Peer) : MeshM Unit := do
  let m ← getMesh
  let next := { m.cfg with peers := peers }
  checked next.validate
  if m.up then do
    attempt host ⟨"wg", ["syncconf", m.cfg.name, "/dev/stdin"], next.syncConfig⟩ []
      (.syncConfig m.cfg.name)
    modifyMesh fun m => { m with cfg := next }
    reconcileRoutesLocked host next.routeTargets
  else throw (.syncBeforeUp m.cfg.name)

/-- `Mesh.teardownLocked`: what fails is passed over. -/
def teardownLocked (host : MeshHost) : MeshM Unit := do
  let s ← get
  (host.order s.issued s.mesh.routes).forM fun target =>
    attemptAnyway host (s.mesh.routeCmd "delete" target) ["not in table"]
  modifyMesh fun m => { m with routes := ∅ }
  attemptAnyway host ⟨"ifconfig", [s.mesh.cfg.name, "down"], ""⟩ ["does not exist"]
  attemptAnyway host s.mesh.killWireGuardGoCmd ["no matching processes"]
  attemptAnyway host ⟨"ifconfig", [s.mesh.cfg.name, "destroy"], ""⟩
    ["does not exist", "invalid argument"]
  modifyMesh fun m => { m with up := false }

/-- `Down`. -/
def down (host : MeshHost) : MeshM Unit := teardownLocked host

/-- `Remove`: the routes of the configuration go too, installed by this process
or not. -/
def remove (host : MeshHost) : MeshM Unit := do
  modifyMesh fun m => { m with routes := m.routes ∪ m.cfg.routeTargets.toFinset }
  teardownLocked host

/-- A call of the mesh. -/
inductive MeshCall where
  | up
  | sync (peers : List Peer)
  | down
  | remove

def MeshCall.perform (host : MeshHost) : MeshCall → MeshM Unit
  | .up => Wireguard.up host
  | .sync peers => Wireguard.sync host peers
  | .down => Wireguard.down host
  | .remove => Wireguard.remove host

/-- The mesh is locked during a call; a failed call is one as well. -/
def meshStep (host : MeshHost) (s : MeshSession) (call : MeshCall) : Option MeshSession :=
  some (final ((call.perform host).run s))

section Methods

variable {host : MeshHost} {R : MeshSession → MeshSession → Prop} {s : MeshSession}
  {peers : List Peer}

theorem attemptAnyway_run (host : MeshHost) (c : Command) (benign : List String)
    (s : MeshSession) : (attemptAnyway host c benign).run s =
      .ok () { s with issued := (c, host.reply s.issued c) :: s.issued } := by
  have hrun : (run host c).run s = .ok (host.reply s.issued c)
      { s with issued := (c, host.reply s.issued c) :: s.issued } := rfl
  rw [attemptAnyway, runTolerating, EStateM.run_bind, EStateM.run_bind, hrun]
  cases host.reply s.issued c with
  | ok out => rfl
  | error e => rfl

/-- One command: it is remembered with its reply, and the method goes on unless
the reply is an error that is not benign. -/
theorem attempt_cases (host : MeshHost) (c : Command) (benign : List String)
    (failure : CommandError → MeshError) (s : MeshSession) :
    (∃ e, host.reply s.issued c = .error e ∧ benignError benign e = false ∧
        (attempt host c benign failure).run s =
          .error (failure e) { s with issued := (c, host.reply s.issued c) :: s.issued }) ∨
      (∀ e, host.reply s.issued c = .error e → benignError benign e = true) ∧
        (attempt host c benign failure).run s =
          .ok () { s with issued := (c, host.reply s.issued c) :: s.issued } := by
  have hrun : (run host c).run s = .ok (host.reply s.issued c)
      { s with issued := (c, host.reply s.issued c) :: s.issued } := rfl
  rw [attempt, runTolerating, EStateM.run_bind, EStateM.run_bind, hrun]
  cases host.reply s.issued c with
  | ok out => exact Or.inr ⟨fun e he => (by cases he), rfl⟩
  | error e =>
    cases hbenign : benignError benign e with
    | true =>
      refine Or.inr ⟨fun e' he' => ?_, ?_⟩
      · cases he'
        exact hbenign
      · simp [hbenign]
    | false => exact Or.inl ⟨e, rfl, hbenign, by simp [hbenign]⟩

theorem attempt_frame {c : Command} {benign : List String} {failure : CommandError → MeshError}
    (hR : ∀ s reply, R s { s with issued := (c, reply) :: s.issued }) :
    Frame R (attempt host c benign failure) := by
  intro s
  rcases attempt_cases host c benign failure s with ⟨e, -, -, hrun⟩ | ⟨-, hrun⟩
  · rw [hrun]
    exact hR s _
  · rw [hrun]
    exact hR s _

/-- The reconciliation runs `route` commands, and changes no more of the mesh than the
tracked routes. -/
theorem reconcileRoutesLocked_frame [Std.Refl R] [IsTrans MeshSession R]
    (hissue : ∀ s c reply, c.name = "route" → R s { s with issued := (c, reply) :: s.issued })
    (hroutes : ∀ s routes, R s { s with mesh := { s.mesh with routes := routes } })
    (desired : List String) : Frame R (reconcileRoutesLocked host desired) := by
  have hattempt (m : Mesh) (op target : String) (benign : List String)
      (failure : CommandError → MeshError) :
      Frame R (attempt host (m.routeCmd op target) benign failure) :=
    attempt_frame fun s reply => hissue s _ reply rfl
  refine (Frame.get.bind fun s => Frame.forM fun target _ => ?_).bind fun _ =>
    Frame.forM fun target _ => (Frame.get.bind fun s => Frame.pure _).bind fun m => ?_
  · unfold removeUnwanted
    split
    · exact Frame.pure _
    · exact (hattempt _ _ _ _ _).bind fun _ s => hroutes s _
  · split
    · exact Frame.pure _
    · exact (hattempt _ _ _ _ _).bind fun _ s => hroutes s _

theorem sync_run (hup : s.mesh.up = true)
    (hvalid : { s.mesh.cfg with peers := peers }.validate = .ok ()) : (sync host peers).run s = (do
      attempt host ⟨"wg", ["syncconf", s.mesh.cfg.name, "/dev/stdin"],
        { s.mesh.cfg with peers := peers }.syncConfig⟩ [] (.syncConfig s.mesh.cfg.name)
      modifyMesh fun m => { m with cfg := { s.mesh.cfg with peers := peers } }
      reconcileRoutesLocked host { s.mesh.cfg with peers := peers }.routeTargets).run s := by
  simp [sync, getMesh, checked, hvalid, hup]

/-- `Sync` with invalid peers is refused and changes nothing. -/
theorem sync_run_invalid {e : ConfigError}
    (hvalid : { s.mesh.cfg with peers := peers }.validate = .error e) :
    (sync host peers).run s = .error (.config e) s := by
  simp [sync, getMesh, checked, hvalid]

end Methods

end Wireguard

end MacVz
