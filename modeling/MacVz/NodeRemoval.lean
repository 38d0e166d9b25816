/-
Taking a node out of the cluster for good.  Four steps are run past each other's failures and
each reports its outcome.  The last one removes the mesh, whose teardown logs the failures of
its commands and returns none of them, so its step is reported done whatever the host answered.
-/
import MacVz.WireguardMesh

namespace MacVz.NodeRemoval

open Podnet (Command CommandError Reply benignError)
open Wireguard StatefulFrame

/-- `StepStatus`. -/
inductive StepStatus where
  | ok
  | skipped
  | failed
deriving Repr, DecidableEq

/-- The error of a step: that of the API, the reaper or the flusher as text, or the mesh's. -/
inductive StepError where
  | message (text : String)
  | mesh (cause : MeshError)

/-- `StepResult`. -/
structure StepResult where
  name : String
  status : StepStatus
  detail : String
  err : Option StepError

/-- `Result`. -/
structure Result where
  node : String
  dryRun : Bool
  steps : List StepResult

/-- `Result.OK`. -/
def Result.ok (r : Result) : Bool := r.steps.all fun s => s.status ≠ .failed

def Result.status (r : Result) (name : String) : Option StepStatus :=
  (r.steps.find? fun s => s.name == name).map StepResult.status

/-- `Options`, with what the API, the reaper and the flusher answer where they are given; the
reaper returns what it reaped, and an error if something is left. -/
structure Options where
  node : String
  dryRun : Bool
  nodes : Option (Option String)
  vms : Option (List String × Option String)
  pf : Option (Option String)
  mesh : Bool

/-- `summarizeIDs`. -/
def summarizeIDs (ids : List String) : String :=
  if ids = [] then "(none)" else ", ".intercalate ids

/-- `runStep`, over the state its action changes. -/
def runStep {σ : Type} (name : String) (dryRun skip : Bool) (skipReason : String)
    (action : σ → Except StepError String × σ) (s : σ) : StepResult × σ :=
  if skip then (⟨name, .skipped, skipReason, none⟩, s)
  else if dryRun then (⟨name, .skipped, "dry-run: would run", none⟩, s)
  else
    match action s with
    | (.error e, s') => (⟨name, .failed, "step failed", some e⟩, s')
    | (.ok detail, s') => (⟨name, .ok, detail, none⟩, s')

/-- `runReapVMs`. -/
def runReapVMs (opts : Options) : StepResult :=
  match opts.vms with
  | none => ⟨"reap-vms", .skipped, "runtime unavailable", none⟩
  | some (reaped, some e) =>
    ⟨"reap-vms", .failed, "reaped " ++ toString reaped.length ++
      " micro-VM(s) before error: " ++ summarizeIDs reaped, some (.message e)⟩
  | some (reaped, none) =>
    if opts.dryRun then
      if reaped = [] then
        ⟨"reap-vms", .skipped, "dry-run: no MacVz micro-VMs to remove", none⟩
      else ⟨"reap-vms", .skipped, "dry-run: would destroy " ++ toString reaped.length ++
        " micro-VM(s): " ++ summarizeIDs reaped, none⟩
    else if reaped = [] then ⟨"reap-vms", .ok, "no MacVz micro-VMs to remove", none⟩
    else ⟨"reap-vms", .ok, "destroyed " ++ toString reaped.length ++ " micro-VM(s): " ++
      summarizeIDs reaped, none⟩

/-- What a dependency that answers with an error or nothing does as an action. -/
def answering (answer : Option (Option String)) (detail : String) (s : Unit) :
    Except StepError String × Unit :=
  match answer with
  | some (some e) => (.error (.message e), s)
  | _ => (.ok detail, s)

/-- `Remove` of the mesh as an action. -/
def removeMesh (host : MeshHost) (s : MeshSession) : Except StepError String × MeshSession :=
  match (remove host).run s with
  | .ok _ s' => (.ok "routes deleted and interface destroyed", s')
  | .error e s' => (.error (.mesh e), s')

/-- The step `mesh-down`. -/
def meshDown (host : MeshHost) (opts : Options) (s : MeshSession) : StepResult × MeshSession :=
  runStep "mesh-down" opts.dryRun (!opts.mesh) "mesh not enabled" (removeMesh host) s

/-- `Run`. -/
def run (host : MeshHost) (opts : Options) (s : MeshSession) : Result × MeshSession :=
  let deleteNode := (runStep "delete-node" opts.dryRun opts.nodes.isNone
    "no kubeconfig or --keep-node set"
    (answering opts.nodes ("Node \"" ++ opts.node ++ "\" deleted")) ()).1
  let flush := (runStep "flush-pf" opts.dryRun opts.pf.isNone "Pod network not enabled"
    (answering opts.pf "pf anchor flushed") ()).1
  let mesh := meshDown host opts s
  (⟨opts.node, opts.dryRun, [deleteNode, runReapVMs opts, flush, mesh.1]⟩, mesh.2)

/-- The messages with which a command of the teardown finds nothing left to do. -/
def benignAbsence (c : Command) : List String :=
  if c.name = "route" then ["not in table"]
  else if c.name = "pkill" then ["no matching processes"]
  else if c.args.getLast? = some "destroy" then ["does not exist", "invalid argument"]
  else ["does not exist"]

/-- The command succeeded, or failed because there was nothing left to do. -/
def Clean (c : Command) : Reply → Prop
  | .ok _ => True
  | .error e => benignError (benignAbsence c) e = true

instance (c : Command) (reply : Reply) : Decidable (Clean c reply) :=
  match reply with
  | .ok _ => inferInstanceAs (Decidable True)
  | .error _ => inferInstanceAs (Decidable (_ = true))

/-- The commands of a teardown, in order. -/
def teardownCommands (m : Mesh) (targets : List String) : List Command :=
  targets.map (m.routeCmd "delete") ++
    [⟨"ifconfig", [m.cfg.name, "down"], ""⟩, m.killWireGuardGoCmd,
      ⟨"ifconfig", [m.cfg.name, "destroy"], ""⟩]

/-- The routes `Remove` deletes, in the order in which it iterates them. -/
def removalTargets (host : MeshHost) (s : MeshSession) : List String :=
  host.order s.issued (s.mesh.routes ∪ s.mesh.cfg.routeTargets.toFinset)

/-- What the host answers when they are issued one after the other. -/
def answers (host : MeshHost) : List (Command × Reply) → List Command → List (Command × Reply)
  | _, [] => []
  | issued, c :: rest =>
    (c, host.reply issued c) :: answers host ((c, host.reply issued c) :: issued) rest

/-- What was issued between two states, newest first. -/
def issuedSince (s s' : MeshSession) : List (Command × Reply) :=
  s'.issued.take (s'.issued.length - s.issued.length)

theorem forM_attemptAnyway_run (host : MeshHost) (cmd : String → Command) (benign : List String)
    (targets : List String) (s : MeshSession) :
    (targets.forM fun target => attemptAnyway host (cmd target) benign).run s =
      .ok () { s with
        issued := (answers host s.issued (targets.map cmd)).reverse ++ s.issued } := by
  induction targets generalizing s with
  | nil => rfl
  | cons target targets ih =>
    change ((attemptAnyway host (cmd target) benign >>= fun _ =>
      targets.forM fun target => attemptAnyway host (cmd target) benign) : MeshM PUnit).run s = _
    rw [EStateM.run_bind, attemptAnyway_run]
    simp only [ih, List.map_cons, answers, List.reverse_cons, List.append_assoc,
      List.singleton_append]

theorem answers_append (host : MeshHost) (issued : List (Command × Reply))
    (first rest : List Command) : answers host issued (first ++ rest) =
      answers host issued first ++
        answers host ((answers host issued first).reverse ++ issued) rest := by
  induction first generalizing issued with
  | nil => rfl
  | cons c first ih => simp [answers, ih]

theorem teardownLocked_run (host : MeshHost) (s : MeshSession) : (teardownLocked host).run s =
      .ok () ⟨{ s.mesh with routes := ∅, up := false },
        (answers host s.issued (teardownCommands s.mesh
          (host.order s.issued s.mesh.routes))).reverse ++ s.issued⟩ := by
  have hget : (get : MeshM MeshSession).run s = .ok s s := rfl
  have hmodify (f : Mesh → Mesh) (t : MeshSession) :
      (modifyMesh f).run t = .ok () { t with mesh := f t.mesh } := rfl
  simp only [teardownLocked, EStateM.run_bind, hget, forM_attemptAnyway_run, hmodify,
    attemptAnyway_run, teardownCommands, answers_append, answers, List.reverse_append,
    List.reverse_cons, List.reverse_nil, List.nil_append, List.cons_append]

theorem remove_run (host : MeshHost) (s : MeshSession) : (remove host).run s =
      .ok () ⟨{ s.mesh with routes := ∅, up := false },
        (answers host s.issued (teardownCommands s.mesh (removalTargets host s))).reverse ++
          s.issued⟩ := by
  exact teardownLocked_run host _

theorem runStep_name {σ : Type} (name : String) (dryRun skip : Bool) (skipReason : String)
    (action : σ → Except StepError String × σ) (s : σ) :
    (runStep name dryRun skip skipReason action s).1.name = name := by
  unfold runStep
  split
  · rfl
  · split
    · rfl
    · split
      · rfl
      · rfl

theorem runReapVMs_name (opts : Options) : (runReapVMs opts).name = "reap-vms" := by
  unfold runReapVMs
  repeat' split
  all_goals rfl

theorem run_status (host : MeshHost) (opts : Options) (s : MeshSession) :
    (run host opts s).1.status "mesh-down" = some (meshDown host opts s).1.status := by
  have hname : (meshDown host opts s).1.name = "mesh-down" := runStep_name _ _ _ _ _ s
  simp [run, Result.status, runStep_name, runReapVMs_name, hname]

theorem run_session (host : MeshHost) (opts : Options) (s : MeshSession) :
    (run host opts s).2 = (meshDown host opts s).2 := rfl

theorem issuedSince_self (s : MeshSession) : issuedSince s s = [] := by
  rw [issuedSince, Nat.sub_self, List.take_zero]

theorem issuedSince_append {s s' : MeshSession} {new : List (Command × Reply)}
    (h : s'.issued = new ++ s.issued) : issuedSince s s' = new := by
  rw [issuedSince, h, List.length_append, Nat.add_sub_cancel, List.take_left]

/-- The mesh step reports success and issues the commands of the teardown. -/
theorem meshDown_run (host : MeshHost) {opts : Options} (hmesh : opts.mesh = true)
    (hdry : opts.dryRun = false) (s : MeshSession) : (meshDown host opts s).1.status = .ok ∧
      (meshDown host opts s).2.issued =
        (answers host s.issued (teardownCommands s.mesh (removalTargets host s))).reverse ++
          s.issued := by
  have haction : removeMesh host s = (.ok "routes deleted and interface destroyed",
      ⟨{ s.mesh with routes := ∅, up := false },
        (answers host s.issued (teardownCommands s.mesh (removalTargets host s))).reverse ++
          s.issued⟩) := by
    simp only [removeMesh, remove_run]
  simp only [meshDown, runStep, hmesh, hdry, Bool.not_true, Bool.false_eq_true, ↓reduceIte, haction]
  exact ⟨trivial, trivial⟩

theorem meshDown_dry (host : MeshHost) {opts : Options} (hdry : opts.dryRun = true)
    (s : MeshSession) :
    (meshDown host opts s).1.status = .skipped ∧ (meshDown host opts s).2 = s := by
  rw [meshDown, runStep]
  split
  · exact ⟨rfl, rfl⟩
  · exact ⟨rfl, rfl⟩

/-- A removal with a mesh reports its last step done only if every command of the teardown
succeeded or found nothing to do, and failed otherwise, if and only if nothing is run at all
or the host answers every one of these commands with success or with a benign message. -/
theorem mesh_down_report_iff (host : MeshHost) (opts : Options) (hmesh : opts.mesh = true)
    (s : MeshSession) : (((run host opts s).1.status "mesh-down" = some .ok →
          ∀ a ∈ issuedSince s (run host opts s).2, Clean a.1 a.2) ∧
        ((∃ a ∈ issuedSince s (run host opts s).2, ¬ Clean a.1 a.2) →
          (run host opts s).1.status "mesh-down" = some .failed ∧
            (run host opts s).1.ok = false)) ↔
      opts.dryRun = true ∨
        ∀ a ∈ answers host s.issued (teardownCommands s.mesh (removalTargets host s)),
          Clean a.1 a.2 := by
  rw [run_status, run_session]
  cases hdry : opts.dryRun with
  | true =>
    obtain ⟨hstatus, hsession⟩ := meshDown_dry host hdry s
    simp [hstatus, hsession, issuedSince_self]
  | false =>
    obtain ⟨hstatus, hissued⟩ := meshDown_run host hmesh hdry s
    rw [issuedSince_append hissued, hstatus]
    constructor
    · rintro ⟨hclean, -⟩
      refine Or.inr fun a ha => hclean rfl a (List.mem_reverse.mpr ha)
    · rintro (hdry' | hclean)
      · cases hdry'
      · refine ⟨fun _ a ha => hclean a (List.mem_reverse.mp ha), ?_⟩
        rintro ⟨a, ha, hdirty⟩
        exact absurd (hclean a (List.mem_reverse.mp ha)) hdirty

/-- A mesh with one peer, whose routes are to be deleted. -/
def pairedMesh : Mesh :=
  .new ⟨"utun7", ⟨List.replicate 32 7, rfl⟩, "10.99.0.1/24", 51820, 1420,
    [⟨"mac-2", ⟨List.replicate 32 8, rfl⟩, "203.0.113.7:51820", ["10.244.2.0/24"], 25⟩]⟩

/-- Everything is removed, and only the mesh is left to tear down. -/
def removal : Options := ⟨"mac-1", false, some none, some ([], none), some none, true⟩

/-- A host that answers this to the command that destroys the interface. -/
def destroying (reply : Reply) : MeshHost :=
  meshHostAnswering fun _ c => if c.args = ["utun7", "destroy"] then reply else .ok ""

theorem absent_interface_removed :
    (run (destroying (.error ⟨1, "ifconfig: interface utun7 does not exist"⟩)) removal
        ⟨pairedMesh, []⟩).1.status "mesh-down" = some .ok ∧
      ∀ a ∈ issuedSince ⟨pairedMesh, []⟩
          (run (destroying (.error ⟨1, "ifconfig: interface utun7 does not exist"⟩)) removal
            ⟨pairedMesh, []⟩).2, Clean a.1 a.2 := by
  have hclean : ∀ a ∈ answers
      (destroying (.error ⟨1, "ifconfig: interface utun7 does not exist"⟩)) []
      (teardownCommands pairedMesh (removalTargets
        (destroying (.error ⟨1, "ifconfig: interface utun7 does not exist"⟩)) ⟨pairedMesh, []⟩)),
      Clean a.1 a.2 := by decide
  have hok (host : MeshHost) : (run host removal ⟨pairedMesh, []⟩).1.status "mesh-down" =
      some .ok := by
    rw [run_status, (meshDown_run host rfl rfl ⟨pairedMesh, []⟩).1]
  exact ⟨hok _, ((mesh_down_report_iff _ removal rfl ⟨pairedMesh, []⟩).mpr
    (Or.inr hclean)).1 (hok _)⟩

/-- The interface could not be destroyed, and the removal is reported complete. -/
theorem undestroyed_interface_reported_done :
    (run (destroying (.error ⟨1, "ifconfig: SIOCIFDESTROY: Operation not permitted"⟩)) removal
        ⟨pairedMesh, []⟩).1.status "mesh-down" = some .ok ∧
      (run (destroying (.error ⟨1, "ifconfig: SIOCIFDESTROY: Operation not permitted"⟩)) removal
        ⟨pairedMesh, []⟩).1.ok = true ∧
      ∃ a ∈ issuedSince ⟨pairedMesh, []⟩
          (run (destroying (.error ⟨1, "ifconfig: SIOCIFDESTROY: Operation not permitted"⟩))
            removal ⟨pairedMesh, []⟩).2,
        a.1 = ⟨"ifconfig", ["utun7", "destroy"], ""⟩ ∧ ¬ Clean a.1 a.2 := by
  refine ⟨by decide, by decide, by decide⟩

end MacVz.NodeRemoval
