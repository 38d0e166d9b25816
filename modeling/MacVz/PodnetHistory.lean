/-
Whole histories of a started router.  The anchor in the kernel holds the
ruleset of the current maps as long as the last load succeeded; a failed load
leaves the maps ahead of the anchor, and only another load brings them
together again.
-/
import MacVz.Interleaving
import MacVz.PodnetRouter
import MacVz.StatefulFrame

namespace MacVz

namespace Podnet

open Interleaving StatefulFrame

variable {s s' : Session} {c : Command} {e : CommandError}

/-- The command loads the anchor. -/
def isLoad (anchor : String) (c : Command) : Bool :=
  c.name = "pfctl" && c.args = ["-a", anchor, "-f", "-"]

def Session.loads (s : Session) : List (Command × Reply) :=
  s.issued.filter fun e => isLoad s.router.cfg.anchor e.1

/-- The ruleset last loaded with success: what the kernel evaluates. -/
def Session.loaded (s : Session) : Option String :=
  s.loads.findSome? fun e =>
    match e.2 with
    | .ok _ => some e.1.stdin
    | .error _ => none

def Session.lastLoadFailed (s : Session) : Bool :=
  s.loads.head?.any fun e =>
    match e.2 with
    | .ok _ => false
    | .error _ => true

/-- The ruleset is one rendered from the router's maps, in some order of
iteration. -/
def Renders (host : Host) (rt : Router) (rules : String) : Prop :=
  ∃ endpoints services, Enumerates rt.endpoints endpoints ∧
    Enumerates rt.services services ∧
    rules = ruleset host.sortRules rt.cfg (endpoints.map Prod.snd) services

/-- The last ruleset that was loaded is the one of the router's maps. -/
def InSync (host : Host) (s : Session) : Prop :=
  ∃ rules, s.loaded = some rules ∧ Renders host s.router rules

theorem currentRules_renders (host : Host) (s : Session) :
    Renders host s.router (currentRules host s) :=
  ⟨_, _, host.enumerate_spec s.issued s.router.endpoints,
    host.enumerate_spec s.issued s.router.services, rfl⟩

/-- Nothing was recorded and nothing loaded. -/
def Untouched (s s' : Session) : Prop :=
  s'.router = s.router ∧ s'.loads = s.loads

instance : Std.Refl Untouched := ⟨fun _ => ⟨rfl, rfl⟩⟩

instance : IsTrans Session Untouched :=
  ⟨fun _ _ _ hfirst hsecond =>
    ⟨hsecond.1.trans hfirst.1, hsecond.2.trans hfirst.2⟩⟩

/-- An untouched session is in sync as before. -/
theorem Untouched.inSync_iff {host : Host} (h : Untouched s s') :
    InSync host s' ↔ InSync host s := by
  simp only [InSync, Session.loaded, h.1, h.2]

theorem Untouched.lastLoadFailed_eq (h : Untouched s s') :
    s'.lastLoadFailed = s.lastLoadFailed := by
  simp only [Session.lastLoadFailed, h.2]

theorem runCommand_run (host : Host) (c : Command) (s : Session) : (runCommand host c).run s =
      .ok (host.reply s.issued c)
        { s with issued := (c, host.reply s.issued c) :: s.issued } := rfl

theorem runCommand_frame (host : Host) (hc : ∀ anchor, isLoad anchor c = false) :
    Frame Untouched (runCommand host c) := by
  intro s
  rw [runCommand_run]
  refine ⟨rfl, ?_⟩
  simp [Session.loads, hc]

theorem runTolerating_frame (host : Host) (benign : List String)
    (hc : ∀ anchor, isLoad anchor c = false) : Frame Untouched (runTolerating host c benign) := by
  apply Frame.bind (runCommand_frame host hc)
  intro reply
  cases reply with
  | ok out => exact Frame.pure _
  | error e => exact Frame.pure _

theorem removeVMNetDefaultRouteOnInterfaceLocked_frame (host : Host) (iface : String) :
    Frame Untouched (removeVMNetDefaultRouteOnInterfaceLocked host iface) := by
  apply Frame.bind (runTolerating_frame host _ (by intro anchor; rfl))
  intro failure
  cases failure with
  | none => exact Frame.pure _
  | some e => exact Frame.throw _

theorem getRouter_frame : Frame Untouched getRouter :=
  Frame.bind Frame.get fun _ => Frame.pure _

theorem removeVMNetDefaultRouteLocked_frame (host : Host) :
    Frame Untouched (removeVMNetDefaultRouteLocked host) :=
  Frame.bind getRouter_frame fun _ =>
    removeVMNetDefaultRouteOnInterfaceLocked_frame host _

theorem resolveVMNetInterface_frame (host : Host) (vmIP : String) :
    Frame Untouched (resolveVMNetInterface host vmIP) := by
  apply Frame.bind (runCommand_frame host (by intro anchor; rfl))
  intro reply
  cases reply with
  | ok out => exact Frame.pure _
  | error e => exact Frame.pure _

theorem checked_frame (result : Except Error Unit) : Frame Untouched (checked result) := by
  cases result with
  | ok u => exact Frame.pure _
  | error e => exact Frame.throw _

theorem require_frame (condition : Bool) (failure : Error) :
    Frame Untouched (require condition failure) := by
  cases condition with
  | true => exact Frame.pure _
  | false => exact Frame.throw _

theorem chooseInterface_frame (host : Host) (cfg : Config) (ep : Endpoint) :
    Frame Untouched (chooseInterface host cfg ep) := by
  unfold chooseInterface
  split
  · exact Frame.pure _
  · apply Frame.bind (resolveVMNetInterface_frame host ep.vmIP)
    intro reply
    cases reply with
    | ok iface => exact Frame.pure _
    | error e => exact Frame.pure _

/-- Nothing is recorded or loaded before `Attach` has its endpoint. -/
theorem prepareAttach_frame (host : Host) (ep : Endpoint) :
    Frame Untouched (prepareAttach host ep) :=
  Frame.bind (checked_frame _) fun _ =>
    Frame.bind getRouter_frame fun _ =>
    Frame.bind (require_frame _ _) fun _ =>
    Frame.bind (Frame.adaptExcept (removeVMNetDefaultRouteLocked_frame host)) fun _ =>
    Frame.bind (chooseInterface_frame host _ ep) fun _ =>
    Frame.bind (Frame.adaptExcept
      (removeVMNetDefaultRouteOnInterfaceLocked_frame host _)) fun _ =>
    Frame.pure _

theorem prepareAttach_returns (host : Host) (ep : Endpoint) :
    Returns (fun ep' => ep'.podKey = ep.podKey) (prepareAttach host ep) :=
  Returns.bind fun _ => Returns.bind fun _ => Returns.bind fun _ =>
    Returns.bind fun _ => Returns.bind fun _ => Returns.bind fun _ =>
    Returns.pure rfl

theorem prepareAttachService_frame (key : String) (rules : List ServiceRule) :
    Frame Untouched (prepareAttachService key rules) := by
  apply Frame.bind (require_frame _ _)
  intro _
  cases keepRules rules with
  | error e => exact Frame.throw _
  | ok kept =>
    exact Frame.bind getRouter_frame fun _ =>
      Frame.bind (require_frame _ _) fun _ => Frame.pure _

/-- What loading the current rules answers. -/
def loadReply (host : Host) (s : Session) : Reply :=
  host.reply s.issued (loadCommand s.router.cfg.anchor (currentRules host s))

def LoadFails (host : Host) (s : Session) : Prop :=
  ∃ e, loadReply host s = .error e

def Session.afterLoad (host : Host) (s : Session) : Session :=
  { s with
    issued := (loadCommand s.router.cfg.anchor (currentRules host s),
      loadReply host s) :: s.issued }

theorem Session.afterLoad_loads (host : Host) (s : Session) : (s.afterLoad host).loads =
      (loadCommand s.router.cfg.anchor (currentRules host s), loadReply host s) ::
        s.loads :=
  List.filter_cons_of_pos (by simp [Session.afterLoad, isLoad, loadCommand])

theorem loadAnchorLocked_run (host : Host) (s : Session) : (loadAnchorLocked host).run s =
      match loadReply host s with
      | .ok _ => .ok () (s.afterLoad host)
      | .error e => .error (.loadAnchor s.router.cfg.anchor e) (s.afterLoad host) := by
  have hrun : (loadAnchorLocked host).run s =
      EStateM.run (match loadReply host s with
        | .ok _ => pure ()
        | .error e => throw (.loadAnchor s.router.cfg.anchor e))
        (s.afterLoad host) := rfl
  rw [hrun]
  cases loadReply host s <;> rfl

theorem afterLoad_inSync {host : Host} {out : String} (hreply : loadReply host s = .ok out) :
    InSync host (s.afterLoad host) := by
  refine ⟨currentRules host s, ?_, currentRules_renders host s⟩
  rw [Session.loaded, Session.afterLoad_loads, hreply]
  rfl

theorem afterLoad_lastLoadFailed {host : Host} (hreply : loadReply host s = .error e) :
    (s.afterLoad host).lastLoadFailed = true := by
  rw [Session.lastLoadFailed, Session.afterLoad_loads, hreply]
  rfl

theorem afterLoad_loaded_of_error {host : Host} (hreply : loadReply host s = .error e) :
    (s.afterLoad host).loaded = s.loaded := by
  rw [Session.loaded, Session.afterLoad_loads, hreply]
  rfl

def Session.record (s : Session) (change : Router → Router) : Session :=
  { s with router := change s.router }

theorem reload_run (host : Host) (change : Router → Router) (wrap : Error → Error) (s : Session) :
    (reload host change wrap).run s =
      match loadReply host (s.record change) with
      | .ok _ => .ok () ((s.record change).afterLoad host)
      | .error e => .error
          (wrap (.loadAnchor (s.record change).router.cfg.anchor e))
          ((s.record change).afterLoad host) := by
  have hrun : (reload host change wrap).run s =
      (EStateM.adaptExcept wrap (loadAnchorLocked host)).run (s.record change) := rfl
  rw [hrun, EStateM.run_adaptExcept, loadAnchorLocked_run]
  cases loadReply host (s.record change) <;> rfl

theorem reload_router (host : Host) (change : Router → Router) (wrap : Error → Error)
    (s : Session) : (final ((reload host change wrap).run s)).router = change s.router := by
  rw [reload_run]
  cases loadReply host (s.record change) <;> rfl

/-- The maps are loaded, unless the last load failed. -/
def Tracks (host : Host) (s : Session) : Prop :=
  s.lastLoadFailed = true ∨ InSync host s

theorem Untouched.tracks {host : Host} (h : Untouched s s') (htracks : Tracks host s) :
    Tracks host s' := by
  rcases htracks with hfailed | hsync
  · exact Or.inl (h.lastLoadFailed_eq.trans hfailed)
  · exact Or.inr (h.inSync_iff.mpr hsync)

theorem reload_tracks (host : Host) (change : Router → Router) (wrap : Error → Error)
    (s : Session) : Tracks host (final ((reload host change wrap).run s)) := by
  rw [reload_run]
  cases hreply : loadReply host (s.record change) with
  | ok out => exact Or.inr (afterLoad_inSync hreply)
  | error e => exact Or.inl (afterLoad_lastLoadFailed hreply)

theorem reload_ok_inSync {host : Host} {change : Router → Router} {wrap : Error → Error}
    (hok : (reload host change wrap).run s = .ok () s') : InSync host s' := by
  rw [reload_run] at hok
  cases hreply : loadReply host (s.record change) with
  | ok out =>
    rw [hreply] at hok
    cases hok
    exact afterLoad_inSync hreply
  | error e =>
    rw [hreply] at hok
    cases hok

/-- `Detach` or `DetachService` of a key that is not recorded. -/
def Op.IsNoop (s : Session) : Op → Prop
  | .detach podKey => podKey ∉ s.router.endpoints
  | .detachService key => key ∉ s.router.services
  | _ => False

theorem attach_run (host : Host) (ep : Endpoint) (s : Session) : (attach host ep).run s =
      match (prepareAttach host ep).run s with
      | .ok ep' s₁ => (reload host (Router.putEndpoint ep') (.attach ep')).run s₁
      | .error e s₁ => .error e s₁ := by
  rw [attach, EStateM.run_bind]
  cases (prepareAttach host ep).run s <;> rfl

theorem attachService_run (host : Host) (key : String) (rules : List ServiceRule) (s : Session) :
    (attachService host key rules).run s =
      match (prepareAttachService key rules).run s with
      | .ok kept s₁ => (reload host (Router.putService key kept) (.attachService key)).run s₁
      | .error e s₁ => .error e s₁ := by
  rw [attachService, EStateM.run_bind]
  cases (prepareAttachService key rules).run s <;> rfl

theorem detach_run (host : Host) (podKey : String) (s : Session) : (detach host podKey).run s =
      if podKey ∈ s.router.endpoints then
        if s.router.started then
          (reload host (Router.dropEndpoint podKey) (.detach podKey)).run s
        else .ok () (s.record (Router.dropEndpoint podKey))
      else .ok () s := by
  have hrun : (detach host podKey).run s =
      EStateM.run (if podKey ∈ s.router.endpoints then
        if s.router.started then
          reload host (Router.dropEndpoint podKey) (.detach podKey)
        else modifyRouter (Router.dropEndpoint podKey)
      else pure ()) s := rfl
  rw [hrun]
  split
  · split <;> rfl
  · rfl

theorem detachService_run (host : Host) (key : String) (s : Session) :
    (detachService host key).run s =
      if key ∈ s.router.services then
        if s.router.started then
          (reload host (Router.dropService key) (.detachService key)).run s
        else .ok () (s.record (Router.dropService key))
      else .ok () s := by
  have hrun : (detachService host key).run s =
      EStateM.run (if key ∈ s.router.services then
        if s.router.started then
          reload host (Router.dropService key) (.detachService key)
        else modifyRouter (Router.dropService key)
      else pure ()) s := rfl
  rw [hrun]
  split
  · split <;> rfl
  · rfl

/-- A failed `Detach` has forgotten the endpoint, so its retry returns nil
without a load and the anchor keeps what it held. -/
theorem detach_retry {host : Host} {podKey : String} (hstarted : s.router.started = true)
    (hmem : podKey ∈ s.router.endpoints)
    (hreply : loadReply host (s.record (Router.dropEndpoint podKey)) = .error e) :
    ∃ s', final ((detach host podKey).run s) = s' ∧
      (detach host podKey).run s' = .ok () s' ∧
      s'.router = Router.dropEndpoint podKey s.router ∧ s'.loaded = s.loaded := by
  refine ⟨(s.record (Router.dropEndpoint podKey)).afterLoad host, ?_, ?_, rfl,
    afterLoad_loaded_of_error hreply⟩
  · rw [detach_run, if_pos hmem, if_pos hstarted, reload_run, hreply]
    rfl
  · have hgone : podKey ∉ (Router.dropEndpoint podKey s.router).endpoints := by
      simp [Router.dropEndpoint]
    rw [detach_run]
    exact if_neg hgone

/-- The operation is not about the Pod. -/
def Op.Spares (podKey : String) : Op → Prop
  | .attach ep => podKey ≠ ep.podKey
  | .detach other => podKey ≠ other
  | _ => True

/-- What an operation of a started router can do: nothing, or change the maps
after a quiet preparation and reload.  The change keeps the endpoints the
operation is not about. -/
theorem perform_cases (host : Host) (hstarted : s.router.started = true) (op : Op) :
    (Untouched s (final ((op.perform host).run s)) ∧
        ∀ s', (op.perform host).run s = .ok () s' → op.IsNoop s) ∨
      ∃ s₁ change wrap, Untouched s s₁ ∧
        (∀ rt, (change rt).started = rt.started) ∧
        (∀ podKey, op.Spares podKey → ∀ rt,
          (change rt).endpoints.lookup podKey = rt.endpoints.lookup podKey) ∧
        (op.perform host).run s = (reload host change wrap).run s₁ := by
  cases op with
  | attach ep =>
    have hframe := prepareAttach_frame host ep s
    simp only [Op.perform, attach_run]
    cases hprepare : (prepareAttach host ep).run s with
    | ok ep' s₁ =>
      rw [hprepare] at hframe
      have hkey := prepareAttach_returns host ep s ep' s₁ hprepare
      refine Or.inr ⟨s₁, Router.putEndpoint ep', _, hframe, fun _ => rfl, ?_, rfl⟩
      intro podKey hspares rt
      apply Finmap.lookup_insert_of_ne
      rw [hkey]
      exact hspares
    | error e s₁ =>
      rw [hprepare] at hframe
      exact Or.inl ⟨hframe, fun s' hok => by cases hok⟩
  | detach podKey =>
    simp only [Op.perform, detach_run, hstarted, ↓reduceIte]
    by_cases hmem : podKey ∈ s.router.endpoints
    · rw [if_pos hmem]
      exact Or.inr ⟨s, Router.dropEndpoint podKey, _, ⟨rfl, rfl⟩,
        fun _ => rfl, fun _ hspares _ => Finmap.lookup_erase_ne hspares, rfl⟩
    · rw [if_neg hmem]
      exact Or.inl ⟨⟨rfl, rfl⟩, fun _ _ => hmem⟩
  | attachService key rules =>
    have hframe := prepareAttachService_frame key rules s
    simp only [Op.perform, attachService_run]
    cases hprepare : (prepareAttachService key rules).run s with
    | ok kept s₁ =>
      rw [hprepare] at hframe
      exact Or.inr ⟨s₁, Router.putService key kept, _, hframe, fun _ => rfl, fun _ _ _ => rfl, rfl⟩
    | error e s₁ =>
      rw [hprepare] at hframe
      exact Or.inl ⟨hframe, fun s' hok => by cases hok⟩
  | detachService key =>
    simp only [Op.perform, detachService_run, hstarted, ↓reduceIte]
    by_cases hmem : key ∈ s.router.services
    · rw [if_pos hmem]
      exact Or.inr ⟨s, Router.dropService key, _, ⟨rfl, rfl⟩, fun _ => rfl, fun _ _ _ => rfl, rfl⟩
    · rw [if_neg hmem]
      exact Or.inl ⟨⟨rfl, rfl⟩, fun _ _ => hmem⟩

/-- An operation as a step, whether it fails or not. -/
def opStep (host : Host) (s : Session) (op : Op) : Option Session :=
  some (final ((op.perform host).run s))

/-- A started router whose anchor follows its maps unless the last load
failed. -/
structure Consistent (host : Host) (s : Session) : Prop where
  started : s.router.started = true
  tracks : Tracks host s

theorem opStep_consistent {host : Host} {op : Op} (h : Consistent host s)
    (hstep : opStep host s op = some s') : Consistent host s' := by
  simp only [opStep, Option.some.injEq] at hstep
  subst hstep
  rcases perform_cases host h.started op with
    ⟨hquiet, _⟩ | ⟨s₁, change, wrap, hquiet, hkeep, _, hrun⟩
  · exact ⟨by rw [hquiet.1]; exact h.started, hquiet.tracks h.tracks⟩
  · rw [hrun]
    refine ⟨?_, reload_tracks host change wrap s₁⟩
    rw [reload_router, hkeep, hquiet.1]
    exact h.started

/-- A `Start` that returns nil has loaded the ruleset of the empty maps. -/
theorem start_consistent {host : Host} {cfg : Config}
    (hstart : (start host).run ⟨Router.new cfg, []⟩ = .ok () s) : Consistent host s := by
  rcases run_bind_cases (prepareStart host) (fun _ => do
      modifyRouter fun rt => { rt with started := true }
      loadAnchorLocked host) ⟨Router.new cfg, []⟩ with
    ⟨e, s', _, hrun⟩ | ⟨_, s₁, _, hrun⟩
  · cases hrun.symm.trans hstart
  · have hload : (loadAnchorLocked host).run
        (s₁.record fun rt => { rt with started := true }) = .ok () s :=
      hrun.symm.trans hstart
    rw [loadAnchorLocked_run] at hload
    cases hreply : loadReply host (s₁.record fun rt => { rt with started := true }) with
    | ok out =>
      rw [hreply] at hload
      cases hload
      exact ⟨rfl, Or.inr (afterLoad_inSync hreply)⟩
    | error e =>
      rw [hreply] at hload
      cases hload

/-- A call that does nothing because its key is unknown is made only when the
last load of the anchor succeeded. -/
def Op.AfterGoodLoad (s : Session) (op : Op) : Prop :=
  op.IsNoop s → s.lastLoadFailed = false

/-- Over every history of a started router, under every pattern of failing
loads: a nil return finds the anchor at the ruleset of the current maps, unless
the call detached an unknown key right after a failed load. -/
theorem nil_return_inSync (host : Host) (cfg : Config) {s₀ s s' : Session} {ops : List Op} {op : Op}
    (hstart : (start host).run ⟨Router.new cfg, []⟩ = .ok () s₀)
    (hrun : Run (opStep host) (fun _ _ => True) s₀ ops s) (hop : op.AfterGoodLoad s)
    (hok : (op.perform host).run s = .ok () s') : InSync host s' := by
  have hconsistent : Consistent host s :=
    hrun.invariant (start_consistent hstart) fun h _ hstep => opStep_consistent h hstep
  rcases perform_cases host hconsistent.started op with
    ⟨hquiet, hnoop⟩ | ⟨s₁, change, wrap, _, _, _, hreload⟩
  · have hgood := hop (hnoop s' hok)
    rw [hok] at hquiet
    apply hquiet.inSync_iff.mpr
    rcases hconsistent.tracks with hfailed | hsync
    · rw [hfailed] at hgood
      cases hgood
    · exact hsync
  · exact reload_ok_inSync (hreload.symm.trans hok)

namespace RetryWitness

def cfg : Config := ⟨"bridge100", "", "macvz/pods", false⟩

def endpoint : Endpoint := ⟨"default/web", "10.244.0.2", "192.168.64.5", "bridge100"⟩

noncomputable def host : Host := hostAnswering fun issued c =>
  if isLoad "macvz/pods" c &&
      (issued.filter fun e => isLoad "macvz/pods" e.1).length = 2 then
    .error ⟨1, "pfctl: device busy"⟩
  else .ok ""

noncomputable def started : Session :=
  final ((start host).run ⟨Router.new cfg, []⟩)

noncomputable def attached : Session :=
  final ((attach host endpoint).run started)

theorem start_ok : (start host).run ⟨Router.new cfg, []⟩ = .ok () started := rfl

theorem attach_ok : (attach host endpoint).run started = .ok () attached := rfl

theorem opStep_attach : opStep host started (.attach endpoint) = some attached :=
  congrArg (fun r => some (final r)) attach_ok

theorem attached_router : attached.router =
    ⟨cfg, true, (∅ : Table Endpoint).insert "default/web" endpoint, ∅⟩ := rfl

theorem attached_lastLoadFailed : attached.lastLoadFailed = false := rfl

theorem attached_load_refused :
    loadReply host (attached.record (Router.dropEndpoint "default/web")) =
      .error ⟨1, "pfctl: device busy"⟩ := rfl

theorem attached_inSync : InSync host attached := by
  have hok := attach_ok
  rw [attach_run] at hok
  cases hprepare : (prepareAttach host endpoint).run started with
  | ok ep' s₁ =>
    exact reload_ok_inSync hok
  | error e s₁ =>
    rw [hprepare] at hok
    cases hok

theorem ruleset_ne : ruleset host.sortRules cfg [endpoint] [] ≠
    ruleset host.sortRules cfg [] [] := by
  decide

end RetryWitness

open RetryWitness in
/-- After one attached endpoint, detaching an unknown Service is a nil return
that loads nothing, and the anchor is in line. -/
theorem detachService_unknown_inSync : InSync host attached := by
  have hunknown : "default/db" ∉ attached.router.services := by
    rw [attached_router]
    exact Finmap.notMem_empty
  have hrun : Run (opStep host) (fun _ _ => True) started [.attach endpoint] attached :=
    Run.cons trivial opStep_attach .nil
  have hok : ((Op.detachService "default/db").perform host).run attached = .ok () attached := by
    rw [Op.perform, detachService_run, if_neg hunknown]
  exact nil_return_inSync host cfg start_ok hrun (fun _ => attached_lastLoadFailed) hok

open RetryWitness in
/-- A `Detach` whose load fails, called again: the second call returns nil and
the kernel still redirects to the endpoint that is no longer recorded. -/
theorem detach_retry_leaves_anchor_stale :
    ¬ ∀ (host : Host) (cfg : Config) (s₀ s s' : Session) (ops : List Op) (op : Op),
      (start host).run ⟨Router.new cfg, []⟩ = .ok () s₀ →
      Run (opStep host) (fun _ _ => True) s₀ ops s →
      (op.perform host).run s = .ok () s' → InSync host s' := by
  intro hall
  have hmem : "default/web" ∈ attached.router.endpoints := by
    rw [attached_router]
    decide
  obtain ⟨s', hfinal, hretry, hrouter, hloaded⟩ :=
    detach_retry (by rw [attached_router]) hmem attached_load_refused
  have hdetach : opStep host attached (.detach "default/web") = some s' :=
    congrArg some hfinal
  have hrun : Run (opStep host) (fun _ _ => True) started
      [.attach endpoint, .detach "default/web"] s' :=
    Run.cons trivial opStep_attach (Run.cons trivial hdetach .nil)
  -- both rulesets are rendered from maps with at most one entry, so the
  -- iteration order does not matter
  obtain ⟨rules, hrules, endpoints, services, hendpoints, hservices, rfl⟩ :=
    hall host cfg started s' s' _ (.detach "default/web") start_ok hrun hretry
  obtain ⟨rules', hrules', endpoints', services', hendpoints', hservices', rfl⟩ :=
    attached_inSync
  have herase : ((∅ : Table Endpoint).insert "default/web" endpoint).erase "default/web" = ∅ := by
    decide
  rw [hloaded, hrules', Option.some.injEq] at hrules
  rw [hrouter, attached_router] at hendpoints hservices hrules
  rw [attached_router, enumerates_singleton] at hendpoints'
  rw [attached_router, enumerates_empty] at hservices'
  simp only [Router.dropEndpoint, herase, enumerates_empty] at hendpoints hservices hrules
  subst hendpoints hservices hendpoints' hservices'
  exact ruleset_ne hrules

end Podnet

end MacVz
