/-
What a failed call leaves behind.  The four operations record their change
before the load that may fail and never take it back, so a refused endpoint or
Service stays in the maps and is part of every later ruleset.
-/
import MacVz.PodnetHistory
import MacVz.TextFields

namespace MacVz

namespace Podnet

open Interleaving StatefulFrame

theorem insert_eq_self_iff {V : Type} (table : Table V) (key : String) (value : V) :
    table.insert key value = table ↔ table.lookup key = some value := by
  constructor
  · intro h
    rw [← h]
    exact Finmap.lookup_insert table
  · intro h
    apply Finmap.ext_lookup
    intro other
    by_cases hkey : other = key
    · subst other
      rw [Finmap.lookup_insert, h]
    · exact Finmap.lookup_insert_of_ne table hkey

theorem erase_eq_self_iff {V : Type} (table : Table V) (key : String) :
    table.erase key = table ↔ table.lookup key = none := by
  constructor
  · intro h
    rw [← h]
    exact Finmap.lookup_erase key table
  · intro h
    apply Finmap.ext_lookup
    intro other
    by_cases hkey : other = key
    · subst other
      rw [Finmap.lookup_erase, h]
    · exact Finmap.lookup_erase_ne hkey

/-- The router has the same endpoints and services. -/
def SameMaps (rt rt' : Router) : Prop :=
  rt'.endpoints = rt.endpoints ∧ rt'.services = rt.services

/-- Putting an endpoint changes nothing exactly where it stood already. -/
theorem putEndpoint_sameMaps_iff (ep : Endpoint) (rt : Router) :
    SameMaps rt (rt.putEndpoint ep) ↔ rt.endpoints.lookup ep.podKey = some ep := by
  simp [SameMaps, Router.putEndpoint, insert_eq_self_iff]

theorem dropEndpoint_sameMaps_iff (podKey : String) (rt : Router) :
    SameMaps rt (rt.dropEndpoint podKey) ↔ podKey ∉ rt.endpoints := by
  simp [SameMaps, Router.dropEndpoint, erase_eq_self_iff, Finmap.lookup_eq_none]

theorem putService_sameMaps_iff (key : String) (kept : List ServiceRule) (rt : Router) :
    SameMaps rt (rt.putService key kept) ↔
      rt.services.lookup key = if kept = [] then none else some kept := by
  by_cases hkept : kept = []
  · simp [SameMaps, Router.putService, hkept, erase_eq_self_iff]
  · simp [SameMaps, Router.putService, hkept, insert_eq_self_iff]

theorem dropService_sameMaps_iff (key : String) (rt : Router) :
    SameMaps rt (rt.dropService key) ↔ key ∉ rt.services := by
  simp [SameMaps, Router.dropService, erase_eq_self_iff, Finmap.lookup_eq_none]

/-- The history after a command: the command with the host's answer on top. -/
def Host.asked (host : Host) (issued : List (Command × Reply)) (c : Command) :
    List (Command × Reply) :=
  (c, host.reply issued c) :: issued

/-- The command of the route guard on an interface. -/
def guardCommand (iface : String) : Command :=
  ⟨"route", ["-q", "-n", "delete", "-inet", "default", "-ifscope", iface], ""⟩

/-- The host's answer to the route guard, if it is an error that is not tolerated. -/
def Host.guardFailure (host : Host) (issued : List (Command × Reply)) (iface : String) :
    Option CommandError :=
  match host.reply issued (guardCommand iface) with
  | .ok _ => none
  | .error e => if benignError benignRouteErrors e then none else some e

/-- The question which interface a micro-VM is routed through. -/
def lookupCommand (vmIP : String) : Command := ⟨"route", ["-n", "get", vmIP], ""⟩

/-- The interface an endpoint goes to: its own, else the one the host names, else the configured
one. A question that fails counts as one without an answer. -/
def Host.interfaceFor (host : Host) (issued : List (Command × Reply)) (cfg : Config)
    (ep : Endpoint) : String :=
  if ep.interface ≠ "" then ep.interface
  else
    match host.reply issued (lookupCommand ep.vmIP) with
    | .ok out => if parseRouteInterface out = "" then cfg.interface else parseRouteInterface out
    | .error _ => cfg.interface

/-- The history when the second guard of `Attach` is sent. -/
def Host.lookedUp (host : Host) (issued : List (Command × Reply)) (ep : Endpoint) :
    List (Command × Reply) :=
  if ep.interface ≠ "" then issued else host.asked issued (lookupCommand ep.vmIP)

/-- `Attach` ends before it records its endpoint: the endpoint is invalid, the router is not
started, or the host refuses one of the two route guards. -/
def Endpoint.TurnedDown (host : Host) (s : Session) (ep : Endpoint) : Prop :=
  let guarded := host.asked s.issued (guardCommand s.router.cfg.interface)
  ep.validate ≠ .ok () ∨ s.router.started = false ∨
    host.guardFailure s.issued s.router.cfg.interface ≠ none ∨
    host.guardFailure (host.lookedUp guarded ep) (host.interfaceFor guarded s.router.cfg ep) ≠ none

/-- The endpoint `Attach` records: the one asked for, on the interface it goes to. -/
def Endpoint.placed (host : Host) (s : Session) (ep : Endpoint) : Endpoint :=
  { ep with
    interface := host.interfaceFor
      (host.asked s.issued (guardCommand s.router.cfg.interface)) s.router.cfg ep }

/-- What the guard of the default route asks and how it fails. -/
theorem guard_run (host : Host) (iface : String) (s : Session) :
    (removeVMNetDefaultRouteOnInterfaceLocked host iface).run s =
      match host.guardFailure s.issued iface with
      | none => .ok () ⟨s.router, host.asked s.issued (guardCommand iface)⟩
      | some e =>
        .error (.removeDefaultRoute iface e)
          ⟨s.router, host.asked s.issued (guardCommand iface)⟩ := by
  rw [removeVMNetDefaultRouteOnInterfaceLocked, runTolerating, bind_assoc, EStateM.run_bind,
    runCommand_run, Host.guardFailure, guardCommand]
  cases hreply : host.reply s.issued _ with
  | ok out =>
    rw [Host.asked, hreply]
    rfl
  | error e =>
    rw [Host.asked, hreply]
    cases hbenign : benignError benignRouteErrors e <;> simp [hbenign]

theorem chooseInterface_run (host : Host) (cfg : Config) (ep : Endpoint) (s : Session) :
    (chooseInterface host cfg ep).run s = .ok (host.interfaceFor s.issued cfg ep)
      ⟨s.router, host.lookedUp s.issued ep⟩ := by
  rw [chooseInterface, Host.interfaceFor, Host.lookedUp]
  split
  · rfl
  · rw [resolveVMNetInterface, bind_assoc, EStateM.run_bind, runCommand_run, Host.asked,
      lookupCommand]
    cases host.reply s.issued _ <;> rfl

/-- `Attach` of a valid endpoint on a started router, up to the recording: two route guards with
the choice of the interface between them. -/
theorem prepareAttach_run {ep : Endpoint} {s : Session} (host : Host)
    (hvalid : ep.validate = .ok ()) (hstarted : s.router.started = true) :
    (prepareAttach host ep).run s =
      EStateM.run (do
        wrapping (.beforeAttach ep.podKey)
          (removeVMNetDefaultRouteOnInterfaceLocked host s.router.cfg.interface)
        let iface ← chooseInterface host s.router.cfg ep
        wrapping (.onInterfaceBeforeAttach ep.podKey)
          (removeVMNetDefaultRouteOnInterfaceLocked host iface)
        return { ep with interface := iface }) s := by
  simp only [prepareAttach, hvalid, checked, getRouter, require, hstarted,
    removeVMNetDefaultRouteLocked, EStateM.run_bind, EStateM.run_pure, EStateM.run_get, wrapping,
    EStateM.run_adaptExcept, if_true]

/-- `Attach` either stops with the router as it was, or goes on with the endpoint to record. -/
theorem prepareAttach_cases (host : Host) (ep : Endpoint) (s : Session) :
    (∃ e s₁, (prepareAttach host ep).run s = .error e s₁ ∧ s₁.router = s.router ∧
        ep.TurnedDown host s) ∨
      ∃ s₁, (prepareAttach host ep).run s = .ok (ep.placed host s) s₁ ∧ s₁.router = s.router ∧
        ¬ ep.TurnedDown host s := by
  cases hvalid : ep.validate with
  | error e =>
    refine .inl ⟨e, s, ?_, rfl, .inl (by rw [hvalid]; nofun)⟩
    rw [prepareAttach, hvalid]
    rfl
  | ok =>
    cases hstarted : s.router.started with
    | false =>
      refine .inl ⟨.attachBeforeStart ep.podKey, s, ?_, rfl, .inr (.inl hstarted)⟩
      simp [prepareAttach, hvalid, checked, getRouter, require, hstarted]
    | true =>
      simp only [prepareAttach_run host hvalid hstarted, EStateM.run_bind, wrapping,
        EStateM.run_adaptExcept, guard_run, Endpoint.TurnedDown, hvalid, hstarted, ne_eq,
        not_true_eq_false, Bool.true_eq_false, false_or]
      cases hfirst : host.guardFailure s.issued s.router.cfg.interface with
      | some e => exact .inl ⟨_, _, rfl, rfl, .inl nofun⟩
      | none =>
        simp only [chooseInterface_run]
        cases hsecond : host.guardFailure (host.lookedUp _ ep) (host.interfaceFor _ _ ep) with
        | some e => exact .inl ⟨_, _, rfl, rfl, .inr nofun⟩
        | none => exact .inr ⟨_, rfl, rfl, by simp⟩

/-- `AttachService` ends before it records its rules. -/
def RulesTurnedDown (s : Session) (key : String) (rules : List ServiceRule) : Prop :=
  key = "" ∨ (∃ e, keepRules rules = .error e) ∨ s.router.started = false

/-- `AttachService` turns its rules down with nothing changed, or keeps those with backends. -/
theorem prepareAttachService_cases (key : String) (rules : List ServiceRule) (s : Session) :
    (∃ e, (prepareAttachService key rules).run s = .error e s ∧ RulesTurnedDown s key rules) ∨
      ∃ kept, (prepareAttachService key rules).run s = .ok kept s ∧ keepRules rules = .ok kept ∧
        ¬ RulesTurnedDown s key rules := by
  simp only [prepareAttachService, RulesTurnedDown]
  by_cases hkey : key = ""
  · subst key
    exact .inl ⟨_, rfl, .inl rfl⟩
  · cases hkept : keepRules rules with
    | error e =>
      refine .inl ⟨e, ?_, .inr (.inl ⟨e, rfl⟩)⟩
      simp only [require, ne_eq, hkey, not_false_eq_true, decide_true, if_true]
      rfl
    | ok kept =>
      cases hstarted : s.router.started with
      | false =>
        refine .inl ⟨.attachServiceBeforeStart key, ?_, .inr (.inr rfl)⟩
        simp only [require, ne_eq, hkey, not_false_eq_true, decide_true, if_true, getRouter,
          EStateM.run_bind, EStateM.run_pure, EStateM.run_get, hstarted]
        rfl
      | true =>
        refine .inr ⟨kept, ?_, rfl, by simp [hkey]⟩
        simp [require, hkey, getRouter, hstarted]

/-- What makes a failed call harmless, said of the request, the session before the call and the
host's answers to the route commands: the call is turned down before it records anything, or what it
records is there already.  A removal fails only after it has forgotten its entry. -/
def Op.Harmless (host : Host) (s : Session) : Op → Prop
  | .attach ep => ep.TurnedDown host s ∨
      s.router.endpoints.lookup ep.podKey = some (ep.placed host s)
  | .detach _ => False
  | .attachService key rules => RulesTurnedDown s key rules ∨
      ∃ kept, keepRules rules = .ok kept ∧
        s.router.services.lookup key = if kept = [] then none else some kept
  | .detachService _ => False

theorem reload_error_router {host : Host} {change : Router → Router} {wrap : Error → Error}
    {s s' : Session} {e : Error} (h : (reload host change wrap).run s = .error e s') :
    s'.router = change s.router := by
  have hrouter := reload_router host change wrap s
  rwa [h] at hrouter

/-- A removal that fails has found its entry and dropped it. -/
theorem removal_error {host : Host} {s s' : Session} {present : Prop} [Decidable present]
    {change : Router → Router} {wrap : Error → Error} {e : Error}
    {run : EStateM.Result Error Session Unit} (hrun : run = if present then
        if s.router.started then (reload host change wrap).run s
        else .ok () (s.record change)
      else .ok () s) (herror : run = .error e s') :
    present ∧ s'.router = change s.router := by
  subst hrun
  by_cases hpresent : present
  · rw [if_pos hpresent] at herror
    split at herror
    · exact ⟨hpresent, reload_error_router herror⟩
    · cases herror
  · rw [if_neg hpresent] at herror
    cases herror

/-- A call that returns an error leaves both maps as they were exactly when it was turned down
before the recording, or recorded what was there. -/
theorem error_keeps_maps_iff (host : Host) {s s' : Session} {op : Op} {e : Error}
    (herror : (op.perform host).run s = .error e s') :
    (s'.router.endpoints = s.router.endpoints ∧ s'.router.services = s.router.services) ↔
      op.Harmless host s := by
  change SameMaps s.router s'.router ↔ op.Harmless host s
  cases op with
  | attach ep =>
    rw [Op.perform, attach_run] at herror
    rcases prepareAttach_cases host ep s with ⟨e₁, s₁, hrun, hrouter, hdown⟩ |
      ⟨s₁, hrun, hrouter, hgoes⟩
    · rw [hrun] at herror
      cases herror
      rw [hrouter]
      exact ⟨fun _ => .inl hdown, fun _ => ⟨rfl, rfl⟩⟩
    · rw [hrun] at herror
      rw [reload_error_router herror, hrouter, putEndpoint_sameMaps_iff, Op.Harmless,
        or_iff_right hgoes]
      rfl
  | detach podKey =>
    obtain ⟨hpresent, hrouter⟩ := removal_error (detach_run host podKey s) herror
    rw [hrouter, dropEndpoint_sameMaps_iff]
    exact ⟨fun habsent => habsent hpresent, False.elim⟩
  | attachService key rules =>
    rw [Op.perform, attachService_run] at herror
    rcases prepareAttachService_cases key rules s with ⟨e₁, hrun, hdown⟩ |
      ⟨kept, hrun, hkept, hgoes⟩
    · rw [hrun] at herror
      cases herror
      exact ⟨fun _ => .inl hdown, fun _ => ⟨rfl, rfl⟩⟩
    · rw [hrun] at herror
      rw [reload_error_router herror, putService_sameMaps_iff, Op.Harmless, or_iff_right hgoes]
      simp [hkept]
  | detachService key =>
    obtain ⟨hpresent, hrouter⟩ := removal_error (detachService_run host key s) herror
    rw [hrouter, dropService_sameMaps_iff]
    exact ⟨fun habsent => habsent hpresent, False.elim⟩

namespace SecondPodWitness

open RetryWitness

def second : Endpoint := ⟨"default/db", "10.244.0.3", "192.168.64.6", "bridge100"⟩

noncomputable def refused : Session :=
  final ((attach host second).run attached)

theorem attach_refused : (attach host second).run attached =
    .error (.attach second (.loadAnchor "macvz/pods" ⟨1, "pfctl: device busy"⟩))
      refused := rfl

/-- The endpoint that is there, attached again: the load is refused. -/
noncomputable def reattached : Session :=
  final ((attach host endpoint).run attached)

theorem reattach_refused : (attach host endpoint).run attached =
    .error (.attach endpoint (.loadAnchor "macvz/pods" ⟨1, "pfctl: device busy"⟩))
      reattached := rfl

theorem refused_endpoints : refused.router.endpoints =
    ((∅ : Table Endpoint).insert "default/web" endpoint).insert "default/db" second := rfl

end SecondPodWitness

open RetryWitness SecondPodWitness in
/-- An endpoint attached a second time: the load is refused, and the maps are as they were. -/
theorem refused_reattach_keeps_maps :
    reattached.router.endpoints = attached.router.endpoints ∧
      reattached.router.services = attached.router.services :=
  (error_keeps_maps_iff host
    (show ((Op.attach endpoint).perform host).run attached = .error _ _ from reattach_refused)).mpr
    (.inr (Finmap.lookup_insert _))

open RetryWitness SecondPodWitness in
/-- The load for a second endpoint fails, `Attach` returns the error, and the
endpoint stays recorded. -/
theorem refused_attach_stays_recorded :
    ¬ ∀ (host : Host) (cfg : Config) (s₀ s s' : Session) (ops : List Op) (op : Op)
      (e : Error), (start host).run ⟨Router.new cfg, []⟩ = .ok () s₀ →
      Run (opStep host) (fun _ _ => True) s₀ ops s →
      (op.perform host).run s = .error e s' →
      s'.router.endpoints = s.router.endpoints ∧
        s'.router.services = s.router.services := by
  intro hall
  have hrun : Run (opStep host) (fun _ _ => True) started [.attach endpoint] attached :=
    Run.cons trivial opStep_attach .nil
  have hmaps := (hall host cfg started attached refused _ (.attach second) _ start_ok
    hrun attach_refused).1
  rw [refused_endpoints, attached_router] at hmaps
  have hlookup := congrArg (Finmap.lookup "default/db") hmaps
  rw [Finmap.lookup_insert] at hlookup
  revert hlookup
  decide

/-- The host refuses every ruleset of maps that hold the endpoint. -/
def Refuses (host : Host) (ep : Endpoint) : Prop :=
  ∀ s : Session, s.router.endpoints.lookup ep.podKey = some ep → LoadFails host s

/-- The router is started and has the endpoint on record. -/
structure Keeps (ep : Endpoint) (s : Session) : Prop where
  started : s.router.started = true
  recorded : s.router.endpoints.lookup ep.podKey = some ep

/-- A call that spares the endpoint keeps the router started and the endpoint recorded. -/
theorem opStep_keeps {host : Host} {ep : Endpoint} {s s' : Session} {op : Op} (h : Keeps ep s)
    (hspares : op.Spares ep.podKey) (hstep : opStep host s op = some s') : Keeps ep s' := by
  obtain rfl := Option.some.inj hstep
  rcases perform_cases host h.started op with
    ⟨hquiet, _⟩ | ⟨s₁, change, wrap, hquiet, hkeep, hlookup, hrun⟩
  · constructor
    · rw [hquiet.1]
      exact h.started
    · rw [hquiet.1]
      exact h.recorded
  · rw [hrun]
    constructor
    · rw [reload_router, hkeep, hquiet.1]
      exact h.started
    · rw [reload_router, hlookup _ hspares, hquiet.1]
      exact h.recorded

/-- An endpoint the host refuses, once recorded, blocks all other Pods and
Services: until it is attached anew or detached, no operation that loads the
anchor returns nil. -/
theorem refused_endpoint_blocks_others {host : Host} {ep : Endpoint} (hrefuses : Refuses host ep)
    {s s' s'' : Session} {ops : List Op} (hkeeps : Keeps ep s)
    (hrun : Run (opStep host) (fun _ op => op.Spares ep.podKey) s ops s') {op : Op}
    (hspares : op.Spares ep.podKey) (hok : (op.perform host).run s' = .ok () s'') :
    op.IsNoop s' := by
  have h : Keeps ep s' :=
    hrun.invariant hkeeps fun h hspares hstep => opStep_keeps h hspares hstep
  rcases perform_cases host h.started op with
    ⟨_, hnoop⟩ | ⟨s₁, change, wrap, hquiet, _, hlookup, hreload⟩
  · exact hnoop s'' hok
  · have hrecorded : (s₁.record change).router.endpoints.lookup ep.podKey = some ep := by
      rw [Session.record, hlookup _ hspares, hquiet.1]
      exact h.recorded
    obtain ⟨e, hreply⟩ := hrefuses _ hrecorded
    rw [hreload, reload_run, hreply] at hok
    cases hok

/-- The comment an endpoint has in every ruleset that is rendered from it. -/
def Endpoint.mark (ep : Endpoint) : String := "# " ++ ep.podKey ++ "\n"

/-- The ruleset contains the mark of each endpoint. -/
theorem mark_infix_ruleset (sortRules : List ServiceRule → List ServiceRule) (cfg : Config)
    {endpoints : List Endpoint} (services : List (String × List ServiceRule)) {ep : Endpoint}
    (h : ep ∈ endpoints) :
    ep.mark.toList <:+: (ruleset sortRules cfg endpoints services).toList := by
  have hblock : (renderEndpoint cfg.interface cfg.meshInterface ep) ∈
      (endpoints.insertionSort fun a b => a.podKey ≤ b.podKey).map
        (renderEndpoint cfg.interface cfg.meshInterface) :=
    List.mem_map_of_mem ((List.mem_insertionSort _).mpr h)
  have hbody : ep.mark.toList <:+: (String.join
      ((endpoints.insertionSort fun a b => a.podKey ≤ b.podKey).map
        (renderEndpoint cfg.interface cfg.meshInterface))).toList := by
    rw [String.toList_join]
    refine List.IsInfix.trans ?_ (List.infix_of_mem_flatten (List.mem_map_of_mem hblock))
    exact GoStrings.infix_append_left (List.infix_refl _) _
  exact GoStrings.infix_append_left (GoStrings.infix_append_right hbody _) _

/-- A host that carries out every command but those whose input names the endpoint. -/
noncomputable def hostRefusing (ep : Endpoint) : Host := hostAnswering fun _ c =>
  if GoStrings.contains c.stdin.toList ep.mark.toList then .error ⟨1, "pfctl: syntax error"⟩
  else .ok ""

theorem hostRefusing_quiet (ep : Endpoint) (issued : List (Command × Reply)) {c : Command}
    (h : c.stdin = "") : (hostRefusing ep).reply issued c = .ok "" := by
  refine if_neg ?_
  rw [h, GoStrings.contains, decide_eq_true_eq, String.toList_empty, List.infix_nil]
  simp [Endpoint.mark]

theorem hostRefusing_load {ep : Endpoint} {s : Session}
    (h : s.router.endpoints.lookup ep.podKey = some ep) :
    loadReply (hostRefusing ep) s = .error ⟨1, "pfctl: syntax error"⟩ := by
  have hmem : ep ∈ ((hostRefusing ep).enumerate s.issued s.router.endpoints).map Prod.snd :=
    List.mem_map.mpr ⟨(ep.podKey, ep),
      (mem_enumeration ((hostRefusing ep).enumerate_spec s.issued _)).mpr h, rfl⟩
  exact if_pos (decide_eq_true (mark_infix_ruleset _ _ _ hmem))

/-- `Attach` of any endpoint that leaves the refused one recorded fails at its load. -/
theorem hostRefusing_attach (ep : Endpoint) {other : Endpoint} (s : Session)
    (hvalid : other.validate = .ok ()) (hiface : other.interface ≠ "")
    (hstarted : s.router.started = true)
    (hkept : (s.router.putEndpoint other).endpoints.lookup ep.podKey = some ep) :
    ∃ s', (attach (hostRefusing ep) other).run s = .error
        (.attach other (.loadAnchor s.router.cfg.anchor ⟨1, "pfctl: syntax error"⟩)) s' ∧
      s'.router = s.router.putEndpoint other := by
  have hguard (issued : List (Command × Reply)) (iface : String) :
      (hostRefusing ep).guardFailure issued iface = none := by
    rw [Host.guardFailure, hostRefusing_quiet ep issued rfl]
  have hplaced : other.placed (hostRefusing ep) s = other := by
    simp [Endpoint.placed, Host.interfaceFor, hiface]
  rw [attach_run]
  rcases prepareAttach_cases (hostRefusing ep) other s with ⟨e, s₁, -, -, hdown⟩ |
    ⟨s₁, hrun, hrouter, -⟩
  · simp [Endpoint.TurnedDown, hvalid, hstarted, hguard] at hdown
  · rw [hplaced] at hrun
    have hload : loadReply (hostRefusing ep) (s₁.record (Router.putEndpoint other)) = _ :=
      hostRefusing_load (by rwa [Session.record, hrouter])
    simp only [hrun, reload_run, hload]
    simp [Session.record, Session.afterLoad, hrouter, Router.putEndpoint]

open RetryWitness in
theorem hostRefusing_start : ∃ s, (start (hostRefusing endpoint)).run ⟨Router.new cfg, []⟩ =
    .ok () s ∧ s.router = ⟨cfg, true, ∅, ∅⟩ := by
  have hprepare : ∃ issued, (prepareStart (hostRefusing endpoint)).run ⟨Router.new cfg, []⟩ =
      .ok () ⟨Router.new cfg, issued⟩ := ⟨_, rfl⟩
  obtain ⟨issued, hprepare⟩ := hprepare
  have hload : loadReply (hostRefusing endpoint) ⟨⟨cfg, true, ∅, ∅⟩, issued⟩ = .ok "" := by
    refine if_neg ?_
    have hempty {V : Type} : (hostRefusing endpoint).enumerate issued (∅ : Table V) = [] :=
      enumerates_empty.mp ((hostRefusing endpoint).enumerate_spec issued _)
    simp only [loadCommand, currentRules, hempty]
    decide
  have hrun : (start (hostRefusing endpoint)).run ⟨Router.new cfg, []⟩ =
      (loadAnchorLocked (hostRefusing endpoint)).run ⟨⟨cfg, true, ∅, ∅⟩, issued⟩ := by
    rw [start, EStateM.run_bind, hprepare]
    rfl
  rw [hrun, loadAnchorLocked_run, hload]
  exact ⟨_, rfl, rfl⟩

open RetryWitness SecondPodWitness in
/-- The host refuses the ruleset with the first Pod.  The second Pod, which it has nothing against,
fails at its load, and the one operation that returns nil is about a Service that is not known. -/
theorem refused_endpoint_blocks_second : ∃ s₀ s₁ s₂,
    (start (hostRefusing endpoint)).run ⟨Router.new cfg, []⟩ = .ok () s₀ ∧
      (attach (hostRefusing endpoint) endpoint).run s₀ = .error (.attach endpoint
        (.loadAnchor "macvz/pods" ⟨1, "pfctl: syntax error"⟩)) s₁ ∧
      (attach (hostRefusing endpoint) second).run s₁ = .error (.attach second
        (.loadAnchor "macvz/pods" ⟨1, "pfctl: syntax error"⟩)) s₂ ∧
      (Op.detachService "default/db").IsNoop s₂ := by
  obtain ⟨s₀, hstart, hs₀⟩ := hostRefusing_start
  obtain ⟨s₁, hfirst, hs₁⟩ := hostRefusing_attach endpoint s₀
    (by decide : endpoint.validate = .ok ()) (by decide) (by rw [hs₀]) (Finmap.lookup_insert _)
  obtain ⟨s₂, hsecond, hs₂⟩ := hostRefusing_attach endpoint s₁
    (by decide : second.validate = .ok ()) (by decide) (by rw [hs₁, hs₀]; rfl)
    (by rw [hs₁, hs₀]; decide)
  rw [hs₀] at hfirst
  rw [hs₁, hs₀] at hsecond
  refine ⟨s₀, s₁, s₂, hstart, hfirst, hsecond, ?_⟩
  have hkeeps : Keeps endpoint s₁ := by
    rw [hs₀] at hs₁
    exact ⟨by rw [hs₁]; rfl, by rw [hs₁]; exact Finmap.lookup_insert _⟩
  have hrun : Run (opStep (hostRefusing endpoint)) (fun _ op => op.Spares endpoint.podKey) s₁
      [.attach second] s₂ :=
    Run.cons (by simp [Op.Spares, endpoint, second])
      (congrArg (fun r => some (final r)) hsecond) .nil
  have hok : ((Op.detachService "default/db").perform (hostRefusing endpoint)).run s₂ =
      .ok () s₂ := by
    rw [Op.perform, detachService_run, hs₂, hs₁, hs₀]
    exact if_neg Finmap.notMem_empty
  exact refused_endpoint_blocks_others (fun _ h => ⟨_, hostRefusing_load h⟩) hkeeps hrun trivial hok

end Podnet

end MacVz
