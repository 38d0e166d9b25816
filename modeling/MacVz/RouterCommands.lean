/-
Every command of the Pod network router passes the helper.  Router and policy
are derived from one configuration, and the rules of Services come from the
controller with the filter of the same configuration; so in every history of
calls what the unprivileged side issues is what the privileged side permits.
-/
import MacVz.AnchorText
import MacVz.Interleaving
import MacVz.PolicyDerivation
import MacVz.ServiceRoutes
import MacVz.StatefulFrame

namespace MacVz

variable {iface : String}

namespace Podnet

open GoStrings Privhelper StatefulFrame

variable {p : Policy} {cfg : Config} {host : Host} {s : Session} {ep : Endpoint} {V : Type}
  {table : Table V} {key key' : String} {value : V}

/-- The router is configured with the interfaces and the anchor of the policy. -/
structure ConfigFits (p : Policy) (cfg : Config) : Prop extends InterfacesFit p cfg where
  anchor : cfg.anchor = p.anchor
  anchor_ne : p.anchor ≠ ""

/-- What a session keeps: everything that is recorded lies within the networks
of the policy, and every command so far was permitted. -/
structure SessionFits (p : Policy) (cfg : Config) (s : Session) : Prop where
  cfg_eq : s.router.cfg = cfg
  endpoints : ∀ key ep, s.router.endpoints.lookup key = some ep → EndpointFits p ep
  services : ∀ key rules, s.router.services.lookup key = some rules → ∀ r ∈ rules, RuleFits p r
  issued : ∀ entry ∈ s.issued, p.validate entry.1 = .ok ()

/-- The interface the host routes a micro-VM through is one of the policy's. -/
def RoutesFit (p : Policy) (host : Host) : Prop :=
  ∀ issued vmIP out, host.reply issued ⟨"route", ["-n", "get", vmIP], ""⟩ = .ok out →
    parseRouteInterface out = "" ∨ p.OnVMNet (parseRouteInterface out)

theorem runCommand_maintains {c : Command} (hc : p.validate c = .ok ()) :
    Maintains (SessionFits p cfg) (fun reply => ∃ issued, reply = host.reply issued c)
      (runCommand host c) := by
  intro s hs
  refine ⟨⟨hs.cfg_eq, hs.endpoints, hs.services, ?_⟩, ?_⟩
  · intro entry hentry
    rcases List.mem_cons.mp hentry with rfl | hold
    · exact hc
    · exact hs.issued entry hold
  · intro reply s' hrun
    cases hrun
    exact ⟨s.issued, rfl⟩

theorem runTolerating_maintains {c : Command} (hc : p.validate c = .ok ()) (benign : List String) :
    Maintains (SessionFits p cfg) (fun _ => True) (runTolerating host c benign) := by
  refine (runCommand_maintains hc).bind ?_
  intro reply _
  cases reply with
  | ok out => exact .pure trivial
  | error e => exact .pure trivial

theorem getRouter_maintains : Maintains (SessionFits p cfg) (fun rt => rt.cfg = cfg) getRouter :=
  Maintains.get.bind fun _ hs => .pure hs.cfg_eq

theorem modifyRouter_maintains {f : Router → Router}
    (hf : ∀ s, SessionFits p cfg s → SessionFits p cfg { s with router := f s.router }) :
    Maintains (SessionFits p cfg) (fun _ => True) (modifyRouter f) :=
  fun s hs => ⟨hf s hs, fun _ _ _ => trivial⟩

theorem require_maintains (condition : Bool) (failure : Error) :
    Maintains (SessionFits p cfg) (fun _ => True) (require condition failure) := by
  cases condition with
  | true => exact .pure trivial
  | false => exact .throw failure

theorem removeVMNetDefaultRouteOnInterfaceLocked_maintains (hiface : p.OnVMNet iface) :
    Maintains (SessionFits p cfg) (fun _ => True)
      (removeVMNetDefaultRouteOnInterfaceLocked host iface) := by
  refine (runTolerating_maintains (Policy.Permitted.defaultRoute hiface).accepted _).bind ?_
  intro failure _
  cases failure with
  | none => exact .pure trivial
  | some e => exact .throw _

theorem removeVMNetDefaultRouteLocked_maintains (hcfg : ConfigFits p cfg) :
    Maintains (SessionFits p cfg) (fun _ => True) (removeVMNetDefaultRouteLocked host) := by
  refine getRouter_maintains.bind ?_
  rintro rt rfl
  exact removeVMNetDefaultRouteOnInterfaceLocked_maintains hcfg.onVMNet

theorem SessionFits.load_accepted (h : SessionFits p cfg s) (hcfg : ConfigFits p cfg) :
    p.validate (loadCommand s.router.cfg.anchor (currentRules host s)) = .ok () := by
  have hrules : p.Ruleset (currentRules host s) := by
    apply ruleset_linted host.sortRules_perm
    · rw [h.cfg_eq]
      exact hcfg.toInterfacesFit
    · intro ep hep
      obtain ⟨entry, hentry, rfl⟩ := List.mem_map.mp hep
      exact h.endpoints _ _ ((mem_enumeration (host.enumerate_spec _ _)).mp hentry)
    · intro service hservice
      exact h.services _ _ ((mem_enumeration (host.enumerate_spec _ _)).mp hservice)
  rw [h.cfg_eq, hcfg.anchor]
  exact (Policy.Permitted.load hcfg.anchor_ne hcfg.onVMNet.1 hrules).accepted

theorem loadAnchorLocked_maintains (hcfg : ConfigFits p cfg) :
    Maintains (SessionFits p cfg) (fun _ => True) (loadAnchorLocked host) := by
  refine Maintains.get.bind ?_
  intro s hs
  refine (runCommand_maintains (hs.load_accepted hcfg)).bind ?_
  intro reply _
  cases reply with
  | ok out => exact .pure trivial
  | error e => exact .throw _

theorem reload_maintains (hcfg : ConfigFits p cfg) {change : Router → Router}
    (hchange : ∀ s, SessionFits p cfg s → SessionFits p cfg { s with router := change s.router })
    (wrap : Error → Error) :
    Maintains (SessionFits p cfg) (fun _ => True) (reload host change wrap) :=
  (modifyRouter_maintains hchange).bind fun _ _ => (loadAnchorLocked_maintains hcfg).adaptExcept

theorem lookup_insert_cases {value' : V} (h : (table.insert key value).lookup key' = some value') :
    value' = value ∨ table.lookup key' = some value' := by
  by_cases hkey : key' = key
  · subst hkey
    rw [Finmap.lookup_insert] at h
    exact Or.inl (Option.some.inj h).symm
  · rw [Finmap.lookup_insert_of_ne _ hkey] at h
    exact Or.inr h

theorem lookup_erase_some (h : (table.erase key).lookup key' = some value) :
    table.lookup key' = some value := by
  by_cases hkey : key' = key
  · subst hkey
    rw [Finmap.lookup_erase] at h
    cases h
  · rwa [Finmap.lookup_erase_ne hkey] at h

theorem SessionFits.putEndpoint (h : SessionFits p cfg s) (hep : EndpointFits p ep) :
    SessionFits p cfg { s with router := s.router.putEndpoint ep } where
  cfg_eq := h.cfg_eq
  endpoints := by
    intro key ep' hlookup
    rcases lookup_insert_cases hlookup with rfl | hold
    · exact hep
    · exact h.endpoints key ep' hold
  services := h.services
  issued := h.issued

theorem SessionFits.dropEndpoint (h : SessionFits p cfg s) (podKey : String) :
    SessionFits p cfg { s with router := s.router.dropEndpoint podKey } where
  cfg_eq := h.cfg_eq
  endpoints := fun key ep hlookup => h.endpoints key ep (lookup_erase_some hlookup)
  services := h.services
  issued := h.issued

theorem SessionFits.dropService (h : SessionFits p cfg s) (key : String) :
    SessionFits p cfg { s with router := s.router.dropService key } where
  cfg_eq := h.cfg_eq
  endpoints := h.endpoints
  services := fun key rules hlookup => h.services key rules (lookup_erase_some hlookup)
  issued := h.issued

theorem SessionFits.putService (h : SessionFits p cfg s) (key : String) {kept : List ServiceRule}
    (hkept : ∀ r ∈ kept, RuleFits p r) :
    SessionFits p cfg { s with router := s.router.putService key kept } where
  cfg_eq := h.cfg_eq
  endpoints := h.endpoints
  services := by
    intro key' rules hlookup
    simp only [Router.putService] at hlookup
    split at hlookup
    · exact h.services key' rules (lookup_erase_some hlookup)
    · rcases lookup_insert_cases hlookup with rfl | hold
      · exact hkept
      · exact h.services key' rules hold
  issued := h.issued

theorem enableForwarding_maintains (hcfg : ConfigFits p cfg) (cfg' : Config) :
    Maintains (SessionFits p cfg) (fun _ => True) (enableForwarding host cfg') := by
  have haccepted :=
    (Policy.Permitted.forwarding (p := p) hcfg.onVMNet.1 (Or.inl rfl)).accepted
  unfold enableForwarding
  split
  · refine (runCommand_maintains haccepted).bind ?_
    intro reply _
    cases reply with
    | ok out => exact .pure trivial
    | error e => exact .throw _
  · exact .pure trivial

theorem enablePF_maintains : Maintains (SessionFits p cfg) (fun _ => True) (enablePF host) := by
  refine (runTolerating_maintains (Policy.Permitted.enable (p := p)).accepted _).bind ?_
  intro failure _
  cases failure with
  | none => exact .pure trivial
  | some e => exact .throw _

theorem start_maintains (hcfg : ConfigFits p cfg) :
    Maintains (SessionFits p cfg) (fun _ => True) (start host) := by
  have hprepare : Maintains (SessionFits p cfg) (fun _ => True) (prepareStart host) := by
    refine getRouter_maintains.bind fun rt _ => ?_
    refine (require_maintains _ _).bind fun _ _ => ?_
    refine (enableForwarding_maintains hcfg _).bind fun _ _ => ?_
    refine enablePF_maintains.bind fun _ _ => ?_
    exact removeVMNetDefaultRouteLocked_maintains hcfg
  refine hprepare.bind fun _ _ => ?_
  refine (modifyRouter_maintains ?_).bind fun _ _ => loadAnchorLocked_maintains hcfg
  exact fun s hs => ⟨hs.cfg_eq, hs.endpoints, hs.services, hs.issued⟩

/-- Choosing an interface issues accepted commands and finds one on the network. -/
theorem chooseInterface_maintains (hcfg : ConfigFits p cfg) (hroutes : RoutesFit p host)
    (hep : EndpointFits p ep) :
    Maintains (SessionFits p cfg) p.OnVMNet (chooseInterface host cfg ep) := by
  unfold chooseInterface
  split
  · rename_i hown
    exact .pure (hep.interface.resolve_left hown)
  · have hresolve : Maintains (SessionFits p cfg)
        (fun resolved => ∀ iface, resolved = .ok iface → iface = "" ∨ p.OnVMNet iface)
        (resolveVMNetInterface host ep.vmIP) := by
      refine (runCommand_maintains (Policy.Permitted.lookup hep.vmIP).accepted).bind ?_
      rintro reply ⟨issued, hreply⟩
      cases reply with
      | ok out =>
        refine .pure ?_
        rintro iface ⟨⟩
        exact hroutes issued ep.vmIP out hreply.symm
      | error e => exact .pure fun iface h => by cases h
    refine hresolve.bind ?_
    intro resolved hresolved
    cases resolved with
    | ok iface =>
      refine .pure ?_
      split
      · exact hcfg.onVMNet
      · rename_i hne
        exact (hresolved iface rfl).resolve_left hne
    | error e => exact .pure hcfg.onVMNet

theorem checked_maintains (result : Except Error Unit) :
    Maintains (SessionFits p cfg) (fun _ => True) (checked result) := by
  cases result with
  | ok => exact .pure trivial
  | error e => exact .throw e

theorem attach_maintains (hcfg : ConfigFits p cfg) (hroutes : RoutesFit p host)
    (hep : EndpointFits p ep) : Maintains (SessionFits p cfg) (fun _ => True) (attach host ep) := by
  have hprepare : Maintains (SessionFits p cfg) (EndpointFits p) (prepareAttach host ep) := by
    refine (checked_maintains _).bind fun _ _ => ?_
    refine getRouter_maintains.bind ?_
    rintro rt rfl
    refine (require_maintains _ _).bind fun _ _ => ?_
    refine (removeVMNetDefaultRouteLocked_maintains hcfg).adaptExcept.bind fun _ _ => ?_
    refine (chooseInterface_maintains hcfg hroutes hep).bind fun iface hiface => ?_
    refine (removeVMNetDefaultRouteOnInterfaceLocked_maintains hiface).adaptExcept.bind
      fun _ _ => .pure ?_
    exact ⟨hep.podKey, hep.vmIP, hep.podIP, Or.inr hiface⟩
  refine hprepare.bind fun ep' hep' => ?_
  exact reload_maintains hcfg (fun s hs => hs.putEndpoint hep') _

theorem detach_maintains (hcfg : ConfigFits p cfg) (podKey : String) :
    Maintains (SessionFits p cfg) (fun _ => True) (detach host podKey) := by
  refine getRouter_maintains.bind fun rt _ => ?_
  split
  · split
    · exact reload_maintains hcfg (fun s hs => hs.dropEndpoint podKey) _
    · exact modifyRouter_maintains fun s hs => hs.dropEndpoint podKey
  · exact .pure trivial

/-- Every command of `AttachService` is accepted. -/
theorem attachService_maintains (hcfg : ConfigFits p cfg) (key : String)
    {rules : List ServiceRule} (hkey : ∀ r ∈ rules, '\n' ∉ r.serviceKey.toList)
    (hinside : ∀ r ∈ rules, ∀ ip ∈ r.backends, Inside ip p.podCIDRs ∨ Inside ip p.vmnetCIDRs) :
    Maintains (SessionFits p cfg) (fun _ => True) (attachService host key rules) := by
  have hprepare : Maintains (SessionFits p cfg) (fun kept => ∀ r ∈ kept, RuleFits p r)
      (prepareAttachService key rules) := by
    refine (require_maintains _ _).bind fun _ _ => ?_
    split
    · exact .throw _
    · rename_i kept hkept
      refine getRouter_maintains.bind fun rt _ => ?_
      refine (require_maintains _ _).bind fun _ _ => .pure ?_
      intro r hr
      obtain ⟨hmem, hvalid, hbackends⟩ := keepRules_spec hkept r hr
      exact ⟨hkey r hmem, hvalid, hbackends, hinside r hmem⟩
  refine hprepare.bind fun kept hkept => ?_
  exact reload_maintains hcfg (fun s hs => hs.putService key hkept) _

theorem detachService_maintains (hcfg : ConfigFits p cfg) (key : String) :
    Maintains (SessionFits p cfg) (fun _ => True) (detachService host key) := by
  refine getRouter_maintains.bind fun rt _ => ?_
  split
  · split
    · exact reload_maintains hcfg (fun s hs => hs.dropService key) _
    · exact modifyRouter_maintains fun s hs => hs.dropService key
  · exact .pure trivial

/-- Every command of `Stop` is accepted. -/
theorem stop_maintains (hcfg : ConfigFits p cfg) :
    Maintains (SessionFits p cfg) (fun _ => True) (stop host) := by
  refine getRouter_maintains.bind ?_
  rintro rt hrt
  have hflush : p.validate ⟨"pfctl", ["-a", rt.cfg.anchor, "-F", "all"], ""⟩ = .ok () := by
    rw [hrt, hcfg.anchor]
    exact (Policy.Permitted.flush hcfg.anchor_ne).accepted
  refine (modifyRouter_maintains ?_).bind fun _ _ => ?_
  · intro s hs
    refine ⟨hs.cfg_eq, ?_, ?_, hs.issued⟩
    · exact fun key ep hlookup => by cases hlookup
    · exact fun key rules hlookup => by cases hlookup
  · split
    · refine (runCommand_maintains hflush).bind fun _ _ => modifyRouter_maintains ?_
      exact fun s hs => ⟨hs.cfg_eq, hs.endpoints, hs.services, hs.issued⟩
    · exact .pure trivial

/-- A call of the router. -/
inductive Call where
  | start
  | op (operation : Op)
  | stop
deriving Repr, DecidableEq

def Call.perform (host : Host) : Call → RouterM Unit
  | .start => Podnet.start host
  | .op operation => operation.perform host
  | .stop => Podnet.stop host

/-- The router is locked during a call; a failed call is one as well. -/
def callStep (host : Host) (s : Session) (call : Call) : Option Session :=
  some (final ((call.perform host).run s))

end Podnet

open GoStrings Privhelper StatefulFrame Interleaving
open Podnet (Call Host Router Session callStep)

variable {parsers : Parsers} {loadKey : String → Except String Wireguard.Key} {c : Config}
  {p : Policy} {host : Host}

/-- The interfaces a micro-VM may be on: none yet, the configured one or a bridge. -/
def Config.Manages (c : Config) (iface : String) : Prop :=
  iface = "" ∨ iface = c.podNetwork.interface ∨ IsBridge iface

/-- The calls the node makes: endpoints of its own networks, and the rules the
service controller computes. -/
def Config.Makes (c : Config) : Call → Prop
  | .op (.attach ep) => '\n' ∉ ep.podKey.toList ∧ Within ep.podIP c.node.podCIDR ∧
      (∃ cidr ∈ c.vmnetRanges, Within ep.vmIP cidr) ∧ c.Manages ep.interface
  | .op (.attachService key rules) => ∃ (svc : Svcroute.Service) (slices : _),
      '\n' ∉ svc.namespace_.toList ∧ '\n' ∉ svc.name.toList ∧
        Svcroute.reconcile (Svcroute.withRoutableCIDRs c.routableServiceCIDRs) key (some svc)
          slices = some (.attachService key rules)
  | _ => True

theorem Config.Manages.fits (hpolicy : c.privilegedHelperPolicy loadKey = .ok p)
    (hvmnet : c.podNetwork.interface ≠ "") (h : c.Manages iface) :
    iface = "" ∨ p.OnVMNet iface := by
  rw [Policy.OnVMNet, Config.policy_vmnetInterface hpolicy]
  exact h.imp_right fun hiface => ⟨hvmnet, hiface⟩

/-- The router of an accepted configuration fits the policy derived from it. -/
theorem Config.Accepted.router_fits (haccepted : c.Accepted)
    (henabled : c.podNetwork.enabled = true) (hmesh : c.mesh.enabled = true ∨ c.mesh.interface = "")
    (hblank : ∀ ch ∈ c.podNetwork.interface.toList, isSpace ch = false)
    (hmeshBlank : ∀ ch ∈ c.mesh.interface.toList, isSpace ch = false)
    (hpolicy : c.privilegedHelperPolicy loadKey = .ok p) :
    Podnet.ConfigFits p (Router.new c.podNetworkRouterConfig).cfg where
  interface := (Config.policy_vmnetInterface hpolicy).symm
  isWord := ⟨haccepted.podNetwork_interface henabled, hblank⟩
  mesh := by
    by_cases hempty : c.mesh.interface = ""
    · exact Or.inl hempty
    · refine Or.inr ⟨?_, hempty, hmeshBlank⟩
      rw [Config.policy_meshInterface hpolicy, hmesh.resolve_right hempty]
      rfl
  anchor := by
    rw [Config.policy_anchor hpolicy]
    by_cases hempty : c.podNetwork.anchor = "" <;>
      simp [Router.new, Config.podNetworkRouterConfig, hempty]
  anchor_ne := by
    rw [Config.policy_anchor hpolicy]
    split
    · assumption
    · decide

/-- A call the configuration makes issues accepted commands only. -/
theorem Config.Makes.preserves (haccepted : c.Accepted) (henabled : c.podNetwork.enabled = true)
    (hsocket : c.privilegedHelperSocket ≠ "") (hpolicy : c.privilegedHelperPolicy loadKey = .ok p)
    {cfg : Podnet.Config} (hcfg : Podnet.ConfigFits p cfg) (hroutes : Podnet.RoutesFit p host)
    {call : Call} (h : c.Makes call) :
    Maintains (Podnet.SessionFits p cfg) (fun _ => True) (call.perform host) := by
  have hvmnet := haccepted.podNetwork_interface henabled
  have hpodCIDR : c.node.podCIDR ≠ "" := fun hempty =>
    haccepted.helper ⟨hsocket, henabled, hempty⟩
  rcases call with _ | op | _
  · exact Podnet.start_maintains hcfg
  rotate_left
  · exact Podnet.stop_maintains hcfg
  cases op with
  | detach podKey => exact Podnet.detach_maintains hcfg podKey
  | detachService key => exact Podnet.detachService_maintains hcfg key
  | attach ep =>
    obtain ⟨hkey, hpod, hvm, hiface⟩ := h
    refine Podnet.attach_maintains hcfg hroutes ⟨hkey, ?_, ?_, hiface.fits hpolicy hvmnet⟩
    · exact (Config.inside_vmnetCIDRs hpolicy).mpr ⟨henabled, hvm⟩
    · exact (Config.inside_podCIDRs hpolicy).mpr (Or.inl ⟨hpodCIDR, hpod⟩)
  | attachService key rules =>
    obtain ⟨svc, slices, hns, hname, hrules⟩ := h
    -- the node's own Pod network makes a filter, so no backend is unchecked
    have hown : c.node.podCIDR ∈ c.routableServiceCIDRs := by
      simp [Config.routableServiceCIDRs, hpodCIDR]
    obtain ⟨routable, hroutable⟩ := Svcroute.withRoutableCIDRs_isSome hown
      (haccepted.podCIDR.resolve_left hpodCIDR)
    rw [hroutable] at hrules
    obtain ⟨svc', hsvc, hfits⟩ := Svcroute.reconcile_attaches hrules
    cases hsvc
    apply Podnet.attachService_maintains hcfg
    · intro r hr
      rw [(hfits r hr).1]
      simpa [Svcroute.serviceKey] using ⟨hns, hname⟩
    · intro r hr ip hip
      rw [Config.redirect_permitted_iff hpolicy, ← Config.routableServiceCIDRs_eq henabled]
      exact (Svcroute.withRoutableCIDRs_spec hroutable).mp ((hfits r hr).2 ip hip)

/-- In every history of the router's calls, whatever the host answers, every
command that was issued is one the policy of the same configuration permits. -/
theorem router_commands_accepted (hvalid : c.validate parsers = .ok ())
    (henabled : c.podNetwork.enabled = true) (hsocket : c.privilegedHelperSocket ≠ "")
    (hmesh : c.mesh.enabled = true ∨ c.mesh.interface = "")
    (hblank : ∀ ch ∈ c.podNetwork.interface.toList, isSpace ch = false)
    (hmeshBlank : ∀ ch ∈ c.mesh.interface.toList, isSpace ch = false)
    (hpolicy : c.privilegedHelperPolicy loadKey = .ok p)
    (hroutes : ∀ issued vmIP out, host.reply issued ⟨"route", ["-n", "get", vmIP], ""⟩ = .ok out →
      c.Manages (Podnet.parseRouteInterface out)) {calls : List Call} {s : Session}
    (hrun : Run (callStep host) (fun _ => c.Makes) ⟨Router.new c.podNetworkRouterConfig, []⟩
      calls s) : ∀ entry ∈ s.issued, p.validate entry.1 = .ok () := by
  have haccepted := Config.accepted_of_validate hvalid
  have hcfg := haccepted.router_fits henabled hmesh hblank hmeshBlank hpolicy
  have hfits : Podnet.RoutesFit p host := fun issued vmIP out hreply =>
    (hroutes issued vmIP out hreply).fits hpolicy (haccepted.podNetwork_interface henabled)
  have hkept : Podnet.SessionFits p (Router.new c.podNetworkRouterConfig).cfg s := by
    refine hrun.invariant ?_ ?_
    · refine ⟨rfl, ?_, ?_, ?_⟩
      · exact fun key ep hlookup => by cases hlookup
      · exact fun key rules hlookup => by cases hlookup
      · exact fun entry hentry => by cases hentry
    · intro s s' call hs hmakes hstep
      cases hstep
      exact (Config.Makes.preserves haccepted henabled hsocket hpolicy hcfg hfits hmakes s hs).1
  exact hkept.issued

/-- A host on which every command succeeds and no route is known. -/
noncomputable def quietHost : Host := Podnet.hostAnswering fun _ _ => .ok ""

def webCalls : List Call :=
  [.start, .op (.attach ⟨"default/web", "10.244.1.2", "192.168.64.3", ""⟩),
    .op (.attachService "default/api"
      [⟨"default/api", "10.96.0.10", "tcp", 80, 8080, ["10.244.1.2"]⟩])]

theorem web_commands_accepted :
    ∃ s, Run (callStep quietHost) (fun _ => (worker true "bridge100" "").Makes)
        ⟨Router.new (worker true "bridge100" "").podNetworkRouterConfig, []⟩ webCalls s ∧
      s.issued.length = 9 ∧
      ∀ entry ∈ s.issued, (worker true "bridge100" "").localPolicy.validate entry.1 = .ok () := by
  have hpolicy : (worker true "bridge100" "").privilegedHelperPolicy unreadableKey =
    .ok (worker true "bridge100" "").localPolicy := rfl
  have hattach : (worker true "bridge100" "").Makes
      (.op (.attach ⟨"default/web", "10.244.1.2", "192.168.64.3", ""⟩)) :=
    ⟨by decide, ⟨_, rfl, _, _, rfl, by decide⟩,
      ⟨"192.168.64.0/22", List.mem_singleton_self _, _, rfl, _, _, rfl, by decide⟩,
      Or.inl rfl⟩
  have hservice : (worker true "bridge100" "").Makes (.op (.attachService "default/api"
      [⟨"default/api", "10.96.0.10", "tcp", 80, 8080, ["10.244.1.2"]⟩])) :=
    ⟨⟨"default", "api", "ClusterIP", "10.96.0.10", [⟨"", "TCP", 80⟩]⟩,
      some [⟨"IPv4", [⟨["10.244.1.2", "172.18.0.2"], none, none⟩], [⟨none, some 8080⟩]⟩],
      by decide, by decide, by decide⟩
  have hrun : Run (callStep quietHost) (fun _ => (worker true "bridge100" "").Makes)
      ⟨Router.new (worker true "bridge100" "").podNetworkRouterConfig, []⟩ webCalls _ :=
    .cons trivial rfl (.cons hattach rfl (.cons hservice rfl .nil))
  have hbridge : IsWord "bridge100" := by decide
  refine ⟨_, hrun, rfl, ?_⟩
  refine router_commands_accepted worker_accepted rfl (by decide) (Or.inr rfl) hbridge.2
    (List.forall_mem_nil _) hpolicy ?_ hrun
  intro issued vmIP out hreply
  cases hreply
  exact Or.inl rfl

end MacVz
