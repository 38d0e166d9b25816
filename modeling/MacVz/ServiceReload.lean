/-
The service controller across reloads of the configuration.  Its filter of
reachable backends is built once, when the node starts; the policy of the
helper follows every reload.
-/
import MacVz.MeshValidation
import MacVz.ServiceRoutes

namespace MacVz

open Privhelper Svcroute
open Wireguard (Key)

/-- What decides about a redirect: the controller's filter and the helper's policy. -/
structure RedirectPath where
  routable : Option (String → Bool)
  policy : Policy

/-- A node that starts with the configuration and the policy derived from it. -/
def RedirectPath.start (c : Config) (p : Policy) : RedirectPath :=
  ⟨withRoutableCIDRs c.routableServiceCIDRs, p⟩

/-- One `SIGHUP`: the configuration that is on disk, and what its key file gives. -/
structure PolicyReload where
  config : Config
  loadKey : String → Except String Key

/-- `reloadPolicy`: a policy that cannot be derived leaves the current one. -/
def RedirectPath.reload (s : RedirectPath) (r : PolicyReload) : RedirectPath :=
  match r.config.privilegedHelperPolicy r.loadKey with
  | .ok p => { s with policy := p }
  | .error _ => s

/-- Every backend the filter keeps is a redirect target of the policy. -/
def RedirectPath.Permitted (s : RedirectPath) : Prop :=
  ∀ ip, s.routable.all (fun routable => routable ip) = true →
    ipInSet ip s.policy.podCIDRs = true ∨ ipInSet ip s.policy.vmnetCIDRs = true

def PolicyReload.KeyRead (r : PolicyReload) : Prop :=
  r.config.mesh.enabled = true → ∃ key, r.loadKey r.config.mesh.privateKeyFile = .ok key

/-- Every address the old configuration redirects to is one for the new. -/
def Config.Covers (new old : Config) : Prop :=
  ∀ ip, (∃ cidr ∈ old.redirectRanges, Within ip cidr) → ∃ cidr ∈ new.redirectRanges, Within ip cidr

variable {parsers : Parsers} {loadKey : String → Except String Key} {c : Config} {p : Policy}
  {s : RedirectPath} {r : PolicyReload}

@[simp]
theorem RedirectPath.reload_routable : (s.reload r).routable = s.routable := by
  unfold RedirectPath.reload
  split
  · rfl
  · rfl

/-- A valid configuration has a policy exactly where its key can be read. -/
theorem PolicyReload.exists_policy_iff (hvalid : r.config.validate parsers = .ok ()) :
    (∃ p, r.config.privilegedHelperPolicy r.loadKey = .ok p) ↔ r.KeyRead := by
  constructor
  · rintro ⟨p, hp⟩ hmesh
    obtain ⟨ifc, hifc, -⟩ := Config.privilegedHelperPolicy_enabled hmesh hp
    unfold Config.meshInterfaceConfig at hifc
    split at hifc
    · cases hifc
    · rename_i key hkey
      exact ⟨key, hkey⟩
  · intro hread
    cases hmesh : r.config.mesh.enabled with
    | false => exact ⟨_, by rw [Config.privilegedHelperPolicy, hmesh]; rfl⟩
    | true =>
      obtain ⟨key, hkey⟩ := hread hmesh
      have haccepted := (Config.accepted_of_validate hvalid).meshAccepted hmesh
      obtain ⟨peers, -, hifc⟩ := haccepted.exists_interface hkey
      exact ⟨_, Config.privilegedHelperPolicy_of_interface hmesh hifc⟩

/-- On a node with the Pod network enabled there is a filter, for the ranges of its
micro-VMs. -/
theorem Config.Accepted.exists_routable (h : c.Accepted) (henabled : c.podNetwork.enabled = true) :
    ∃ routable, withRoutableCIDRs c.routableServiceCIDRs = some routable := by
  have hchecks := h.podNetwork
  simp only [Config.validatePodNetwork, henabled, ↓reduceIte, Checks.then_eq_ok,
    Checks.demand_eq_ok, Checks.each_eq_ok] at hchecks
  have hranges : ∀ cidr ∈ c.vmnetRanges, (parseCIDR cidr).isSome = true := by
    unfold Config.vmnetRanges
    split
    · exact List.forall_mem_singleton.mpr (by decide)
    · exact hchecks.2
  have hne : c.vmnetRanges ≠ [] := by
    unfold Config.vmnetRanges
    split
    · exact List.cons_ne_nil _ _
    · assumption
  obtain ⟨cidr, hcidr⟩ := List.exists_mem_of_ne_nil _ hne
  refine withRoutableCIDRs_isSome ?_ (hranges cidr hcidr)
  rw [Config.routableServiceCIDRs_eq henabled, Config.redirectRanges, if_pos henabled]
  exact List.mem_append_left _ (List.mem_append_right _ hcidr)

/-- With the filter of one configuration and the policy of another, the filter keeps
to the policy exactly when the second configuration covers the first. -/
theorem RedirectPath.permitted_iff (haccepted : c.Accepted) (henabled : c.podNetwork.enabled = true)
    (hroutable : s.routable = withRoutableCIDRs c.routableServiceCIDRs) {new : Config}
    (hpolicy : new.privilegedHelperPolicy loadKey = .ok s.policy) : s.Permitted ↔ new.Covers c := by
  obtain ⟨routable, hfilter⟩ := haccepted.exists_routable henabled
  rw [hfilter] at hroutable
  simp only [RedirectPath.Permitted, hroutable, Option.all_some, withRoutableCIDRs_spec hfilter,
    ipInSet_eq_true, Config.redirect_permitted_iff hpolicy, Config.routableServiceCIDRs_eq henabled]
  rfl

/-- One reload keeps the backends permitted exactly when its configuration, if it
takes effect, covers that of the start. -/
theorem RedirectPath.reload_permitted_iff (haccepted : c.Accepted)
    (henabled : c.podNetwork.enabled = true)
    (hroutable : s.routable = withRoutableCIDRs c.routableServiceCIDRs) (hs : s.Permitted)
    (hvalid : r.config.validate parsers = .ok ()) :
    (s.reload r).Permitted ↔ (r.KeyRead → r.config.Covers c) := by
  rw [← PolicyReload.exists_policy_iff hvalid]
  cases hpolicy : r.config.privilegedHelperPolicy r.loadKey with
  | error e =>
    have hsame : s.reload r = s := by rw [RedirectPath.reload, hpolicy]
    simp [hsame, hs]
  | ok p =>
    have hnew : s.reload r = { s with policy := p } := by rw [RedirectPath.reload, hpolicy]
    rw [hnew, RedirectPath.permitted_iff (s := { s with policy := p }) haccepted henabled
      hroutable hpolicy]
    exact ⟨fun hcovers _ => hcovers, fun hcovers => hcovers ⟨p, rfl⟩⟩

/-- The backends the controller keeps are permitted from the start through all
reloads exactly when every configuration that takes effect covers the one the node
was started with. -/
theorem backends_permitted_iff (hvalid : c.validate parsers = .ok ())
    (henabled : c.podNetwork.enabled = true) (hpolicy : c.privilegedHelperPolicy loadKey = .ok p)
    {reloads : List PolicyReload} (hreloads : ∀ r ∈ reloads, r.config.validate parsers = .ok ()) :
    (∀ sofar, sofar <+: reloads →
        (sofar.foldl RedirectPath.reload (RedirectPath.start c p)).Permitted) ↔
      ∀ r ∈ reloads, r.KeyRead → r.config.Covers c := by
  have haccepted := Config.accepted_of_validate hvalid
  suffices hfrom : ∀ s : RedirectPath,
      s.routable = withRoutableCIDRs c.routableServiceCIDRs → s.Permitted →
        ((∀ sofar, sofar <+: reloads → (sofar.foldl RedirectPath.reload s).Permitted) ↔
          ∀ r ∈ reloads, r.KeyRead → r.config.Covers c) by
    refine hfrom (RedirectPath.start c p) rfl ?_
    exact (RedirectPath.permitted_iff haccepted henabled rfl hpolicy).mpr fun _ h => h
  induction reloads with
  | nil =>
    intro s _ hs
    simp [hs]
  | cons r rest ih =>
    intro s hroutable hs
    obtain ⟨hr, hrest⟩ := List.forall_mem_cons.mp hreloads
    have hstep := RedirectPath.reload_permitted_iff haccepted henabled hroutable hs hr
    have hlater := ih hrest (s.reload r) (RedirectPath.reload_routable.trans hroutable)
    rw [List.forall_mem_cons, ← hstep]
    constructor
    · intro hall
      have hfirst : (s.reload r).Permitted := hall [r] ⟨rest, rfl⟩
      refine ⟨hfirst, (hlater hfirst).mp fun sofar hsofar => ?_⟩
      exact hall (r :: sofar) ((List.cons_prefix_cons).mpr ⟨rfl, hsofar⟩)
    · rintro ⟨hfirst, hcovers⟩ sofar hsofar
      rcases List.prefix_cons_iff.mp hsofar with rfl | ⟨later, rfl, hprefix⟩
      · exact hs
      · exact (hlater hfirst).mpr hcovers later hprefix

/-- A node is added by a reload. -/
theorem added_node_backends_permitted :
    ((RedirectPath.start (meshWorker []) (meshWorkerPolicy [] [])).reload
      ⟨meshWorker [secondNode], nodeKeyFile⟩).Permitted := by
  have hpolicy : (meshWorker []).privilegedHelperPolicy nodeKeyFile =
      .ok (meshWorkerPolicy [] []) :=
    Config.privilegedHelperPolicy_of_interface rfl (meshWorker_interface_of rfl)
  have hcovers : (meshWorker [secondNode]).Covers (meshWorker []) := by
    rintro ip ⟨cidr, hcidr, hwithin⟩
    exact ⟨cidr, (List.mem_append_left _ hcidr : cidr ∈ _ ++ ["10.244.2.0/24"]), hwithin⟩
  have hreloads : ∀ r ∈ [PolicyReload.mk (meshWorker [secondNode]) nodeKeyFile],
      r.config.validate knownParsers = .ok () :=
    List.forall_mem_singleton.mpr meshWorker_accepted
  refine (backends_permitted_iff meshWorker_alone_accepted rfl hpolicy hreloads).mpr ?_ _
    List.prefix_rfl
  exact List.forall_mem_singleton.mpr fun _ => hcovers

/-- The second node is removed by a reload: its Pods stay backends for the
controller, and the helper refuses them. -/
theorem removed_node_backend_refused : (meshWorker [secondNode]).validate knownParsers = .ok () ∧
      (meshWorker []).validate knownParsers = .ok () ∧
      (meshWorker [secondNode]).privilegedHelperPolicy nodeKeyFile =
        .ok (meshWorkerPolicy [secondNode] [secondPeer]) ∧
      ¬ ((RedirectPath.start (meshWorker [secondNode])
        (meshWorkerPolicy [secondNode] [secondPeer])).reload
          ⟨meshWorker [], nodeKeyFile⟩).Permitted := by
  refine ⟨meshWorker_accepted, meshWorker_alone_accepted,
    Config.privilegedHelperPolicy_of_interface rfl meshWorker_interface, ?_⟩
  intro hpermitted
  have hbackend := hpermitted "10.244.2.9" (by decide)
  revert hbackend
  decide

end MacVz
