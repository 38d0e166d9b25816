/-
The service route controller: the redirect rules of a ClusterIP Service,
computed from its ready endpoints, filtered to the backends the node can reach,
and handed to the router.
-/
import MacVz.IPNet
import MacVz.PodnetRouter

namespace MacVz

namespace Svcroute

open Podnet (ServiceRule)

variable {routable : String → Bool} {r : ServiceRule} {cidrs : List String}
  {rules : List ServiceRule}

structure ServicePort where
  name : String
  protocol : String
  port : Int
deriving Repr, DecidableEq

/-- A Service, as far as its rules are computed from it. -/
structure Service where
  namespace_ : String
  name : String
  type : String
  clusterIP : String
  ports : List ServicePort
deriving Repr, DecidableEq

variable {svc : Service}

structure EndpointPort where
  name : Option String
  port : Option Int
deriving Repr, DecidableEq

/-- An endpoint with its `Ready` and `Terminating` conditions. -/
structure Endpoint where
  addresses : List String
  ready : Option Bool
  terminating : Option Bool
deriving Repr, DecidableEq

/-- `EndpointSlice`. -/
structure EndpointSlice where
  addressType : String
  endpoints : List Endpoint
  ports : List EndpointPort
deriving Repr, DecidableEq

variable {slices : List EndpointSlice}

def serviceKey (ns name : String) : String := ns ++ "/" ++ name

/-- No condition counts as ready; a terminating endpoint is never a target. -/
def Endpoint.isTarget (ep : Endpoint) : Bool := ep.ready ≠ some false && ep.terminating ≠ some true

/-- `readyEndpointIPs`. -/
def readyEndpointIPs (slices : List EndpointSlice) : List String :=
  (((slices.filter (·.addressType = "IPv4")).flatMap fun sl =>
    (sl.endpoints.filter Endpoint.isTarget).flatMap Endpoint.addresses).dedup).insertionSort (· ≤ ·)

/-- The target port of a name: the first slice that has one decides. -/
def targetByName (slices : List EndpointSlice) (name : String) : Option Int :=
  (slices.flatMap EndpointSlice.ports).findSome? fun p =>
    if p.name.getD "" = name then p.port else none

/-- The rule of one port. -/
def buildRule (svc : Service) (slices : List EndpointSlice) (sp : ServicePort) :
    Option ServiceRule :=
  let proto := String.ofList (GoStrings.toLower sp.protocol)
  if proto ≠ "tcp" ∧ proto ≠ "udp" then none
  else
    (targetByName slices sp.name).map fun target => {
      serviceKey := serviceKey svc.namespace_ svc.name
      clusterIP := svc.clusterIP
      protocol := proto
      port := sp.port
      targetPort := target
      backends := readyEndpointIPs slices }

/-- `BuildServiceRules`: headless, external and backend-less Services have none. -/
def buildServiceRules (svc : Service) (slices : List EndpointSlice) : List ServiceRule :=
  if svc.type = "ExternalName" then []
  else if svc.clusterIP = "" ∨ svc.clusterIP = "None" then []
  else if readyEndpointIPs slices = [] then []
  else svc.ports.filterMap (buildRule svc slices)

/-- `WithRoutableCIDRs`: no filter when no CIDR parses. -/
def withRoutableCIDRs (cidrs : List String) : Option (String → Bool) :=
  let nets := ((cidrs.filter (· ≠ "")).filterMap parseCIDR).map Prod.snd
  if nets = [] then none
  else
    some fun ip =>
      match GoNet.parseIP ip with
      | none => false
      | some parsed => nets.any fun net => net.contains parsed

/-- `filterRoutable`: a rule keeps its reachable backends, and goes without any. -/
def filterRoutable (routable : Option (String → Bool)) (rules : List ServiceRule) :
    List ServiceRule :=
  match routable with
  | none => rules
  | some routable =>
    rules.filterMap fun r =>
      let kept := r.backends.filter routable
      if kept = [] then none else some { r with backends := kept }

/-- `reconcile`: what the router is told about one Service, if its slices can be
listed. -/
def reconcile (routable : Option (String → Bool)) (key : String) (svc : Option Service)
    (slices : Option (List EndpointSlice)) : Option Podnet.Op :=
  match svc with
  | none => some (.detachService key)
  | some svc =>
    slices.map fun slices =>
      match filterRoutable routable (buildServiceRules svc slices) with
      | [] => .detachService key
      | rules => .attachService key rules

/-- An address is routable exactly where it lies in one of the ranges. -/
theorem withRoutableCIDRs_spec (h : withRoutableCIDRs cidrs = some routable) {ip : String} :
    routable ip = true ↔ ∃ cidr ∈ cidrs, Within ip cidr := by
  simp only [withRoutableCIDRs, Option.ite_none_left_eq_some] at h
  obtain ⟨-, h⟩ := h
  cases h
  cases haddr : GoNet.parseIP ip with
  | none => simp [haddr, Within]
  | some addr =>
    simp only [haddr, List.any_eq_true, List.mem_map, List.mem_filterMap, List.mem_filter]
    constructor
    · rintro ⟨net, ⟨⟨written, net'⟩, ⟨cidr, ⟨hcidr, -⟩, hparse⟩, rfl⟩, hcontains⟩
      exact ⟨cidr, hcidr, addr, haddr, written, net', hparse, hcontains⟩
    · rintro ⟨cidr, hcidr, addr', haddr', written, net, hparse, hcontains⟩
      cases haddr.symm.trans haddr'
      refine ⟨net, ⟨(written, net), ⟨cidr, ⟨hcidr, ?_⟩, hparse⟩, rfl⟩, hcontains⟩
      rw [decide_eq_true_iff]
      rintro rfl
      cases hparse

theorem withRoutableCIDRs_isSome {cidr : String} (hcidr : cidr ∈ cidrs)
    (hparse : (parseCIDR cidr).isSome = true) :
    ∃ routable, withRoutableCIDRs cidrs = some routable := by
  obtain ⟨parsed, hparsed⟩ := Option.isSome_iff_exists.mp hparse
  have hne : cidr ≠ "" := by
    rintro rfl
    cases hparsed
  have hnet : parsed.2 ∈ ((cidrs.filter (· ≠ "")).filterMap parseCIDR).map Prod.snd := by
    rw [List.mem_map]
    refine ⟨parsed, ?_, rfl⟩
    rw [List.mem_filterMap]
    exact ⟨cidr, by simp [hcidr, hne], hparsed⟩
  exact ⟨_, if_neg (List.ne_nil_of_mem hnet)⟩

/-- The rules that pass a filter: what is left of a rule with some backend that passes. -/
theorem mem_filterRoutable (h : r ∈ filterRoutable (some routable) rules) :
    ∃ r' ∈ rules, r = { r' with backends := r'.backends.filter routable } := by
  obtain ⟨r', hr', hr⟩ := List.mem_filterMap.mp h
  simp only [Option.ite_none_left_eq_some, Option.some.injEq] at hr
  exact ⟨r', hr', hr.2.symm⟩

theorem buildRule_eq_some {sp : ServicePort} (h : buildRule svc slices sp = some r) :
    r.serviceKey = serviceKey svc.namespace_ svc.name ∧ r.clusterIP = svc.clusterIP ∧
      targetByName slices sp.name = some r.targetPort ∧ r.backends = readyEndpointIPs slices := by
  simp only [buildRule, Option.ite_none_left_eq_some, Option.map_eq_some_iff] at h
  obtain ⟨-, target, htarget, rfl⟩ := h
  exact ⟨rfl, rfl, htarget, rfl⟩

theorem mem_buildServiceRules (h : r ∈ buildServiceRules svc slices) :
    ∃ sp ∈ svc.ports, buildRule svc slices sp = some r := by
  unfold buildServiceRules at h
  split at h
  · cases h
  · split at h
    · cases h
    · split at h
      · cases h
      · exact List.mem_filterMap.mp h

/-- What the controller attaches: rules under the name of the Service, with
backends that pass the filter. -/
theorem reconcile_attaches {key key' : String} {svc : Option Service}
    {slices : Option (List EndpointSlice)}
    (h : reconcile (some routable) key svc slices = some (.attachService key' rules)) :
    ∃ svc', svc = some svc' ∧ ∀ r ∈ rules,
      r.serviceKey = serviceKey svc'.namespace_ svc'.name ∧
        ∀ ip ∈ r.backends, routable ip = true := by
  cases svc with
  | none => cases h
  | some svc =>
    refine ⟨svc, rfl, ?_⟩
    obtain ⟨slices, -, hop⟩ := Option.map_eq_some_iff.mp h
    split at hop
    · cases hop
    · cases hop
      intro r hr
      obtain ⟨r', hr', rfl⟩ := mem_filterRoutable hr
      obtain ⟨sp, -, hrule⟩ := mem_buildServiceRules hr'
      exact ⟨(buildRule_eq_some hrule).1, fun ip hip => (List.mem_filter.mp hip).2⟩

end Svcroute

end MacVz
