/-
What the rules of a Service redirect to.  Backends are pooled over its slices
and the target port of a name is taken from the first slice that has one, so a
backend and its port need not come from the same slice; the family of the
backends is filtered, that of the ClusterIP is not.
-/
import MacVz.ServiceRoutes

namespace MacVz

namespace Svcroute

open Podnet (ServiceRule keepRules rdrLine)

variable {name : String} {routable : String → Bool} {r : ServiceRule} {rules : List ServiceRule}

/-- An IPv4 slice with an endpoint at the address that is ready and not terminating. -/
def EndpointSlice.Serves (sl : EndpointSlice) (ip : String) : Prop :=
  sl.addressType = "IPv4" ∧ ∃ ep ∈ sl.endpoints, ep.isTarget = true ∧ ip ∈ ep.addresses

/-- The slice advertises the port under the name; no name is the empty one. -/
def EndpointSlice.Advertises (sl : EndpointSlice) (name : String) (port : Int) : Prop :=
  ∃ p ∈ sl.ports, p.name.getD "" = name ∧ p.port = some port

/-- The address type of a text. -/
def addressFamily (ip : String) : Option String :=
  (GoNet.parseIP ip).map fun _ => if addrWidth ip.toList = 4 then "IPv4" else "IPv6"

/-- The addresses of a slice are of its type. -/
def EndpointSlice.Typed (sl : EndpointSlice) : Prop :=
  sl.addressType = "FQDN" ∨
    ∀ ep ∈ sl.endpoints, ∀ ip ∈ ep.addresses, addressFamily ip = some sl.addressType

variable {svc : Service} {slices : List EndpointSlice}

theorem mem_readyEndpointIPs {ip : String} :
    ip ∈ readyEndpointIPs slices ↔ ∃ sl ∈ slices, sl.Serves ip := by
  simp only [readyEndpointIPs, List.mem_insertionSort, List.mem_dedup, List.mem_flatMap,
    List.mem_filter, decide_eq_true_eq, EndpointSlice.Serves]
  constructor
  · rintro ⟨sl, ⟨hsl, htype⟩, ep, ⟨hep, htarget⟩, hip⟩
    exact ⟨sl, hsl, htype, ep, hep, htarget, hip⟩
  · rintro ⟨sl, hsl, htype, ep, hep, htarget, hip⟩
    exact ⟨sl, ⟨hsl, htype⟩, ep, ⟨hep, htarget⟩, hip⟩

theorem exists_advertises {port : Int} (h : targetByName slices name = some port) :
    ∃ sl ∈ slices, sl.Advertises name port := by
  obtain ⟨p, hp, hport⟩ := List.exists_of_findSome?_eq_some h
  obtain ⟨sl, hsl, hmem⟩ := List.mem_flatMap.mp hp
  rw [Option.ite_none_right_eq_some] at hport
  exact ⟨sl, hsl, p, hmem, hport⟩

theorem targetByName_isSome :
    (targetByName slices name).isSome = true ↔ ∃ sl ∈ slices, ∃ port, sl.Advertises name port := by
  constructor
  · intro h
    obtain ⟨port, hport⟩ := Option.isSome_iff_exists.mp h
    obtain ⟨sl, hsl, hadvertises⟩ := exists_advertises hport
    exact ⟨sl, hsl, port, hadvertises⟩
  · rintro ⟨sl, hsl, port, p, hp, hname, hport⟩
    rw [targetByName, List.findSome?_isSome_iff]
    refine ⟨p, List.mem_flatMap.mpr ⟨sl, hsl, hp⟩, ?_⟩
    rw [if_pos hname, hport]
    rfl

/-- A backend of a rule is ready in some IPv4 slice, and its port is the first one that
the slices advertise under the name of the Service's port.  One slice has both when
the slices agree on the ports of that name. -/
theorem rule_pairs_from_slices {r : ServiceRule} (hr : r ∈ buildServiceRules svc slices) :
    (∃ sp ∈ svc.ports, buildRule svc slices sp = some r) ∧
      ∀ sp ∈ svc.ports, buildRule svc slices sp = some r → ∀ ip ∈ r.backends,
        (∃ sl ∈ slices, sl.Serves ip) ∧ targetByName slices sp.name = some r.targetPort ∧
          (∃ sl ∈ slices, sl.Advertises sp.name r.targetPort) ∧
          ((∀ sl ∈ slices, ∀ sl' ∈ slices, ∀ port, sl.Advertises sp.name port →
              sl'.Advertises sp.name port) →
            ∃ sl ∈ slices, sl.Serves ip ∧ sl.Advertises sp.name r.targetPort) := by
  refine ⟨mem_buildServiceRules hr, fun sp _ hrule ip hip => ?_⟩
  obtain ⟨-, -, htarget, hbackends⟩ := buildRule_eq_some hrule
  rw [hbackends] at hip
  obtain ⟨sl, hsl, hserves⟩ := mem_readyEndpointIPs.mp hip
  obtain ⟨sl', hsl', hadvertises⟩ := exists_advertises htarget
  refine ⟨⟨sl, hsl, hserves⟩, htarget, ⟨sl', hsl', hadvertises⟩, fun hagree => ?_⟩
  exact ⟨sl, hsl, hserves, hagree sl' hsl' sl hsl _ hadvertises⟩

def webService (clusterIP : String) : Service :=
  ⟨"default", "web", "ClusterIP", clusterIP, [⟨"http", "TCP", 80⟩]⟩

def oneEndpoint (family ip : String) (port : Int) : EndpointSlice :=
  ⟨family, [⟨[ip], some true, none⟩], [⟨some "http", some port⟩]⟩

def webRule (clusterIP : String) (backends : List String) : ServiceRule :=
  ⟨"default/web", clusterIP, "tcp", 80, 8080, backends⟩

theorem agreeing_slices_serve_port :
    ∃ sl ∈ [oneEndpoint "IPv4" "10.244.1.2" 8080, oneEndpoint "IPv4" "10.244.2.3" 8080],
      sl.Serves "10.244.2.3" ∧ sl.Advertises "http" 8080 := by
  have hr : webRule "10.96.0.10" ["10.244.1.2", "10.244.2.3"] ∈
      buildServiceRules (webService "10.96.0.10")
        [oneEndpoint "IPv4" "10.244.1.2" 8080, oneEndpoint "IPv4" "10.244.2.3" 8080] := by
    decide
  refine ((rule_pairs_from_slices hr).2 ⟨"http", "TCP", 80⟩ (by decide) (by decide)
    "10.244.2.3" (by decide)).2.2.2 ?_
  simp [oneEndpoint, EndpointSlice.Advertises]

/-- During an update the new Pods give the name to another port: they are sent the
traffic on the port of the old ones, which no slice that has them advertises. -/
theorem disagreeing_slices_mix_ports : webRule "10.96.0.10" ["10.244.1.2", "10.244.2.3"] ∈
        buildServiceRules (webService "10.96.0.10")
          [oneEndpoint "IPv4" "10.244.1.2" 8080, oneEndpoint "IPv4" "10.244.2.3" 9090] ∧
      ¬ ∃ sl ∈ [oneEndpoint "IPv4" "10.244.1.2" 8080, oneEndpoint "IPv4" "10.244.2.3" 9090],
        sl.Serves "10.244.2.3" ∧ sl.Advertises "http" 8080 := by
  refine ⟨by decide, ?_⟩
  simp [oneEndpoint, EndpointSlice.Serves, EndpointSlice.Advertises]

theorem readyEndpointIPs_sorted (slices : List EndpointSlice) :
    (readyEndpointIPs slices).Pairwise (· < ·) := by
  have hle : (readyEndpointIPs slices).Pairwise (· ≤ ·) := List.pairwise_insertionSort _ _
  have hnodup : (readyEndpointIPs slices).Nodup :=
    (List.perm_insertionSort _ _).nodup_iff.mpr (List.nodup_dedup _)
  exact (hle.and hnodup).imp fun h => lt_of_le_of_ne h.1 h.2

theorem backends_of_mem_filterRoutable
    (h : r ∈ filterRoutable (some routable) (buildServiceRules svc slices)) :
    r.backends = (readyEndpointIPs slices).filter routable ∧ r.backends ≠ [] := by
  obtain ⟨r', hr', hr⟩ := List.mem_filterMap.mp h
  obtain ⟨sp, -, hrule⟩ := mem_buildServiceRules hr'
  simp only [Option.ite_none_left_eq_some, Option.some.injEq] at hr
  obtain ⟨hkept, rfl⟩ := hr
  rw [(buildRule_eq_some hrule).2.2.2] at hkept ⊢
  exact ⟨rfl, hkept⟩

/-- When a Service has rules: it is not headless or external, an address passes, and a port
of it has a target. -/
theorem filterRoutable_ne_nil_iff :
    filterRoutable (some routable) (buildServiceRules svc slices) ≠ [] ↔
      svc.type ≠ "ExternalName" ∧ ¬ (svc.clusterIP = "" ∨ svc.clusterIP = "None") ∧
        (readyEndpointIPs slices).filter routable ≠ [] ∧
        ∃ sp ∈ svc.ports, (buildRule svc slices sp).isSome = true := by
  constructor
  · intro h
    obtain ⟨r, hr⟩ := List.exists_mem_of_ne_nil _ h
    obtain ⟨hbackends, hne⟩ := backends_of_mem_filterRoutable hr
    obtain ⟨r', hr', -⟩ := mem_filterRoutable hr
    obtain ⟨sp, hsp, hrule⟩ := mem_buildServiceRules hr'
    rw [hbackends] at hne
    refine ⟨?_, ?_, hne, sp, hsp, by rw [hrule]; rfl⟩
    · intro htype
      rw [buildServiceRules, if_pos htype] at hr'
      cases hr'
    · intro hcluster
      rw [buildServiceRules, if_pos hcluster, ite_self] at hr'
      cases hr'
  · rintro ⟨htype, hcluster, hne, sp, hsp, hsome⟩
    obtain ⟨r, hrule⟩ := Option.isSome_iff_exists.mp hsome
    have hready : readyEndpointIPs slices ≠ [] := by
      intro hnil
      rw [hnil] at hne
      exact hne rfl
    have hr : r ∈ buildServiceRules svc slices := by
      rw [buildServiceRules, if_neg htype, if_neg hcluster, if_neg hready]
      exact List.mem_filterMap.mpr ⟨sp, hsp, hrule⟩
    have hkept : r.backends.filter routable ≠ [] := by
      rw [(buildRule_eq_some hrule).2.2.2]
      exact hne
    exact List.ne_nil_of_mem (List.mem_filterMap.mpr ⟨r, hr, if_neg hkept⟩)

theorem reconcile_eq_attach {routable : Option (String → Bool)} {key key' : String} :
    reconcile routable key (some svc) (some slices) = some (.attachService key' rules) ↔
      key' = key ∧ rules = filterRoutable routable (buildServiceRules svc slices) ∧ rules ≠ [] := by
  rw [reconcile, Option.map_some]
  cases hrules : filterRoutable routable (buildServiceRules svc slices) with
  | nil => simp
  | cons r rest =>
    constructor
    · intro h
      cases h
      exact ⟨rfl, rfl, List.cons_ne_nil r rest⟩
    · rintro ⟨rfl, rfl, -⟩
      rfl

/-- The same slice, but for the order and repetitions of its endpoints. -/
def EndpointSlice.Same (sl sl' : EndpointSlice) : Prop :=
  sl.addressType = sl'.addressType ∧ (∀ ep, ep ∈ sl.endpoints ↔ ep ∈ sl'.endpoints) ∧
    sl.ports = sl'.ports

/-- The same slices, but for order and repetitions of slices and endpoints. -/
def SameSlices (slices slices' : List EndpointSlice) : Prop :=
  (∀ sl ∈ slices, ∃ sl' ∈ slices', sl.Same sl') ∧ ∀ sl' ∈ slices', ∃ sl ∈ slices, sl.Same sl'

section

variable {slices' : List EndpointSlice}

/-- What some slice of one list does, some slice of the other does. -/
theorem SameSlices.exists_iff (h : SameSlices slices slices') {P : EndpointSlice → Prop}
    (hP : ∀ sl sl' : EndpointSlice, sl.Same sl' → (P sl ↔ P sl')) :
    (∃ sl ∈ slices, P sl) ↔ ∃ sl ∈ slices', P sl := by
  constructor
  · rintro ⟨sl, hsl, hp⟩
    obtain ⟨sl', hsl', hsame⟩ := h.1 sl hsl
    exact ⟨sl', hsl', (hP sl sl' hsame).mp hp⟩
  · rintro ⟨sl', hsl', hp⟩
    obtain ⟨sl, hsl, hsame⟩ := h.2 sl' hsl'
    exact ⟨sl, hsl, (hP sl sl' hsame).mpr hp⟩

theorem SameSlices.readyEndpointIPs_eq (h : SameSlices slices slices') :
    readyEndpointIPs slices = readyEndpointIPs slices' := by
  apply (readyEndpointIPs_sorted slices).eq_of_mem_iff (readyEndpointIPs_sorted slices')
  intro ip
  rw [mem_readyEndpointIPs, mem_readyEndpointIPs]
  apply h.exists_iff
  rintro sl sl' ⟨htype, hendpoints, -⟩
  simp only [EndpointSlice.Serves, htype, hendpoints]

theorem SameSlices.buildRule_isSome (h : SameSlices slices slices') (sp : ServicePort) :
    (buildRule svc slices sp).isSome = (buildRule svc slices' sp).isSome := by
  have htarget : (targetByName slices sp.name).isSome = (targetByName slices' sp.name).isSome := by
    rw [Bool.eq_iff_iff, targetByName_isSome, targetByName_isSome]
    apply h.exists_iff
    rintro sl sl' ⟨-, -, hports⟩
    simp only [EndpointSlice.Advertises, hports]
  dsimp only [buildRule]
  split
  · rfl
  · rw [Option.isSome_map, Option.isSome_map, htarget]

end

/-- Every rule that reaches the router has the ready addresses in the routable networks as
its backends, sorted, each once.  There is one, and the order of slices and endpoints and
their repetitions do not matter. -/
theorem attached_backends_exact {cidrs : List String} (hne : cidrs ≠ [])
    (hvalid : ∀ cidr ∈ cidrs, (parseCIDR cidr).isSome = true) {key key' : String}
    {rules : List ServiceRule}
    (h : reconcile (withRoutableCIDRs cidrs) key (some svc) (some slices) =
      some (.attachService key' rules)) :
    ∃ backends : List String, backends ≠ [] ∧ backends.Pairwise (· < ·) ∧
      (∀ ip, ip ∈ backends ↔ (∃ sl ∈ slices, sl.Serves ip) ∧ ∃ cidr ∈ cidrs, Within ip cidr) ∧
      (∀ r ∈ rules, r.backends = backends) ∧
      ∀ slices', SameSlices slices slices' → ∃ rules',
        reconcile (withRoutableCIDRs cidrs) key (some svc) (some slices') =
          some (.attachService key' rules') ∧ ∀ r ∈ rules', r.backends = backends := by
  obtain ⟨cidr, hcidr⟩ := List.exists_mem_of_ne_nil cidrs hne
  obtain ⟨routable, hroutable⟩ := withRoutableCIDRs_isSome hcidr (hvalid cidr hcidr)
  rw [hroutable] at h ⊢
  obtain ⟨rfl, rfl, hrules⟩ := reconcile_eq_attach.mp h
  have hattachable := filterRoutable_ne_nil_iff.mp hrules
  refine ⟨(readyEndpointIPs slices).filter routable, hattachable.2.2.1,
    (readyEndpointIPs_sorted slices).filter routable, fun ip => ?_,
    fun r hr => (backends_of_mem_filterRoutable hr).1, fun slices' hsame => ?_⟩
  · rw [List.mem_filter, mem_readyEndpointIPs, withRoutableCIDRs_spec hroutable]
  · simp only [hsame.readyEndpointIPs_eq, hsame.buildRule_isSome] at hattachable
    refine ⟨_, reconcile_eq_attach.mpr ⟨rfl, rfl, filterRoutable_ne_nil_iff.mpr hattachable⟩,
      fun r hr => ?_⟩
    rw [hsame.readyEndpointIPs_eq]
    exact (backends_of_mem_filterRoutable hr).1

/-- Two addresses are ready, one of them twice, and one is of another network. -/
def routedSlices : List EndpointSlice :=
  [oneEndpoint "IPv4" "10.244.2.3" 8080, oneEndpoint "IPv4" "192.168.1.20" 8080,
    oneEndpoint "IPv4" "10.244.1.2" 8080, oneEndpoint "IPv4" "10.244.2.3" 8080]

theorem routed_backends : ∃ backends : List String, backends ≠ [] ∧ backends.Pairwise (· < ·) ∧
      (∀ ip, ip ∈ backends ↔
        (∃ sl ∈ routedSlices, sl.Serves ip) ∧ ∃ cidr ∈ ["10.244.0.0/16"], Within ip cidr) := by
  have h : reconcile (withRoutableCIDRs ["10.244.0.0/16"]) "default/web"
      (some (webService "10.96.0.10")) (some routedSlices) =
        some (.attachService "default/web"
          [webRule "10.96.0.10" ["10.244.1.2", "10.244.2.3"]]) := by
    rw [reconcile_eq_attach]
    decide
  obtain ⟨backends, hne, hsorted, hmem, -⟩ := attached_backends_exact (by simp)
    (by decide) h
  exact ⟨backends, hne, hsorted, hmem⟩

theorem filterRoutable_backends {routable : Option (String → Bool)}
    (h : r ∈ filterRoutable routable rules) :
    ∃ r' ∈ rules, r.clusterIP = r'.clusterIP ∧ r.backends ⊆ r'.backends := by
  cases routable with
  | none => exact ⟨r, h, rfl, List.Subset.refl _⟩
  | some routable =>
    obtain ⟨r', hr', rfl⟩ := mem_filterRoutable h
    exact ⟨r', hr', rfl, List.filter_subset_self _⟩

/-- A rule the router accepts has an IPv4 ClusterIP and IPv4 backends exactly when the
ClusterIP of its Service is an IPv4 address. -/
theorem rule_family_iff (htyped : ∀ sl ∈ slices, sl.Typed) {routable : Option (String → Bool)}
    {kept : List ServiceRule}
    (hkept : keepRules (filterRoutable routable (buildServiceRules svc slices)) = .ok kept)
    {r : ServiceRule} (hr : r ∈ kept) :
    (addressFamily r.clusterIP = some "IPv4" ∧ ∀ ip ∈ r.backends, addressFamily ip = some "IPv4") ↔
      addressFamily svc.clusterIP = some "IPv4" := by
  obtain ⟨r', hr', hcluster, hsubset⟩ :=
    filterRoutable_backends (Podnet.keepRules_spec hkept r hr).1
  obtain ⟨sp, -, hrule⟩ := mem_buildServiceRules hr'
  obtain ⟨-, hcluster', -, hbackends⟩ := buildRule_eq_some hrule
  rw [hcluster, hcluster']
  refine and_iff_left fun ip hip => ?_
  have hready := hsubset hip
  rw [hbackends] at hready
  obtain ⟨sl, hsl, htype, ep, hep, -, haddress⟩ := mem_readyEndpointIPs.mp hready
  rcases htyped sl hsl with hnames | hfamily
  · rw [htype] at hnames
    exact absurd hnames (by decide)
  · rw [hfamily ep hep ip haddress, htype]

def dualStack : List EndpointSlice :=
  [oneEndpoint "IPv4" "10.244.1.2" 8080, oneEndpoint "IPv6" "fd00:10:244::2" 8080]

theorem dualStack_typed : ∀ sl ∈ dualStack, sl.Typed := by
  have hfour : addressFamily "10.244.1.2" = some "IPv4" := by decide
  have hsix : addressFamily "fd00:10:244::2" = some "IPv6" := by decide
  simp [dualStack, oneEndpoint, EndpointSlice.Typed, hfour, hsix]

theorem ipv4_primary_family :
    addressFamily (webRule "10.96.0.10" ["10.244.1.2"]).clusterIP = some "IPv4" ∧
      ∀ ip ∈ (webRule "10.96.0.10" ["10.244.1.2"]).backends, addressFamily ip = some "IPv4" := by
  have hkept : keepRules (filterRoutable none (buildServiceRules (webService "10.96.0.10")
      dualStack)) = .ok [webRule "10.96.0.10" ["10.244.1.2"]] := by
    decide
  exact (rule_family_iff dualStack_typed hkept List.mem_cons_self).mpr (by decide)

/-- With IPv6 as the primary family, the rule that is accepted redirects an IPv6
address to an IPv4 backend. -/
theorem ipv6_primary_mixed_rule : (∀ sl ∈ dualStack, sl.Typed) ∧
      keepRules (buildServiceRules (webService "fd00:10:96::a") dualStack) =
        .ok [webRule "fd00:10:96::a" ["10.244.1.2"]] ∧
      addressFamily "fd00:10:96::a" = some "IPv6" ∧
      rdrLine (webRule "fd00:10:96::a" ["10.244.1.2"]) ["10.244.1.2"] "bridge100" =
        "rdr on bridge100 inet proto tcp from any to fd00:10:96::a port 80 -> 10.244.1.2 port 8080\n" := by
  refine ⟨dualStack_typed, ?_, ?_, ?_⟩
  · decide
  · decide
  · decide

end Svcroute

end MacVz
