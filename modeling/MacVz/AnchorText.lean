/-
The ruleset the router writes, read by the linter of the helper.  Every line it
renders from endpoints and rules within the policy's networks is a comment or a
rule of the policy's grammar.
-/
import MacVz.PolicyGrammar

namespace MacVz

namespace Podnet

open GoStrings Privhelper

variable {p : Policy} {iface : String} {cfg : Config} {endpoints : List Endpoint} {r : ServiceRule}
  {ip : String} {ep : Endpoint} {name target : String} {n : Int} {ifaces : List String}
  {vmip : String → Option String} {sortRules : List ServiceRule → List ServiceRule}
  {services : List (String × List ServiceRule)}

/-- A line the helper's check passes over or permits. -/
def LintedLine (p : Policy) (raw : List Char) : Prop :=
  trimSpace raw = [] ∨ (trimSpace raw).head? = some '#' ∨ p.Rule (fields (trimSpace raw))

/-- What the helper's policy asks of an endpoint. -/
structure EndpointFits (p : Policy) (ep : Endpoint) : Prop where
  podKey : '\n' ∉ ep.podKey.toList
  vmIP : Inside ep.vmIP p.vmnetCIDRs
  podIP : Inside ep.podIP p.podCIDRs
  interface : ep.interface = "" ∨ p.OnVMNet ep.interface

/-- A Service rule that was checked, with backends within the networks of the policy. -/
structure RuleFits (p : Policy) (r : ServiceRule) : Prop where
  serviceKey : '\n' ∉ r.serviceKey.toList
  checked : r.validate = .ok ()
  backends : r.backends ≠ []
  inside : ∀ ip ∈ r.backends, Inside ip p.podCIDRs ∨ Inside ip p.vmnetCIDRs

/-- The interfaces of the router are those of the policy. -/
structure InterfacesFit (p : Policy) (cfg : Config) : Prop where
  interface : cfg.interface = p.vmnetInterface
  isWord : IsWord cfg.interface
  mesh : cfg.meshInterface = "" ∨ cfg.meshInterface = p.meshInterface ∧ IsWord cfg.meshInterface

theorem isWord_of_inside {cidrs : Table Bool} (h : Inside ip cidrs) : IsWord ip := by
  obtain ⟨cidr, -, addr, hparse, -⟩ := h
  exact isWord_of_parseIP hparse

theorem isWord_of_isBridge (h : IsBridge iface) : IsWord iface := by
  obtain ⟨digits, hne, hdigits, htext⟩ := h
  refine ⟨?_, ?_⟩
  · rintro rfl
    cases htext
  · have hbridge : ∀ c ∈ "bridge".toList, isSpace c = false := by simp [isSpace]
    intro c hc
    rw [htext, List.mem_append] at hc
    rcases hc with hletter | hdigit
    · exact hbridge c hletter
    · exact isSpace_of_isDigit (hdigits c hdigit)

theorem InterfacesFit.isWord_of_onVMNet (h : InterfacesFit p cfg) (hiface : p.OnVMNet iface) :
    IsWord iface := by
  rcases hiface.2 with rfl | hbridge
  · rw [← h.interface]
    exact h.isWord
  · exact isWord_of_isBridge hbridge

theorem InterfacesFit.onVMNet (h : InterfacesFit p cfg) : p.OnVMNet cfg.interface := by
  refine ⟨?_, Or.inl h.interface⟩
  rw [← h.interface]
  exact h.isWord.1

theorem lintedLine_comment (rest : List Char) : LintedLine p ('#' :: rest) :=
  Or.inr (Or.inl (head?_trimSpace (by decide) rest))

theorem lines_comment {text : String} (htext : '\n' ∉ text.toList) :
    Lines (LintedLine p) ("# " ++ text ++ "\n") := by
  apply Lines.line
  · simpa using htext
  · rw [String.toList_append]
    exact lintedLine_comment _

theorem lines_rule {words : List String} (hwords : ∀ w ∈ words, IsWord w)
    (hrule : p.Rule words) : Lines (LintedLine p) (String.ofList (unwords words) ++ "\n") := by
  refine Lines.unwords hwords (Or.inr (Or.inr ?_))
  rwa [trimSpace_unwords hwords, fields_unwords hwords]

theorem binatLine_eq (iface : String) (ep : Endpoint) : binatLine iface ep =
    String.ofList (unwords ["binat", "on", iface, "from", ep.vmIP, "to", "any", "->", ep.podIP]) ++
      "\n" := by
  rw [← String.toList_inj]
  unfold binatLine
  simp only [unwords_cons, unwords_singleton, String.toList_append]
  simp only [String.toList_ofList]
  simp only [List.append_assoc, List.cons_append]
  rfl

theorem lines_binatLine (hword : IsWord iface) (hiface : p.OnVMNet iface ∨ p.OnMesh iface)
    (hep : EndpointFits p ep) : Lines (LintedLine p) (binatLine iface ep) := by
  have hvm := isWord_of_inside hep.vmIP
  have hpod := isWord_of_inside hep.podIP
  rw [binatLine_eq]
  apply lines_rule
  · simp only [List.forall_mem_cons]
    exact ⟨by decide, by decide, hword, by decide, hvm, by decide, by decide, by decide, hpod,
      List.forall_mem_nil _⟩
  · exact .binat hiface (Or.inl rfl) hep.vmIP hep.podIP

theorem mem_sortedInterfaces {names : List String} :
    name ∈ sortedInterfaces names ↔ name ∈ names ∧ name ≠ "" := by
  simp [sortedInterfaces]

theorem InterfacesFit.binat (h : InterfacesFit p cfg) (hep : EndpointFits p ep)
    (hname : name ∈ endpointBinatInterfaces cfg.interface cfg.meshInterface ep) :
    IsWord name ∧ (p.OnVMNet name ∨ p.OnMesh name) := by
  obtain ⟨hmem, hne⟩ := mem_sortedInterfaces.mp hname
  simp only [List.mem_cons, List.not_mem_nil, or_false] at hmem
  rcases hmem with rfl | rfl
  · have hvmnet : p.OnVMNet (if ep.interface = "" then cfg.interface else ep.interface) := by
      split
      · exact h.onVMNet
      · rename_i hown
        exact hep.interface.resolve_left hown
    exact ⟨h.isWord_of_onVMNet hvmnet, Or.inl hvmnet⟩
  · obtain ⟨hmesh, hword⟩ := h.mesh.resolve_left hne
    exact ⟨hword, Or.inr ⟨hmesh ▸ hne, hmesh⟩⟩

theorem lines_renderEndpoint (h : InterfacesFit p cfg) (hep : EndpointFits p ep) :
    Lines (LintedLine p) (renderEndpoint cfg.interface cfg.meshInterface ep) := by
  refine (lines_comment hep.podKey).append (Lines.join ?_)
  intro text htext
  obtain ⟨name, hname, rfl⟩ := List.mem_map.mp htext
  obtain ⟨hword, hiface⟩ := h.binat hep hname
  exact lines_binatLine hword hiface hep

theorem header_eq : "# Managed by macvz (issue #22). Do not edit by hand.\n" =
    "# " ++ "Managed by macvz (issue #22). Do not edit by hand." ++ "\n" := by decide

theorem lines_header :
    Lines (LintedLine p) "# Managed by macvz (issue #22). Do not edit by hand.\n" := by
  rw [header_eq]
  apply lines_comment
  decide

theorem lines_renderAnchor (h : InterfacesFit p cfg)
    (hendpoints : ∀ ep ∈ endpoints, EndpointFits p ep) :
    Lines (LintedLine p) (renderAnchor cfg.interface cfg.meshInterface endpoints) := by
  refine lines_header.append (Lines.join ?_)
  intro text htext
  obtain ⟨ep, hep, rfl⟩ := List.mem_map.mp htext
  exact lines_renderEndpoint h (hendpoints ep hep)

theorem poolMember_comma (h : (GoNet.parseIP target).isSome = true) :
    PoolMember (target ++ ",") target := by
  refine ⟨?_, h⟩
  rw [trimSuffix]
  simp

theorem poolMember_self (h : (GoNet.parseIP target).isSome = true) : PoolMember target target := by
  refine ⟨?_, h⟩
  obtain ⟨ip, hip⟩ := Option.isSome_iff_exists.mp h
  rw [trimSuffix, if_neg]
  intro hsuffix
  have haddr := (GoNet.parseIP_spec hip).1 ',' (hsuffix.subset (by simp))
  revert haddr
  decide

theorem forall₂_withCommas {targets : List String}
    (h : ∀ target ∈ targets, (GoNet.parseIP target).isSome = true) :
    List.Forall₂ PoolMember (withCommas targets) targets := by
  induction targets with
  | nil => exact .nil
  | cons target rest ih =>
    have htarget := h target List.mem_cons_self
    cases rest with
    | nil => exact .cons (poolMember_self htarget) .nil
    | cons next rest =>
      exact .cons (poolMember_comma htarget) (ih fun t ht => h t (List.mem_cons_of_mem _ ht))

def targetWords : List String → List String
  | [target] => [target]
  | targets => "\x7b" :: (withCommas targets ++ ["\x7d"])

def turnWords : List String → List String
  | [_] => []
  | _ => ["round-robin"]

/-- The words of a redirect line. -/
def rdrWords (r : ServiceRule) (targets : List String) (iface : String) : List String :=
  ["rdr", "on", iface, "inet", "proto", r.protocol, "from", "any", "to", r.clusterIP, "port",
    toString r.port, "->"] ++
    (targetWords targets ++ "port" :: toString r.targetPort :: turnWords targets)

def poolFront (r : ServiceRule) (iface : String) : List String :=
  ["rdr", "on", iface, "inet", "proto", r.protocol, "from", "any", "to", r.clusterIP, "port",
    toString r.port, "->", "\x7b"]

/-- The words of a redirect from the closing brace of its pool on. -/
def poolBack (r : ServiceRule) : List String :=
  ["\x7d", "port", toString r.targetPort, "round-robin"]

theorem rdrWords_pool (r : ServiceRule) {targets : List String}
    (hmany : ∀ target, targets ≠ [target]) (iface : String) :
    rdrWords r targets iface = poolFront r iface ++ (withCommas targets ++ poolBack r) := by
  have htargets : targetWords targets = "\x7b" :: (withCommas targets ++ ["\x7d"]) := by
    unfold targetWords
    split
    · exact absurd rfl (hmany _)
    · rfl
  have hturns : turnWords targets = ["round-robin"] := by
    unfold turnWords
    split
    · exact absurd rfl (hmany _)
    · rfl
  simp only [rdrWords, htargets, hturns, poolFront, poolBack, List.cons_append, List.nil_append,
    List.append_assoc]

theorem rdrLine_pool (r : ServiceRule) {targets : List String}
    (hmany : ∀ target, targets ≠ [target]) (iface : String) : rdrLine r targets iface =
      String.ofList (unwords (poolFront r iface) ++
        ' ' :: (unwords (withCommas targets) ++ ' ' :: unwords (poolBack r))) ++ "\n" := by
  rw [← String.toList_inj, unwords_withCommas]
  unfold rdrLine
  split
  · exact absurd rfl (hmany _)
  · simp only [poolFront, poolBack, unwords_cons, unwords_singleton, String.toList_append]
    simp only [String.toList_ofList]
    simp only [List.append_assoc, List.cons_append]
    rfl

/-- A redirect line is its words with single blanks between them. -/
theorem rdrLine_eq (r : ServiceRule) {targets : List String} (hne : targets ≠ []) (iface : String) :
    rdrLine r targets iface = String.ofList (unwords (rdrWords r targets iface)) ++ "\n" := by
  by_cases hone : ∃ target, targets = [target]
  · obtain ⟨target, rfl⟩ := hone
    rw [← String.toList_inj]
    unfold rdrLine
    simp only [rdrWords, targetWords, turnWords, List.cons_append, List.nil_append, unwords_cons,
      unwords_singleton, String.toList_append]
    simp only [String.toList_ofList]
    simp only [List.append_assoc, List.cons_append]
    rfl
  · have hmany : ∀ target, targets ≠ [target] := not_exists.mp hone
    have hfront : poolFront r iface ≠ [] := List.cons_ne_nil _ _
    have hback : poolBack r ≠ [] := List.cons_ne_nil _ _
    rw [rdrLine_pool r hmany, rdrWords_pool r hmany,
      unwords_append hfront (List.append_ne_nil_of_right_ne_nil _ hback),
      unwords_append (withCommas_ne_nil hne) hback]

/-- What a rule that passes `validate` is made of. -/
theorem ServiceRule.validate_parts (h : r.validate = .ok ()) :
    (GoNet.parseIP r.clusterIP).isSome = true ∧ (r.protocol = "tcp" ∨ r.protocol = "udp") ∧
      (0 ≤ r.port ∧ r.port ≤ 65535) ∧ 0 ≤ r.targetPort ∧ r.targetPort ≤ 65535 := by
  unfold ServiceRule.validate at h
  split at h
  · cases h
  · split at h
    · cases h
    · rename_i hip
      split at h
      · cases h
      · split at h
        · cases h
        · split at h
          · cases h
          · refine ⟨Option.isSome_iff_ne_none.mpr hip, ?_, ?_, ?_⟩
            · tauto
            · omega
            · omega

theorem atoi_port (hn : 0 ≤ n) (hmax : n ≤ 65535) : atoi (toString n) = some n := by
  obtain ⟨k, rfl⟩ := Int.eq_ofNat_of_zero_le hn
  have htext : toString (k : Int) = toString k := rfl
  rw [htext, atoi_toString (by omega)]

theorem port_text (hn : 0 ≤ n) (hmax : n ≤ 65535) :
    IsWord (toString n) ∧ (atoi (toString n)).isSome = true := by
  rw [atoi_port hn hmax]
  exact ⟨isWord_toString_int n, rfl⟩

theorem targets_targetWords {targets : List String} (hne : targets ≠ [])
    (h : ∀ target ∈ targets, (GoNet.parseIP target).isSome = true) :
    Targets (targetWords targets) targets := by
  unfold targetWords
  split
  · exact .single (h _ List.mem_cons_self)
  · exact .pool (withCommas_ne_nil hne) (forall₂_withCommas h)

theorem isWord_targetWords {targets : List String} (h : ∀ target ∈ targets, IsWord target) :
    ∀ w ∈ targetWords targets, IsWord w := by
  unfold targetWords
  split
  · exact h
  · intro w hw
    simp only [List.mem_cons, List.mem_append, List.not_mem_nil, or_false] at hw
    rcases hw with rfl | hmember | rfl
    · decide
    · exact isWord_withCommas h w hmember
    · decide

theorem turnWords_cases (targets : List String) :
    turnWords targets = [] ∨ turnWords targets = ["round-robin"] := by
  unfold turnWords
  split
  · exact Or.inl rfl
  · exact Or.inr rfl

theorem isWord_rdrWords (hr : r.validate = .ok ()) {targets : List String}
    (htargets : ∀ target ∈ targets, IsWord target) (hiface : IsWord iface) :
    ∀ w ∈ rdrWords r targets iface, IsWord w := by
  obtain ⟨hcluster, hproto, -, -⟩ := ServiceRule.validate_parts hr
  obtain ⟨cluster, hparse⟩ := Option.isSome_iff_exists.mp hcluster
  have hprotoWord : IsWord r.protocol := by rcases hproto with h | h <;> rw [h] <;> decide
  have hturns : ∀ w ∈ turnWords targets, IsWord w := by
    rcases turnWords_cases targets with h | h <;> rw [h] <;> decide
  simp only [rdrWords, List.forall_mem_append, List.forall_mem_cons]
  exact ⟨⟨by decide, by decide, hiface, by decide, by decide, hprotoWord, by decide, by decide,
    by decide, isWord_of_parseIP hparse, by decide, isWord_toString_int _, by decide,
    List.forall_mem_nil _⟩, isWord_targetWords htargets, by decide, isWord_toString_int _, hturns⟩

/-- A redirect line to permitted targets passes the helper's lint. -/
theorem lines_rdrLine (hr : RuleFits p r) {targets : List String} (hne : targets ≠ [])
    (htargets : ∀ target ∈ targets, Inside target p.podCIDRs ∨ Inside target p.vmnetCIDRs)
    (hword : IsWord iface) (hiface : p.OnVMNet iface) :
    Lines (LintedLine p) (rdrLine r targets iface) := by
  obtain ⟨hcluster, hproto, ⟨hport, hport'⟩, htarget, htarget'⟩ :=
    ServiceRule.validate_parts hr.checked
  have hips : ∀ target ∈ targets, (GoNet.parseIP target).isSome = true := by
    intro target hmem
    rcases htargets target hmem with ⟨-, -, addr, haddr, -⟩ | ⟨-, -, addr, haddr, -⟩ <;>
      simp [haddr]
  have hwords : ∀ target ∈ targets, IsWord target := by
    intro target hmem
    rcases htargets target hmem with hinside | hinside <;> exact isWord_of_inside hinside
  rw [rdrLine_eq r hne]
  exact lines_rule (isWord_rdrWords hr.checked hwords hword)
    (.rdr hiface hproto hcluster (port_text hport hport').2 (port_text htarget htarget').2
      (turnWords_cases targets) (targets_targetWords hne hips) htargets)

def ServiceRule.summary (r : ServiceRule) : String :=
  r.serviceKey ++ " " ++ r.clusterIP ++ ":" ++ toString r.port ++ " -> :" ++ toString r.targetPort

theorem ServiceRule.newline_not_mem_summary (hr : r.validate = .ok ())
    (hkey : '\n' ∉ r.serviceKey.toList) : '\n' ∉ r.summary.toList := by
  obtain ⟨cluster, hparse⟩ := Option.isSome_iff_exists.mp (ServiceRule.validate_parts hr).1
  simp only [ServiceRule.summary, String.toList_append, List.mem_append, not_or]
  exact ⟨⟨⟨⟨⟨⟨hkey, by decide⟩, newline_not_mem (isWord_of_parseIP hparse)⟩, by decide⟩,
    newline_not_mem (isWord_toString_int _)⟩, by decide⟩, newline_not_mem (isWord_toString_int _)⟩

/-- The backends as they are written: the address of the micro-VM where the Pod is local. -/
def ServiceRule.targets (vmip : String → Option String) (r : ServiceRule) : List String :=
  r.backends.map fun podIP => (vmip podIP).getD podIP

theorem renderServiceRule_eq (ifaces : List String) (vmip : String → Option String)
    (r : ServiceRule) : renderServiceRule ifaces vmip r = "# " ++ r.summary ++ "\n" ++
      String.join (ifaces.map (rdrLine r ((r.targets vmip).insertionSort (· ≤ ·)))) := by
  unfold renderServiceRule ServiceRule.summary ServiceRule.targets
  simp only [String.append_assoc]

/-- Each line written for a service rule passes the helper's lint. -/
theorem lines_renderServiceRule (hr : RuleFits p r)
    (hifaces : ∀ iface ∈ ifaces, IsWord iface ∧ p.OnVMNet iface)
    (hvmip : ∀ ip vm, vmip ip = some vm → Inside vm p.vmnetCIDRs) :
    Lines (LintedLine p) (renderServiceRule ifaces vmip r) := by
  rw [renderServiceRule_eq]
  refine (lines_comment (ServiceRule.newline_not_mem_summary hr.checked hr.serviceKey)).append
    (Lines.join ?_)
  intro text htext
  obtain ⟨iface, hiface, rfl⟩ := List.mem_map.mp htext
  obtain ⟨hword, hvmnet⟩ := hifaces iface hiface
  refine lines_rdrLine hr ?_ ?_ hword hvmnet
  · intro hnil
    have hlen := congrArg List.length hnil
    rw [List.length_insertionSort, ServiceRule.targets, List.length_map, List.length_nil,
      List.length_eq_zero_iff] at hlen
    exact hr.backends hlen
  · intro target htarget
    rw [List.mem_insertionSort, ServiceRule.targets, List.mem_map] at htarget
    obtain ⟨ip, hip, rfl⟩ := htarget
    cases hvm : vmip ip with
    | none => exact hr.inside ip hip
    | some vm => exact Or.inr (hvmip ip vm hvm)

/-- Each line written for the services passes the helper's lint. -/
theorem lines_renderServiceRules (hsort : ∀ rules, (sortRules rules).Perm rules)
    (hservices : ∀ service ∈ services, ∀ r ∈ service.2, RuleFits p r)
    (hifaces : ∀ iface ∈ ifaces, IsWord iface ∧ p.OnVMNet iface)
    (hvmip : ∀ ip vm, vmip ip = some vm → Inside vm p.vmnetCIDRs) :
    Lines (LintedLine p) (renderServiceRules sortRules ifaces services vmip) := by
  unfold renderServiceRules
  split
  · exact Lines.nil
  · apply Lines.join
    intro text htext
    obtain ⟨service, hservice, rfl⟩ := List.mem_map.mp htext
    apply Lines.join
    intro text htext
    obtain ⟨r, hr, rfl⟩ := List.mem_map.mp htext
    rw [List.mem_insertionSort] at hservice
    exact lines_renderServiceRule (hservices service hservice r ((hsort _).mem_iff.mp hr))
      hifaces hvmip

/-- An address found for a Pod address is that of an endpoint with it. -/
theorem exists_of_vmipByPodIP {vm : String} (h : vmipByPodIP endpoints ip = some vm) :
    ∃ ep ∈ endpoints, ep.podIP = ip ∧ vm = ep.vmIP := by
  -- the last endpoint of the iteration that has the address decides
  induction endpoints using List.reverseRecOn with
  | nil => cases h
  | append_singleton init ep ih =>
    rw [vmipByPodIP, List.foldl_append, List.foldl_cons, List.foldl_nil, Function.update_apply] at h
    split at h
    · rename_i hip
      exact ⟨ep, by simp, hip.symm, (Option.some.inj h).symm⟩
    · obtain ⟨ep', hep', hip, hvm⟩ := ih h
      exact ⟨ep', List.mem_append_left _ hep', hip, hvm⟩

theorem vmipByPodIP_eq_none (h : vmipByPodIP endpoints ip = none) :
    ∀ ep ∈ endpoints, ep.podIP ≠ ip := by
  induction endpoints using List.reverseRecOn with
  | nil => simp
  | append_singleton init ep ih =>
    rw [vmipByPodIP, List.foldl_append, List.foldl_cons, List.foldl_nil, Function.update_apply] at h
    split at h
    · cases h
    · rename_i hip
      rw [List.forall_mem_append, List.forall_mem_singleton]
      exact ⟨ih h, Ne.symm hip⟩

/-- The ruleset written for permitted endpoints and services passes the helper's lint. -/
theorem ruleset_linted (hsort : ∀ rules, (sortRules rules).Perm rules) (hcfg : InterfacesFit p cfg)
    (hendpoints : ∀ ep ∈ endpoints, EndpointFits p ep)
    (hservices : ∀ service ∈ services, ∀ r ∈ service.2, RuleFits p r) :
    p.Ruleset (ruleset sortRules cfg endpoints services) := by
  have hifaces : ∀ iface ∈ vmnetInterfaces cfg endpoints, IsWord iface ∧ p.OnVMNet iface := by
    intro iface hiface
    obtain ⟨hmem, hne⟩ := mem_sortedInterfaces.mp hiface
    have hvmnet : p.OnVMNet iface := by
      rcases List.mem_cons.mp hmem with rfl | hmem
      · exact hcfg.onVMNet
      · obtain ⟨ep, hep, rfl⟩ := List.mem_map.mp hmem
        exact (hendpoints ep hep).interface.resolve_left hne
    exact ⟨hcfg.isWord_of_onVMNet hvmnet, hvmnet⟩
  have hvmip : ∀ ip vm, vmipByPodIP endpoints ip = some vm → Inside vm p.vmnetCIDRs := by
    intro ip vm hvm
    obtain ⟨ep, hep, -, rfl⟩ := exists_of_vmipByPodIP hvm
    exact (hendpoints ep hep).vmIP
  have hsorted : ∀ ep ∈ endpoints.insertionSort (fun a b => a.podKey ≤ b.podKey),
      EndpointFits p ep := by
    intro ep hep
    rw [List.mem_insertionSort] at hep
    exact hendpoints ep hep
  have hanchor := lines_renderAnchor hcfg hsorted
  have hrules := lines_renderServiceRules hsort hservices hifaces hvmip
  exact (hanchor.append hrules).all (Or.inl rfl)

end Podnet

end MacVz
