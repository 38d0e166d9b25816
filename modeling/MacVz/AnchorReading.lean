/-
The anchor read back.  A reader of the packet filter's grammar for translations and redirects
takes the text the router loads line by line, and what it finds are the translations of the
attached endpoints and the redirects of the attached Services, each as often as it should be.
-/
import MacVz.AnchorText
import MacVz.PodnetRouter

namespace MacVz

namespace Podnet

open GoStrings Privhelper

variable {iface : String} {ep : Endpoint} {targets : List String} {r : ServiceRule} {text : String}
  {vmip : String → Option String} {sortRules : List ServiceRule → List ServiceRule}
  {services : List (String × List ServiceRule)}

/-- A rule of the packet filter.  The order of the targets of a redirect has no meaning. -/
inductive PFRule where
  | binat (iface vmIP podIP : String)
  | rdr (iface protocol clusterIP : String) (port : Int) (targets : Multiset String)
      (targetPort : Int)
deriving DecidableEq

/-- The targets of a redirect and the words behind them: one address, or a pool in braces with
commas between its members. -/
def readTargets : List String → Option (List String × List String)
  | [] => none
  | first :: rest =>
    if first ≠ "\x7b" then some ([first], rest)
    else
      match rest.dropWhile (· ≠ "\x7d") with
      | [] => none
      | _ :: behind => some ((rest.takeWhile (· ≠ "\x7d")).map fun word =>
        String.ofList (trimSuffix [','] word.toList), behind)

def readTargetPort : List String → Option Int
  | ["port", port] => atoi port
  | ["port", port, "round-robin"] => atoi port
  | _ => none

/-- A rule from the words of its line. -/
def readRule : List String → Option PFRule
  | ["binat", "on", iface, "from", vmIP, "to", "any", "->", podIP] => some (.binat iface vmIP podIP)
  | "rdr" :: "on" :: iface :: "inet" :: "proto" :: protocol :: "from" :: "any" :: "to" ::
      clusterIP :: "port" :: port :: "->" :: rest => do
    let port ← atoi port
    let (targets, behind) ← readTargets rest
    let targetPort ← readTargetPort behind
    some (.rdr iface protocol clusterIP port targets targetPort)
  | _ => none

/-- What one line holds: nothing if it is a comment or blank, and one rule otherwise. -/
def readLine (raw : List Char) : Option (List PFRule) :=
  if raw.head? = some '#' then some []
  else
    match fields raw with
    | [] => some []
    | words => (readRule words).map ([·])

/-- The rules of a ruleset. -/
def readAnchor (text : String) : Option (List PFRule) := readLines readLine (lines text)

/-- The interfaces the address of an endpoint is translated on: its own, or the configured one
if it has none, and that of the mesh. -/
def Config.translated (cfg : Config) (ep : Endpoint) : Finset String :=
  ({if ep.interface = "" then cfg.interface else ep.interface, cfg.meshInterface} :
    Finset String).erase ""

namespace Router

/-- The interfaces Service traffic is redirected on: the configured one and those of the
endpoints. -/
def entrances (rt : Router) : Finset String :=
  (insert rt.cfg.interface (rt.endpoints.entries.map fun e => e.2.interface).toFinset).erase ""

/-- The translations of the endpoints and the redirects of the Services, with the addresses
the backends are reached at. -/
def expected (rt : Router) (address : String → String) : Multiset PFRule :=
  (rt.endpoints.entries.bind fun e =>
    (rt.cfg.translated e.2).val.map fun iface => .binat iface e.2.vmIP e.2.podIP) +
  rt.services.entries.bind fun e => (e.2 : Multiset ServiceRule).bind fun r =>
    rt.entrances.val.map fun iface => .rdr iface r.protocol r.clusterIP r.port
      ((r.backends : Multiset String).map address) r.targetPort

/-- A Pod that is attached here is reached at its micro-VM, any other one at its own address. -/
structure Addresses (rt : Router) (address : String → String) : Prop where
  attached : ∀ e ∈ rt.endpoints.entries, address e.2.podIP = e.2.vmIP
  elsewhere : ∀ ip, (∀ e ∈ rt.endpoints.entries, e.2.podIP ≠ ip) → address ip = ip

/-- A router whose endpoints and rules were checked, with names that fit on a line, and with no
two endpoints of one Pod address. -/
structure WellFormed (rt : Router) : Prop where
  interface : IsWord rt.cfg.interface
  mesh : rt.cfg.meshInterface = "" ∨ IsWord rt.cfg.meshInterface
  endpoint : ∀ e ∈ rt.endpoints.entries, e.2.validate = .ok () ∧ '\n' ∉ e.2.podKey.toList ∧
    (e.2.interface = "" ∨ IsWord e.2.interface)
  rule : ∀ e ∈ rt.services.entries, ∀ r ∈ e.2, r.validate = .ok () ∧ '\n' ∉ r.serviceKey.toList
  distinct : ∀ e ∈ rt.endpoints.entries, ∀ e' ∈ rt.endpoints.entries,
    e.2.podIP = e'.2.podIP → e = e'

end Router

theorem isWord_of_isAddress (h : (GoNet.parseIP text).isSome = true) : IsWord text := by
  obtain ⟨ip, hip⟩ := Option.isSome_iff_exists.mp h
  exact isWord_of_parseIP hip

theorem reads_comment (htext : '\n' ∉ text.toList) : Reads readLine ("# " ++ text ++ "\n") [] := by
  apply Reads.line
  · simpa using htext
  · have hhead : ("# " ++ text).toList.head? = some '#' := by
      rw [String.toList_append]
      rfl
    rw [readLine, if_pos hhead]

theorem reads_rule {c : Char} {first : String} {rest : List String} {rule : PFRule}
    (hhead : text.toList.head? = some c) (hc : c ≠ '#')
    (hworded : Worded text.toList (first :: rest)) (hrule : readRule (first :: rest) = some rule) :
    Reads readLine (text ++ "\n") [rule] := by
  apply Reads.line hworded.newline
  have hnocomment : text.toList.head? ≠ some '#' := by
    rw [hhead]
    simpa using hc
  rw [readLine, if_neg hnocomment, hworded.fields]
  dsimp only
  rw [hrule]
  rfl

/-- A `binat` line reads back as its rule. -/
theorem reads_binatLine (hiface : IsWord iface) (hvm : IsWord ep.vmIP) (hpod : IsWord ep.podIP) :
    Reads readLine (binatLine iface ep) [.binat iface ep.vmIP ep.podIP] := by
  have hwords : ∀ w ∈ ["binat", "on", iface, "from", ep.vmIP, "to", "any", "->", ep.podIP],
      IsWord w := by
    simp only [List.forall_mem_cons]
    exact ⟨by decide, by decide, hiface, by decide, hvm, by decide, by decide, by decide, hpod,
      List.forall_mem_nil _⟩
  have hhead : (unwords ["binat", "on", iface, "from", ep.vmIP, "to", "any", "->",
      ep.podIP]).head? = some 'b' := by
    rfl
  have hworded := worded_unwords hwords
  rw [← String.toList_ofList (l := unwords _)] at hhead hworded
  rw [binatLine_eq]
  exact reads_rule hhead (by decide) hworded (by rw [readRule])

theorem Endpoint.validate_parts (h : ep.validate = .ok ()) :
    (GoNet.parseIP ep.podIP).isSome = true ∧ (GoNet.parseIP ep.vmIP).isSome = true := by
  unfold Endpoint.validate at h
  split at h
  · cases h
  · split at h
    · cases h
    · rename_i hpod
      split at h
      · cases h
      · rename_i hvm
        exact ⟨Option.isSome_iff_ne_none.mpr hpod, Option.isSome_iff_ne_none.mpr hvm⟩

theorem reads_renderEndpoint {meshIface : String} (hkey : '\n' ∉ ep.podKey.toList)
    (hep : ep.validate = .ok ())
    (hifaces : ∀ name ∈ endpointBinatInterfaces iface meshIface ep, IsWord name) :
    Reads readLine (renderEndpoint iface meshIface ep)
      ((endpointBinatInterfaces iface meshIface ep).map fun name =>
        .binat name ep.vmIP ep.podIP) := by
  obtain ⟨hpod, hvm⟩ := Endpoint.validate_parts hep
  rw [List.map_eq_flatMap]
  exact (reads_comment hkey).skip (Reads.join fun name hname =>
    reads_binatLine (hifaces name hname) (isWord_of_isAddress hvm) (isWord_of_isAddress hpod))

theorem map_poolMember {fields : List String} (h : List.Forall₂ PoolMember fields targets) :
    fields.map (fun word => String.ofList (trimSuffix [','] word.toList)) = targets := by
  induction h with
  | nil => rfl
  | cons hmember _ ih => rw [List.map_cons, ih, ← hmember.1, String.ofList_toList]

theorem not_poolMember_brace (target : String) : ¬ PoolMember "\x7d" target := by
  rintro ⟨htarget, hip⟩
  have hbrace : target = "\x7d" := by
    rw [← String.toList_inj, htarget]
    decide
  rw [hbrace] at hip
  exact absurd hip (by decide)

theorem ne_brace_of_mem {fields : List String} (h : List.Forall₂ PoolMember fields targets) :
    ∀ word ∈ fields, word ≠ "\x7d" := by
  induction h with
  | nil => simp
  | cons hmember _ ih =>
    rw [List.forall_mem_cons]
    refine ⟨?_, ih⟩
    rintro rfl
    exact not_poolMember_brace _ hmember

/-- The words of a redirect's targets read back as the targets. -/
theorem readTargets_targetWords (h : ∀ target ∈ targets, (GoNet.parseIP target).isSome = true)
    (behind : List String) :
    readTargets (targetWords targets ++ behind) = some (targets, behind) := by
  unfold targetWords
  split
  · rename_i target
    have hbrace : target ≠ "\x7b" := by
      rintro rfl
      exact absurd (h _ List.mem_cons_self) (by decide)
    simp [readTargets, hbrace]
  · have hmembers := forall₂_withCommas h
    have hother : ∀ word ∈ withCommas targets, (decide (word ≠ "\x7d")) = true :=
      fun word hword => decide_eq_true (ne_brace_of_mem hmembers word hword)
    rw [List.cons_append, List.append_assoc, readTargets, List.dropWhile_append_of_pos hother,
      List.takeWhile_append_of_pos hother]
    simp [map_poolMember hmembers]

theorem readTargetPort_turnWords (targets : List String) {port : String} {n : Int}
    (hport : atoi port = some n) :
    readTargetPort ("port" :: port :: turnWords targets) = some n := by
  rcases turnWords_cases targets with h | h <;> simp [h, readTargetPort, hport]

/-- The words of a redirect read back as the redirect. -/
theorem readRule_rdrWords (hr : r.validate = .ok ())
    (htargets : ∀ target ∈ targets, (GoNet.parseIP target).isSome = true) (iface : String) :
    readRule (rdrWords r targets iface) =
      some (.rdr iface r.protocol r.clusterIP r.port targets r.targetPort) := by
  obtain ⟨-, -, ⟨hport, hport'⟩, htarget, htarget'⟩ := ServiceRule.validate_parts hr
  have hread := readTargets_targetWords htargets
    ("port" :: toString r.targetPort :: turnWords targets)
  have hbehind := readTargetPort_turnWords targets (atoi_port htarget htarget')
  rw [rdrWords]
  simp only [List.cons_append, List.nil_append]
  rw [readRule, atoi_port hport hport', hread]
  change (readTargetPort ("port" :: toString r.targetPort :: turnWords targets)).bind _ = _
  rw [hbehind]
  rfl

theorem exists_rdrLine (hr : r.validate = .ok ()) (htargets : ∀ target ∈ targets, IsWord target)
    (hiface : IsWord iface) :
    ∃ text : String, rdrLine r targets iface = text ++ "\n" ∧ text.toList.head? = some 'r' ∧
      Worded text.toList (rdrWords r targets iface) := by
  have hwords := isWord_rdrWords hr htargets hiface
  by_cases hne : targets = []
  · subst hne
    have hmany : ∀ target : String, [] ≠ [target] := by simp
    rw [rdrWords_pool r hmany] at hwords ⊢
    rw [List.forall_mem_append, List.forall_mem_append] at hwords
    refine ⟨_, rdrLine_pool r hmany iface, ?_, ?_⟩
    · rw [String.toList_ofList]
      rfl
    · rw [String.toList_ofList]
      exact (worded_unwords hwords.1).append
        ((worded_unwords hwords.2.1).append (worded_unwords hwords.2.2))
  · refine ⟨_, rdrLine_eq r hne iface, ?_, ?_⟩
    · rw [String.toList_ofList]
      rfl
    · rw [String.toList_ofList]
      exact worded_unwords hwords

theorem reads_rdrLine (hr : r.validate = .ok ())
    (htargets : ∀ target ∈ targets, (GoNet.parseIP target).isSome = true) (hiface : IsWord iface) :
    Reads readLine (rdrLine r targets iface)
      [.rdr iface r.protocol r.clusterIP r.port targets r.targetPort] := by
  have hwords : ∀ target ∈ targets, IsWord target :=
    fun target htarget => isWord_of_isAddress (htargets target htarget)
  obtain ⟨text, htext, hhead, hworded⟩ := exists_rdrLine hr hwords hiface
  rw [htext]
  exact reads_rule hhead (by decide) hworded (readRule_rdrWords hr htargets iface)

theorem ServiceRule.parseIP_of_mem (h : r.validate = .ok ()) {ip : String} (hip : ip ∈ r.backends) :
    (GoNet.parseIP ip).isSome = true := by
  unfold ServiceRule.validate at h
  iterate 5
    split at h
    · cases h
  split at h
  · cases h
  · rename_i hnone
    have hparse := List.find?_eq_none.mp hnone ip hip
    rw [Option.isSome_iff_ne_none]
    simpa using hparse

/-- The lines written for a service rule read back as one redirect for each interface. -/
theorem reads_renderServiceRule (hr : r.validate = .ok ()) (hkey : '\n' ∉ r.serviceKey.toList)
    {ifaces : List String} (hifaces : ∀ iface ∈ ifaces, IsWord iface)
    (hvmip : ∀ ip vm, vmip ip = some vm → (GoNet.parseIP vm).isSome = true) :
    Reads readLine (renderServiceRule ifaces vmip r) (ifaces.map fun iface =>
      .rdr iface r.protocol r.clusterIP r.port (r.targets vmip) r.targetPort) := by
  have htargets : ∀ target ∈ (r.targets vmip).insertionSort (· ≤ ·),
      (GoNet.parseIP target).isSome = true := by
    intro target htarget
    rw [List.mem_insertionSort, ServiceRule.targets, List.mem_map] at htarget
    obtain ⟨ip, hip, rfl⟩ := htarget
    cases hvm : vmip ip with
    | none => exact ServiceRule.parseIP_of_mem hr hip
    | some vm => exact hvmip ip vm hvm
  have hsorted : (((r.targets vmip).insertionSort (· ≤ ·) : List String) : Multiset String) =
      r.targets vmip := Multiset.coe_eq_coe.mpr (List.perm_insertionSort _ _)
  have hlines : ∀ iface ∈ ifaces,
      Reads readLine (rdrLine r ((r.targets vmip).insertionSort (· ≤ ·)) iface)
        [.rdr iface r.protocol r.clusterIP r.port (r.targets vmip) r.targetPort] := by
    intro iface hiface
    rw [← hsorted]
    exact reads_rdrLine hr htargets (hifaces iface hiface)
  have hjoined := Reads.join hlines
  rw [← List.map_eq_flatMap] at hjoined
  exact (reads_comment (ServiceRule.newline_not_mem_summary hr hkey)).skip hjoined

theorem reads_renderAnchor {meshIface : String} {endpoints : List Endpoint}
    (hkey : ∀ ep ∈ endpoints, '\n' ∉ ep.podKey.toList)
    (hep : ∀ ep ∈ endpoints, ep.validate = .ok ())
    (hifaces : ∀ ep ∈ endpoints, ∀ name ∈ endpointBinatInterfaces iface meshIface ep, IsWord name) :
    Reads readLine (renderAnchor iface meshIface endpoints) (endpoints.flatMap fun ep =>
      (endpointBinatInterfaces iface meshIface ep).map fun name =>
        .binat name ep.vmIP ep.podIP) := by
  have hheader : Reads readLine "# Managed by macvz (issue #22). Do not edit by hand.\n" [] := by
    rw [header_eq]
    apply reads_comment
    decide
  exact hheader.skip (Reads.join fun ep hmem =>
    reads_renderEndpoint (hkey ep hmem) (hep ep hmem) (hifaces ep hmem))

/-- The lines written for the services read back as their redirects. -/
theorem reads_renderServiceRules (hsort : ∀ rules, (sortRules rules).Perm rules)
    {ifaces : List String} (hne : ifaces ≠ []) (hservices : ∀ service ∈ services, ∀ r ∈ service.2,
      r.validate = .ok () ∧ '\n' ∉ r.serviceKey.toList) (hifaces : ∀ iface ∈ ifaces, IsWord iface)
    (hvmip : ∀ ip vm, vmip ip = some vm → (GoNet.parseIP vm).isSome = true) :
    Reads readLine (renderServiceRules sortRules ifaces services vmip)
      ((services.insertionSort (fun a b => a.1 ≤ b.1)).flatMap fun service =>
        (sortRules service.2).flatMap fun r => ifaces.map fun iface =>
          .rdr iface r.protocol r.clusterIP r.port (r.targets vmip) r.targetPort) := by
  rw [renderServiceRules, if_neg hne]
  refine Reads.join fun service hservice => Reads.join fun r hr => ?_
  rw [List.mem_insertionSort] at hservice
  obtain ⟨hvalid, hkey⟩ := hservices service hservice r ((hsort _).mem_iff.mp hr)
  exact reads_renderServiceRule hvalid hkey hifaces hvmip

theorem coe_sortedInterfaces (names : List String) :
    (sortedInterfaces names : Multiset String) = (names.toFinset.erase "").val := by
  refine (Multiset.Nodup.ext ?_ (Finset.nodup _)).mpr fun name => ?_
  · exact (List.perm_insertionSort _ _).nodup_iff.mpr (List.nodup_dedup _)
  · rw [Multiset.mem_coe, mem_sortedInterfaces, Finset.mem_val, Finset.mem_erase,
      List.mem_toFinset, and_comm]

theorem coe_endpointBinatInterfaces (cfg : Config) (ep : Endpoint) :
    (endpointBinatInterfaces cfg.interface cfg.meshInterface ep : Multiset String) =
      (cfg.translated ep).val := by
  rw [endpointBinatInterfaces, coe_sortedInterfaces, List.toFinset_cons]
  rfl

section

variable {rt : Router} {entries : List (String × Endpoint)}

theorem coe_map_snd {V : Type} {table : Table V} {entries : List (String × V)}
    (h : Enumerates table entries) :
    (entries.map Prod.snd : Multiset V) = table.entries.map fun e => e.2 := by
  rw [← Multiset.map_coe, h, Multiset.map_map]
  rfl

theorem coe_vmnetInterfaces (h : Enumerates rt.endpoints entries) :
    (vmnetInterfaces rt.cfg (entries.map Prod.snd) : Multiset String) = rt.entrances.val := by
  have hnames : ((entries.map Prod.snd).map Endpoint.interface).toFinset =
      (rt.endpoints.entries.map fun e => e.2.interface).toFinset := by
    rw [← List.toFinset_coe, ← Multiset.map_coe, coe_map_snd h, Multiset.map_map]
    rfl
  rw [vmnetInterfaces, coe_sortedInterfaces, List.toFinset_cons, hnames]
  rfl

theorem coe_binats (h : Enumerates rt.endpoints entries) :
    (((entries.map Prod.snd).insertionSort (fun a b => a.podKey ≤ b.podKey)).flatMap fun ep =>
        (endpointBinatInterfaces rt.cfg.interface rt.cfg.meshInterface ep).map fun name =>
          PFRule.binat name ep.vmIP ep.podIP : Multiset PFRule) =
      rt.endpoints.entries.bind fun e =>
        (rt.cfg.translated e.2).val.map fun iface => .binat iface e.2.vmIP e.2.podIP := by
  have hsorted : ((entries.map Prod.snd).insertionSort (fun a b => a.podKey ≤ b.podKey) :
      Multiset Endpoint) = rt.endpoints.entries.map fun e => e.2 :=
    (Multiset.coe_eq_coe.mpr (List.perm_insertionSort _ _)).trans (coe_map_snd h)
  rw [← Multiset.coe_bind, hsorted, Multiset.bind_map]
  simp only [← Multiset.map_coe, coe_endpointBinatInterfaces]

theorem coe_rdrs (hsort : ∀ rules, (sortRules rules).Perm rules)
    (h : Enumerates rt.endpoints entries) (hservices : Enumerates rt.services services)
    {address : String → String} (haddress : ∀ ip, address ip = (vmip ip).getD ip) :
    ((services.insertionSort (fun a b => a.1 ≤ b.1)).flatMap fun service =>
        (sortRules service.2).flatMap fun r =>
          (vmnetInterfaces rt.cfg (entries.map Prod.snd)).map fun iface =>
            PFRule.rdr iface r.protocol r.clusterIP r.port (r.targets vmip) r.targetPort :
      Multiset PFRule) =
      rt.services.entries.bind fun e => (e.2 : Multiset ServiceRule).bind fun r =>
        rt.entrances.val.map fun iface => .rdr iface r.protocol r.clusterIP r.port
          ((r.backends : Multiset String).map address) r.targetPort := by
  have hsorted : (services.insertionSort (fun a b => a.1 ≤ b.1) :
      Multiset (String × List ServiceRule)) = rt.services.entries.map fun e => (e.1, e.2) :=
    (Multiset.coe_eq_coe.mpr (List.perm_insertionSort _ _)).trans hservices
  have hrules (rules : List ServiceRule) : (sortRules rules : Multiset ServiceRule) = rules :=
    Multiset.coe_eq_coe.mpr (hsort rules)
  have htargets (r : ServiceRule) : (r.targets vmip : Multiset String) =
      (r.backends : Multiset String).map address := by
    rw [ServiceRule.targets, ← Multiset.map_coe, funext haddress]
  rw [← Multiset.coe_bind, hsorted, Multiset.bind_map]
  simp only [← Multiset.coe_bind, hrules, ← Multiset.map_coe, coe_vmnetInterfaces h, htargets]

end

theorem addresses_of_enumerates {rt : Router} (hrt : rt.WellFormed)
    {entries : List (String × Endpoint)} (h : Enumerates rt.endpoints entries) :
    rt.Addresses fun ip => (vmipByPodIP (entries.map Prod.snd) ip).getD ip := by
  have hmem (ep : Endpoint) : ep ∈ entries.map Prod.snd ↔ ∃ e ∈ rt.endpoints.entries, e.2 = ep := by
    rw [← Multiset.mem_coe, coe_map_snd h, Multiset.mem_map]
  refine ⟨fun e he => ?_, fun ip hother => ?_⟩
  · cases hvm : vmipByPodIP (entries.map Prod.snd) e.2.podIP with
    | none => exact absurd rfl (vmipByPodIP_eq_none hvm e.2 ((hmem e.2).mpr ⟨e, he, rfl⟩))
    | some vm =>
      obtain ⟨ep, hep, hip, rfl⟩ := exists_of_vmipByPodIP hvm
      obtain ⟨e', he', rfl⟩ := (hmem ep).mp hep
      rw [hrt.distinct e' he' e he hip]
      rfl
  · cases hvm : vmipByPodIP (entries.map Prod.snd) ip with
    | none => rfl
    | some vm =>
      obtain ⟨ep, hep, hip, -⟩ := exists_of_vmipByPodIP hvm
      obtain ⟨e', he', rfl⟩ := (hmem ep).mp hep
      exact absurd hip (hother e' he')

theorem Router.WellFormed.isWord_binat {rt : Router} (h : rt.WellFormed)
    (hep : ep.interface = "" ∨ IsWord ep.interface) :
    ∀ name ∈ endpointBinatInterfaces rt.cfg.interface rt.cfg.meshInterface ep, IsWord name := by
  intro name hname
  obtain ⟨hmem, hne⟩ := mem_sortedInterfaces.mp hname
  simp only [List.mem_cons, List.not_mem_nil, or_false] at hmem
  rcases hmem with rfl | rfl
  · split
    · exact h.interface
    · rename_i hown
      exact hep.resolve_left hown
  · exact h.mesh.resolve_left hne

theorem Router.WellFormed.isWord_entrance {rt : Router} (h : rt.WellFormed)
    {endpoints : List Endpoint} (hep : ∀ ep ∈ endpoints, ep.interface = "" ∨ IsWord ep.interface) :
    ∀ name ∈ vmnetInterfaces rt.cfg endpoints, IsWord name := by
  intro name hname
  obtain ⟨hmem, hne⟩ := mem_sortedInterfaces.mp hname
  rcases List.mem_cons.mp hmem with rfl | hmem
  · exact h.interface
  · obtain ⟨ep, hep', rfl⟩ := List.mem_map.mp hmem
    exact (hep ep hep').resolve_left hne

/-- The anchor written for a well-formed router reads back as the rules it stands for. -/
theorem ruleset_reads_back {rt : Router} (h : rt.WellFormed)
    (hsort : ∀ rules, (sortRules rules).Perm rules) {entries : List (String × Endpoint)}
    (hentries : Enumerates rt.endpoints entries) (hservices : Enumerates rt.services services) :
    ∃ rules, readAnchor (ruleset sortRules rt.cfg (entries.map Prod.snd) services) = some rules ∧
      (rules : Multiset PFRule) =
        rt.expected fun ip => (vmipByPodIP (entries.map Prod.snd) ip).getD ip := by
  have hep : ∀ ep ∈ entries.map Prod.snd, ep.validate = .ok () ∧ '\n' ∉ ep.podKey.toList ∧
      (ep.interface = "" ∨ IsWord ep.interface) := by
    intro ep hmem
    rw [← Multiset.mem_coe, coe_map_snd hentries, Multiset.mem_map] at hmem
    obtain ⟨e, he, rfl⟩ := hmem
    exact h.endpoint e he
  have hsorted : ∀ ep ∈ (entries.map Prod.snd).insertionSort (fun a b => a.podKey ≤ b.podKey),
      ep.validate = .ok () ∧ '\n' ∉ ep.podKey.toList ∧
        (ep.interface = "" ∨ IsWord ep.interface) := by
    intro ep hmem
    rw [List.mem_insertionSort] at hmem
    exact hep ep hmem
  have hrules : ∀ service ∈ services, ∀ r ∈ service.2,
      r.validate = .ok () ∧ '\n' ∉ r.serviceKey.toList := by
    intro service hmem
    rw [mem_enumeration hservices, Finmap.lookup_eq_some_iff] at hmem
    exact h.rule _ hmem
  have hne : vmnetInterfaces rt.cfg (entries.map Prod.snd) ≠ [] :=
    List.ne_nil_of_mem (mem_sortedInterfaces.mpr ⟨List.mem_cons_self, h.interface.1⟩)
  have hvmip : ∀ ip vm, vmipByPodIP (entries.map Prod.snd) ip = some vm →
      (GoNet.parseIP vm).isSome = true := by
    intro ip vm hvm
    obtain ⟨ep, hmem, -, rfl⟩ := exists_of_vmipByPodIP hvm
    exact (Endpoint.validate_parts (hep ep hmem).1).2
  have hbinats := reads_renderAnchor (fun ep hmem => (hsorted ep hmem).2.1)
    (fun ep hmem => (hsorted ep hmem).1) fun ep hmem => h.isWord_binat (hsorted ep hmem).2.2
  have hrdrs := reads_renderServiceRules hsort hne hrules
    (h.isWord_entrance fun ep hmem => (hep ep hmem).2.2) hvmip
  refine ⟨_, (hbinats.append hrdrs).all rfl, ?_⟩
  rw [← Multiset.coe_add, coe_binats hentries, coe_rdrs hsort hentries hservices fun _ => rfl]
  rfl

/-- The text the router loads, read line by line, holds the translations of its endpoints and the
redirects of its Services, and nothing else. -/
theorem anchor_reads_back (host : Host) (s : Session) (h : s.router.WellFormed) :
    ∃ rules address, readAnchor (currentRules host s) = some rules ∧
      s.router.Addresses address ∧ (rules : Multiset PFRule) = s.router.expected address := by
  have hentries := host.enumerate_spec s.issued s.router.endpoints
  have hservices := host.enumerate_spec s.issued s.router.services
  obtain ⟨rules, hread, hexpected⟩ := ruleset_reads_back h host.sortRules_perm hentries hservices
  exact ⟨rules, _, hread, addresses_of_enumerates h hentries, hexpected⟩

namespace AnchorWitness

def endpoint : Endpoint := ⟨"default/web", "10.244.1.2", "192.168.64.5", ""⟩

/-- One backend is the Pod of the endpoint, the other runs elsewhere. -/
def rule : ServiceRule :=
  ⟨"default/web", "10.96.0.10", "tcp", 80, 8080, ["10.244.1.2", "10.244.2.7"]⟩

def router : Router :=
  ⟨⟨"bridge100", "utun4", "macvz/pods", true⟩, true,
    (∅ : Table Endpoint).insert "default/web" endpoint,
    (∅ : Table (List ServiceRule)).insert "default/web" [rule]⟩

theorem endpoints_entries : router.endpoints.entries = {⟨"default/web", endpoint⟩} := rfl

theorem services_entries : router.services.entries = {⟨"default/web", [rule]⟩} := rfl

theorem router_wellFormed : router.WellFormed where
  interface := by decide
  mesh := by decide
  endpoint := by
    decide
  rule := by
    decide
  distinct := by
    rw [endpoints_entries]
    simp only [Multiset.mem_singleton]
    rintro e rfl e' rfl -
    rfl

end AnchorWitness

open AnchorWitness in
/-- An endpoint without an interface of its own, and a Service with one of its Pods on this
node. -/
theorem anchor_reads_back_pool : ∃ rules,
    readAnchor (currentRules (hostAnswering fun _ _ => .ok "") ⟨router, []⟩) = some rules ∧
      (rules : Multiset PFRule) = {.binat "bridge100" "192.168.64.5" "10.244.1.2",
        .binat "utun4" "192.168.64.5" "10.244.1.2",
        .rdr "bridge100" "tcp" "10.96.0.10" 80 {"192.168.64.5", "10.244.2.7"} 8080} := by
  obtain ⟨rules, address, hread, haddress, hrules⟩ :=
    anchor_reads_back (hostAnswering fun _ _ => .ok "") ⟨router, []⟩ router_wellFormed
  have hlocal : address "10.244.1.2" = "192.168.64.5" :=
    haddress.attached ⟨"default/web", endpoint⟩ (by rw [endpoints_entries]; simp)
  have hremote : address "10.244.2.7" = "10.244.2.7" := by
    apply haddress.elsewhere
    rw [endpoints_entries]
    simp only [Multiset.mem_singleton, forall_eq]
    decide
  have htranslated : (router.cfg.translated endpoint).val = {"bridge100", "utun4"} := by decide
  have hentrances : router.entrances.val = {"bridge100"} := by decide
  have hbackends : (rule.backends : Multiset String).map address =
      {"192.168.64.5", "10.244.2.7"} := by
    rw [Multiset.map_coe, rule, List.map_cons, List.map_cons, hlocal, hremote]
    rfl
  have hone : ((⟨"default/web", [rule]⟩ : (_ : String) × List ServiceRule).2 :
      Multiset ServiceRule) = {rule} := rfl
  refine ⟨rules, hread, hrules.trans ?_⟩
  rw [Router.expected, endpoints_entries, services_entries, Multiset.singleton_bind,
    Multiset.singleton_bind, hone, Multiset.singleton_bind, htranslated, hentrances, hbackends]
  rfl

end Podnet

end MacVz
