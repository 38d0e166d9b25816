/-
The grammar of the privileged helper: which requests a policy permits, said
without the linters.  A request is accepted exactly when it has one of the
permitted shapes, so nothing outside the resources of the policy is reached.
-/
import MacVz.HelperPolicy

namespace MacVz

namespace Privhelper

open Checks GoStrings
open Podnet (Table)

/-- The address lies in a network some member of the set denotes. -/
def Inside (ip : String) (cidrs : Table Bool) : Prop := ∃ cidr ∈ cidrs, Within ip cidr

/-- The range is one of those configured. -/
def Configured (cidr : String) (cidrs : Table Bool) : Prop :=
  ∃ written net, parseCIDR cidr = some (written, net) ∧ holds cidrs net.string = true

/-- A bridge of the container runtime: `bridge<digits>`. -/
def IsBridge (iface : String) : Prop :=
  ∃ digits : List Char, digits ≠ [] ∧ (∀ c ∈ digits, GoNet.isDigit c = true) ∧
    iface.toList = "bridge".toList ++ digits

/-- One member of a pool of redirect targets, with or without its comma. -/
def PoolMember (field target : String) : Prop :=
  target.toList = trimSuffix [','] field.toList ∧ (GoNet.parseIP target).isSome = true

/-- The tokens of the redirect targets: one address, or a pool in braces. -/
inductive Targets : List String → List String → Prop
  | single {target : String} (hip : (GoNet.parseIP target).isSome = true) :
      Targets [target] [target]
  | pool {fields targets : List String} (hne : fields ≠ [])
      (hmembers : List.Forall₂ PoolMember fields targets) :
      Targets ("\x7b" :: (fields ++ ["\x7d"])) targets

namespace Policy

variable (p : Policy)

/-- The interface of the micro-VMs, or a bridge. -/
def OnVMNet (iface : String) : Prop :=
  p.vmnetInterface ≠ "" ∧ (iface = p.vmnetInterface ∨ IsBridge iface)

def OnMesh (iface : String) : Prop := p.meshInterface ≠ "" ∧ iface = p.meshInterface

/-- The lines of an anchor a policy permits, word by word. -/
inductive Rule : List String → Prop
  | binat {iface vmIP podIP : String} {tag : List String}
      (hiface : p.OnVMNet iface ∨ p.OnMesh iface) (htag : tag = [] ∨ tag = ["inet"])
      (hvm : Inside vmIP p.vmnetCIDRs) (hpod : Inside podIP p.podCIDRs) :
      Rule (["binat", "on", iface] ++ tag ++ ["from", vmIP, "to", "any", "->", podIP])
  | rdr {iface proto clusterIP port targetPort : String}
      {tokens targets trailing : List String} (hiface : p.OnVMNet iface)
      (hproto : proto = "tcp" ∨ proto = "udp")
      (hcluster : (GoNet.parseIP clusterIP).isSome = true)
      (hport : (atoi port).isSome = true) (htargetPort : (atoi targetPort).isSome = true)
      (htrailing : trailing = [] ∨ trailing = ["round-robin"])
      (htargets : Targets tokens targets)
      (hinside : ∀ target ∈ targets, Inside target p.podCIDRs ∨ Inside target p.vmnetCIDRs) :
      Rule (["rdr", "on", iface, "inet", "proto", proto, "from", "any", "to", clusterIP,
        "port", port, "->"] ++ (tokens ++ "port" :: targetPort :: trailing))

/-- Every line is empty, a comment or a permitted rule. -/
def Ruleset (text : String) : Prop :=
  ∀ raw ∈ lines text, trimSpace raw = [] ∨ (trimSpace raw).head? = some '#' ∨
    p.Rule (fields (trimSpace raw))

/-- A setting of a WireGuard configuration names only known peers and networks. -/
def Setting (key val : List Char) : Prop :=
  (key = "PublicKey".toList → holds p.peerPublicKeys (String.ofList val) = true) ∧
    (key = "AllowedIPs".toList → ∀ raw ∈ val.splitOn ',',
      Configured (String.ofList (trimSpace raw)) p.routeCIDRs)

/-- A WireGuard configuration: every line is blank, a comment, the head of a
section or a setting. -/
def WireGuardConfig (text : String) : Prop :=
  ∀ raw ∈ lines text, trimSpace raw = [] ∨ (trimSpace raw).head? = some '#' ∨
    (trimSpace raw).head? = some '[' ∨
    ∃ key val, cut '=' (trimSpace raw) = some (key, val) ∧
      p.Setting (trimSpace key) (trimSpace val)

/-- The commands a policy permits. -/
inductive Permitted : Request → Prop
  | osType : Permitted ⟨"sysctl", ["-n", "kern.ostype"], ""⟩
  | forwarding {setting : String} (hvmnet : p.vmnetInterface ≠ "")
      (hsetting : setting = "net.inet.ip.forwarding=1" ∨ setting = "net.inet.ip.forwarding=0") :
      Permitted ⟨"sysctl", ["-w", setting], ""⟩
  | enable : Permitted ⟨"pfctl", ["-e"], ""⟩
  | flush (hanchor : p.anchor ≠ "") : Permitted ⟨"pfctl", ["-a", p.anchor, "-F", "all"], ""⟩
  | load {rules : String} (hanchor : p.anchor ≠ "") (hvmnet : p.vmnetInterface ≠ "")
      (hrules : p.Ruleset rules) : Permitted ⟨"pfctl", ["-a", p.anchor, "-f", "-"], rules⟩
  | lookup {ip : String} (hip : Inside ip p.vmnetCIDRs) :
      Permitted ⟨"route", ["-n", "get", ip], ""⟩
  | meshRoute {op family target : String} (hmesh : p.meshInterface ≠ "")
      (hop : op = "add" ∨ op = "delete") (hfamily : family = "-inet" ∨ family = "-inet6")
      (htarget : Configured target p.routeCIDRs) :
      Permitted ⟨"route", ["-q", "-n", op, family, target, "-interface", p.meshInterface], ""⟩
  | defaultRoute {iface : String} (hiface : p.OnVMNet iface) :
      Permitted ⟨"route", ["-q", "-n", "delete", "-inet", "default", "-ifscope", iface], ""⟩
  | address {addr dest : String} (hmesh : p.meshInterface ≠ "")
      (haddr : ipEqual addr p.meshAddressIP = true)
      (hdest : ipEqual dest p.meshAddressIP = true) :
      Permitted ⟨"ifconfig", [p.meshInterface, "inet", addr, dest, "alias"], ""⟩
  | mtu {text : String} {n : Int} (hmesh : p.meshInterface ≠ "") (hn : atoi text = some n)
      (hpos : 0 < n) (hmtu : 0 < p.mtu → n = p.mtu) :
      Permitted ⟨"ifconfig", [p.meshInterface, "mtu", text], ""⟩
  | link {state : String} (hmesh : p.meshInterface ≠ "")
      (hstate : state = "up" ∨ state = "down" ∨ state = "destroy") :
      Permitted ⟨"ifconfig", [p.meshInterface, state], ""⟩
  | configure {op text : String} (hmesh : p.meshInterface ≠ "")
      (hop : op = "setconf" ∨ op = "syncconf") (htext : p.WireGuardConfig text) :
      Permitted ⟨"wg", [op, p.meshInterface, "/dev/stdin"], text⟩
  | create (hmesh : p.meshInterface ≠ "") : Permitted ⟨"wireguard-go", [p.meshInterface], ""⟩
  | kill (hmesh : p.meshInterface ≠ "") :
      Permitted ⟨"pkill", ["-f", "wireguard-go " ++ p.meshInterface], ""⟩

end Policy

theorem inNetwork_eq_true (addr : Nat) (cidr : String) : inNetwork addr cidr = true ↔
    ∃ written net, parseCIDR cidr = some (written, net) ∧ net.contains addr = true := by
  unfold inNetwork
  split
  · rename_i hparse
    simp [hparse]
  · rename_i hparse
    simp [hparse]

@[simp]
theorem ipInSet_eq_true (ip : String) (cidrs : Table Bool) :
    ipInSet ip cidrs = true ↔ Inside ip cidrs := by
  cases hip : GoNet.parseIP ip with
  | none => simp [ipInSet, Inside, Within, hip]
  | some addr => simp [ipInSet, Inside, Within, hip, inNetwork_eq_true, Finmap.mem_keys]

@[simp]
theorem checkIPInSet_eq_ok (ip : String) (cidrs : Table Bool) (desc : String) :
    checkIPInSet ip cidrs desc = .ok () ↔ Inside ip cidrs := by
  simp [checkIPInSet]

@[simp]
theorem isBridgeInterface_eq_true (iface : String) :
    isBridgeInterface iface = true ↔ IsBridge iface := by
  unfold isBridgeInterface IsBridge
  split
  · rename_i digits hcut
    rw [cutBeginning_eq_some] at hcut
    rw [hcut]
    simp
  · rename_i hcut
    simp only [Bool.false_eq_true, false_iff, not_exists, not_and]
    intro digits _ _ hdigits
    rw [← cutBeginning_eq_some, hcut] at hdigits
    cases hdigits

theorem normalizeCIDR_eq_some {cidr norm : String} : normalizeCIDR cidr = some norm ↔
    ∃ written net, parseCIDR cidr = some (written, net) ∧ net.string = norm := by
  simp [normalizeCIDR]

theorem configured_iff {cidr : String} {cidrs : Table Bool} : Configured cidr cidrs ↔
    ∃ norm, normalizeCIDR cidr = some norm ∧ holds cidrs norm = true := by
  constructor
  · rintro ⟨written, net, hparse, hmember⟩
    exact ⟨net.string, normalizeCIDR_eq_some.mpr ⟨written, net, hparse, rfl⟩, hmember⟩
  · rintro ⟨norm, hnorm, hmember⟩
    obtain ⟨written, net, hparse, rfl⟩ := normalizeCIDR_eq_some.mp hnorm
    exact ⟨written, net, hparse, hmember⟩

theorem poolTarget_eq_ok (field target : String) :
    Policy.poolTarget field = .ok target ↔ PoolMember field target := by
  have hempty : GoNet.parseIP "" = none := rfl
  unfold Policy.poolTarget PoolMember
  dsimp only
  split
  · rename_i hbad
    simp only [reduceCtorEq, false_iff, not_and]
    intro htarget
    rw [← htarget, String.ofList_toList] at hbad
    rcases hbad with rfl | hnone
    · simp [hempty]
    · simp [hnone]
  · rename_i hgood
    rw [not_or] at hgood
    constructor
    · intro htarget
      rw [← Except.ok.inj htarget]
      exact ⟨String.toList_ofList, Option.isSome_iff_ne_none.mpr hgood.2⟩
    · rintro ⟨htarget, _⟩
      rw [← htarget, String.ofList_toList]

/-- `parseRDRTargets` accepts exactly the targets of the grammar. -/
theorem parseRDRTargets_eq_ok (tokens targets : List String) :
    Policy.parseRDRTargets tokens = .ok targets ↔ Targets tokens targets := by
  have hbrace : GoNet.parseIP "\x7b" = none := rfl
  constructor
  · intro h
    unfold Policy.parseRDRTargets at h
    split at h
    · cases h
    · split at h
      · cases h
      · rename_i hshape
        rw [not_or, not_not] at hshape
        rw [mapM_eq_ok] at h
        simp only [poolTarget_eq_ok] at h
        obtain ⟨hlen, hlast⟩ := hshape
        rw [← List.dropLast_append_getLast? _ hlast] at hlen ⊢
        refine Targets.pool ?_ h
        intro hnil
        simp [hnil] at hlen
    · split at h
      · cases h
      · rename_i hip
        cases h
        exact Targets.single (Option.isSome_iff_ne_none.mpr hip)
    · cases h
  · intro h
    cases h with
    | @single target hip =>
      have hsome := Option.isSome_iff_ne_none.mp hip
      unfold Policy.parseRDRTargets
      split
      · contradiction
      · simp_all
      · simp_all
      · simp_all
    | @pool fields _ hne hmembers =>
      have hlen := List.length_pos_iff.mpr hne
      rw [Policy.parseRDRTargets, if_neg (by simp; omega), List.dropLast_concat, mapM_eq_ok]
      simpa only [poolTarget_eq_ok] using hmembers

namespace Policy

variable (p : Policy)

@[simp]
theorem checkMeshInterface_eq_ok (iface : String) :
    p.checkMeshInterface iface = .ok () ↔ p.OnMesh iface := by
  simp [checkMeshInterface, OnMesh]

@[simp]
theorem checkVMNetInterface_eq_ok (iface : String) :
    p.checkVMNetInterface iface = .ok () ↔ p.OnVMNet iface := by
  simp [checkVMNetInterface, OnVMNet]

@[simp]
theorem checkPodNATInterface_eq_ok (iface : String) :
    p.checkPodNATInterface iface = .ok () ↔ p.OnVMNet iface ∨ p.OnMesh iface := by
  unfold checkPodNATInterface
  split
  · rename_i hok
    simp [(p.checkVMNetInterface_eq_ok iface).mp hok]
  · rename_i herror
    have hoff : ¬ p.OnVMNet iface := by
      rw [← checkVMNetInterface_eq_ok, herror]
      exact fun h => by cases h
    simp [hoff, OnMesh]

@[simp]
theorem checkAnchor_eq_ok (anchor : String) :
    p.checkAnchor anchor = .ok () ↔ p.anchor ≠ "" ∧ anchor = p.anchor := by
  simp [checkAnchor]

@[simp]
theorem checkRouteCIDR_eq_ok (target : String) :
    p.checkRouteCIDR target = .ok () ↔ Configured target p.routeCIDRs := by
  rw [configured_iff, checkRouteCIDR]
  cases normalizeCIDR target <;> simp

@[simp]
theorem lintAllowedIP_eq_ok (raw : List Char) :
    p.lintAllowedIP raw = .ok () ↔ Configured (String.ofList (trimSpace raw)) p.routeCIDRs := by
  rw [configured_iff, lintAllowedIP]
  cases normalizeCIDR (String.ofList (trimSpace raw)) <;> simp

@[simp]
theorem checkMTU_eq_ok (text : String) : p.checkMTU text = .ok () ↔
    ∃ n, atoi text = some n ∧ 0 < n ∧ (0 < p.mtu → n = p.mtu) := by
  unfold checkMTU
  cases atoi text with
  | none => simp
  | some n =>
    simp only [then_eq_ok, demand_eq_ok, Option.some.injEq, exists_eq_left']
    constructor
    · rintro ⟨hpos, hmtu⟩
      exact ⟨hpos, fun hset => by omega⟩
    · rintro ⟨hpos, hmtu⟩
      exact ⟨hpos, by omega⟩

/-- `lintBinatRule` accepts exactly the `binat` rules of the grammar. -/
theorem lintBinatRule_eq_ok (rest : List String) : p.lintBinatRule rest = .ok () ↔
    ∃ tag vmIP podIP, (tag = [] ∨ tag = ["inet"]) ∧
      rest = tag ++ ["from", vmIP, "to", "any", "->", podIP] ∧
      Inside vmIP p.vmnetCIDRs ∧ Inside podIP p.podCIDRs := by
  constructor
  · intro h
    unfold lintBinatRule at h
    split at h
    · rename_i vmIP podIP hrest
      simp only [then_eq_ok, within_eq_ok, checkIPInSet_eq_ok] at h
      split at hrest
      · rename_i hinet
        obtain ⟨tail, rfl⟩ := List.head?_eq_some_iff.mp hinet
        exact ⟨["inet"], vmIP, podIP, Or.inr rfl, by rw [← hrest]; rfl, h⟩
      · exact ⟨[], vmIP, podIP, Or.inl rfl, hrest, h⟩
    · cases h
  · rintro ⟨tag, vmIP, podIP, rfl | rfl, rfl, h⟩
    · simpa [lintBinatRule] using h
    · simpa [lintBinatRule] using h

theorem port_not_mem_tokens {tokens targets : List String} (h : Targets tokens targets) :
    "port" ∉ tokens := by
  have hport : GoNet.parseIP "port" = none := rfl
  have htrim : trimSuffix [','] "port".toList = "port".toList := by decide
  cases h with
  | single hip =>
    simp only [List.mem_singleton]
    rintro rfl
    simp [hport] at hip
  | @pool fields _ hne hmembers =>
    simp only [List.mem_cons, List.mem_append, List.not_mem_nil, or_false, not_or]
    refine ⟨by decide, ?_, by decide⟩
    have hother : List.Forall₂ (fun field target => field ≠ "port" ∧ PoolMember field target)
        fields targets := by
      refine hmembers.imp fun field target hmember => ⟨?_, hmember⟩
      rintro rfl
      obtain ⟨htarget, hip⟩ := hmember
      rw [htrim, String.toList_inj] at htarget
      simp [htarget, hport] at hip
    exact fun hmem => ((List.forall₂_and_left _ _).mp hother).1 _ hmem rfl

theorem lintRDRTarget_eq_ok (rest : List String) : p.lintRDRTarget rest = .ok () ↔
    ∃ tokens targets targetPort trailing, rest = tokens ++ "port" :: targetPort :: trailing ∧
      (atoi targetPort).isSome = true ∧ (trailing = [] ∨ trailing = ["round-robin"]) ∧
      Targets tokens targets ∧
      ∀ target ∈ targets, Inside target p.podCIDRs ∨ Inside target p.vmnetCIDRs := by
  constructor
  · intro h
    unfold lintRDRTarget at h
    split at h
    · rename_i word targetPort trailing hdrop
      have hword : word = "port" := by
        have hhead := List.head?_dropWhile_not (fun w => decide (w ≠ "port")) rest
        rw [hdrop] at hhead
        simpa using hhead
      subst hword
      rw [then_eq_ok, then_eq_ok, bind_eq_ok] at h
      simp only [demand_eq_ok, parseRDRTargets_eq_ok, each_eq_ok, ipInSet_eq_true] at h
      obtain ⟨hport, htrailing, targets, htargets, hinside⟩ := h
      refine ⟨_, targets, targetPort, trailing, ?_, hport, htrailing, htargets, hinside⟩
      rw [← hdrop, List.takeWhile_append_dropWhile]
    · cases h
  · rintro ⟨tokens, targets, targetPort, trailing, rfl, hport, htrailing, htargets, hinside⟩
    have hbefore : ∀ w ∈ tokens, decide (w ≠ "port") = true := by
      intro w hw
      rw [decide_eq_true_iff]
      rintro rfl
      exact port_not_mem_tokens htargets hw
    rw [lintRDRTarget, List.dropWhile_append_of_pos hbefore, List.takeWhile_append_of_pos hbefore]
    simp only [List.dropWhile_cons, List.takeWhile_cons, ne_eq, not_true_eq_false, decide_false,
      Bool.false_eq_true, ↓reduceIte, List.append_nil]
    rw [then_eq_ok, then_eq_ok, bind_eq_ok]
    simp only [demand_eq_ok, parseRDRTargets_eq_ok, each_eq_ok, ipInSet_eq_true]
    exact ⟨hport, htrailing, targets, htargets, hinside⟩

/-- `lintRDRRule` accepts exactly the `rdr` rules of the grammar. -/
theorem lintRDRRule_eq_ok (rest : List String) : p.lintRDRRule rest = .ok () ↔
    ∃ proto clusterIP port tokens targets targetPort trailing,
      rest = ["inet", "proto", proto, "from", "any", "to", clusterIP, "port", port, "->"] ++
        (tokens ++ "port" :: targetPort :: trailing) ∧
      (proto = "tcp" ∨ proto = "udp") ∧ (GoNet.parseIP clusterIP).isSome = true ∧
      (atoi port).isSome = true ∧ (atoi targetPort).isSome = true ∧
      (trailing = [] ∨ trailing = ["round-robin"]) ∧ Targets tokens targets ∧
      ∀ target ∈ targets, Inside target p.podCIDRs ∨ Inside target p.vmnetCIDRs := by
  constructor
  · intro h
    unfold lintRDRRule at h
    split at h
    · rename_i proto clusterIP port behind
      simp only [then_eq_ok, demand_eq_ok, lintRDRTarget_eq_ok] at h
      obtain ⟨⟨-, hproto⟩, hcluster, hport, tokens, targets, targetPort, trailing, rfl, h⟩ := h
      exact ⟨proto, clusterIP, port, tokens, targets, targetPort, trailing, rfl, hproto,
        hcluster, hport, h⟩
    · cases h
  · rintro ⟨proto, clusterIP, port, tokens, targets, targetPort, trailing, rfl, hproto,
      hcluster, hport, htargetPort, htrailing, htargets, hinside⟩
    have htokens : 1 ≤ tokens.length := by cases htargets <;> simp
    simp only [lintRDRRule, List.cons_append, List.nil_append, then_eq_ok, demand_eq_ok,
      lintRDRTarget_eq_ok]
    refine ⟨⟨?_, hproto⟩, hcluster, hport, tokens, targets, targetPort, trailing, rfl,
      htargetPort, htrailing, htargets, hinside⟩
    simp only [List.length_append, List.length_cons]
    omega

/-- A line passes exactly where it is empty, a comment or a rule. -/
theorem lintAnchorLine_eq_ok (line : List Char) : p.lintAnchorLine line = .ok () ↔
    line = [] ∨ line.head? = some '#' ∨ p.Rule (fields line) := by
  unfold lintAnchorLine
  split
  · rename_i hskip
    simp only [true_iff]
    exact hskip.imp_right Or.inl
  · rename_i hskip
    obtain ⟨hblank, hcomment⟩ := not_or.mp hskip
    simp only [hblank, hcomment, false_or]
    constructor
    · intro h
      split at h
      · rename_i iface rest hfields
        simp only [then_eq_ok, within_eq_ok, checkPodNATInterface_eq_ok, lintBinatRule_eq_ok] at h
        obtain ⟨hiface, tag, vmIP, podIP, htag, rfl, hvm, hpod⟩ := h
        rw [hfields]
        simpa using Rule.binat hiface htag hvm hpod
      · rename_i iface rest hfields
        simp only [then_eq_ok, within_eq_ok, checkVMNetInterface_eq_ok, lintRDRRule_eq_ok] at h
        obtain ⟨hiface, proto, clusterIP, port, tokens, targets, targetPort, trailing, rfl,
          hproto, hcluster, hport, htargetPort, htrailing, htargets, hinside⟩ := h
        rw [hfields]
        exact Rule.rdr hiface hproto hcluster hport htargetPort htrailing htargets hinside
      · cases h
    · intro h
      generalize hfields : fields line = words at h
      cases h with
      | @binat iface vmIP podIP tag hiface htag hvm hpod =>
        simp only [List.cons_append, List.nil_append, then_eq_ok, within_eq_ok,
          checkPodNATInterface_eq_ok, lintBinatRule_eq_ok]
        exact ⟨hiface, tag, vmIP, podIP, htag, rfl, hvm, hpod⟩
      | @rdr iface proto clusterIP port targetPort tokens targets trailing hiface hproto
          hcluster hport htargetPort htrailing htargets hinside =>
          simp only [List.cons_append, List.nil_append, then_eq_ok, within_eq_ok,
            checkVMNetInterface_eq_ok, lintRDRRule_eq_ok]
          exact ⟨hiface, proto, clusterIP, port, tokens, targets, targetPort, trailing, rfl,
            hproto, hcluster, hport, htargetPort, htrailing, htargets, hinside⟩

@[simp]
theorem lintAnchorRuleset_eq_ok (text : String) :
    p.lintAnchorRuleset text = .ok () ↔ p.vmnetInterface ≠ "" ∧ p.Ruleset text := by
  simp [lintAnchorRuleset, lintAnchorLine_eq_ok, Ruleset]

@[simp]
theorem lintSetting_eq_ok (key val : List Char) :
    p.lintSetting key val = .ok () ↔ p.Setting key val := by
  unfold lintSetting Setting
  split
  · rename_i hkey
    simp [hkey]
  · rename_i hkey
    split
    · rename_i hallowed
      simp [hallowed]
    · rename_i hallowed
      simp only [true_iff]
      exact ⟨fun h => absurd h hkey, fun h => absurd h hallowed⟩

theorem lintWireGuardLine_eq_ok (line : List Char) : p.lintWireGuardLine line = .ok () ↔
    line = [] ∨ line.head? = some '#' ∨ line.head? = some '[' ∨
      ∃ key val, cut '=' line = some (key, val) ∧ p.Setting (trimSpace key) (trimSpace val) := by
  unfold lintWireGuardLine
  split
  · rename_i hskip
    simp only [true_iff]
    rcases hskip with hblank | hcomment | hsection
    · exact Or.inl hblank
    · exact Or.inr (Or.inl hcomment)
    · exact Or.inr (Or.inr (Or.inl hsection))
  · rename_i hskip
    simp only [not_or] at hskip
    rcases cut '=' line with _ | ⟨key, val⟩ <;> simp [hskip]

@[simp]
theorem lintWireGuardConfig_eq_ok (text : String) :
    p.lintWireGuardConfig text = .ok () ↔ p.WireGuardConfig text := by
  simp [lintWireGuardConfig, lintWireGuardLine_eq_ok, WireGuardConfig]

variable {p} {args : List String} {stdin : String}

theorem validateSysctl_sound (h : p.validateSysctl ⟨"sysctl", args, stdin⟩ = .ok ()) :
    p.Permitted ⟨"sysctl", args, stdin⟩ := by
  rw [validateSysctl, then_eq_ok, demand_eq_ok] at h
  obtain ⟨rfl, h⟩ := h
  dsimp only at h
  split at h
  · exact .osType
  · exact .forwarding (by simpa using h) (Or.inl rfl)
  · exact .forwarding (by simpa using h) (Or.inr rfl)
  · cases h

theorem validatePfctl_sound (h : p.validatePfctl ⟨"pfctl", args, stdin⟩ = .ok ()) :
    p.Permitted ⟨"pfctl", args, stdin⟩ := by
  unfold validatePfctl at h
  dsimp only at h
  split at h
  · rw [demand_eq_ok] at h
    subst h
    exact .enable
  · simp only [then_eq_ok, checkAnchor_eq_ok, demand_eq_ok] at h
    obtain ⟨⟨hanchor, rfl⟩, rfl⟩ := h
    exact .flush hanchor
  · simp only [then_eq_ok, checkAnchor_eq_ok, lintAnchorRuleset_eq_ok] at h
    obtain ⟨⟨hanchor, rfl⟩, hvmnet, hrules⟩ := h
    exact .load hanchor hvmnet hrules
  · cases h

theorem validateRoute_sound (h : p.validateRoute ⟨"route", args, stdin⟩ = .ok ()) :
    p.Permitted ⟨"route", args, stdin⟩ := by
  rw [validateRoute, then_eq_ok, demand_eq_ok] at h
  obtain ⟨rfl, h⟩ := h
  dsimp only at h
  split at h
  · exact .lookup ((checkIPInSet_eq_ok _ _ _).mp h)
  · simp only [then_eq_ok, demand_eq_ok] at h
    obtain ⟨hop, hfamily, h⟩ := h
    split at h
    · rename_i hdefault
      obtain ⟨rfl, rfl, rfl⟩ := hdefault
      simp only [then_eq_ok, demand_eq_ok, checkVMNetInterface_eq_ok] at h
      obtain ⟨rfl, hiface⟩ := h
      exact .defaultRoute hiface
    · simp only [then_eq_ok, demand_eq_ok, checkMeshInterface_eq_ok, checkRouteCIDR_eq_ok] at h
      obtain ⟨rfl, ⟨hmesh, rfl⟩, htarget⟩ := h
      exact .meshRoute hmesh hop hfamily htarget
  · cases h

theorem validateIfconfig_sound (h : p.validateIfconfig ⟨"ifconfig", args, stdin⟩ = .ok ()) :
    p.Permitted ⟨"ifconfig", args, stdin⟩ := by
  rw [validateIfconfig, then_eq_ok, demand_eq_ok] at h
  obtain ⟨rfl, h⟩ := h
  dsimp only at h
  split at h
  · cases h
  · rw [then_eq_ok, checkMeshInterface_eq_ok] at h
    obtain ⟨⟨hmesh, rfl⟩, h⟩ := h
    split at h
    · rw [demand_eq_ok] at h
      exact .address hmesh h.1 h.2
    · obtain ⟨n, hn, hpos, hmtu⟩ := (p.checkMTU_eq_ok _).mp h
      exact .mtu hmesh hn hpos hmtu
    · exact .link hmesh (Or.inl rfl)
    · exact .link hmesh (Or.inr (Or.inl rfl))
    · exact .link hmesh (Or.inr (Or.inr rfl))
    · cases h

theorem validateWG_sound (h : p.validateWG ⟨"wg", args, stdin⟩ = .ok ()) :
    p.Permitted ⟨"wg", args, stdin⟩ := by
  unfold validateWG at h
  dsimp only at h
  split at h
  · simp only [then_eq_ok, demand_eq_ok, checkMeshInterface_eq_ok, lintWireGuardConfig_eq_ok] at h
    obtain ⟨hop, ⟨hmesh, rfl⟩, htext⟩ := h
    exact .configure hmesh hop htext
  · cases h

theorem validateWireGuardGo_sound
    (h : p.validateWireGuardGo ⟨"wireguard-go", args, stdin⟩ = .ok ()) :
    p.Permitted ⟨"wireguard-go", args, stdin⟩ := by
  rw [validateWireGuardGo, then_eq_ok, demand_eq_ok] at h
  obtain ⟨rfl, h⟩ := h
  dsimp only at h
  split at h
  · obtain ⟨hmesh, rfl⟩ := (p.checkMeshInterface_eq_ok _).mp h
    exact .create hmesh
  · cases h

theorem interface_of_pattern (iface : String) :
    String.ofList ((cutBeginning "wireguard-go ".toList ("wireguard-go " ++ iface).toList).getD
      ("wireguard-go " ++ iface).toList) = iface := by
  have hcut := cutBeginning_eq_some.mpr (String.toList_append (s := "wireguard-go ") (t := iface))
  rw [hcut, Option.getD_some, String.ofList_toList]

theorem validatePkill_sound (h : p.validatePkill ⟨"pkill", args, stdin⟩ = .ok ()) :
    p.Permitted ⟨"pkill", args, stdin⟩ := by
  rw [validatePkill, then_eq_ok, demand_eq_ok] at h
  obtain ⟨rfl, h⟩ := h
  dsimp only at h
  split at h
  · rw [then_eq_ok, demand_eq_ok] at h
    obtain ⟨rfl, h⟩ := h
    rw [checkMeshInterface_eq_ok] at h
    exact .kill h.1
  · cases h

/-- The policy accepts each permitted command. -/
theorem Permitted.accepted {req : Request} (h : p.Permitted req) : p.validate req = .ok () := by
  cases h with
  | osType => rfl
  | forwarding hvmnet hsetting =>
    rcases hsetting with rfl | rfl <;> simp [validate, validateSysctl, hvmnet]
  | enable => rfl
  | flush hanchor => simp [validate, validatePfctl, hanchor]
  | load hanchor hvmnet hrules => simp [validate, validatePfctl, hanchor, hvmnet, hrules]
  | lookup hip => simp [validate, validateRoute, hip]
  | @meshRoute op family target hmesh hop hfamily htarget =>
    have hdefault : ¬ (op = "delete" ∧ family = "-inet" ∧ target = "default") := by
      rintro ⟨-, -, rfl⟩
      obtain ⟨_, _, hparse, _⟩ := htarget
      cases hparse
    simp [validate, validateRoute, hop, hfamily, hdefault, OnMesh, hmesh, htarget]
  | defaultRoute hiface => simp [validate, validateRoute, hiface]
  | address hmesh haddr hdest => simp [validate, validateIfconfig, OnMesh, hmesh, haddr, hdest]
  | mtu hmesh hn hpos hmtu => simpa [validate, validateIfconfig, OnMesh, hmesh, hn, hpos] using hmtu
  | link hmesh hstate =>
    rcases hstate with rfl | rfl | rfl <;> simp [validate, validateIfconfig, OnMesh, hmesh]
  | configure hmesh hop htext => simp [validate, validateWG, OnMesh, hmesh, hop, htext]
  | create hmesh => simp [validate, validateWireGuardGo, OnMesh, hmesh]
  | kill hmesh =>
    simp only [validate, validatePkill, then_eq_ok, demand_eq_ok, interface_of_pattern,
      checkMeshInterface_eq_ok]
    exact ⟨trivial, trivial, hmesh, rfl⟩

theorem permitted_of_accepted {req : Request} (h : p.validate req = .ok ()) : p.Permitted req := by
  obtain ⟨name, args, stdin⟩ := req
  unfold validate at h
  dsimp only at h
  split at h
  · exact validateSysctl_sound h
  · exact validatePfctl_sound h
  · exact validateRoute_sound h
  · exact validateIfconfig_sound h
  · exact validateWG_sound h
  · exact validateWireGuardGo_sound h
  · exact validatePkill_sound h
  · cases h

/-- The helper accepts exactly what stays within the resources of its policy: the
probe, the forwarding toggle of a node with a Pod network, the packet filter's
own anchor with rules on its interfaces and between its networks, and the
routes, addresses and peers of the mesh interface. -/
theorem accepted_iff_permitted (p : Policy) (req : Request) :
    p.validate req = .ok () ↔ p.Permitted req :=
  ⟨permitted_of_accepted, Permitted.accepted⟩

def node : Policy where
  meshInterface := "utun7"
  vmnetInterface := "bridge100"
  anchor := "macvz/pods"
  meshAddressIP := "10.99.0.1"
  mtu := 1420
  routeCIDRs := normalizeCIDRSet ["10.99.0.0/24", "10.244.2.0/24"]
  podCIDRs := normalizeCIDRSet ["10.244.1.0/24", "10.244.2.0/24"]
  vmnetCIDRs := normalizeCIDRSet ["192.168.64.0/24"]
  peerPublicKeys := (∅ : Table Bool).insert "xTIBA5rboUvnH4htodjb6e697QjLERt1NAB4mZqp8Dg=" true

example : node.validate ⟨"pfctl", ["-a", "com.apple", "-F", "all"], ""⟩ =
    .error (.foreignAnchor "com.apple" "macvz/pods") := by decide +kernel

end Policy

end Privhelper

end MacVz
