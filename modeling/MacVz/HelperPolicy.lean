/-
The policy of the privileged helper: the host resources it may touch, and the
check of every request against them.  Each command has a fixed grammar of
argument shapes, and the texts that are loaded into the packet filter and into
WireGuard are linted line by line.
-/
import MacVz.Checks
import MacVz.IPNet
import MacVz.PodnetRouter

namespace MacVz

namespace Privhelper

open Checks GoStrings
open Podnet (Table)

def holds (set : Table Bool) (key : String) : Bool := (set.lookup key).getD false

def putAll (keys : List String) (set : Table Bool) : Table Bool :=
  keys.foldl (fun set key => set.insert key true) set

/-- `Policy`. -/
structure Policy where
  meshInterface : String
  vmnetInterface : String
  anchor : String
  meshAddressIP : String
  mtu : Int
  routeCIDRs : Table Bool
  podCIDRs : Table Bool
  vmnetCIDRs : Table Bool
  peerPublicKeys : Table Bool

def Policy.zero : Policy where
  meshInterface := ""
  vmnetInterface := ""
  anchor := ""
  meshAddressIP := ""
  mtu := 0
  routeCIDRs := ∅
  podCIDRs := ∅
  vmnetCIDRs := ∅
  peerPublicKeys := ∅

/-- A request, as far as the policy reads it: a command of the router or of the
mesh that is to be run as root. -/
abbrev Request := Podnet.Command

/-- The reasons of a refusal, each with the data its message names. -/
inductive Refusal where
  | noGrammar (name : String)
  | takesNoStdin (command : String)
  | argsNotPermitted (name : String) (args : List String)
  | forwardingWithoutPodNetwork
  | noAnchor
  | foreignAnchor (anchor managed : String)
  | anchorLoadWithoutInterface
  | notARule (line : List Char)
  | onInterface (iface : String) (cause : Refusal)
  | inRule (line : List Char) (cause : Refusal)
  | binatExpected
  | sourceVMIP (cause : Refusal)
  | translatedPodIP (cause : Refusal)
  | rdrExpected
  | clusterIPNotIP (text : String)
  | servicePortNotNumeric (text : String)
  | missingTargetPort
  | targetPortNotNumeric (text : String)
  | trailingTokens (tokens : List String)
  | missingTarget
  | unexpectedTargetTokens (tokens : List String)
  | targetNotIP (text : String)
  | malformedPool (tokens : List String)
  | targetOutside (target : String)
  | outsideSet (ip desc : String)
  | routeOp (op : String)
  | routeFamily (family : String)
  | defaultDeleteScope (scope : String)
  | routeScope (scope : String)
  | routeTargetNotCIDR (target : String)
  | routeTargetNotConfigured (target : String)
  | interfaceRequired
  | notMeshAddress (addr dest configured : String)
  | mtuNotPositive (text : String)
  | mtuNotConfigured (mtu configured : Int)
  | malformedLine (line : List Char)
  | unknownPeer (key : String)
  | allowedIPNotCIDR (cidr : String)
  | allowedIPNotConfigured (cidr : String)
  | pkillPattern (pattern want : String)
  | noMeshInterface
  | notMeshInterface (iface managed : String)
  | noVMNetInterface
  | notVMNetInterface (iface managed : String)
  | notPodNATInterface (iface : String)
deriving Repr, DecidableEq

/-- `bridge` followed by at least one digit and nothing else. -/
def isBridgeInterface (iface : String) : Bool :=
  match cutBeginning "bridge".toList iface.toList with
  | some digits => digits ≠ [] && digits.all GoNet.isDigit
  | none => false

/-- `ipEqual`: the same address, however it is written. -/
def ipEqual (a b : String) : Bool :=
  a ≠ "" && b ≠ "" && (GoNet.parseIP a).isSome && GoNet.parseIP a = GoNet.parseIP b

/-- `normalizeCIDR`: the masked network of a CIDR. -/
def normalizeCIDR (cidr : String) : Option String :=
  (parseCIDR cidr).map fun parsed => parsed.2.string

/-- `NormalizeCIDRSet`: what does not parse is skipped. -/
def normalizeCIDRSet (cidrs : List String) : Table Bool :=
  putAll (cidrs.filterMap normalizeCIDR) ∅

/-- The address lies in a network some member of the set denotes. -/
def inNetwork (ip : Nat) (cidr : String) : Bool :=
  match parseCIDR cidr with
  | some (_, net) => net.contains ip
  | none => false

/-- `Policy.ipInSet`. -/
def ipInSet (raw : String) (cidrs : Table Bool) : Bool :=
  match GoNet.parseIP raw with
  | some ip => decide (∃ cidr ∈ cidrs.keys, inNetwork ip cidr = true)
  | none => false

def checkIPInSet (ip : String) (cidrs : Table Bool) (desc : String) : Except Refusal Unit :=
  demand (ipInSet ip cidrs) (.outsideSet ip desc)

namespace Policy

variable (p : Policy)

/-- `Policy.checkMeshInterface`. -/
def checkMeshInterface (iface : String) : Except Refusal Unit := do
  demand (p.meshInterface ≠ "") .noMeshInterface
  demand (iface = p.meshInterface) (.notMeshInterface iface p.meshInterface)

/-- `Policy.checkVMNetInterface`: the configured interface or any bridge. -/
def checkVMNetInterface (iface : String) : Except Refusal Unit := do
  demand (p.vmnetInterface ≠ "") .noVMNetInterface
  demand (iface = p.vmnetInterface ∨ isBridgeInterface iface)
    (.notVMNetInterface iface p.vmnetInterface)

/-- `Policy.checkPodNATInterface`. -/
def checkPodNATInterface (iface : String) : Except Refusal Unit :=
  match p.checkVMNetInterface iface with
  | .ok () => .ok ()
  | .error _ => demand (p.meshInterface ≠ "" ∧ iface = p.meshInterface) (.notPodNATInterface iface)

/-- `Policy.checkAnchor`. -/
def checkAnchor (anchor : String) : Except Refusal Unit := do
  demand (p.anchor ≠ "") .noAnchor
  demand (anchor = p.anchor) (.foreignAnchor anchor p.anchor)

/-- `Policy.checkRouteCIDR`. -/
def checkRouteCIDR (target : String) : Except Refusal Unit :=
  match normalizeCIDR target with
  | none => .error (.routeTargetNotCIDR target)
  | some norm => demand (holds p.routeCIDRs norm) (.routeTargetNotConfigured target)

/-- `Policy.validateSysctl`. -/
def validateSysctl (req : Request) : Except Refusal Unit := do
  demand (req.stdin = "") (.takesNoStdin "sysctl")
  match req.args with
  | ["-n", "kern.ostype"] => .ok ()
  | ["-w", "net.inet.ip.forwarding=1"] | ["-w", "net.inet.ip.forwarding=0"] =>
    demand (p.vmnetInterface ≠ "") .forwardingWithoutPodNetwork
  | args => .error (.argsNotPermitted "sysctl" args)

/-- The fields of a binat rule from the fourth on, the optional `inet` first. -/
def lintBinatRule (rest : List String) : Except Refusal Unit :=
  match if rest.head? = some "inet" then rest.tail else rest with
  | ["from", vmIP, "to", "any", "->", podIP] => do
      within .sourceVMIP (checkIPInSet vmIP p.vmnetCIDRs "vmnet CIDR")
      within .translatedPodIP (checkIPInSet podIP p.podCIDRs "Pod CIDR")
  | _ => .error .binatExpected

/-- One target of a pool, with its comma. -/
def poolTarget (field : String) : Except Refusal String :=
  let ip := String.ofList (trimSuffix [','] field.toList)
  if ip = "" ∨ GoNet.parseIP ip = none then .error (.targetNotIP field) else .ok ip

/-- `parseRDRTargets`. -/
def parseRDRTargets : List String → Except Refusal (List String)
  | [] => .error .missingTarget
  | "\x7b" :: rest =>
    if rest.length < 2 ∨ rest.getLast? ≠ some "\x7d" then .error (.malformedPool ("\x7b" :: rest))
    else rest.dropLast.mapM poolTarget
  | [target] => if GoNet.parseIP target = none then .error (.targetNotIP target) else .ok [target]
  | tokens => .error (.unexpectedTargetTokens tokens)

/-- The fields of an rdr rule behind the arrow: the targets, their port, and at
most the word that asks for taking turns. -/
def lintRDRTarget (rest : List String) : Except Refusal Unit :=
  match rest.dropWhile (· ≠ "port") with
  | _ :: targetPort :: trailing => do
      demand ((atoi targetPort).isSome) (.targetPortNotNumeric targetPort)
      demand (trailing = [] ∨ trailing = ["round-robin"]) (.trailingTokens trailing)
      let targets ← parseRDRTargets (rest.takeWhile (· ≠ "port"))
      each (fun target =>
        demand (ipInSet target p.podCIDRs ∨ ipInSet target p.vmnetCIDRs)
          (.targetOutside target)) targets
  | _ => .error .missingTargetPort

/-- The fields of an rdr rule from the fourth on; at least three follow the
arrow. -/
def lintRDRRule : List String → Except Refusal Unit
  | "inet" :: "proto" :: proto :: "from" :: "any" :: "to" :: clusterIP :: "port" :: port ::
      "->" :: rest => do
        demand (3 ≤ rest.length ∧ (proto = "tcp" ∨ proto = "udp")) .rdrExpected
        demand ((GoNet.parseIP clusterIP).isSome) (.clusterIPNotIP clusterIP)
        demand ((atoi port).isSome) (.servicePortNotNumeric port)
        p.lintRDRTarget rest
  | _ => .error .rdrExpected

/-- One line of `lintAnchorRuleset`. -/
def lintAnchorLine (line : List Char) : Except Refusal Unit :=
  if line = [] ∨ line.head? = some '#' then .ok ()
  else
    match fields line with
    | "binat" :: "on" :: iface :: rest => do
        within (.onInterface iface) (p.checkPodNATInterface iface)
        within (.inRule line) (p.lintBinatRule rest)
    | "rdr" :: "on" :: iface :: rest => do
        within (.onInterface iface) (p.checkVMNetInterface iface)
        within (.inRule line) (p.lintRDRRule rest)
    | _ => .error (.notARule line)

/-- `Policy.lintAnchorRuleset`. -/
def lintAnchorRuleset (ruleset : String) : Except Refusal Unit := do
  demand (p.vmnetInterface ≠ "") .anchorLoadWithoutInterface
  each (fun raw => p.lintAnchorLine (trimSpace raw)) (lines ruleset)

/-- `Policy.validatePfctl`. -/
def validatePfctl (req : Request) : Except Refusal Unit :=
  match req.args with
  | ["-e"] => demand (req.stdin = "") (.takesNoStdin "pfctl -e")
  | ["-a", anchor, "-F", "all"] => do
      p.checkAnchor anchor
      demand (req.stdin = "") (.takesNoStdin "pfctl flush")
  | ["-a", anchor, "-f", "-"] => do
      p.checkAnchor anchor
      p.lintAnchorRuleset req.stdin
  | args => .error (.argsNotPermitted "pfctl" args)

/-- `Policy.validateRoute`. -/
def validateRoute (req : Request) : Except Refusal Unit := do
  demand (req.stdin = "") (.takesNoStdin "route")
  match req.args with
  | ["-n", "get", ip] => checkIPInSet ip p.vmnetCIDRs "vmnet CIDR"
  | ["-q", "-n", op, family, target, scope, iface] => do
      demand (op = "add" ∨ op = "delete") (.routeOp op)
      demand (family = "-inet" ∨ family = "-inet6") (.routeFamily family)
      if op = "delete" ∧ family = "-inet" ∧ target = "default" then do
        demand (scope = "-ifscope") (.defaultDeleteScope scope)
        p.checkVMNetInterface iface
      else do
        demand (scope = "-interface") (.routeScope scope)
        p.checkMeshInterface iface
        p.checkRouteCIDR target
  | args => .error (.argsNotPermitted "route" args)

/-- The MTU that is set: a positive number, and the configured one if there is one. -/
def checkMTU (text : String) : Except Refusal Unit :=
  match atoi text with
  | none => .error (.mtuNotPositive text)
  | some n => do
      demand (0 < n) (.mtuNotPositive text)
      demand (p.mtu ≤ 0 ∨ n = p.mtu) (.mtuNotConfigured n p.mtu)

/-- `Policy.validateIfconfig`. -/
def validateIfconfig (req : Request) : Except Refusal Unit := do
  demand (req.stdin = "") (.takesNoStdin "ifconfig")
  match req.args with
  | [] => .error .interfaceRequired
  | iface :: rest => do
      p.checkMeshInterface iface
      match rest with
      | ["inet", addr, dest, "alias"] =>
        demand (ipEqual addr p.meshAddressIP ∧ ipEqual dest p.meshAddressIP)
          (.notMeshAddress addr dest p.meshAddressIP)
      | ["mtu", text] => p.checkMTU text
      | ["up"] | ["down"] | ["destroy"] => .ok ()
      | _ => .error (.argsNotPermitted "ifconfig" req.args)

/-- One entry of an `AllowedIPs` line. -/
def lintAllowedIP (raw : List Char) : Except Refusal Unit :=
  let cidr := String.ofList (trimSpace raw)
  match normalizeCIDR cidr with
  | none => .error (.allowedIPNotCIDR cidr)
  | some norm => demand (holds p.routeCIDRs norm) (.allowedIPNotConfigured cidr)

/-- One setting of a WireGuard configuration.  What is neither a peer's key nor
its addresses is left unchecked. -/
def lintSetting (key val : List Char) : Except Refusal Unit :=
  if key = "PublicKey".toList then
    demand (holds p.peerPublicKeys (String.ofList val)) (.unknownPeer (String.ofList val))
  else if key = "AllowedIPs".toList then each p.lintAllowedIP (val.splitOn ',')
  else .ok ()

/-- One line of `lintWireGuardConfig`. -/
def lintWireGuardLine (line : List Char) : Except Refusal Unit :=
  if line = [] ∨ line.head? = some '#' ∨ line.head? = some '[' then .ok ()
  else
    match cut '=' line with
    | none => .error (.malformedLine line)
    | some (key, val) => p.lintSetting (trimSpace key) (trimSpace val)

/-- `Policy.lintWireGuardConfig`. -/
def lintWireGuardConfig (cfg : String) : Except Refusal Unit :=
  each (fun raw => p.lintWireGuardLine (trimSpace raw)) (lines cfg)

/-- `Policy.validateWG`. -/
def validateWG (req : Request) : Except Refusal Unit :=
  match req.args with
  | [op, iface, "/dev/stdin"] => do
      demand (op = "setconf" ∨ op = "syncconf") (.argsNotPermitted "wg" req.args)
      p.checkMeshInterface iface
      p.lintWireGuardConfig req.stdin
  | args => .error (.argsNotPermitted "wg" args)

/-- `Policy.validateWireGuardGo`. -/
def validateWireGuardGo (req : Request) : Except Refusal Unit := do
  demand (req.stdin = "") (.takesNoStdin "wireguard-go")
  match req.args with
  | [iface] => p.checkMeshInterface iface
  | args => .error (.argsNotPermitted "wireguard-go" args)

/-- `Policy.validatePkill`. -/
def validatePkill (req : Request) : Except Refusal Unit := do
  demand (req.stdin = "") (.takesNoStdin "pkill")
  match req.args with
  | ["-f", pattern] => do
      let want := "wireguard-go " ++ p.meshInterface
      demand (pattern = want) (.pkillPattern pattern want)
      p.checkMeshInterface (String.ofList
        ((cutBeginning "wireguard-go ".toList pattern.toList).getD pattern.toList))
  | args => .error (.argsNotPermitted "pkill" args)

/-- `Validate`. -/
def validate (req : Request) : Except Refusal Unit :=
  match req.name with
  | "sysctl" => p.validateSysctl req
  | "pfctl" => p.validatePfctl req
  | "route" => p.validateRoute req
  | "ifconfig" => p.validateIfconfig req
  | "wg" => p.validateWG req
  | "wireguard-go" => p.validateWireGuardGo req
  | "pkill" => p.validatePkill req
  | name => .error (.noGrammar name)

end Policy

end Privhelper

end MacVz
