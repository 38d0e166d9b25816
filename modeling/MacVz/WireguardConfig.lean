/-
The desired state of a node's WireGuard interface: keys, peers, the checks made
before it is applied, and the text that is handed to `wg`.
-/
import MacVz.Base64
import MacVz.Checks
import MacVz.IPNet
import Mathlib.Data.List.Dedup
import Mathlib.Data.List.Sort
import Mathlib.Data.String.Basic

namespace MacVz

namespace Wireguard

open Checks GoStrings

/-- `KeyLen`. -/
def keyLen : Nat := 32

/-- `Key`. -/
structure Key where
  bytes : List UInt8
  length_eq : bytes.length = keyLen
deriving DecidableEq

inductive KeyError where
  | decode
  | length (bytes : Nat)
deriving Repr, DecidableEq

/-- `Key.String`. -/
def Key.string (k : Key) : String := String.ofList (Base64.encode k.bytes)

def Key.isZero (k : Key) : Bool := k.bytes.all (· = 0)

/-- `ParseKey`. -/
def parseKey (s : String) : Except KeyError Key :=
  match Base64.decode (trimSpace s.toList) with
  | none => .error .decode
  | some bytes =>
    if h : bytes.length = keyLen then .ok ⟨bytes, h⟩ else .error (.length bytes.length)

/-- `Peer`. -/
structure Peer where
  name : String
  publicKey : Key
  endpoint : String
  allowedIPs : List String
  persistentKeepalive : Int
deriving DecidableEq

/-- `InterfaceConfig`. -/
structure InterfaceConfig where
  name : String
  privateKey : Key
  address : String
  listenPort : Int
  mtu : Int64
  peers : List Peer
deriving DecidableEq

/-- What the checks of an interface report, each with the data its message names. -/
inductive ConfigError where
  | nameRequired
  | noPrivateKey (name : String)
  | noAddress (name : String)
  | addressNotCIDR (name address : String)
  | listenPortOutOfRange (name : String) (port : Int)
  | mtuNegative (name : String)
  | sharedPublicKey (other name : String)
  | noPublicKey (name : String)
  | noAllowedIPs (name : String)
  | allowedIPNotCIDR (name cidr : String)
  | endpointNotHostPort (name endpoint : String)
  | keepaliveNegative (name : String)
deriving Repr, DecidableEq

/-- `Peer.validate`. -/
def Peer.validate (p : Peer) : Except ConfigError Unit := do
  demand (p.publicKey.isZero = false) (.noPublicKey p.name)
  demand (p.allowedIPs ≠ []) (.noAllowedIPs p.name)
  each (fun cidr => demand ((parseCIDR cidr).isSome) (.allowedIPNotCIDR p.name cidr)) p.allowedIPs
  demand (p.endpoint = "" ∨ (GoNet.splitHostPort p.endpoint).isSome)
    (.endpointNotHostPort p.name p.endpoint)
  demand (0 ≤ p.persistentKeepalive) (.keepaliveNegative p.name)

/-- The loop over the peers: each is checked by itself and against the keys that
came before it. -/
def validatePeers (seen : List Peer) : List Peer → Except ConfigError Unit
  | [] => .ok ()
  | p :: rest => do
      p.validate
      match seen.find? (·.publicKey = p.publicKey) with
      | some other => .error (.sharedPublicKey other.name p.name)
      | none => validatePeers (p :: seen) rest

/-- `InterfaceConfig.Validate`. -/
def InterfaceConfig.validate (c : InterfaceConfig) : Except ConfigError Unit := do
  demand (c.name ≠ "") .nameRequired
  demand (c.privateKey.isZero = false) (.noPrivateKey c.name)
  demand (c.address ≠ "") (.noAddress c.name)
  demand ((parseCIDR c.address).isSome) (.addressNotCIDR c.name c.address)
  demand (1 ≤ c.listenPort ∧ c.listenPort ≤ 65535) (.listenPortOutOfRange c.name c.listenPort)
  demand (0 ≤ c.mtu.toInt) (.mtuNegative c.name)
  validatePeers [] c.peers

/-- `ConfigBlock`. -/
def Peer.configBlock (p : Peer) : String :=
  "[Peer]\n" ++
    (if p.name ≠ "" then "# " ++ p.name ++ "\n" else "") ++
    ("PublicKey = " ++ p.publicKey.string ++ "\n") ++
    (if p.endpoint ≠ "" then "Endpoint = " ++ p.endpoint ++ "\n" else "") ++
    ("AllowedIPs = " ++ ", ".intercalate p.allowedIPs ++ "\n") ++
    (if 0 < p.persistentKeepalive then
      "PersistentKeepalive = " ++ toString p.persistentKeepalive ++ "\n" else "")

/-- `sortedPeers`: by the text of the public key. -/
def sortedPeers (peers : List Peer) : List Peer :=
  peers.insertionSort fun a b => a.publicKey.string ≤ b.publicKey.string

/-- `SyncConfig`: the configuration without the keys only `wg-quick` knows. -/
def InterfaceConfig.syncConfig (c : InterfaceConfig) : String :=
  "[Interface]\n" ++
    ("PrivateKey = " ++ c.privateKey.string ++ "\n") ++
    ("ListenPort = " ++ toString c.listenPort ++ "\n") ++
    String.join ((sortedPeers c.peers).map fun p => "\n" ++ p.configBlock)

/-- `RouteTargets`: every CIDR some peer is allowed, once, sorted. -/
def InterfaceConfig.routeTargets (c : InterfaceConfig) : List String :=
  ((c.peers.flatMap Peer.allowedIPs).dedup).insertionSort (· ≤ ·)

theorem mem_routeTargets {c : InterfaceConfig} {target : String} :
    target ∈ c.routeTargets ↔ ∃ p ∈ c.peers, target ∈ p.allowedIPs := by
  simp [InterfaceConfig.routeTargets]

theorem mem_sortedPeers {peers : List Peer} {p : Peer} : p ∈ sortedPeers peers ↔ p ∈ peers := by
  simp [sortedPeers]

theorem Key.isWord_string (k : Key) : IsWord k.string := by
  constructor
  · intro hempty
    have hnil : Base64.encode k.bytes = [] := by
      rw [← String.toList_ofList (l := Base64.encode k.bytes)]
      exact String.toList_eq_nil_iff.mpr hempty
    apply Base64.encode_ne_nil _ hnil
    intro hbytes
    have hlen := k.length_eq
    rw [hbytes] at hlen
    cases hlen
  · intro c hc
    rw [Key.string, String.toList_ofList] at hc
    have hplain : Base64.alphabet.all (fun c => !isSpace c) = true := by decide
    rcases Base64.mem_encode hc with hdigit | rfl
    · simpa using List.all_eq_true.mp hplain c hdigit
    · rfl

end Wireguard

end MacVz
