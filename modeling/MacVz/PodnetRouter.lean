/-
The Pod network router: the maps of attached endpoints and Services, and the
operations that change them and reload the whole anchor.  What the host answers
to a command may depend on everything that was run before it, so a host is an
arbitrary pattern of failures.
-/
import MacVz.PodnetRules

namespace MacVz

namespace Podnet

variable {V : Type} {entries : List (String × V)}

/-- A map of the source with string keys. -/
abbrev Table (V : Type) := Finmap (fun _ : String => V)

/-- The list of the entries of a map in the order of some iteration. -/
def Enumerates {V : Type} (table : Table V) (entries : List (String × V)) : Prop :=
  (entries : Multiset (String × V)) = table.entries.map fun e => (e.1, e.2)

theorem enumerates_empty : Enumerates (∅ : Table V) entries ↔ entries = [] :=
  Multiset.coe_eq_zero entries

theorem enumerates_singleton {key : String} {value : V} :
    Enumerates ((∅ : Table V).insert key value) entries ↔ entries = [(key, value)] := by
  exact Multiset.coe_eq_singleton

theorem mem_enumeration {table : Table V} (h : Enumerates table entries) {entry : String × V} :
    entry ∈ entries ↔ table.lookup entry.1 = some entry.2 := by
  rw [Finmap.lookup_eq_some_iff, ← Multiset.mem_coe, h, Multiset.mem_map]
  constructor
  · rintro ⟨e, he, rfl⟩
    exact he
  · intro hmem
    exact ⟨⟨entry.1, entry.2⟩, hmem, rfl⟩

/-- `command`. -/
structure Command where
  name : String
  args : List String
  stdin : String
deriving Repr, DecidableEq

/-- The standard output of a command, or its failure. -/
abbrev Reply := Except CommandError String

/-- `Router`. -/
structure Router where
  cfg : Config
  started : Bool
  endpoints : Table Endpoint
  services : Table (List ServiceRule)

/-- The router together with the commands it has run so far, newest first. -/
structure Session where
  router : Router
  issued : List (Command × Reply)

/-- What lies outside the router: the answers of the host's tools, the order in
which a map is iterated, and the unstable sort of a Service's rules. -/
structure Host where
  reply : List (Command × Reply) → Command → Reply
  enumerate : List (Command × Reply) → {V : Type} → Table V → List (String × V)
  enumerate_spec : ∀ issued {V : Type} (table : Table V),
    Enumerates table (enumerate issued table)
  sortRules : List ServiceRule → List ServiceRule
  sortRules_perm : ∀ rules, (sortRules rules).Perm rules
  sortRules_sorted : ∀ rules,
    (sortRules rules).Pairwise fun a b => ServiceRule.less b a = false

/-- The host with a given pattern of replies, some iteration order and an
insertion sort: every pattern of failures is possible. -/
noncomputable def hostAnswering (reply : List (Command × Reply) → Command → Reply) :
    Host where
  reply := reply
  enumerate := fun _ {V} table =>
    (table.entries.map fun e : (_ : String) × V => (e.1, e.2)).toList
  enumerate_spec := fun _ {_} _ => Multiset.coe_toList _
  sortRules := List.insertionSort fun a b =>
    toLex (a.clusterIP, a.port) ≤ toLex (b.clusterIP, b.port)
  sortRules_perm := List.perm_insertionSort _
  sortRules_sorted := by
    simp only [ServiceRule.less_eq_false_iff]
    apply List.pairwise_insertionSort

/-- The router's methods: a failed one keeps the changes made before the
failure, as a Go method does. -/
abbrev RouterM := EStateM Error Session

/-- `New`: nothing attached, not started, the default anchor for an empty one. -/
def Router.new (cfg : Config) : Router where
  cfg := { cfg with anchor := if cfg.anchor = "" then defaultAnchor else cfg.anchor }
  started := false
  endpoints := ∅
  services := ∅

def runCommand (host : Host) (c : Command) : RouterM Reply :=
  modifyGet fun s =>
    let reply := host.reply s.issued c
    (reply, { s with issued := (c, reply) :: s.issued })

/-- A failure whose stderr contains one of the benign texts counts as success. -/
def benignError (benign : List String) (e : CommandError) : Bool :=
  benign.any fun b => b ≠ "" && GoStrings.contains (GoStrings.toLower e.stderr) b.toList

/-- `Router.runTolerating`. -/
def runTolerating (host : Host) (c : Command) (benign : List String) :
    RouterM (Option CommandError) := do
  match ← runCommand host c with
  | .ok _ => pure none
  | .error e => pure (if benignError benign e then none else some e)

def getRouter : RouterM Router := do
  return (← get).router

def modifyRouter (f : Router → Router) : RouterM Unit :=
  modify fun s => { s with router := f s.router }

def wrapping (wrap : Error → Error) (x : RouterM Unit) : RouterM Unit :=
  EStateM.adaptExcept wrap x

def checked (result : Except Error Unit) : RouterM Unit :=
  match result with
  | .ok () => pure ()
  | .error e => throw e

def require (condition : Bool) (failure : Error) : RouterM Unit :=
  if condition then pure () else throw failure

def benignRouteErrors : List String :=
  ["not in table", "not found", "bad address", "bad interface name"]

/-- `removeVMNetDefaultRouteOnInterfaceLocked`. -/
def removeVMNetDefaultRouteOnInterfaceLocked (host : Host) (iface : String) :
    RouterM Unit := do
  match ← runTolerating host
    ⟨"route", ["-q", "-n", "delete", "-inet", "default", "-ifscope", iface], ""⟩
    benignRouteErrors with
  | none => pure ()
  | some e => throw (.removeDefaultRoute iface e)

def removeVMNetDefaultRouteLocked (host : Host) : RouterM Unit := do
  removeVMNetDefaultRouteOnInterfaceLocked host (← getRouter).cfg.interface

/-- The interface named in the output of `route -n get`, if any. -/
def parseRouteInterface (out : String) : String :=
  match (out.toList.splitOn '\n').findSome? fun raw =>
      GoStrings.cutBeginning "interface:".toList (GoStrings.trimSpace raw) with
  | some rest => String.ofList (GoStrings.trimSpace rest)
  | none => ""

/-- `resolveVMNetInterface`. -/
def resolveVMNetInterface (host : Host) (vmIP : String) :
    RouterM (Except CommandError String) := do
  match ← runCommand host ⟨"route", ["-n", "get", vmIP], ""⟩ with
  | .ok out => pure (.ok (parseRouteInterface out))
  | .error e => pure (.error e)

def loadCommand (anchor rules : String) : Command :=
  ⟨"pfctl", ["-a", anchor, "-f", "-"], rules⟩

/-- The ruleset of the current maps in the iteration order of the moment. -/
def currentRules (host : Host) (s : Session) : String :=
  ruleset host.sortRules s.router.cfg
    ((host.enumerate s.issued s.router.endpoints).map Prod.snd)
    (host.enumerate s.issued s.router.services)

/-- `loadAnchorLocked`. -/
def loadAnchorLocked (host : Host) : RouterM Unit := do
  let s ← get
  match ← runCommand host (loadCommand s.router.cfg.anchor (currentRules host s)) with
  | .ok _ => pure ()
  | .error e => throw (.loadAnchor s.router.cfg.anchor e)

def enableForwarding (host : Host) (cfg : Config) : RouterM Unit :=
  if cfg.enableForwarding then do
    match ← runCommand host ⟨"sysctl", ["-w", "net.inet.ip.forwarding=1"], ""⟩ with
    | .ok _ => pure ()
    | .error e => throw (.enableForwarding e)
  else pure ()

def enablePF (host : Host) : RouterM Unit := do
  match ← runTolerating host ⟨"pfctl", ["-e"], ""⟩ ["pf already enabled"] with
  | none => pure ()
  | some e => throw (.enablePF e)

/-- The part of `Start` before the anchor gets its baseline. -/
def prepareStart (host : Host) : RouterM Unit := do
  let rt ← getRouter
  require (rt.cfg.interface ≠ "") .interfaceRequired
  enableForwarding host rt.cfg
  enablePF host
  removeVMNetDefaultRouteLocked host

/-- `Start`. -/
def start (host : Host) : RouterM Unit := do
  prepareStart host
  modifyRouter fun rt => { rt with started := true }
  loadAnchorLocked host

/-- The interface an endpoint is attached on: its own, the one the host routes
its micro-VM through, or the configured one. -/
def chooseInterface (host : Host) (cfg : Config) (ep : Endpoint) : RouterM String :=
  if ep.interface ≠ "" then pure ep.interface
  else do
    match ← resolveVMNetInterface host ep.vmIP with
    | .ok iface => pure (if iface = "" then cfg.interface else iface)
    | .error _ => pure cfg.interface

/-- The part of `Attach` before the endpoint is recorded: validation, the route
guards, and the choice of the endpoint's interface. -/
def prepareAttach (host : Host) (ep : Endpoint) : RouterM Endpoint := do
  checked ep.validate
  let rt ← getRouter
  require rt.started (.attachBeforeStart ep.podKey)
  wrapping (.beforeAttach ep.podKey) (removeVMNetDefaultRouteLocked host)
  let iface ← chooseInterface host rt.cfg ep
  wrapping (.onInterfaceBeforeAttach ep.podKey)
    (removeVMNetDefaultRouteOnInterfaceLocked host iface)
  return { ep with interface := iface }

/-- The end the operations share: change the maps, then load the anchor. -/
def reload (host : Host) (change : Router → Router) (wrap : Error → Error) :
    RouterM Unit := do
  modifyRouter change
  wrapping wrap (loadAnchorLocked host)

def Router.putEndpoint (ep : Endpoint) (rt : Router) : Router :=
  { rt with endpoints := rt.endpoints.insert ep.podKey ep }

def Router.dropEndpoint (podKey : String) (rt : Router) : Router :=
  { rt with endpoints := rt.endpoints.erase podKey }

def Router.putService (key : String) (kept : List ServiceRule) (rt : Router) : Router :=
  { rt with
    services := if kept = [] then rt.services.erase key
      else rt.services.insert key kept }

def Router.dropService (key : String) (rt : Router) : Router :=
  { rt with services := rt.services.erase key }

/-- `Attach`. -/
def attach (host : Host) (ep : Endpoint) : RouterM Unit := do
  let ep ← prepareAttach host ep
  reload host (Router.putEndpoint ep) (.attach ep)

/-- `Detach`. -/
def detach (host : Host) (podKey : String) : RouterM Unit := do
  let rt ← getRouter
  if podKey ∈ rt.endpoints then
    if rt.started then reload host (Router.dropEndpoint podKey) (.detach podKey)
    else modifyRouter (Router.dropEndpoint podKey)
  else pure ()

/-- The part of `AttachService` before the rules are recorded. -/
def prepareAttachService (key : String) (rules : List ServiceRule) :
    RouterM (List ServiceRule) := do
  require (key ≠ "") .attachServiceWithoutKey
  match keepRules rules with
  | .error e => throw e
  | .ok kept => do
      let rt ← getRouter
      require rt.started (.attachServiceBeforeStart key)
      return kept

/-- `AttachService`. -/
def attachService (host : Host) (key : String) (rules : List ServiceRule) :
    RouterM Unit := do
  let kept ← prepareAttachService key rules
  reload host (Router.putService key kept) (.attachService key)

/-- `DetachService`. -/
def detachService (host : Host) (key : String) : RouterM Unit := do
  let rt ← getRouter
  if key ∈ rt.services then
    if rt.started then reload host (Router.dropService key) (.detachService key)
    else modifyRouter (Router.dropService key)
  else pure ()

/-- `Stop`. -/
def stop (host : Host) : RouterM Unit := do
  let rt ← getRouter
  modifyRouter fun rt => { rt with endpoints := ∅, services := ∅ }
  if rt.started then do
    let _ ← runCommand host ⟨"pfctl", ["-a", rt.cfg.anchor, "-F", "all"], ""⟩
    modifyRouter fun rt => { rt with started := false }
  else pure ()

/-- The operations of a started router that change what is attached. -/
inductive Op where
  | attach (ep : Endpoint)
  | detach (podKey : String)
  | attachService (key : String) (rules : List ServiceRule)
  | detachService (key : String)
deriving Repr, DecidableEq

/-- The method behind an operation. -/
def Op.perform (host : Host) : Op → RouterM Unit
  | .attach ep => Podnet.attach host ep
  | .detach podKey => Podnet.detach host podKey
  | .attachService key rules => Podnet.attachService host key rules
  | .detachService key => Podnet.detachService host key

end Podnet

end MacVz
