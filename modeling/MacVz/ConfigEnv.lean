/-
The environment of a container, resolved from the Pod, from its own spec and from the stores of
ConfigMaps and Secrets.  The first of its lookups that stops the resolution decides whether it is
tried again.
-/
import MacVz.EnvExpansion
import MacVz.ProjectedConfigMaps
import Mathlib.Data.Int.Log
import Mathlib.Data.Rat.Floor

namespace MacVz

/-- `resource.Quantity`, by what its three readings give. -/
structure Quantity where
  value : Int
  milliValue : Int
  isZero : Bool
deriving Repr, DecidableEq

/-- `corev1.ResourceList`. -/
structure ResourceList where
  cpu : Option Quantity
  memory : Option Quantity
  ephemeralStorage : Option Quantity
deriving Repr, DecidableEq

structure ObjectRef where
  name : String
  optional : Option Bool
deriving Repr, DecidableEq

def ObjectRef.isOptional (ref : ObjectRef) : Bool := ref.optional.getD false

/-- `corev1.ConfigMapKeySelector` and `corev1.SecretKeySelector`. -/
structure KeyRef extends ObjectRef where
  key : String
deriving Repr, DecidableEq

/-- `corev1.EnvFromSource`; `pre` is its `Prefix`. -/
structure EnvFromSource where
  pre : String
  configMapRef : Option ObjectRef
  secretRef : Option ObjectRef
deriving Repr, DecidableEq

/-- `corev1.ResourceFieldSelector`. -/
structure ResourceFieldSelector where
  resource : String
  divisor : Quantity
deriving Repr, DecidableEq

/-- `corev1.EnvVarSource`; `fieldRef` is the path of its `FieldRef`. -/
structure EnvVarSource where
  fieldRef : Option String
  resourceFieldRef : Option ResourceFieldSelector
  configMapKeyRef : Option KeyRef
  secretKeyRef : Option KeyRef
deriving Repr, DecidableEq

/-- `corev1.EnvVar`. -/
structure EnvVar where
  name : String
  value : String
  valueFrom : Option EnvVarSource
deriving Repr, DecidableEq

/-- The fields of `corev1.Container` its environment is resolved from. -/
structure ContainerEnv where
  envFrom : List EnvFromSource
  env : List EnvVar
  limits : ResourceList
  requests : ResourceList
deriving Repr, DecidableEq

/-- The variables resolved so far, newest first. -/
abbrev Environment := List (String × Bytes)

def Environment.set (env : Environment) (name : String) (value : Bytes) : Environment :=
  (name, value) :: env.filter fun entry => entry.1 ≠ name

/-- The lookup `expandEnv` is given. -/
def Environment.vars (env : Environment) (name : Bytes) : Option Bytes :=
  (env.find? fun entry => entry.1.toUTF8.toList = name).map Prod.snd

/-- `isEnvVarName`. -/
def isEnvVarName (s : String) : Bool :=
  let isLetter (c : Char) : Bool := c = '_' || 'A' ≤ c && c ≤ 'Z' || 'a' ≤ c && c ≤ 'z'
  match s.toList with
  | [] => false
  | first :: rest => isLetter first && rest.all fun c => isLetter c || '0' ≤ c && c ≤ '9'

/-- `addEnvFromKey`. -/
def addEnvFromKey (pre : String) (env : Environment) (entry : String × Bytes) : Environment :=
  if isEnvVarName (pre ++ entry.1) then env.set (pre ++ entry.1) entry.2 else env

/-- What an `envFrom` source contributes: the entries of its object in the order of their keys,
and nothing where an optional object is absent. -/
def envFromEntries (ns : String) (access : ConfigAccess) (ef : EnvFromSource) :
    Except TranslateError (List (String × Bytes)) :=
  match ef.configMapRef, ef.secretRef with
  | some ref, _ =>
    (getConfigMap access ns ref.name ref.isOptional).map fun cm =>
      (cm.map fun cm => cm.data.entries).getD []
  | none, some ref =>
    (loadSecret access ns ref.name ref.isOptional).map fun secret =>
      (secret.map fun secret => secret.data.entries).getD []
  | none, none => .ok []

/-- The first loop of `resolveEnv`. -/
def resolveEnvFrom (ns : String) (access : ConfigAccess) :
    Environment → List EnvFromSource → Except TranslateError Environment
  | env, [] => .ok env
  | env, ef :: sources =>
    match envFromEntries ns access ef with
    | .error e => .error e
    | .ok entries => resolveEnvFrom ns access (entries.foldl (addEnvFromKey ef.pre) env) sources

/-- The nearest `float64` of a number in its normal range; a tie goes to the even significand. -/
def float64 (q : ℚ) : ℚ :=
  if q = 0 then 0
  else
    let unit : ℚ := 2 ^ (Int.log 2 |q| - 52)
    let low := ⌊q / unit⌋
    let rest := q / unit - low
    if rest < 1 / 2 ∨ rest = 1 / 2 ∧ low % 2 = 0 then low * unit else (low + 1) * unit

/-- The conversion of a whole `float64` to `int64`, which stays within the range. -/
def toInt64 (n : Int) : Int := max (-2 ^ 63) (min n (2 ^ 63 - 1))

/-- `divideCPU` and `divideBytes`: the quotient of two readings, rounded up. -/
def divideUp (amount divisor : Int) : String :=
  let d := if divisor ≤ 0 then 1 else divisor
  toString (toInt64 ⌈float64 (float64 amount / float64 d)⌉)

/-- `resolveResourceFieldRef`. -/
def resolveResourceFieldRef (c : ContainerEnv) (ref : ResourceFieldSelector) :
    Except TranslateError String :=
  let divisor := if ref.divisor.isZero then ⟨1, 1000, false⟩ else ref.divisor
  let divideCPU (cpu : Option Quantity) : Except TranslateError String :=
    .ok (divideUp ((cpu.map Quantity.milliValue).getD 0) divisor.milliValue)
  let divideBytes (q : Option Quantity) : Except TranslateError String :=
    .ok (divideUp ((q.map Quantity.value).getD 0) divisor.value)
  if ref.resource = "limits.cpu" then divideCPU c.limits.cpu
  else if ref.resource = "requests.cpu" then divideCPU c.requests.cpu
  else if ref.resource = "limits.memory" then divideBytes c.limits.memory
  else if ref.resource = "requests.memory" then divideBytes c.requests.memory
  else if ref.resource = "limits.ephemeral-storage" then divideBytes c.limits.ephemeralStorage
  else if ref.resource = "requests.ephemeral-storage" then divideBytes c.requests.ephemeralStorage
  else .error (.unsupported ("resourceFieldRef " ++ quoted ref.resource ++ " is not supported"))

/-- `fmt.Errorf` with `%w`: the kind of the error stays. -/
def TranslateError.within (context : String) : TranslateError → TranslateError
  | .configPending message => .configPending (context ++ message)
  | .secretUnavailable message => .secretUnavailable (context ++ message)
  | .unsupported message => .unsupported (context ++ message)

/-- A downward API value of an `env` entry. -/
def downwardValue (name : String) (field : Except TranslateError String) :
    Except TranslateError (Option Bytes) :=
  match field with
  | .error e => .error (e.within ("env " ++ quoted name ++ ": "))
  | .ok value => .ok (some value.toUTF8.toList)

/-- The value of a key: none where the object or the key is absent and optional. -/
def keyValue (object : Except TranslateError (Option DataMap)) (ref : KeyRef)
    (missing : TranslateError) : Except TranslateError (Option Bytes) :=
  match object with
  | .error e => .error e
  | .ok none => .ok none
  | .ok (some data) =>
    match data.get ref.key with
    | some value => .ok (some value)
    | none => if ref.isOptional then .ok none else .error missing

/-- What an `env` entry sets its variable to, if anything. -/
def envValue (pod : Pod) (c : ContainerEnv) (access : ConfigAccess) (env : Environment)
    (e : EnvVar) : Except TranslateError (Option Bytes) :=
  match e.valueFrom with
  | none => .ok (some (expandEnv e.value.toUTF8.toList env.vars))
  | some src =>
    match src.fieldRef, src.resourceFieldRef, src.configMapKeyRef, src.secretKeyRef with
    | some path, _, _, _ => downwardValue e.name (resolveFieldRef pod path)
    | none, some ref, _, _ => downwardValue e.name (resolveResourceFieldRef c ref)
    | none, none, some ref, _ =>
      keyValue ((getConfigMap access pod.ns ref.name ref.isOptional).map
          (Option.map ConfigMap.data)) ref
        (.configPending ("pod configuration not ready: configMap " ++ quoted ref.name ++
          " has no key " ++ quoted ref.key ++ " (for env " ++ quoted e.name ++ ")"))
    | none, none, none, some ref =>
      keyValue ((loadSecret access pod.ns ref.name ref.isOptional).map
          (Option.map Secret.data)) ref
        (.secretUnavailable ("secret unavailable: secret " ++ quoted ref.name ++
          " has no key " ++ quoted ref.key ++ " (for env " ++ quoted e.name ++ ")"))
    | none, none, none, none => .ok none

/-- The second loop of `resolveEnv`. -/
def resolveEnvVars (pod : Pod) (c : ContainerEnv) (access : ConfigAccess) :
    Environment → List EnvVar → Except TranslateError Environment
  | env, [] => .ok env
  | env, e :: entries =>
    match envValue pod c access env e with
    | .error err => .error err
    | .ok none => resolveEnvVars pod c access env entries
    | .ok (some value) => resolveEnvVars pod c access (env.set e.name value) entries

/-- `resolveEnv`. -/
def resolveEnv (pod : Pod) (c : ContainerEnv) (access : ConfigAccess) :
    Except TranslateError Environment :=
  match resolveEnvFrom pod.ns access [] c.envFrom with
  | .error e => .error e
  | .ok env => resolveEnvVars pod c access env c.env

example : isEnvVarName "LOG_LEVEL2" = true ∧ isEnvVarName "2LOG" = false := by decide

/-- A limit of 500m of CPU is rounded up to one. -/
example : resolveResourceFieldRef ⟨[], [], ⟨some ⟨1, 500, false⟩, none, none⟩, ⟨none, none, none⟩⟩
    ⟨"limits.cpu", ⟨0, 0, true⟩⟩ = .ok "1" := by decide +kernel

/-- A key as it is accepted in a ConfigMap or a Secret. -/
structure ValidKey (key : String) : Prop where
  nonempty : key ≠ ""
  length : key.toList.length ≤ 253
  chars : ∀ c ∈ key.toList, c = '-' ∨ c = '.' ∨ c = '_' ∨ c.isAlphanum = true
  notDot : key ≠ "."
  notDots : ¬ "..".toList <+: key.toList

/-- Every key is one the API server accepts. -/
def DataMap.Valid (m : DataMap) : Prop := ∀ entry ∈ m.entries, ValidKey entry.1

/-- There are stores to ask, and what they hold was accepted. -/
structure Stores (ns : String) (access : ConfigAccess) : Prop where
  configMaps : ∃ get, access.configMaps = some get ∧
    ∀ name cm, get ns name = .ok cm → cm.data.Valid ∧ cm.binaryData.Valid
  secrets : ∃ get, access.secrets = some get ∧
    ∀ name secret, get ns name = .ok secret → secret.data.Valid

/-- What becomes of a Pod whose translation stops short: it is tried again, or it has failed. -/
inductive Stop where
  | retried
  | ended
deriving Repr, DecidableEq

/-- How a resolution stops short, if it does. -/
def stopOf {α : Type} : Except TranslateError α → Option Stop
  | .ok _ => none
  | .error e => some (if e.retryable then .retried else .ended)

/-- A key that is wanted of an object, with the path of the file it becomes in a volume. -/
structure Wanted where
  key : String
  path : Option String

/-- One question to the stores; `binary` says that binary data counts as well. -/
inductive Lookup where
  | configMap (name : String) (optional binary : Bool) (wanted : List Wanted)
  | secret (name : String) (optional : Bool) (wanted : List Wanted)
  | token (audience : String) (expirationSeconds : Option Int)

/-- A path relative to the directory of a volume that names something in it. -/
def namesFile (path : String) : Bool :=
  (GoFilepath.split path).any fun segment => segment ≠ "" && segment ≠ "."

/-- A key that is missing is waited for unless it is optional; one that is there must have a place
to go. -/
def Wanted.stop (get : String → Option Bytes) (optional : Bool) (w : Wanted) : Option Stop :=
  match get w.key with
  | none => if optional then none else some .retried
  | some _ => if w.path.all namesFile then none else some .ended

/-- How an answer about an object stops the resolution; `unread` is what an error other than
NotFound leads to. -/
def objectStop {α : Type} (answer : Option (Except GetError α)) (unread : Stop) (optional : Bool)
    (get : α → String → Option Bytes) (wanted : List Wanted) : Option Stop :=
  match answer with
  | none => some .ended
  | some (.ok object) => wanted.findSome? (Wanted.stop (get object) optional)
  | some (.error .notFound) => if optional then none else some .retried
  | some (.error (.other _)) => some unread

/-- How a lookup stops the resolution: an error other than NotFound is waited out for a ConfigMap
and for a token, and ends the Pod for a Secret. -/
def Lookup.stop (pod : Pod) (access : ConfigAccess) : Lookup → Option Stop
  | .configMap name optional binary wanted =>
    objectStop (access.configMaps.map fun get => get pod.ns name) .retried optional
      (fun cm => if binary then cm.keyData else cm.data.get) wanted
  | .secret name optional wanted =>
    objectStop (access.secrets.map fun get => get pod.ns name) .ended optional
      (fun secret => secret.data.get) wanted
  | .token audience expirationSeconds =>
    match access.tokens with
    | none => some .ended
    | some request =>
      match request pod.ns (serviceAccountName pod) (if audience = "" then [] else [audience])
          expirationSeconds with
      | .error _ => some .retried
      | .ok _ => none

/-- What an `envFrom` source asks for. -/
def EnvFromSource.lookups (ef : EnvFromSource) : List Lookup :=
  match ef.configMapRef, ef.secretRef with
  | some ref, _ => [.configMap ref.name ref.isOptional false []]
  | none, some ref => [.secret ref.name ref.isOptional []]
  | none, none => []

/-- What an `env` entry asks for. -/
def EnvVar.lookups (e : EnvVar) : List Lookup :=
  match e.valueFrom with
  | none => []
  | some src =>
    match src.fieldRef, src.resourceFieldRef, src.configMapKeyRef, src.secretKeyRef with
    | none, none, some ref, _ => [.configMap ref.name ref.isOptional false [⟨ref.key, none⟩]]
    | none, none, none, some ref => [.secret ref.name ref.isOptional [⟨ref.key, none⟩]]
    | _, _, _, _ => []

/-- What the resolvers make of an answer: an object, none where an optional one is absent, or an
error of the kind the answer leads to. -/
def AnsweredBy {α : Type} (answer : Option (Except GetError α)) (unread : Stop) (optional : Bool)
    (asked : Except TranslateError (Option α)) : Prop :=
  match answer with
  | none => stopOf asked = some .ended
  | some (.ok object) => asked = .ok (some object)
  | some (.error .notFound) =>
    if optional then asked = .ok none else stopOf asked = some .retried
  | some (.error (.other _)) => stopOf asked = some unread

/-- `getConfigMap` answers as the store does, and retries what it could not read. -/
theorem getConfigMap_answers (access : ConfigAccess) (ns name : String) (optional : Bool) :
    AnsweredBy (access.configMaps.map fun get => get ns name) .retried optional
      (getConfigMap access ns name optional) := by
  unfold getConfigMap
  cases access.configMaps with
  | none => rfl
  | some get =>
    rw [Option.map_some]
    dsimp only
    cases get ns name with
    | ok cm => rfl
    | error e =>
      cases e with
      | notFound => cases optional <;> rfl
      | other message => rfl

/-- `loadSecret` answers as the store does, and ends the Pod on what it could not read. -/
theorem loadSecret_answers (access : ConfigAccess) (ns name : String) (optional : Bool) :
    AnsweredBy (access.secrets.map fun get => get ns name) .ended optional
      (loadSecret access ns name optional) := by
  unfold loadSecret
  cases access.secrets with
  | none => rfl
  | some get =>
    rw [Option.map_some]
    dsimp only
    cases get ns name with
    | ok secret => rfl
    | error e =>
      cases e with
      | notFound => cases optional <;> rfl
      | other message => rfl

/-- A resolver that passes on the error of its object, has nothing to do without one, and looks for
the wanted keys in one that is there. -/
theorem AnsweredBy.stop {α β : Type} {answer : Option (Except GetError α)} {unread : Stop}
    {optional : Bool} {asked : Except TranslateError (Option α)}
    (h : AnsweredBy answer unread optional asked) {run : Except TranslateError β}
    {get : α → String → Option Bytes} {wanted : List Wanted}
    (herror : ∀ e, asked = .error e → stopOf run = stopOf asked)
    (hnone : asked = .ok none → stopOf run = none)
    (hsome : ∀ object, answer = some (.ok object) → asked = .ok (some object) →
      stopOf run = wanted.findSome? (Wanted.stop (get object) optional)) :
    stopOf run = objectStop answer unread optional get wanted := by
  have hfails {stop : Stop} (hstop : stopOf asked = some stop) : stopOf run = some stop := by
    cases hasked : asked with
    | ok object =>
      rw [hasked] at hstop
      cases hstop
    | error e => rw [herror e hasked, hstop]
  match answer with
  | none => exact hfails h
  | some (.ok object) => exact hsome object rfl h
  | some (.error .notFound) =>
    cases optional with
    | true => exact hnone h
    | false => exact hfails h
  | some (.error (.other _)) => exact hfails h

theorem stopOf_map {α β : Type} (f : α → β) (r : Except TranslateError α) :
    stopOf (r.map f) = stopOf r := by
  cases r <;> rfl

/-- The environment of one source, looked up: what was resolved before plays no part. -/
theorem envFromEntries_stop (pod : Pod) (access : ConfigAccess) (ef : EnvFromSource) :
    stopOf (envFromEntries pod.ns access ef) = ef.lookups.findSome? (Lookup.stop pod access) := by
  unfold envFromEntries EnvFromSource.lookups
  split
  · rw [stopOf_map, List.findSome?_singleton]
    refine (getConfigMap_answers access pod.ns _ _).stop (fun _ _ => rfl) ?_ ?_
    · intro hnone
      rw [hnone, stopOf]
    · intro cm _ hsome
      rw [hsome, stopOf, List.findSome?_nil]
  · rw [stopOf_map, List.findSome?_singleton]
    refine (loadSecret_answers access pod.ns _ _).stop (fun _ _ => rfl) ?_ ?_
    · intro hnone
      rw [hnone, stopOf]
    · intro secret _ hsome
      rw [hsome, stopOf, List.findSome?_nil]
  · rfl

theorem resolveEnvFrom_stop (pod : Pod) (access : ConfigAccess) (env : Environment)
    (sources : List EnvFromSource) : stopOf (resolveEnvFrom pod.ns access env sources) =
      (sources.flatMap EnvFromSource.lookups).findSome? (Lookup.stop pod access) := by
  induction sources generalizing env with
  | nil => rfl
  | cons ef rest ih =>
    rw [List.flatMap_cons, List.findSome?_append, ← envFromEntries_stop, resolveEnvFrom]
    cases envFromEntries pod.ns access ef with
    | error e => rfl
    | ok entries => exact ih _

/-- Where one key's lookup stops, in terms of the store's answer. -/
theorem keyValue_stop {α : Type} {answer : Option (Except GetError α)} {unread : Stop}
    {asked : Except TranslateError (Option α)} {ref : KeyRef}
    (h : AnsweredBy answer unread ref.isOptional asked) (data : α → DataMap)
    {missing : TranslateError} (hmissing : missing.retryable = true) :
    stopOf (keyValue (asked.map (Option.map data)) ref missing) =
      objectStop answer unread ref.isOptional (fun object => (data object).get)
        [⟨ref.key, none⟩] := by
  refine h.stop ?_ ?_ ?_
  · rintro e rfl
    rfl
  · rintro rfl
    rfl
  · rintro object - rfl
    rw [List.findSome?_singleton, Wanted.stop]
    simp only [keyValue, Except.map, Option.map_some, Option.all_none]
    cases (data object).get ref.key with
    | some value => rfl
    | none =>
      cases ref.isOptional with
      | true => rfl
      | false => simp [stopOf, hmissing]

/-- An entry of the environment, looked up again where it was resolved once. -/
theorem envValue_stop {pod : Pod} {c : ContainerEnv} {access : ConfigAccess}
    {env : Environment} {e : EnvVar} {value : Option Bytes}
    (h : envValue pod c access env e = .ok value) (access' : ConfigAccess)
    (env' : Environment) : stopOf (envValue pod c access' env' e) =
      e.lookups.findSome? (Lookup.stop pod access') := by
  unfold envValue at h ⊢
  unfold EnvVar.lookups
  cases hsrc : e.valueFrom with
  | none => rfl
  | some src =>
    rw [hsrc] at h
    obtain ⟨fieldRef, resourceFieldRef, configMapKeyRef, secretKeyRef⟩ := src
    dsimp only
    match fieldRef, resourceFieldRef, configMapKeyRef, secretKeyRef, h with
    | some path, _, _, _, h => exact congrArg stopOf h
    | none, some ref, _, _, h => exact congrArg stopOf h
    | none, none, some ref, _, _ =>
      rw [List.findSome?_singleton]
      exact keyValue_stop (getConfigMap_answers access' pod.ns _ _) ConfigMap.data rfl
    | none, none, none, some ref, _ =>
      rw [List.findSome?_singleton]
      exact keyValue_stop (loadSecret_answers access' pod.ns _ _) Secret.data rfl
    | none, none, none, none, _ => rfl

/-- Where an environment that resolved before stops once the stores have changed. -/
theorem resolveEnvVars_stop {pod : Pod} {c : ContainerEnv} {access access' : ConfigAccess}
    {env env' out : Environment} {entries : List EnvVar}
    (h : resolveEnvVars pod c access env entries = .ok out) :
    stopOf (resolveEnvVars pod c access' env' entries) =
      (entries.flatMap EnvVar.lookups).findSome? (Lookup.stop pod access') := by
  induction entries generalizing env env' with
  | nil => rfl
  | cons e rest ih =>
    obtain ⟨⟨value, hvalue⟩, later, hlater⟩ :
        (∃ value, envValue pod c access env e = .ok value) ∧
          ∃ later, resolveEnvVars pod c access later rest = .ok out := by
      rw [resolveEnvVars] at h
      split at h
      · cases h
      · rename_i hnone
        exact ⟨⟨_, hnone⟩, _, h⟩
      · rename_i value hsome
        exact ⟨⟨_, hsome⟩, _, h⟩
    rw [List.flatMap_cons, List.findSome?_append,
      ← envValue_stop hvalue access' env', resolveEnvVars]
    cases envValue pod c access' env' e with
    | error err => rfl
    | ok again =>
      cases again with
      | none => exact ih hlater
      | some value => exact ih hlater

/-- The environment that was resolved once stops at the first lookup that stops. -/
theorem resolveEnv_stop {pod : Pod} {c : ContainerEnv} {access access' : ConfigAccess}
    {out : Environment} (h : resolveEnv pod c access = .ok out) :
    stopOf (resolveEnv pod c access') =
      (c.envFrom.flatMap EnvFromSource.lookups ++ c.env.flatMap EnvVar.lookups).findSome?
        (Lookup.stop pod access') := by
  rw [List.findSome?_append, ← resolveEnvFrom_stop pod access' []]
  unfold resolveEnv at h ⊢
  split at h
  · cases h
  · cases resolveEnvFrom pod.ns access' [] c.envFrom with
    | error e => rfl
    | ok env => exact resolveEnvVars_stop h

end MacVz
