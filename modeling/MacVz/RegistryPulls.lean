/-
Concurrent image pulls over one credential store.  A pull with a credential logs in, pulls and
logs out under the lock of its registry; a pull without one takes no lock, so it may run while
somebody else is logged in to the same registry.
-/
import MacVz.Interleaving
import MacVz.GoPackages

namespace MacVz.RegistryPulls

open Interleaving

/-- `runtime.RegistryAuth`. -/
structure RegistryAuth where
  server : String
  username : String
  password : String
deriving Repr, DecidableEq

/-- What the store of the runtime keeps for a registry. -/
structure Credential where
  username : String
  password : String
deriving Repr, DecidableEq

def RegistryAuth.credential (auth : RegistryAuth) : Credential := ⟨auth.username, auth.password⟩

/-- `registryHost`. -/
def registryHost (image : String) : String :=
  match GoStrings.cut '/' image.toList with
  | none => "docker.io"
  | some (first, _) =>
    if first = "localhost".toList ∨ '.' ∈ first ∨ ':' ∈ first then String.ofList first
    else "docker.io"

/-- The arguments of a `Pull`. -/
structure PullArgs where
  image : String
  auth : Option RegistryAuth
deriving Repr, DecidableEq

/-- The credential `Pull` logs in with. -/
def PullArgs.login (args : PullArgs) : Option RegistryAuth :=
  args.auth.filter fun auth => auth.server ≠ ""

/-- Where a `Pull` is: before the lock of its registry, the login, the pull, the inspection of
the image, the deferred logout and the deferred unlock, or returned. -/
inductive Place where
  | entry
  | locked
  | ready
  | pulled
  | leaving
  | unlocking
  | returned
deriving Repr, DecidableEq

def Place.hasLock : Place → Bool
  | .locked | .ready | .pulled | .leaving | .unlocking => true
  | .entry | .returned => false

def Place.loggedIn : Place → Bool
  | .ready | .pulled | .leaving => true
  | .entry | .locked | .unlocking | .returned => false

/-- The calls, the locks of the registries with the call that has them, the credential store,
and the pulls made so far with what they found there, newest first. -/
structure Pulls (ι : Type) where
  place : ι → Place
  lock : String → Option ι
  store : String → Option Credential
  log : List (ι × Option Credential)

section

variable {ι : Type} [DecidableEq ι] (args : ι → PullArgs) {s s' : Pulls ι} {l : ι × Bool}

def Pulls.start : Pulls ι where
  place := fun _ => .entry
  lock := fun _ => none
  store := fun _ => none
  log := []

def Pulls.goto (s : Pulls ι) (i : ι) (next : Place) : Pulls ι :=
  { s with place := Function.update s.place i next }

/-- `Pull`, one invocation of the CLI or one operation on a lock at a time; the flag says
whether a pull succeeds. -/
def step (s : Pulls ι) : ι × Bool → Option (Pulls ι)
  | (i, pulls) =>
    match s.place i with
    | .entry =>
      if (args i).image = "" then some (s.goto i .returned)
      else
        match (args i).login with
        | none => some (s.goto i .ready)
        | some auth =>
          match s.lock auth.server with
          | some _ => none
          | none =>
            some { s.goto i .locked with
              lock := Function.update s.lock auth.server (some i) }
    | .locked =>
      (args i).login.map fun auth =>
        { s.goto i .ready with
          store := Function.update s.store auth.server (some auth.credential) }
    | .ready =>
      some { s.goto i (if pulls then .pulled else .leaving) with
        log := (i, s.store (registryHost (args i).image)) :: s.log }
    | .pulled => some (s.goto i .leaving)
    | .leaving =>
      match (args i).login with
      | none => some (s.goto i .returned)
      | some auth =>
        some { s.goto i .unlocking with
          store := Function.update s.store auth.server none }
    | .unlocking =>
      (args i).login.map fun auth =>
        { s.goto i .returned with lock := Function.update s.lock auth.server none }
    | .returned => none

/-- A call without a credential pulls while nobody is logged in to its registry. -/
def Unshared (s : Pulls ι) (l : ι × Bool) : Prop :=
  s.place l.1 = .ready → (args l.1).login = none →
    ∀ j auth, (args j).login = some auth → auth.server = registryHost (args l.1).image →
      (s.place j).loggedIn = false

/-- Every step a call can take. -/
inductive Moved (s : Pulls ι) (i : ι) : Pulls ι → Prop where
  | refused (hplace : s.place i = .entry) : Moved s i (s.goto i .returned)
  | passed (hplace : s.place i = .entry) (hlogin : (args i).login = none) :
      Moved s i (s.goto i .ready)
  | lock (auth : RegistryAuth) (hplace : s.place i = .entry) (hlogin : (args i).login = some auth)
      (hfree : s.lock auth.server = none) :
      Moved s i { s.goto i .locked with
        lock := Function.update s.lock auth.server (some i) }
  | login (auth : RegistryAuth) (hplace : s.place i = .locked)
      (hlogin : (args i).login = some auth) :
      Moved s i { s.goto i .ready with
        store := Function.update s.store auth.server (some auth.credential) }
  | pull (next : Place) (hplace : s.place i = .ready) (hnext : next.loggedIn = true) :
      Moved s i { s.goto i next with
        log := (i, s.store (registryHost (args i).image)) :: s.log }
  | inspect (hplace : s.place i = .pulled) : Moved s i (s.goto i .leaving)
  | left (hplace : s.place i = .leaving) (hlogin : (args i).login = none) :
      Moved s i (s.goto i .returned)
  | logout (auth : RegistryAuth) (hplace : s.place i = .leaving)
      (hlogin : (args i).login = some auth) :
      Moved s i { s.goto i .unlocking with
        store := Function.update s.store auth.server none }
  | unlock (auth : RegistryAuth) (hplace : s.place i = .unlocking)
      (hlogin : (args i).login = some auth) :
      Moved s i { s.goto i .returned with
        lock := Function.update s.lock auth.server none }

/-- What one step of a call does, by its place. -/
theorem step_moved (h : step args s l = some s') : Moved args s l.1 s' := by
  simp only [step] at h
  split at h
  · rename_i hplace
    split at h
    · cases h
      exact .refused hplace
    · split at h
      · rename_i hlogin
        cases h
        exact .passed hplace hlogin
      · rename_i auth hlogin
        split at h
        · cases h
        · rename_i hfree
          cases h
          exact .lock auth hplace hlogin hfree
  · rename_i hplace
    obtain ⟨auth, hlogin, rfl⟩ := Option.map_eq_some_iff.mp h
    exact .login auth hplace hlogin
  · rename_i hplace
    cases h
    apply Moved.pull _ hplace
    split
    · rfl
    · rfl
  · rename_i hplace
    cases h
    exact .inspect hplace
  · rename_i hplace
    split at h
    · rename_i hlogin
      cases h
      exact .left hplace hlogin
    · rename_i auth hlogin
      cases h
      exact .logout auth hplace hlogin
  · rename_i hplace
    obtain ⟨auth, hlogin, rfl⟩ := Option.map_eq_some_iff.mp h
    exact .unlock auth hplace hlogin
  · cases h

/-- Who is past the lock of a registry has it. -/
def Locked (place : ι → Place) (lock : String → Option ι) : Prop :=
  ∀ i auth, (args i).login = some auth → (place i).hasLock = true → lock auth.server = some i

/-- A call that is logged in finds its credential in the store, and nothing is there but the
credentials of such calls. -/
structure Stored (place : ι → Place) (store : String → Option Credential) : Prop where
  own : ∀ i auth, (args i).login = some auth → (place i).loggedIn = true →
    store auth.server = some auth.credential
  owner : ∀ host credential, store host = some credential →
    ∃ i auth, (args i).login = some auth ∧ auth.server = host ∧ (place i).loggedIn = true

theorem Place.hasLock_of_loggedIn {p : Place} (h : p.loggedIn = true) : p.hasLock = true := by
  cases p with
  | ready | pulled | leaving => rfl
  | entry | locked | unlocking | returned => cases h

variable {args} {place : ι → Place} {lock : String → Option ι} {store : String → Option Credential}
  {i : ι} {p : Place} {auth : RegistryAuth}

omit [DecidableEq ι] in
theorem Locked.unique (h : Locked args place lock) {j : ι} {auth' : RegistryAuth}
    (hi : (args i).login = some auth) (hj : (args j).login = some auth')
    (hserver : auth'.server = auth.server) (hlock : (place i).hasLock = true)
    (hlock' : (place j).hasLock = true) : j = i := by
  have hholder := h j auth' hj hlock'
  rw [hserver, h i auth hi hlock] at hholder
  exact (Option.some.inj hholder).symm

theorem Locked.goto (h : Locked args place lock)
    (hmove : (args i).login = none ∨ (p.hasLock = true → (place i).hasLock = true)) :
    Locked args (Function.update place i p) lock := by
  intro j auth hlogin hlock
  by_cases hj : j = i
  · subst hj
    rw [Function.update_self] at hlock
    rcases hmove with hnone | hkeeps
    · cases hnone.symm.trans hlogin
    · exact h j auth hlogin (hkeeps hlock)
  · rw [Function.update_of_ne hj] at hlock
    exact h j auth hlogin hlock

theorem Locked.take (h : Locked args place lock) (hlogin : (args i).login = some auth)
    (hfree : lock auth.server = none) :
    Locked args (Function.update place i p) (Function.update lock auth.server (some i)) := by
  intro j auth' hlogin' hlock
  by_cases hj : j = i
  · subst hj
    obtain rfl := Option.some.inj (hlogin.symm.trans hlogin')
    exact Function.update_self _ _ _
  · rw [Function.update_of_ne hj] at hlock
    have hheld := h j auth' hlogin' hlock
    -- the lock was free, so it is another one
    have hother : auth'.server ≠ auth.server := by
      intro heq
      rw [heq, hfree] at hheld
      cases hheld
    rw [Function.update_of_ne hother, hheld]

theorem Locked.give (h : Locked args place lock) (hlogin : (args i).login = some auth)
    (hlocked : (place i).hasLock = true) (hp : p.hasLock = false) :
    Locked args (Function.update place i p) (Function.update lock auth.server none) := by
  intro j auth' hlogin' hlock
  by_cases hj : j = i
  · subst hj
    rw [Function.update_self, hp] at hlock
    cases hlock
  · rw [Function.update_of_ne hj] at hlock
    have hother : auth'.server ≠ auth.server :=
      fun heq => hj (h.unique hlogin hlogin' heq hlocked hlock)
    rw [Function.update_of_ne hother, h j auth' hlogin' hlock]

theorem Stored.goto (h : Stored args place store)
    (hmove : (args i).login = none ∨ p.loggedIn = (place i).loggedIn) :
    Stored args (Function.update place i p) store where
  own := by
    intro j auth hlogin hin
    by_cases hj : j = i
    · subst hj
      rw [Function.update_self] at hin
      rcases hmove with hnone | hsame
      · cases hnone.symm.trans hlogin
      · exact h.own j auth hlogin (hsame ▸ hin)
    · rw [Function.update_of_ne hj] at hin
      exact h.own j auth hlogin hin
  owner := by
    intro host credential hstore
    obtain ⟨j, auth, hlogin, hserver, hin⟩ := h.owner host credential hstore
    refine ⟨j, auth, hlogin, hserver, ?_⟩
    by_cases hj : j = i
    · subst hj
      rw [Function.update_self]
      rcases hmove with hnone | hsame
      · cases hnone.symm.trans hlogin
      · exact hsame.trans hin
    · rwa [Function.update_of_ne hj]

/-- A login under the server's lock stores the call's own credentials. -/
theorem Stored.login (h : Stored args place store) (hlocks : Locked args place lock)
    (hlogin : (args i).login = some auth) (hlocked : (place i).hasLock = true)
    (hout : (place i).loggedIn = false) (hp : p.loggedIn = true) :
    Stored args (Function.update place i p)
      (Function.update store auth.server (some auth.credential)) where
  own := by
    intro j auth' hlogin' hin
    by_cases hj : j = i
    · subst hj
      obtain rfl := Option.some.inj (hlogin.symm.trans hlogin')
      exact Function.update_self _ _ _
    · rw [Function.update_of_ne hj] at hin
      have hother : auth'.server ≠ auth.server := fun heq =>
        hj (hlocks.unique hlogin hlogin' heq hlocked (Place.hasLock_of_loggedIn hin))
      rw [Function.update_of_ne hother, h.own j auth' hlogin' hin]
  owner := by
    intro host credential hstore
    by_cases hhost : host = auth.server
    · exact ⟨i, auth, hlogin, hhost.symm, by rwa [Function.update_self]⟩
    · rw [Function.update_of_ne hhost] at hstore
      obtain ⟨j, auth', hlogin', hserver, hin⟩ := h.owner host credential hstore
      have hj : j ≠ i := by
        rintro rfl
        rw [hout] at hin
        cases hin
      exact ⟨j, auth', hlogin', hserver, by rwa [Function.update_of_ne hj]⟩

/-- A logout leaves the server without credentials. -/
theorem Stored.logout (h : Stored args place store) (hlocks : Locked args place lock)
    (hlogin : (args i).login = some auth) (hin : (place i).loggedIn = true)
    (hp : p.loggedIn = false) :
    Stored args (Function.update place i p) (Function.update store auth.server none) where
  own := by
    intro j auth' hlogin' hin'
    by_cases hj : j = i
    · subst hj
      rw [Function.update_self, hp] at hin'
      cases hin'
    · rw [Function.update_of_ne hj] at hin'
      have hother : auth'.server ≠ auth.server := fun heq =>
        hj (hlocks.unique hlogin hlogin' heq (Place.hasLock_of_loggedIn hin)
          (Place.hasLock_of_loggedIn hin'))
      rw [Function.update_of_ne hother, h.own j auth' hlogin' hin']
  owner := by
    intro host credential hstore
    by_cases hhost : host = auth.server
    · rw [hhost, Function.update_self] at hstore
      cases hstore
    · rw [Function.update_of_ne hhost] at hstore
      obtain ⟨j, auth', hlogin', hserver, hin'⟩ := h.owner host credential hstore
      have hj : j ≠ i := by
        rintro rfl
        obtain rfl := Option.some.inj (hlogin.symm.trans hlogin')
        exact hhost hserver.symm
      exact ⟨j, auth', hlogin', hserver, by rwa [Function.update_of_ne hj]⟩

/-- A step keeps the locks and the credentials with the calls that took them. -/
theorem Moved.keeps (hmoved : Moved args s i s') (hlocks : Locked args s.place s.lock)
    (hstore : Stored args s.place s.store) :
    Locked args s'.place s'.lock ∧ Stored args s'.place s'.store := by
  cases hmoved with
  | refused hplace =>
    exact ⟨hlocks.goto (Or.inr fun h => by cases h), hstore.goto (Or.inr (by rw [hplace]; rfl))⟩
  | passed hplace hlogin => exact ⟨hlocks.goto (Or.inl hlogin), hstore.goto (Or.inl hlogin)⟩
  | lock auth hplace hlogin hfree =>
    exact ⟨hlocks.take hlogin hfree, hstore.goto (Or.inr (by rw [hplace]; rfl))⟩
  | login auth hplace hlogin =>
    have hlocked : (s.place i).hasLock = true := by rw [hplace]; rfl
    have hout : (s.place i).loggedIn = false := by rw [hplace]; rfl
    exact ⟨hlocks.goto (Or.inr fun _ => hlocked), hstore.login hlocks hlogin hlocked hout rfl⟩
  | pull next hplace hnext =>
    have hlocked : (s.place i).hasLock = true := by rw [hplace]; rfl
    exact ⟨hlocks.goto (Or.inr fun _ => hlocked), hstore.goto (Or.inr (by rw [hplace, hnext]; rfl))⟩
  | inspect hplace =>
    have hlocked : (s.place i).hasLock = true := by rw [hplace]; rfl
    exact ⟨hlocks.goto (Or.inr fun _ => hlocked), hstore.goto (Or.inr (by rw [hplace]; rfl))⟩
  | left hplace hlogin => exact ⟨hlocks.goto (Or.inl hlogin), hstore.goto (Or.inl hlogin)⟩
  | logout auth hplace hlogin =>
    have hlocked : (s.place i).hasLock = true := by rw [hplace]; rfl
    have hin : (s.place i).loggedIn = true := by rw [hplace]; rfl
    exact ⟨hlocks.goto (Or.inr fun _ => hlocked), hstore.logout hlocks hlogin hin rfl⟩
  | unlock auth hplace hlogin =>
    have hlocked : (s.place i).hasLock = true := by rw [hplace]; rfl
    exact ⟨hlocks.give hlogin hlocked rfl, hstore.goto (Or.inr (by rw [hplace]; rfl))⟩

theorem Moved.log (hmoved : Moved args s i s') : s.place i ≠ .ready ∧ s'.log = s.log ∨
      s.place i = .ready ∧ s'.log = (i, s.store (registryHost (args i).image)) :: s.log := by
  cases hmoved with
  | pull next hplace _ => exact Or.inr ⟨hplace, rfl⟩
  | refused hplace | passed hplace | lock _ hplace | login _ hplace | inspect hplace
  | left hplace | logout _ hplace | unlock _ hplace =>
    exact Or.inl ⟨fun hready => (by cases hplace.symm.trans hready), rfl⟩

theorem registryHost_ne_empty (image : String) : registryHost image ≠ "" := by
  unfold registryHost
  split
  · decide
  · rename_i first _ _
    split
    · rename_i hhost
      intro hempty
      obtain rfl : first = [] := by simpa using congrArg String.toList hempty
      rcases hhost with hlocal | hdot | hcolon
      · cases hlocal
      · cases hdot
      · cases hcolon
    · decide

/-- The calls pull without a credential, or with one for the registry of their image. -/
def Resolved (args : ι → PullArgs) : Prop :=
  ∀ i auth, (args i).auth = some auth → auth.server = registryHost (args i).image

omit [DecidableEq ι] in
theorem Resolved.login_eq (h : Resolved args) (i : ι) : (args i).login = (args i).auth := by
  unfold PullArgs.login
  cases hauth : (args i).auth with
  | none => rfl
  | some auth =>
    have hserver : auth.server ≠ "" := h i auth hauth ▸ registryHost_ne_empty _
    rw [Option.filter_some, if_pos (by simpa using hserver)]

omit [DecidableEq ι] in
/-- A call that is about to pull finds its own credential, unless it has none and somebody is
logged in to the registry. -/
theorem Stored.finds_own_iff (h : Stored args s.place s.store) (hargs : Resolved args)
    (hready : s.place l.1 = .ready) :
    s.store (registryHost (args l.1).image) = (args l.1).auth.map RegistryAuth.credential ↔
      Unshared args s l := by
  rw [← hargs.login_eq]
  cases hlogin : (args l.1).login with
  | some auth =>
    have hserver := hargs l.1 auth (hargs.login_eq l.1 ▸ hlogin)
    have hown := h.own l.1 auth hlogin (by rw [hready]; rfl)
    rw [hserver] at hown
    exact ⟨fun _ _ hnone => (by cases hnone.symm.trans hlogin), fun _ => hown⟩
  | none =>
    constructor
    · intro hempty _ _ j auth hj hserver
      apply Bool.eq_false_iff.mpr
      intro hin
      have hown := h.own j auth hj hin
      rw [hserver, hempty] at hown
      cases hown
    · intro hunshared
      apply Option.eq_none_iff_forall_ne_some.mpr
      intro credential hstore
      obtain ⟨j, auth, hj, hserver, hin⟩ := h.owner _ _ hstore
      rw [hunshared hready hlogin j auth hj hserver] at hin
      cases hin

/-- Each pull found the credential of its own call. -/
def Pulls.OwnCredentials (args : ι → PullArgs) (s : Pulls ι) : Prop :=
  ∀ pull ∈ s.log, pull.2 = (args pull.1).auth.map RegistryAuth.credential

/-- A step leaves each pull on its own credentials exactly where it meets no other call's login.
-/
theorem Moved.ownCredentials_iff (hmoved : Moved args s l.1 s') (hargs : Resolved args)
    (hstore : Stored args s.place s.store) :
    s'.OwnCredentials args ↔ s.OwnCredentials args ∧ Unshared args s l := by
  rcases hmoved.log with ⟨hplace, hlog⟩ | ⟨hready, hlog⟩
  · have hunshared : Unshared args s l := fun hready => absurd hready hplace
    unfold Pulls.OwnCredentials
    rw [hlog]
    exact ⟨fun hown => ⟨hown, hunshared⟩, And.left⟩
  · rw [← hstore.finds_own_iff hargs hready]
    unfold Pulls.OwnCredentials
    rw [hlog, List.forall_mem_cons, and_comm]

omit [DecidableEq ι] in
theorem start_sound (args : ι → PullArgs) : Locked args Pulls.start.place Pulls.start.lock ∧
      Stored args (Pulls.start : Pulls ι).place (Pulls.start : Pulls ι).store := by
  constructor
  · intro _ _ _ hlock
    cases hlock
  · constructor
    · intro _ _ _ hin
      cases hin
    · intro _ _ hstore
      cases hstore

/-- The state after any history of calls: the locks and the store are in order, and the pulls
were right just when none was a shared one. -/
theorem run_sound (hargs : Resolved args) {ls : List (ι × Bool)}
    (hrun : Run (step args) (fun _ _ => True) Pulls.start ls s) :
    (Locked args s.place s.lock ∧ Stored args s.place s.store) ∧
      (s.OwnCredentials args ↔
        ¬ Happened (step args) (fun s l => ¬ Unshared args s l) Pulls.start ls) := by
  apply Run.history (I := fun ls s =>
    (Locked args s.place s.lock ∧ Stored args s.place s.store) ∧
      (s.OwnCredentials args ↔
        ¬ Happened (step args) (fun s l => ¬ Unshared args s l) Pulls.start ls)) _ _ hrun
  · exact ⟨start_sound args, fun _ => not_happened_nil, fun _ _ hpull => (by cases hpull)⟩
  · intro ls s s' l hrun ih _ hs
    obtain ⟨⟨hlocks, hstore⟩, hown⟩ := ih
    have hmoved := step_moved args hs
    refine ⟨hmoved.keeps hlocks hstore, ?_⟩
    rw [hmoved.ownCredentials_iff hargs hstore, hrun.happened_snoc, hown, not_or, not_not]

omit [DecidableEq ι] in
theorem Stored.empty_of_returned (h : Stored args s.place s.store)
    (hreturned : ∀ i, s.place i = .returned) (host : String) : s.store host = none := by
  apply Option.eq_none_iff_forall_ne_some.mpr
  intro credential hstore
  obtain ⟨i, _, _, _, hin⟩ := h.owner host credential hstore
  rw [hreturned i] at hin
  cases hin

/-- In every interleaving of any calls each pull runs with the credential of its own call, and
the store is empty once they have returned, just when no call without a credential pulled while
another was logged in to the registry of its image. -/
theorem pulls_use_own_credentials_iff (hargs : Resolved args) {ls : List (ι × Bool)} {s : Pulls ι}
    (hrun : Run (step args) (fun _ _ => True) Pulls.start ls s) :
    (s.OwnCredentials args ∧ ((∀ i, s.place i = .returned) → ∀ host, s.store host = none)) ↔
      ¬ Happened (step args) (fun s l => ¬ Unshared args s l) Pulls.start ls := by
  obtain ⟨⟨_, hstore⟩, hown⟩ := run_sound hargs hrun
  exact ⟨fun h => hown.mp h.1, fun h => ⟨hown.mpr h, hstore.empty_of_returned⟩⟩

/-- Over every interleaving of any calls, of those that log in to one registry at most one is past
its lock, and what the store holds is the credential of a call that is logged in. -/
theorem credentials_held_by_one (hargs : Resolved args) {ls : List (ι × Bool)} {s : Pulls ι}
    (hrun : Run (step args) (fun _ _ => True) Pulls.start ls s) :
    (∀ i j auth auth', (args i).login = some auth → (args j).login = some auth' →
      auth.server = auth'.server → (s.place i).hasLock = true → (s.place j).hasLock = true →
        i = j) ∧
      ∀ host credential, s.store host = some credential → ∃ i auth,
        (args i).login = some auth ∧ auth.server = host ∧ auth.credential = credential ∧
          (s.place i).loggedIn = true := by
  obtain ⟨⟨hlocks, hstore⟩, -⟩ := run_sound hargs hrun
  refine ⟨fun i j auth auth' hi hj hserver hlock hlock' => ?_, fun host credential hheld => ?_⟩
  · exact (hlocks.unique hi hj hserver.symm hlock hlock').symm
  · obtain ⟨i, auth, hlogin, hserver, hin⟩ := hstore.owner host credential hheld
    have hown := hstore.own i auth hlogin hin
    rw [hserver, hheld] at hown
    exact ⟨i, auth, hlogin, hserver, (Option.some.inj hown).symm, hin⟩

end

/-- A Pod that pulls a private image with its secret, and one that has no secret for the same
registry. -/
def twoPods : Bool → PullArgs
  | true => ⟨"ghcr.io/team/api:v1", some ⟨"ghcr.io", "deploy", "hunter2"⟩⟩
  | false => ⟨"ghcr.io/public/tool:v1", none⟩

theorem twoPods_resolved : Resolved twoPods := by
  intro i auth hauth
  cases i with
  | true =>
    obtain rfl := Option.some.inj hauth
    decide
  | false => cases hauth

/-- Two Pods with secrets of their own for one registry. -/
def rivals : Bool → PullArgs
  | true => ⟨"ghcr.io/team/api:v1", some ⟨"ghcr.io", "deploy", "hunter2"⟩⟩
  | false => ⟨"ghcr.io/team/web:v1", some ⟨"ghcr.io", "ci", "swordfish"⟩⟩

theorem rivals_resolved : Resolved rivals := by
  intro i auth hauth
  cases i with
  | true | false =>
    obtain rfl := Option.some.inj hauth
    decide

/-- While the first of the two is logged in, the second cannot take the lock. -/
theorem credentials_held_by_one_logged_in : ∃ s,
    Run (step rivals) (fun _ _ => True) Pulls.start [(true, true), (true, true)] s ∧
      (s.place true).hasLock = true ∧ step rivals s (false, true) = none ∧
      (s.place false).hasLock = false ∧ s.store "ghcr.io" = some ⟨"deploy", "hunter2"⟩ ∧
      ∃ i auth, (rivals i).login = some auth ∧ auth.server = "ghcr.io" ∧
        auth.credential = ⟨"deploy", "hunter2"⟩ ∧ (s.place i).loggedIn = true := by
  have hcheck : (execWhen (step rivals) (fun _ _ => true) Pulls.start
      [(true, true), (true, true)]).any (fun s => (s.place true).hasLock &&
        (step rivals s (false, true)).isNone &&
          s.store "ghcr.io" = some ⟨"deploy", "hunter2"⟩) := by
    decide
  obtain ⟨s, hrun, hs⟩ := exists_run_of_check _ (fun _ _ _ => trivial) hcheck
  simp only [Bool.and_eq_true, Option.isNone_iff_eq_none, decide_eq_true_eq] at hs
  obtain ⟨⟨hlock, hwaits⟩, hheld⟩ := hs
  obtain ⟨hone, howner⟩ := credentials_held_by_one rivals_resolved hrun
  have hother : (s.place false).hasLock = false := by
    by_contra hboth
    exact absurd (hone true false _ _ rfl rfl rfl hlock (by simpa using hboth)) (by decide)
  exact ⟨s, hrun, hlock, hwaits, hother, hheld, howner _ _ hheld⟩

/-- The second Pod waits for its pull until the first is logged out. -/
def inTurn (s : Pulls Bool) (l : Bool × Bool) : Bool :=
  l.1 || s.place l.1 ≠ .ready || !(s.place true).loggedIn

theorem unshared_of_inTurn {s : Pulls Bool} {l : Bool × Bool} (h : inTurn s l = true) :
    Unshared twoPods s l := by
  obtain ⟨i, pulls⟩ := l
  intro hready hlogin j auth hj _
  cases i with
  | true => cases hlogin
  | false =>
    cases j with
    | true => simpa [inTurn, hready] using h
    | false => cases hj

theorem pulls_in_turn_use_own_credentials : ∃ s, Run (step twoPods) (fun _ _ => True) Pulls.start
        [(true, true), (true, true), (false, true), (true, true), (true, true), (true, true),
          (false, true), (false, true), (true, true), (false, true)] s ∧
      (∀ i, s.place i = .returned) ∧ s.OwnCredentials twoPods ∧
        ((∀ i, s.place i = .returned) → ∀ host, s.store host = none) := by
  obtain ⟨s, hexec, hreturned⟩ := (Option.any_eq_true
    (fun s : Pulls Bool => decide (∀ i, s.place i = .returned))
    (execWhen (step twoPods) inTurn Pulls.start
      [(true, true), (true, true), (false, true), (true, true), (true, true), (true, true),
        (false, true), (false, true), (true, true), (false, true)])).mp (by decide)
  have hrun := run_of_execWhen (fun _ _ _ => trivial) hexec
  have hunshared := not_happened_of_execWhen (P := fun s l => ¬ Unshared twoPods s l)
    (fun _ _ hturn hshared => hshared (unshared_of_inTurn hturn)) hexec
  exact ⟨s, hrun, of_decide_eq_true hreturned,
    (pulls_use_own_credentials_iff twoPods_resolved hrun).mpr hunshared⟩

/-- The second Pod pulls while the first is logged in, and pulls as the first. -/
theorem anonymous_pull_uses_foreign_credential : Resolved twoPods ∧
      ((exec (step twoPods) Pulls.start
          [(true, true), (true, true), (false, true), (false, true)]).map Pulls.log =
        some [(false, some ⟨"deploy", "hunter2"⟩)]) ∧
      (twoPods false).auth = none := by
  exact ⟨twoPods_resolved, by decide, rfl⟩

end MacVz.RegistryPulls
