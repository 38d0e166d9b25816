/-
The reaper of orphan micro-VMs: a pass lists the micro-VMs of the host, takes
those that back no live Pod for orphans, and stops and destroys the ones that
have been orphans for a grace period.  A pass that cannot tell what is live
does nothing and keeps what it knew.
-/
import MacVz.GoPackages
import MacVz.WorkloadNaming
import Mathlib.Data.List.Sort

namespace MacVz

variable {orphans : List String}

namespace Drain

/-- `vmPrefix`: how the name of every micro-VM of this node begins. -/
def vmPrefix : List Char := workloadPrefix ++ ['-']

/-- `IsMacVzVM`. -/
def isMacVzVM (id : String) : Bool := vmPrefix <+: id.toList

/-- `Scan`, over the workloads the host lists. -/
def scan (expected : String → Bool) (all : List String) : List String :=
  (all.filter fun id => isMacVzVM id && !expected id).insertionSort (· ≤ ·)

/-- A call of the runtime. -/
inductive VMCall where
  | stop (id : String) (timeout : Int)
  | destroy (id : String)
deriving Repr, DecidableEq

def VMCall.id : VMCall → String
  | .stop id _ => id
  | .destroy id => id

/-- The failures of the runtime; a workload that is not there is not one for the
cleaner. -/
inductive VMError where
  | notFound
  | failed (message : String)
deriving Repr, DecidableEq

/-- What the runtime answers, after the calls of the pass so far. -/
abbrev VMRuntime := List VMCall → VMCall → Option VMError

/-- The errors `Reap` joins. -/
inductive CleanupError where
  | stop (id message : String)
  | destroy (id message : String)
  | flushAnchor (message : String)
deriving Repr, DecidableEq

/-- The cleaner; its flusher, if it has one, with what flushing the anchor gives. -/
structure Cleaner where
  timeout : Int
  flusher : Option (Option String)

/-- The calls made, the workloads reaped, and the failures collected. -/
structure Reaping where
  calls : List VMCall
  reaped : List String
  errs : List CleanupError
deriving Repr, DecidableEq

/-- The default where no timeout is set. -/
def Cleaner.stopTimeout (c : Cleaner) : Int := if c.timeout ≤ 0 then 10000000000 else c.timeout

/-- One orphan: only a failed destroy means that it may still be there. -/
def Cleaner.reapOne (c : Cleaner) (rt : VMRuntime) (acc : Reaping) (id : String) : Reaping :=
  let stop := VMCall.stop id c.stopTimeout
  let destroy := VMCall.destroy id
  let errs := acc.errs ++ match rt acc.calls stop with
    | some (.failed message) => [.stop id message]
    | _ => []
  let calls := acc.calls ++ [stop]
  match rt calls destroy with
  | some (.failed message) => ⟨calls ++ [destroy], acc.reaped, errs ++ [.destroy id message]⟩
  | _ => ⟨calls ++ [destroy], acc.reaped ++ [id], errs⟩

/-- `Reap`. -/
def Cleaner.reap (c : Cleaner) (rt : VMRuntime) (orphans : List String) (dryRun : Bool) : Reaping :=
  if dryRun then ⟨[], orphans, []⟩
  else
    let out := orphans.foldl (c.reapOne rt) ⟨[], [], []⟩
    match c.flusher with
    | some (some message) => { out with errs := out.errs ++ [.flushAnchor message] }
    | _ => out

theorem mem_scan {expected : String → Bool} {all : List String} {id : String} :
    id ∈ scan expected all ↔ id ∈ all ∧ isMacVzVM id = true ∧ expected id = false := by
  simp [scan]

/-- The three names of a container have an ASCII letter or digit each. -/
def Named (t : ContainerIdentity) : Prop :=
  ∀ name ∈ [t.ns, t.podName, t.containerName], ∃ r ∈ name.toList, r.isAlphanum = true

/-- However long the names of a container are, its workload ID is an RFC 1123 label of at most
63 characters under the prefix of the node, so the cleaner knows it as one of its own. -/
theorem workloadID_recognised (t : ContainerIdentity) (hnamed : Named t) :
    t.workloadID.length ≤ 63 ∧
      (∀ r ∈ t.workloadID.toList, isLabelRune r = true ∨ r = '-') ∧
      vmPrefix <+: t.workloadID.toList ∧ t.workloadID.toList.getLast?.any isLabelRune = true ∧
      isDNS1123Label t.workloadID.toList = true ∧ isMacVzVM t.workloadID = true := by
  have hwords : t.words ≠ [] := by
    have hns := nameWords_ne_nil (hnamed t.ns List.mem_cons_self)
    simp [ContainerIdentity.words, hns]
  have hlength := t.workloadID_length
  have hmem : ∀ r ∈ t.workloadID.toList, isLabelRune r = true ∨ r = '-' :=
    fun _ => ContainerIdentity.mem_workloadID
  have hlast := t.workloadID_getLast?
  have hprefix : vmPrefix <+: t.workloadID.toList := t.prefix_workloadID hwords
  refine ⟨String.length_toList ▸ hlength, hmem, hprefix, hlast, ?_, decide_eq_true hprefix⟩
  obtain ⟨rest, hrest⟩ := hprefix
  have hall : t.workloadID.toList.all (fun r => isLabelRune r || r == '-') = true := by
    rw [List.all_eq_true]
    intro r hr
    simpa using hmem r hr
  simp only [isDNS1123Label, Bool.and_eq_true, decide_eq_true_eq]
  refine ⟨⟨⟨⟨?_, hlength⟩, hall⟩, ?_⟩, hlast⟩
  · rw [← hrest]
    exact Nat.succ_pos _
  · rw [← hrest]
    rfl

def longNamed : ContainerIdentity where
  ns := "default"
  podName := "web.with-a-name-that-goes-on-until-it-no-longer-fits-into.one.label"
  containerName := "App"

theorem workloadID_recognised_longNamed : ¬ longNamed.Fits ∧ longNamed.workloadID.length ≤ 63 ∧
      isMacVzVM longNamed.workloadID = true := by
  have hnamed : Named longNamed := by
    intro name hname
    simp only [List.mem_cons, List.not_mem_nil, or_false] at hname
    rcases hname with rfl | rfl | rfl
    · exact ⟨'d', by decide, by decide⟩
    · exact ⟨'w', by decide, by decide⟩
    · exact ⟨'A', by decide, by decide⟩
  have hlabel := workloadID_recognised longNamed hnamed
  exact ⟨by decide, hlabel.1, hlabel.2.2.2.2.2⟩

theorem Cleaner.reapOne_calls (c : Cleaner) (rt : VMRuntime) (acc : Reaping) (id : String) :
    (c.reapOne rt acc id).calls = acc.calls ++ [.stop id c.stopTimeout, .destroy id] := by
  unfold Cleaner.reapOne
  dsimp only
  split
  · simp
  · simp

theorem Cleaner.foldl_reapOne_calls (c : Cleaner) (rt : VMRuntime) (orphans : List String) :
    ∀ acc : Reaping, (orphans.foldl (c.reapOne rt) acc).calls =
      acc.calls ++ orphans.flatMap fun id => [.stop id c.stopTimeout, .destroy id] := by
  induction orphans with
  | nil => simp
  | cons id orphans ih =>
    intro acc
    rw [List.foldl_cons, ih, Cleaner.reapOne_calls, List.append_assoc, List.flatMap_cons]

/-- A reaping stops and destroys every orphan it was given, whatever the runtime answers. -/
theorem Cleaner.reap_calls (c : Cleaner) (rt : VMRuntime) (orphans : List String) :
    (c.reap rt orphans false).calls =
      orphans.flatMap fun id => [.stop id c.stopTimeout, .destroy id] := by
  have hloop := c.foldl_reapOne_calls rt orphans ⟨[], [], []⟩
  simp only [Cleaner.reap, Bool.false_eq_true, ↓reduceIte]
  split
  · exact hloop
  · exact hloop

/-- Every call of a reaping is for an orphan it was given, and a dry run makes none. -/
theorem Cleaner.mem_reap_calls {c : Cleaner} {rt : VMRuntime} {dryRun : Bool} {call : VMCall}
    (h : call ∈ (c.reap rt orphans dryRun).calls) : dryRun = false ∧ call.id ∈ orphans := by
  cases dryRun with
  | true => cases h
  | false =>
    rw [Cleaner.reap_calls] at h
    obtain ⟨id, hid, hcall⟩ := List.mem_flatMap.mp h
    rcases List.mem_pair.mp hcall with rfl | rfl
    · exact ⟨rfl, hid⟩
    · exact ⟨rfl, hid⟩

end Drain

namespace Orphan

open Drain

/-- `Policy`. -/
structure Policy where
  gracePeriod : Int
  dryRun : Bool
deriving Repr, DecidableEq

/-- Why a pass has failed: the live Pods are not known, the workloads cannot be
listed, or some orphans could not be reaped. -/
inductive PassError where
  | expected (message : String)
  | listWorkloads (message : String)
  | reap (errs : List CleanupError)
deriving Repr, DecidableEq

/-- `Result`. -/
structure Result where
  at_ : Int
  scanned : Nat
  pending : Nat
  reaped : List String
  dryRun : Bool
  err : Option PassError
deriving Repr, DecidableEq

/-- The reaper: when each orphan was first seen as one, and the last result. -/
structure Reaper where
  firstSeen : String → Option Int
  last : Option Result

/-- `New`. -/
def Reaper.new : Reaper := ⟨fun _ => none, none⟩

/-- What a pass meets: the clock, the workload IDs of the live Pods, the listing of
the host and the runtime. -/
structure Pass where
  now : Int
  expected : Except String (String → Bool)
  listing : Except String (List String)
  runtime : VMRuntime

variable {passes before : List Pass}

/-- The orphans of a pass, divided by the grace period. -/
structure Division where
  firstSeen : String → Option Int
  matured : List String
  pending : Nat

variable {d : Division}

/-- One orphan: it is recorded when it is new, and has matured or is pending. -/
def Division.add (policy : Policy) (now : Int) (acc : Division) (id : String) : Division :=
  let first := (acc.firstSeen id).getD now
  let firstSeen := fun other => if other = id then some first else acc.firstSeen other
  if policy.gracePeriod ≤ GoTime.sub now first then
    ⟨firstSeen, acc.matured ++ [id], acc.pending⟩
  else ⟨firstSeen, acc.matured, acc.pending + 1⟩

/-- The records of those that are not orphans any more are dropped first. -/
def Reaper.divide (r : Reaper) (policy : Policy) (now : Int) (orphans : List String) : Division :=
  orphans.foldl (Division.add policy now)
    ⟨fun id => if id ∈ orphans then r.firstSeen id else none, [], 0⟩

/-- The outcome of a pass: its result, the calls it made, and the reaper after it. -/
structure Outcome where
  result : Result
  calls : List VMCall
  reaper : Reaper

def Outcome.quiet (result : Result) (firstSeen : String → Option Int) : Outcome :=
  ⟨result, [], ⟨firstSeen, some result⟩⟩

def reapMatured (cleaner : Cleaner) (policy : Policy) (pass : Pass) (scanned : Nat)
    (division : Division) : Outcome :=
  let out := cleaner.reap pass.runtime (division.matured.insertionSort (· ≤ ·)) policy.dryRun
  let result : Result := {
    at_ := pass.now
    scanned := scanned
    pending := division.pending
    reaped := out.reaped
    dryRun := policy.dryRun
    err := if out.errs = [] then none else some (.reap out.errs) }
  -- the record goes only with the workload: a failed destroy is tried again
  let firstSeen := if policy.dryRun then division.firstSeen
    else fun id => if id ∈ out.reaped then none else division.firstSeen id
  ⟨result, out.calls, ⟨firstSeen, some result⟩⟩

/-- `reapOnce`. -/
def reapOnce (cleaner : Cleaner) (policy : Policy) (pass : Pass) (r : Reaper) : Outcome :=
  match pass.expected with
  | .error message =>
    .quiet ⟨pass.now, 0, 0, [], policy.dryRun, some (.expected message)⟩ r.firstSeen
  | .ok expected =>
    match pass.listing with
    | .error message =>
      .quiet ⟨pass.now, 0, 0, [], policy.dryRun, some (.listWorkloads message)⟩ r.firstSeen
    | .ok all =>
      let orphans := scan expected all
      let division := r.divide policy pass.now orphans
      if division.matured = [] then
        .quiet ⟨pass.now, orphans.length, division.pending, [], policy.dryRun, none⟩
          division.firstSeen
      else reapMatured cleaner policy pass orphans.length division

/-- The expected set and the listing of the pass were both obtained. -/
def Pass.Complete (p : Pass) : Prop :=
  ∃ expected all, p.expected = .ok expected ∧ p.listing = .ok all

/-- A listed workload of this node that no Pod expects. -/
def Pass.IsOrphan (p : Pass) (id : String) : Prop :=
  ∃ expected all, p.expected = .ok expected ∧ p.listing = .ok all ∧
    id ∈ all ∧ isMacVzVM id = true ∧ expected id = false

/-- The micro-VM counts as seen since the time: by the record, or by this pass when
there is none. -/
def Reaper.SeenSince (r : Reaper) (now : Int) (id : String) (t : Int) : Prop :=
  r.firstSeen id = some t ∨ r.firstSeen id = none ∧ t = now

variable {cleaner : Cleaner} {policy : Policy} {p : Pass} {r : Reaper} {id : String} {t now : Int}

/-- What is on record and what is due come from the orphans of the pass. -/
structure Division.Sound (r : Reaper) (policy : Policy) (now : Int) (orphans : List String)
    (d : Division) : Prop where
  recorded : ∀ id t, d.firstSeen id = some t → id ∈ orphans ∧ r.SeenSince now id t
  unrecorded : ∀ id ∈ orphans, d.firstSeen id = none → r.firstSeen id = none
  matured : ∀ id ∈ d.matured, id ∈ orphans ∧
    ∃ t, r.SeenSince now id t ∧ policy.gracePeriod ≤ GoTime.sub now t

theorem Division.add_firstSeen (policy : Policy) (now : Int) (d : Division) (id other : String) :
    (d.add policy now id).firstSeen other =
      if other = id then some ((d.firstSeen id).getD now) else d.firstSeen other := by
  unfold Division.add
  dsimp only
  split
  · rfl
  · rfl

/-- Dividing one more orphan keeps the division sound. -/
theorem Division.Sound.add (h : d.Sound r policy now orphans) (hid : id ∈ orphans) :
    (d.add policy now id).Sound r policy now orphans := by
  have hfirst : r.SeenSince now id ((d.firstSeen id).getD now) := by
    cases hrecord : d.firstSeen id with
    | none => exact Or.inr ⟨h.unrecorded id hid hrecord, rfl⟩
    | some t => exact (h.recorded id t hrecord).2
  refine ⟨?_, ?_, ?_⟩
  · intro other t hrecord
    rw [Division.add_firstSeen] at hrecord
    split at hrecord
    · rename_i hsame
      subst hsame
      cases hrecord
      exact ⟨hid, hfirst⟩
    · exact h.recorded other t hrecord
  · intro other hother hnone
    rw [Division.add_firstSeen] at hnone
    split at hnone
    · cases hnone
    · exact h.unrecorded other hother hnone
  · intro other hmatured
    unfold Division.add at hmatured
    dsimp only at hmatured
    split at hmatured
    · rename_i hgrace
      rcases List.mem_append.mp hmatured with hbefore | hnew
      · exact h.matured other hbefore
      · rw [List.mem_singleton] at hnew
        exact hnew ▸ ⟨hid, _, hfirst, hgrace⟩
    · exact h.matured other hmatured

/-- The division of a pass is sound. -/
theorem Reaper.divide_sound (r : Reaper) (policy : Policy) (now : Int) (orphans : List String) :
    (r.divide policy now orphans).Sound r policy now orphans := by
  refine List.foldlRecOn orphans (Division.add policy now)
    (motive := fun d => d.Sound r policy now orphans) ?_ fun d hd id hid => hd.add hid
  refine ⟨?_, ?_, List.forall_mem_nil _⟩
  · intro id t hrecord
    obtain ⟨hid, hsome⟩ := Option.ite_none_right_eq_some.mp hrecord
    exact ⟨hid, Or.inl hsome⟩
  · intro id hid hnone
    dsimp only at hnone
    rwa [if_pos hid] at hnone

/-- The division has dealt with an orphan that counts as seen since the time. -/
def Division.Settles (policy : Policy) (now : Int) (id : String) (t : Int) (d : Division) : Prop :=
  d.firstSeen id = some t ∧ (policy.gracePeriod ≤ GoTime.sub now t → id ∈ d.matured)

/-- An orphan divided keeps its first sighting, and is matured once its grace has passed. -/
theorem Division.add_settles {other : String} (hseen : (d.firstSeen id).getD now = t)
    (h : other = id ∨ d.Settles policy now id t) :
    (d.add policy now other).Settles policy now id t := by
  unfold Division.Settles
  rw [Division.add_firstSeen]
  by_cases hsame : other = id
  · subst hsame
    refine ⟨by rw [if_pos rfl, hseen], fun hgrace => ?_⟩
    simp [Division.add, hseen, hgrace]
  · obtain ⟨hrecord, hmatured⟩ := h.resolve_left hsame
    refine ⟨by rw [if_neg (Ne.symm hsame), hrecord], fun hgrace => ?_⟩
    unfold Division.add
    dsimp only
    split
    · exact List.mem_append_left _ (hmatured hgrace)
    · exact hmatured hgrace

theorem foldl_add_settles (orphans : List String) : ∀ d : Division,
    (d.firstSeen id).getD now = t → id ∈ orphans ∨ d.Settles policy now id t →
      (orphans.foldl (Division.add policy now) d).Settles policy now id t := by
  induction orphans with
  | nil => exact fun d _ h => h.resolve_left List.not_mem_nil
  | cons other orphans ih =>
    intro d hseen h
    refine ih _ ?_ ?_
    · rw [Division.add_firstSeen]
      split
      · rename_i hsame
        rw [← hsame, hseen, Option.getD_some]
      · exact hseen
    · rcases h with hmem | hsettled
      · rcases List.mem_cons.mp hmem with hsame | hmem
        · exact Or.inr (Division.add_settles hseen (Or.inl hsame.symm))
        · exact Or.inl hmem
      · exact Or.inr (Division.add_settles hseen (Or.inr hsettled))

theorem Reaper.divide_settles (hid : id ∈ orphans) (hseen : r.SeenSince now id t) :
    (r.divide policy now orphans).Settles policy now id t := by
  refine foldl_add_settles orphans _ ?_ (Or.inl hid)
  dsimp only
  rw [if_pos hid]
  rcases hseen with hrecord | ⟨hnone, rfl⟩
  · rw [hrecord, Option.getD_some]
  · rw [hnone, Option.getD_none]

/-- An orphan of a pass is reaped or stays recorded with its time, and is destroyed once it has
been one for the grace period. -/
theorem reapOnce_settles (cleaner : Cleaner) (hp : p.IsOrphan id) (hseen : r.SeenSince p.now id t) :
    ((reapOnce cleaner policy p r).reaper.firstSeen id = some t ∨
        id ∈ (reapOnce cleaner policy p r).result.reaped) ∧
      (policy.dryRun = false → policy.gracePeriod ≤ GoTime.sub p.now t →
        .destroy id ∈ (reapOnce cleaner policy p r).calls) := by
  obtain ⟨expected, all, hexpected, hall, horphan⟩ := hp
  obtain ⟨hrecord, hmatured⟩ :
      (r.divide policy p.now (scan expected all)).Settles policy p.now id t :=
    Reaper.divide_settles (mem_scan.mpr horphan) hseen
  simp only [reapOnce, hexpected, hall]
  split
  · rename_i hnone
    refine ⟨Or.inl hrecord, fun _ hgrace => ?_⟩
    rw [hnone] at hmatured
    cases hmatured hgrace
  · refine ⟨?_, fun hlive hgrace => ?_⟩
    · simp only [reapMatured]
      split
      · exact Or.inl hrecord
      · by_cases hreaped : id ∈ (cleaner.reap p.runtime ((r.divide policy p.now
            (scan expected all)).matured.insertionSort (· ≤ ·)) policy.dryRun).reaped
        · exact Or.inr hreaped
        · exact Or.inl ((if_neg hreaped).trans hrecord)
    · simp only [reapMatured, hlive, Cleaner.reap_calls, List.mem_flatMap, List.mem_insertionSort]
      exact ⟨id, hmatured hgrace, by simp⟩

/-- A pass without an expected set or a listing makes no call and keeps its records. -/
theorem reapOnce_incomplete (cleaner : Cleaner) (policy : Policy) (r : Reaper)
    (h : ¬ p.Complete) : (reapOnce cleaner policy p r).calls = [] ∧
      (reapOnce cleaner policy p r).reaper.firstSeen = r.firstSeen := by
  unfold reapOnce
  split
  · exact ⟨rfl, rfl⟩
  · rename_i expected hexpected
    split
    · exact ⟨rfl, rfl⟩
    · rename_i all hall
      exact absurd ⟨expected, all, hexpected, hall⟩ h

/-- A complete pass calls the runtime for orphans of its own that have matured, and
keeps records of its own orphans only. -/
theorem reapOnce_complete (cleaner : Cleaner) (policy : Policy) (r : Reaper) (h : p.Complete) :
    (∀ call ∈ (reapOnce cleaner policy p r).calls, policy.dryRun = false ∧ p.IsOrphan call.id ∧
        ∃ t, r.SeenSince p.now call.id t ∧ policy.gracePeriod ≤ GoTime.sub p.now t) ∧
      ∀ id t, (reapOnce cleaner policy p r).reaper.firstSeen id = some t →
        p.IsOrphan id ∧ r.SeenSince p.now id t := by
  obtain ⟨expected, all, hexpected, hall⟩ := h
  have hsound := r.divide_sound policy p.now (scan expected all)
  have horphan : ∀ id ∈ scan expected all, p.IsOrphan id := fun id hid =>
    ⟨expected, all, hexpected, hall, mem_scan.mp hid⟩
  have hrecorded : ∀ id t, (r.divide policy p.now (scan expected all)).firstSeen id = some t →
      p.IsOrphan id ∧ r.SeenSince p.now id t := fun id t hrecord =>
    (hsound.recorded id t hrecord).imp_left (horphan id)
  simp only [reapOnce, hexpected, hall]
  split
  · exact ⟨List.forall_mem_nil _, hrecorded⟩
  · refine ⟨?_, ?_⟩
    · intro call hcall
      obtain ⟨hlive, hmatured⟩ := Cleaner.mem_reap_calls hcall
      rw [List.mem_insertionSort] at hmatured
      obtain ⟨hid, hgrace⟩ := hsound.matured call.id hmatured
      exact ⟨hlive, horphan _ hid, hgrace⟩
    · intro id t hrecord
      simp only [reapMatured] at hrecord
      split at hrecord
      · exact hrecorded id t hrecord
      · exact hrecorded id t (Option.ite_none_left_eq_some.mp hrecord).2

/-- The reaper after its passes so far. -/
def after (cleaner : Cleaner) (policy : Policy) (passes : List Pass) : Reaper :=
  passes.foldl (fun r p => (reapOnce cleaner policy p r).reaper) Reaper.new

/-- In one of the passes, at the time, the micro-VM was seen as an orphan without being
known as one, and it was an orphan in every later pass that was complete. -/
def OrphanSince (cleaner : Cleaner) (policy : Policy) (passes : List Pass) (id : String)
    (t : Int) : Prop :=
  ∃ before first between, passes = before ++ first :: between ∧
    (after cleaner policy before).firstSeen id = none ∧ first.IsOrphan id ∧ first.now = t ∧
    ∀ later ∈ between, later.Complete → later.IsOrphan id

/-- A pass in which the micro-VM is an orphan if it is complete carries its history on. -/
theorem OrphanSince.extend (h : OrphanSince cleaner policy passes id t)
    (hp : p.Complete → p.IsOrphan id) : OrphanSince cleaner policy (passes ++ [p]) id t := by
  obtain ⟨before, first, between, rfl, hnone, hfirst, htime, hlater⟩ := h
  refine ⟨before, first, between ++ [p], by simp, hnone, hfirst, htime, fun later hmem => ?_⟩
  rcases List.mem_append.mp hmem with hbetween | hlast
  · exact hlater later hbetween
  · rw [List.mem_singleton] at hlast
    exact hlast ▸ hp

theorem OrphanSince.of_seenSince
    (hrecords : ∀ t, (after cleaner policy passes).firstSeen id = some t →
      OrphanSince cleaner policy passes id t) (hp : p.IsOrphan id)
    (hseen : (after cleaner policy passes).SeenSince p.now id t) :
    OrphanSince cleaner policy (passes ++ [p]) id t := by
  rcases hseen with hrecord | ⟨hnone, rfl⟩
  · exact (hrecords t hrecord).extend fun _ => hp
  · exact ⟨passes, p, [], rfl, hnone, hp, rfl, List.forall_mem_nil _⟩

/-- A recorded first sighting is since when the workload has been an orphan. -/
theorem orphanSince_of_record (passes : List Pass) (id : String) :
    ∀ t, (after cleaner policy passes).firstSeen id = some t →
      OrphanSince cleaner policy passes id t := by
  induction passes using List.reverseRecOn with
  | nil => exact fun t h => by cases h
  | append_singleton passes p ih =>
    intro t hrecord
    rw [after, List.foldl_append] at hrecord
    by_cases hcomplete : p.Complete
    · obtain ⟨horphan, hseen⟩ :=
        (reapOnce_complete cleaner policy (after cleaner policy passes) hcomplete).2 id t hrecord
      exact OrphanSince.of_seenSince ih horphan hseen
    · have hkept :=
        (reapOnce_incomplete cleaner policy (after cleaner policy passes) hcomplete).2
      refine OrphanSince.extend (ih t ?_) fun h => absurd h hcomplete
      rw [← hkept]
      exact hrecord

/-- In every sequence of passes, a pass stops or destroys a micro-VM only outside a dry
run, when it is one of this node, not expected in that pass, and an orphan since a pass
at least a grace period earlier; a pass that is not complete does neither. -/
theorem reaped_only_after_grace (cleaner : Cleaner) (policy : Policy) (earlier : List Pass)
    (p : Pass) :
    (¬ p.Complete → (reapOnce cleaner policy p (after cleaner policy earlier)).calls = []) ∧
      ∀ call ∈ (reapOnce cleaner policy p (after cleaner policy earlier)).calls,
        policy.dryRun = false ∧ isMacVzVM call.id = true ∧
          (∃ expected, p.expected = .ok expected ∧ expected call.id = false) ∧
          ∃ t, OrphanSince cleaner policy (earlier ++ [p]) call.id t ∧
            policy.gracePeriod ≤ GoTime.sub p.now t ∧
            (GoTime.minDuration < policy.gracePeriod → t + policy.gracePeriod ≤ p.now) := by
  refine ⟨fun h => (reapOnce_incomplete cleaner policy _ h).1, fun call hcall => ?_⟩
  by_cases hcomplete : p.Complete
  · obtain ⟨hlive, horphan, t, hseen, hgrace⟩ :=
      (reapOnce_complete cleaner policy _ hcomplete).1 call hcall
    have hsince := OrphanSince.of_seenSince (orphanSince_of_record earlier call.id) horphan hseen
    obtain ⟨expected, all, hexpected, -, -, hours, habsent⟩ := horphan
    exact ⟨hlive, hours, ⟨expected, hexpected, habsent⟩, t, hsince, hgrace,
      fun hmin => GoTime.le_of_le_sub hmin hgrace⟩
  · rw [(reapOnce_incomplete cleaner policy _ hcomplete).1] at hcall
    cases hcall

/-- One of the passes reaped the workload. -/
def ReapedIn (cleaner : Cleaner) (policy : Policy) (before passes : List Pass) (id : String) :
    Prop :=
  ∃ earlier q later, passes = earlier ++ q :: later ∧
    id ∈ (reapOnce cleaner policy q (after cleaner policy (before ++ earlier))).result.reaped

theorem ReapedIn.extend (h : ReapedIn cleaner policy before passes id) (p : Pass) :
    ReapedIn cleaner policy before (passes ++ [p]) id := by
  obtain ⟨earlier, q, later, rfl, hreaped⟩ := h
  exact ⟨earlier, q, later ++ [p], by simp, hreaped⟩

/-- From the pass in which a micro-VM is first seen as an orphan on, its record stays with the time
of that pass as long as it is not reaped. -/
theorem record_stays {between : List Pass} {first : Pass}
    (hnew : (after cleaner policy before).firstSeen id = none) (hfirst : first.IsOrphan id)
    (hbetween : ∀ q ∈ between, q.Complete → q.IsOrphan id) :
    (after cleaner policy (before ++ first :: between)).firstSeen id = some first.now ∨
      ReapedIn cleaner policy before (first :: between) id := by
  induction between using List.reverseRecOn with
  | nil =>
    rw [after, List.foldl_append]
    refine (reapOnce_settles cleaner hfirst (Or.inr ⟨hnew, rfl⟩)).1.imp_right fun hreaped => ?_
    exact ⟨[], first, [], rfl, by rwa [List.append_nil]⟩
  | append_singleton between p ih =>
    rcases ih fun q hq => hbetween q (List.mem_append_left _ hq) with hrecord | hreaped
    · rw [← List.cons_append, ← List.append_assoc, after, List.foldl_append]
      by_cases hcomplete : p.Complete
      · have hp := hbetween p (by simp) hcomplete
        refine (reapOnce_settles cleaner hp (Or.inl hrecord)).1.imp_right fun hreaped => ?_
        exact ⟨first :: between, p, [], rfl, hreaped⟩
      · have hkept := (reapOnce_incomplete cleaner policy
          (after cleaner policy (before ++ first :: between)) hcomplete).2
        exact Or.inl ((congrFun hkept id).trans hrecord)
    · exact Or.inr (hreaped.extend p)

/-- A micro-VM that is seen as an orphan, and is one in every complete pass from then on, is
destroyed by each complete pass a grace period later unless a pass in between has reaped it:
passes that fail, and a destroy that fails, only delay it. -/
theorem orphan_destroyed_after_grace (hlive : policy.dryRun = false) {before between : List Pass}
    {first p : Pass} (hnew : (after cleaner policy before).firstSeen id = none)
    (hfirst : first.IsOrphan id) (hbetween : ∀ q ∈ between, q.Complete → q.IsOrphan id)
    (hp : p.IsOrphan id) (hgrace : policy.gracePeriod ≤ GoTime.sub p.now first.now) :
    ReapedIn cleaner policy before (first :: between) id ∨
      .destroy id ∈ (reapOnce cleaner policy p
        (after cleaner policy (before ++ first :: between))).calls := by
  rcases record_stays hnew hfirst hbetween with hrecord | hreaped
  · exact Or.inr ((reapOnce_settles cleaner hp (Or.inl hrecord)).2 hlive hgrace)
  · exact Or.inl hreaped

namespace ReaperWitness

def tenMinutes : Policy := ⟨600000000000, false⟩

def kubeletCleaner : Cleaner := ⟨10000000000, none⟩

/-- A pass at the second, with the Pods' workloads, on a host that runs one micro-VM
of this node and one of another tool, and does as told. -/
def passAt (second : Int) (expected : Except String (List String)) : Pass where
  now := second * 1000000000
  expected := expected.map fun ids id => id ∈ ids
  listing := .ok ["buildkit", "macvz-default-web-app"]
  runtime := fun _ _ => none

end ReaperWitness

open ReaperWitness in
/-- The micro-VM is seen without its Pod, the Pods are unknown in the second pass, and
the third pass, ten minutes after the first, destroys it. -/
theorem reaped_only_after_grace_in_third_pass :
    let unknown := passAt 300 (.error "the API is not reachable")
    (reapOnce kubeletCleaner tenMinutes unknown
        (after kubeletCleaner tenMinutes [passAt 0 (.ok [])])).calls = [] ∧
      .destroy "macvz-default-web-app" ∈ (reapOnce kubeletCleaner tenMinutes (passAt 600 (.ok []))
        (after kubeletCleaner tenMinutes [passAt 0 (.ok []), unknown])).calls ∧
      ∃ t, OrphanSince kubeletCleaner tenMinutes
          [passAt 0 (.ok []), unknown, passAt 600 (.ok [])] "macvz-default-web-app" t ∧
        t + 600000000000 ≤ (passAt 600 (.ok [])).now := by
  have hcall : .destroy "macvz-default-web-app" ∈ (reapOnce kubeletCleaner tenMinutes
      (passAt 600 (.ok [])) (after kubeletCleaner tenMinutes
        [passAt 0 (.ok []), passAt 300 (.error "the API is not reachable")])).calls := by
    decide
  refine ⟨(reaped_only_after_grace kubeletCleaner tenMinutes [passAt 0 (.ok [])] _).1 ?_, hcall, ?_⟩
  · rintro ⟨expected, all, hexpected, -⟩
    cases hexpected
  · obtain ⟨-, -, -, t, hsince, -, hgrace⟩ :=
      (reaped_only_after_grace kubeletCleaner tenMinutes _ (passAt 600 (.ok []))).2 _ hcall
    exact ⟨t, hsince, hgrace (by decide)⟩

open ReaperWitness in
/-- A pass that does not know the Pods lies between the first sight and the grace period. -/
theorem orphan_destroyed_after_grace_in_third_pass :
    ReapedIn kubeletCleaner tenMinutes []
        [passAt 0 (.ok []), passAt 300 (.error "the API is not reachable")]
        "macvz-default-web-app" ∨
      .destroy "macvz-default-web-app" ∈ (reapOnce kubeletCleaner tenMinutes (passAt 600 (.ok []))
        (after kubeletCleaner tenMinutes
          [passAt 0 (.ok []), passAt 300 (.error "the API is not reachable")])).calls := by
  have horphan (second : Int) : (passAt second (.ok [])).IsOrphan "macvz-default-web-app" :=
    ⟨_, _, rfl, rfl, by simp, by decide, rfl⟩
  refine orphan_destroyed_after_grace rfl rfl (horphan 0) ?_ (horphan 600) (by decide)
  intro q hq hcomplete
  obtain rfl := List.mem_singleton.mp hq
  obtain ⟨expected, all, hexpected, -⟩ := hcomplete
  cases hexpected

end Orphan

end MacVz
