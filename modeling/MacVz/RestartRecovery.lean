/-
Restart of the provider.  `RecoverAllocations` reserves the addresses Kubernetes has
on record, and `CreatePod` then finds them: a Pod on record is reported at its
recorded address, which no other Pod is given, and a micro-VM that has survived is
adopted.  A Pod that is turned down when it is created again is reported without an
address.
-/
import MacVz.AddressReturn
import MacVz.PodIPAMHistory

namespace MacVz

open Interleaving

variable {st st' : PodState} {c c' : CreateCall} {o : Outcome} {keys : List String} {a : PodIPAM}
  {pod : Pod}

/-- The Pod is reported at the address, also when it has ended. -/
structure Reports (st : PodState) (ip : String) : Prop where
  stored : st.status.podIP = ip
  final : ∀ status, st.terminalStatus = some status → status.podIP = ip

theorem Reports.of_eq {ip : String} (h : Reports st ip) (hstatus : st'.status = st.status)
    (hterminal : st'.terminalStatus = st.terminalStatus) : Reports st' ip where
  stored := hstatus ▸ h.stored
  final := fun status hfinal => h.final status (hterminal ▸ hfinal)

/-- A read reports the stored address, once there is one, and what a final status shows. -/
theorem Reports.read {s : Sys} {ip : String} (h : Reports st ip)
    (hshown : ip ≠ "" ∨ st.terminalStatus.isSome) (o : Outcome) : Reports (s.read st o).1 ip where
  stored := by
    cases hterminal : st.terminalStatus with
    | none =>
      rw [hterminal] at hshown
      have hne : st.status.podIP ≠ "" := by simpa [h.stored] using hshown
      exact (reconcileStatus_podIP s.hostIP s.restartBackoffBase
        (fun id => s.vms.status id o.status) hterminal hne).trans h.stored
    | some status =>
      have hread : (s.read st o).1.status = status := by
        simp only [Sys.read, reconcileStatus, hterminal]
      rw [hread]
      exact h.final status hterminal
  final := by
    intro status hfinal
    rw [read_terminal] at hfinal
    exact h.final status hfinal

theorem finished_reports {ip : String} (h : Reports st ip) (t : RestartTask) (s : Sys) :
    Reports (t.finished s st).1 ip := by
  rw [finished_eq]
  split <;> exact h.of_eq rfl rfl

theorem snapshotUpdate_reports {ip : String} (h : Reports st ip) :
    Reports (snapshotUpdate st).st ip := by
  rw [snapshotUpdate_eq]
  exact h.of_eq rfl rfl

theorem Acts.reports {p : Prober} {base : Int} {ok : Bool} {u : Update}
    (hacts : Acts p base ok st u) {ip : String} (h : Reports st ip) : Reports u.st ip := by
  cases hacts with
  | fail =>
    refine ⟨h.stored, ?_⟩
    intro status hfinal
    obtain rfl := Option.some.inj hfinal
    exact h.stored
  | _ => exact h.of_eq rfl rfl

theorem Evolves.reports {key : String} {s : Sys} {l : Label} {ip : String}
    (hevolves : Evolves key s st l st') (h : Reports st ip)
    (hshown : ip ≠ "" ∨ st.terminalStatus.isSome) : Reports st' ip := by
  cases hevolves with
  | same => exact h
  | read o => exact h.read hshown o
  | snapshot place o t _ _ _ => exact snapshotUpdate_reports h
  | finish place o t _ _ _ => exact finished_reports h t s
  | unsupported place o p _ _ _ _ _ => exact h.of_eq rfl rfl
  | act place o p ok _ _ _ => exact (actUpdate_acts _ _ ok st).reports h

theorem committed_reports (s : Sys) (o : Outcome) (hip : c.podIP ≠ "") :
    Reports (c.committed s o).1 c.podIP := by
  have hstate : Reports c.state c.podIP := ⟨rfl, fun _ h => by cases h⟩
  have hread : Reports (s.read c.state o).1 c.podIP := hstate.read (Or.inl hip) o
  rw [committed_eq]
  exact hread.of_eq rfl rfl

/-- The Pod has been turned down: it has a final status without an address. -/
def TurnedDown (st : PodState) : Prop := st.terminalStatus.isSome = true ∧ Reports st ""

/-- A tracked Pod is reported at the address the key holds, or has been turned down. -/
structure Addressed (key : String) (s : Sys) : Prop where
  bound : Bound key s
  coordinated : s.ipam.isSome = true
  undeleted : s.deletes = []
  call : ∀ c, s.creating = some c → c.pod.key = key → c.pc.addressed = true →
    s.holds key = some c.podIP
  leaving : ∀ c, s.creating = some c → c.pod.key = key → c.pc = .release →
    ∀ st, s.pods key = some st → TurnedDown st
  tracked : ∀ st, s.pods key = some st → TurnedDown st ∨
    ∃ ip, ip ≠ "" ∧ s.holds key = some ip ∧ Reports st ip

def deletesNone : Label → Bool
  | .deleteBegin _ => false
  | _ => true

theorem keepsKey_of_deletesNone {l : Label} (h : deletesNone l = true) (key : String) :
    keepsKey key l = true := by
  cases l with
  | deleteBegin pod => cases h
  | _ => rfl

section Addressed

variable {key : String} {s s' : Sys} {l : Label}

theorem step_undeletes (hdeletes : s.deletes = []) (hl : deletesNone l = true)
    (hstep : step s l = some s') : s'.deletes = [] := by
  rcases step_deletes hstep with hsame | ⟨pod, st, rfl, _⟩ | ⟨place, o, d, _, hd, _⟩
  · exact hsame.trans hdeletes
  · cases hl
  · rw [hdeletes] at hd
    cases hd

/-- Without a deletion, the key holds what it held unless its own call moves. -/
theorem step_holds_of_call (hdeletes : s.deletes = []) (hstep : step s l = some s')
    (hcall : ∀ c o, l = .create o → s.creating = some c → c.pod.key ≠ key) :
    s'.holds key = s.holds key := by
  refine step_holds hstep hcall ?_
  intro place o d _ hd
  rw [hdeletes] at hd
  cases hd

theorem TurnedDown.evolves (hevolves : Evolves key s st l st') (h : TurnedDown st) :
    TurnedDown st' := by
  refine ⟨?_, hevolves.reports h.2 (Or.inr h.1)⟩
  rcases hevolves.terminal_cases with hsame | ⟨id, hfailed⟩
  · rw [hsame]
    exact h.1
  · rw [hfailed]
    rfl

theorem Addressed.step_call (h : Addressed key s) (hstep : step s l = some s')
    (hc' : s'.creating = some c') (hkey : c'.pod.key = key) (hpc : c'.pc.addressed = true) :
    s'.holds key = some c'.podIP := by
  rcases step_creating hstep hc' with ⟨hc, hother⟩ | ⟨pod, rfl, rfl⟩ | ⟨c, o, rfl, hc, rfl⟩
  · rw [step_holds_of_call h.undeleted hstep fun _ o hcreate => absurd hcreate (hother o)]
    exact h.call c' hc hkey hpc
  · cases hpc
  · have hmove := createNext_move s c o
    have hown : c.pod.key = key := hmove.pod_eq ▸ hkey
    obtain rfl := create_step hstep hc
    rw [holds_of_ipam (createStep_ipam s c o), ← hown]
    refine createEffect_holds h.coordinated (fun hbefore => ?_) hpc
    rw [hown]
    exact h.call c hc hown hbefore

theorem Addressed.call_ne_empty (h : Addressed key s) (hc : s.creating = some c)
    (hkey : c.pod.key = key) (hpc : c.pc.addressed = true) : c.podIP ≠ "" := by
  have hheld := h.call c hc hkey hpc
  cases hipam : s.ipam with
  | none => simp [Sys.holds, hipam] at hheld
  | some a => exact a.nonempty key _ (by simpa [Sys.holds, hipam] using hheld)

theorem Addressed.born (h : Addressed key s) (hstep : step s l = some s')
    (hnone : s.pods key = none) (hst : s'.pods key = some st) :
    (∃ c o reason message, l = .create o ∧ s.creating = some c ∧ c.pod.key = key ∧
        c.pc = .terminal reason message ∧ TurnedDown st) ∨
      ∃ ip, ip ≠ "" ∧ s.holds key = some ip ∧ Reports st ip := by
  obtain ⟨c, o, rfl, hc, hkey, hborn⟩ := step_born hstep hnone hst
  rcases hborn with ⟨hpc, rfl⟩ | ⟨reason, message, hpc, rfl⟩
  · have haddressed : c.pc.addressed = true := by rw [hpc]; rfl
    have hne := h.call_ne_empty hc hkey haddressed
    exact Or.inr ⟨c.podIP, hne, h.call c hc hkey haddressed, committed_reports s o hne⟩
  · refine Or.inl ⟨c, o, reason, message, rfl, hc, hkey, hpc, rfl, rfl, ?_⟩
    intro status hfinal
    obtain rfl := Option.some.inj hfinal
    rfl

theorem Addressed.step_holds_tracked (h : Addressed key s) (hstep : step s l = some s')
    {ip : String} (hheld : s.holds key = some ip)
    (hrelease : ∀ c, s.creating = some c → c.pod.key = key → c.pc ≠ .release) :
    s'.holds key = some ip := by
  by_cases hcall : ∃ c o, l = .create o ∧ s.creating = some c ∧ c.pod.key = key
  · obtain ⟨c, o, rfl, hc, rfl⟩ := hcall
    obtain rfl := create_step hstep hc
    rw [holds_of_ipam (createStep_ipam s c o)]
    have hipam : (createEffect s c o).ipam = s.ipam := by
      by_cases hallocate : c.pc = .allocate
      · simp only [createEffect, hallocate]
        exact afterAllocate_held hheld
      · exact createEffect_ipam s o hallocate (hrelease c hc rfl)
    rw [holds_of_ipam hipam]
    exact hheld
  · rw [step_holds_of_call h.undeleted hstep]
    · exact hheld
    · intro c o hl hc hkey
      exact hcall ⟨c, o, hl, hc, hkey⟩

/-- A tracked Pod reports the address it holds after a step, or was turned down. -/
theorem Addressed.step_tracked (h : Addressed key s) (hl : deletesNone l = true)
    (hstep : step s l = some s') (hst' : s'.pods key = some st') :
    TurnedDown st' ∨ ∃ ip, ip ≠ "" ∧ s'.holds key = some ip ∧ Reports st' ip := by
  cases hst : s.pods key with
  | some st =>
    have hevolves := step_evolves_to h.bound hstep hst hst'
    rcases h.tracked st hst with hdown | ⟨ip, hne, hheld, hreports⟩
    · exact Or.inl (hdown.evolves hevolves)
    · refine Or.inr ⟨ip, hne, h.step_holds_tracked hstep hheld ?_,
        hevolves.reports hreports (Or.inl hne)⟩
      intro c hc hkey hpc
      -- a call that releases has turned its Pod down
      have hdown := h.leaving c hc hkey hpc st hst
      exact hne (hreports.stored.symm.trans hdown.2.stored)
  | none =>
    rcases h.born hstep hst hst' with ⟨_, _, _, _, _, _, _, _, hdown⟩ | ⟨ip, hne, hheld, hreports⟩
    · exact Or.inl hdown
    · refine Or.inr ⟨ip, hne, h.step_holds_tracked hstep hheld ?_, hreports⟩
      intro c hc hkey hpc
      obtain ⟨c₁, o, rfl, hc₁, _, hborn⟩ := step_born hstep hst hst'
      obtain rfl := Option.some.inj (hc.symm.trans hc₁)
      rcases hborn with ⟨hcommit, _⟩ | ⟨_, _, hterminal, _⟩
      · rw [hpc] at hcommit
        cases hcommit
      · rw [hpc] at hterminal
        cases hterminal

theorem CreateMove.release_cases (h : CreateMove s o c c') (hpc : c'.pc = .release) :
    c.pc.pending = true := by
  cases h with
  | found rs pc _ _ hgo => rcases hgo with ⟨rfl, _⟩ | ⟨rfl, _⟩ | ⟨rfl, _⟩ <;> cases hpc
  | started pc _ _ hgo => rcases hgo with ⟨rfl, _⟩ | ⟨rfl, _⟩ <;> cases hpc
  | recorded reason message pc hterminal _ => rw [hterminal]; rfl
  | rolledBackAll pc hrollback _ => rw [hrollback]; rfl
  | failedEarly e pc hearly _ => cases hplace : c.pc <;> simp_all [CreatePC.early, CreatePC.pending]
  | failedLate e pc hlate _ => cases hplace : c.pc <;> simp_all [CreatePC.late, CreatePC.pending]
  | _ => cases hpc

theorem Addressed.step_leaving (h : Addressed key s) (hl : deletesNone l = true)
    (hstep : step s l = some s') (hc' : s'.creating = some c') (hkey : c'.pod.key = key)
    (hpc : c'.pc = .release) (hst' : s'.pods key = some st') : TurnedDown st' := by
  rcases step_creating hstep hc' with ⟨hc, hother⟩ | ⟨pod, rfl, rfl⟩ | ⟨c, o, rfl, hc, rfl⟩
  · cases hst : s.pods key with
    | some st =>
      have hevolves := step_evolves_to h.bound hstep hst hst'
      exact (h.leaving c' hc hkey hpc st hst).evolves hevolves
    | none =>
      obtain ⟨_, o, rfl, _⟩ := step_born hstep hst hst'
      exact absurd rfl (hother o)
  · cases hpc
  · have hmove := createNext_move s c o
    have hown : c.pod.key = key := hmove.pod_eq ▸ hkey
    have hnone := h.bound.untracked c hc hown (hmove.release_cases hpc)
    obtain ⟨c₁, o₁, ho₁, hc₁, _, hborn⟩ := step_born hstep hnone hst'
    obtain rfl := Option.some.inj (hc.symm.trans hc₁)
    rcases hborn with ⟨hcommit, _⟩ | ⟨reason, message, _, rfl⟩
    · have hdone : (createNext s c o).pc = .done := by simp only [createNext, hcommit]
      rw [hdone] at hpc
      cases hpc
    · refine ⟨rfl, rfl, ?_⟩
      intro status hfinal
      obtain rfl := Option.some.inj hfinal
      rfl

theorem Addressed.step (h : Addressed key s) (hl : deletesNone l = true)
    (hstep : step s l = some s') : Addressed key s' where
  bound := step_bound h.bound (keepsKey_of_deletesNone hl key) hstep
  coordinated := by rw [(step_config hstep).2]; exact h.coordinated
  undeleted := step_undeletes h.undeleted hl hstep
  call := fun _ => h.step_call hstep
  leaving := fun _ hc' hkey hpc _ => h.step_leaving hl hstep hc' hkey hpc
  tracked := fun _ => h.step_tracked hl hstep

theorem fresh_addressed (podNet : Bool) (hostIP : String) (base : Int) (a : PodIPAM)
    (vms : VMTable) (nextInst : Nat) (key : String) :
    Addressed key (Sys.fresh podNet hostIP base (some a) vms nextInst) where
  bound := fresh_bound podNet hostIP base (some a) vms nextInst key
  coordinated := rfl
  undeleted := rfl
  call := fun _ h => by cases h
  leaving := fun _ h => by cases h
  tracked := fun _ h => by cases h

end Addressed

/-- The address on record for a Pod is in canonical form and usable. -/
def Recordable (a : PodIPAM) (pod : Pod) : Prop :=
  ∃ parsed, GoNet.parseIP pod.status.podIP = some parsed ∧
    canonIP parsed a.net.width = some pod.status.podIP ∧ a.usable parsed = true

theorem Recordable.ne_empty (h : Recordable a pod) : pod.status.podIP ≠ "" := by
  obtain ⟨parsed, hparse, -⟩ := h
  intro hempty
  rw [hempty] at hparse
  cases hparse

/-- A recorded address that is free is reserved for its Pod. -/
theorem reserveRecorded_free (h : Recordable a pod) (hkey : a.table.byKey pod.key = none)
    (hip : a.table.byValue pod.status.podIP = none) : (reserveRecorded a pod).table.byKey =
        Function.update a.table.byKey pod.key (some pod.status.podIP) ∧
      (reserveRecorded a pod).table.byValue =
        Function.update a.table.byValue pod.status.podIP (some pod.key) ∧
      ∀ other, Recordable a other → Recordable (reserveRecorded a pod) other := by
  have hne := h.ne_empty
  obtain ⟨parsed, hparse, hcanon, husable⟩ := h
  have hfits : ¬ (pod.status.podIP = "" ∨ a.usable parsed = false) := by
    rintro (hempty | hunusable)
    · exact hne hempty
    · rw [husable] at hunusable
      cases hunusable
  rw [reserveRecorded, if_neg hne]
  rcases a.reserve_fits pod.key hparse hcanon hfits with
    ⟨owner, howner, -⟩ | ⟨existing, -, hexisting, -⟩ | ⟨_, _, hres⟩
  · rw [hip] at howner
    cases howner
  · rw [hkey] at hexisting
    cases hexisting
  · rw [hres]
    exact ⟨rfl, rfl, fun _ hother => hother⟩

/-- Recorded Pods with addresses of their own are each reserved theirs. -/
theorem foldl_reserveRecorded {pods : List Pod} (hkeys : (pods.map Pod.key).Nodup)
    (hips : (pods.map fun pod => pod.status.podIP).Nodup)
    (hrecordable : ∀ pod ∈ pods, Recordable a pod)
    (hfree : ∀ pod ∈ pods, a.table.byKey pod.key = none ∧ a.table.byValue pod.status.podIP = none) :
    (∀ pod ∈ pods, (pods.foldl reserveRecorded a).table.byKey pod.key = some pod.status.podIP) ∧
      ∀ key ip, a.table.byKey key = some ip →
        (pods.foldl reserveRecorded a).table.byKey key = some ip := by
  induction pods generalizing a with
  | nil => simp
  | cons pod rest ih =>
    rw [List.map_cons, List.nodup_cons] at hkeys hips
    rw [List.forall_mem_cons] at hrecordable hfree
    obtain ⟨hbyKey, hbyValue, hkept⟩ :=
      reserveRecorded_free hrecordable.1 hfree.1.1 hfree.1.2
    have hrest : ∀ other ∈ rest, (reserveRecorded a pod).table.byKey other.key = none ∧
        (reserveRecorded a pod).table.byValue other.status.podIP = none := by
      intro other hother
      rw [hbyKey, hbyValue]
      constructor
      · rw [Function.update_of_ne]
        · exact (hfree.2 other hother).1
        · exact fun heq => hkeys.1 (heq ▸ List.mem_map_of_mem hother)
      · rw [Function.update_of_ne]
        · exact (hfree.2 other hother).2
        · exact fun heq => hips.1 (heq ▸ List.mem_map.mpr ⟨other, hother, rfl⟩)
    obtain ⟨hall, hold⟩ := ih hkeys.2 hips.2
      (fun other hother => hkept other (hrecordable.2 other hother)) hrest
    refine ⟨List.forall_mem_cons.mpr ⟨?_, hall⟩, ?_⟩
    · apply hold
      rw [hbyKey, Function.update_self]
    · intro key ip hheld
      apply hold
      rw [hbyKey, Function.update_of_ne]
      · exact hheld
      · rintro rfl
        rw [hfree.1.1] at hheld
        cases hheld

/-- `Status` tells what the runtime holds. -/
def Outcome.told (o : Outcome) : Bool :=
  match o.status with
  | .actual _ => true
  | .given _ => false

/-- What a Pod on record is given at a step: it is not deleted, its translation succeeds,
the lookup of its workload is told the truth, and `Pull` does not report an incompatible
architecture. -/
def servesRecord (keys : List String) (s : Sys) : Label → Bool
  | .deleteBegin _ => false
  | .create o => s.creating.all fun c => c.pod.key ∉ keys ||
      match c.pc with
      | .translate => (translatePod c.pod o.resolved).isOk
      | .lookup => o.told
      | .pull => o.fault.all fun fault => !fault.error.isIncompatibleArch
      | _ => true
  | _ => true

/-- The key holds the address on record, and its Pod is reported at it. -/
structure Recovered (key ip : String) (s : Sys) : Prop where
  addressed : Addressed key s
  holds : s.holds key = some ip
  staged : ∀ c, s.creating = some c → c.pod.key = key → c.Staged
  had : ∀ c, s.creating = some c → c.pod.key = key → c.pc = .allocate ∨ c.podIP ≠ "" →
    c.hadPodIP = true
  accepted : ∀ c, s.creating = some c → c.pod.key = key → ∀ reason message,
    c.pc ≠ .terminal reason message
  tracked : ∀ st, s.pods key = some st → Reports st ip

section Recovered

variable {key ip : String} {s s' : Sys} {l : Label}

theorem deletesNone_of_servesRecord (h : servesRecord keys s l = true) : deletesNone l = true := by
  cases l with
  | deleteBegin pod => cases h
  | _ => rfl

theorem CreateMove.terminal_cases (h : CreateMove s o c c') {reason message : String}
    (hpc : c'.pc = .terminal reason message) : c.pc = .translate ∨ c.pc = .pull := by
  cases h with
  | unsupported text hbefore => exact Or.inl hbefore
  | wrongArch text hbefore => exact Or.inr hbefore
  | found rs pc _ _ hgo => rcases hgo with ⟨rfl, _⟩ | ⟨rfl, _⟩ | ⟨rfl, _⟩ <;> cases hpc
  | started pc _ _ hgo => rcases hgo with ⟨rfl, _⟩ | ⟨rfl, _⟩ <;> cases hpc
  | recorded _ _ pc _ hgo | rolledBackAll pc _ hgo | failedEarly _ pc _ hgo =>
    rcases hgo with rfl | rfl <;> cases hpc
  | failedLate e pc _ hgo => rcases hgo with rfl | rfl | rfl <;> cases hpc
  | _ => cases hpc

theorem createNext_accepted (hc : s.creating = some c) (hkey : c.pod.key ∈ keys)
    (hserved : servesRecord keys s (.create o) = true) (reason message : String) :
    (createNext s c o).pc ≠ .terminal reason message := by
  intro hpc
  simp only [servesRecord, hc, Option.all_some, hkey, not_true_eq_false, decide_false,
    Bool.false_or] at hserved
  rcases (createNext_move s c o).terminal_cases hpc with hbefore | hbefore
  · simp only [hbefore] at hserved
    simp only [createNext, hbefore] at hpc
    cases htranslate : translatePod c.pod o.resolved with
    | ok result =>
      rw [htranslate] at hpc
      cases hpc
    | error e =>
      rw [htranslate] at hserved
      cases hserved
  · simp only [hbefore] at hserved
    simp only [createNext, hbefore] at hpc
    cases hfault : o.fault with
    | none =>
      rw [hfault] at hpc
      cases hpc
    | some fault =>
      simp only [hfault, Option.all_some, Bool.not_eq_true'] at hserved
      simp only [hfault, hserved, Bool.false_eq_true, ↓reduceIte] at hpc
      rcases failWith_cases c (.pull c.spec.image c.pod.firstContainer fault.error) with heq | heq
      · rw [heq] at hpc
        cases hpc
      · rw [heq] at hpc
        cases hpc

theorem CreateMove.had_eq (h : CreateMove s o c c') (hbefore : c.pc ≠ .hadIP) :
    c'.hadPodIP = c.hadPodIP := by
  cases h with
  | reservation hpc => exact absurd hpc hbefore
  | _ => rfl

theorem Recovered.keeps (h : Recovered key ip s) (hc : s.creating = some c)
    (hkey : c.pod.key = key) : c.pc ≠ .release := by
  intro hpc
  have hstaged := h.staged c hc hkey
  simp only [CreateCall.Staged, hpc] at hstaged
  have hhad := h.had c hc hkey (Or.inr hstaged.1)
  rw [hstaged.2] at hhad
  cases hhad

theorem step_staged (h : Recovered key ip s) (hstep : step s l = some s')
    (hc' : s'.creating = some c') (hkey : c'.pod.key = key) : c'.Staged := by
  rcases step_creating hstep hc' with ⟨hc, _⟩ | ⟨pod, _, rfl⟩ | ⟨c, o, rfl, hc, rfl⟩
  · exact h.staged c' hc hkey
  · exact begin_staged pod
  · exact createNext_staged s o (h.staged c hc ((createNext_move s c o).pod_eq ▸ hkey))

theorem Recovered.step_had (h : Recovered key ip s) (hstep : step s l = some s')
    (hc' : s'.creating = some c') (hkey : c'.pod.key = key)
    (hpc : c'.pc = .allocate ∨ c'.podIP ≠ "") : c'.hadPodIP = true := by
  rcases step_creating hstep hc' with ⟨hc, _⟩ | ⟨pod, _, rfl⟩ | ⟨c, o, rfl, hc, rfl⟩
  · exact h.had c' hc hkey hpc
  · rcases hpc with hpc | hne
    · cases hpc
    · exact absurd rfl hne
  · have hmove := createNext_move s c o
    have hown : c.pod.key = key := hmove.pod_eq ▸ hkey
    by_cases hbefore : c.pc = .hadIP
    · have hhad : (createNext s c o).hadPodIP = hasAllocatedIP s.ipam c.pod.key := by
        simp only [createNext, hbefore]
      rw [hhad, hasAllocatedIP_holds, hown, h.holds]
      rfl
    · rw [hmove.had_eq hbefore]
      apply h.had c hc hown
      by_cases hallocate : c.pc = .allocate
      · exact Or.inl hallocate
      · rcases hpc with hpc | hne
        · exact absurd (hmove.allocate_cases hpc) hbefore
        · exact Or.inr ((hmove.address_eq hbefore hallocate).1 ▸ hne)

theorem Recovered.step_accepted (h : Recovered key ip s) (hmem : key ∈ keys)
    (hl : servesRecord keys s l = true) (hstep : step s l = some s') (hc' : s'.creating = some c')
    (hkey : c'.pod.key = key) (reason message : String) : c'.pc ≠ .terminal reason message := by
  rcases step_creating hstep hc' with ⟨hc, _⟩ | ⟨pod, _, rfl⟩ | ⟨c, o, rfl, hc, rfl⟩
  · exact h.accepted c' hc hkey reason message
  · exact fun h => by cases h
  · have hown : c.pod.key = key := (createNext_move s c o).pod_eq ▸ hkey
    exact createNext_accepted hc (hown ▸ hmem) hl reason message

theorem Recovered.ne_empty (h : Recovered key ip s) : ip ≠ "" := by
  have hheld := h.holds
  cases hipam : s.ipam with
  | none => simp [Sys.holds, hipam] at hheld
  | some a => exact a.nonempty key ip (by simpa [Sys.holds, hipam] using hheld)

/-- A step that serves the record keeps the recovered address. -/
theorem step_recovered (h : Recovered key ip s) (hmem : key ∈ keys)
    (hl : servesRecord keys s l = true) (hstep : step s l = some s') : Recovered key ip s' where
  addressed := h.addressed.step (deletesNone_of_servesRecord hl) hstep
  holds := h.addressed.step_holds_tracked hstep h.holds fun _ hc hkey => h.keeps hc hkey
  staged := fun _ => step_staged h hstep
  had := fun _ => h.step_had hstep
  accepted := fun _ => h.step_accepted hmem hl hstep
  tracked := by
    intro st' hst'
    cases hst : s.pods key with
    | some st =>
      have hevolves :=
        step_evolves_to h.addressed.bound hstep hst hst'
      exact hevolves.reports (h.tracked st hst) (Or.inl h.ne_empty)
    | none =>
      rcases h.addressed.born hstep hst hst' with
        ⟨c, o, reason, message, _, hc, hkey, hpc, _⟩ | ⟨ip', _, hheld, hreports⟩
      · exact absurd hpc (h.accepted c hc hkey reason message)
      · obtain rfl := Option.some.inj (h.holds.symm.trans hheld)
        exact hreports

end Recovered

/-- The next step of the call is a `Pull`, a `Create` or a `Destroy`. -/
def CreatePC.rebuilds : CreatePC → Bool
  | .pull | .create | .rollback (_ :: _) => true
  | _ => false

/-- The places of `CreatePod` after the lookup of its workload. -/
def CreatePC.probed : CreatePC → Bool
  | .startAdopted | .credentials | .pull | .create | .start | .observe | .attach | .commit
  | .rollback _ => true
  | _ => false

/-- When `CreatePod` of the key looks its workload up, the micro-VM is there. -/
def findsVM (key : String) (s : Sys) : Label → Bool
  | .create _ => s.creating.all fun c => c.pod.key ≠ key || c.pc ≠ .lookup ||
      (s.vms c.spec.name).isSome
  | _ => true

/-- A call that finds the micro-VM adopts it. -/
def Adopts (key : String) (s : Sys) : Prop :=
  ∀ c, s.creating = some c → c.pod.key = key →
    c.Staged ∧ (c.pc.probed = true → c.adopted = true)

section Adopts

variable {key : String} {s s' : Sys} {l : Label}

theorem CreateMove.probed_cases (h : CreateMove s o c c') (hpc : c'.pc.probed = true) :
    (c.pc = .lookup ∧ (c'.adopted = true ∨ ∃ e, s.vms.status c.spec.name o.status = .error e)) ∨
      c.pc.probed = true ∧ c'.adopted = c.adopted := by
  cases h with
  | found rs pc hbefore _ _ => exact Or.inl ⟨hbefore, Or.inl rfl⟩
  | notFound e hbefore hstatus => exact Or.inl ⟨hbefore, Or.inr ⟨e, hstatus⟩⟩
  | started pc hbefore _ _ =>
    rcases hbefore with hbefore | hbefore <;> exact Or.inr ⟨by rw [hbefore]; rfl, rfl⟩
  | recorded reason message pc _ hgo | rolledBackAll pc _ hgo | failedEarly e pc _ hgo =>
    rcases hgo with rfl | rfl <;> cases hpc
  | failedLate e pc hlate _ =>
    cases hplace : c.pc <;> simp_all [CreatePC.late, CreatePC.probed]
  | credentials hbefore | pulled hbefore | created hbefore _ | observed ip hbefore _
  | polled hbefore _ | attached hbefore _ | rolledBack w remaining hbefore =>
    exact Or.inr ⟨by rw [hbefore]; rfl, rfl⟩
  | _ => cases hpc

theorem told_status (htold : o.told = true) {vms : VMTable} {id : String}
    (hvm : (vms id).isSome = true) (e : RuntimeError) : vms.status id o.status ≠ .error e := by
  obtain ⟨vm, hvm⟩ := Option.isSome_iff_exists.mp hvm
  unfold Outcome.told at htold
  split at htold
  · rename_i shown hactual
    rw [hactual, VMTable.status, hvm]
    exact fun h => by cases h
  · cases htold

/-- A step that finds the micro-VM keeps the creation adopting it. -/
theorem step_adopts (h : Adopts key s) (hmem : key ∈ keys) (hl : servesRecord keys s l = true)
    (hfinds : findsVM key s l = true) (hstep : step s l = some s') : Adopts key s' := by
  intro c' hc' hkey
  rcases step_creating hstep hc' with ⟨hc, _⟩ | ⟨pod, _, rfl⟩ | ⟨c, o, rfl, hc, rfl⟩
  · exact h c' hc hkey
  · exact ⟨begin_staged pod, flag_off⟩
  · have hmove := createNext_move s c o
    have hown : c.pod.key = key := hmove.pod_eq ▸ hkey
    obtain ⟨hstaged, hadopted⟩ := h c hc hown
    refine ⟨createNext_staged s o hstaged, fun hpc => ?_⟩
    rcases hmove.probed_cases hpc with ⟨hlookup, hfound⟩ | ⟨hbefore, hsame⟩
    · rcases hfound with hfound | ⟨e, herror⟩
      · exact hfound
      · have htold : o.told = true := by
          simpa [servesRecord, hc, hlookup, hown, hmem] using hl
        have hvm : (s.vms c.spec.name).isSome = true := by
          simpa [findsVM, hc, hlookup, hown] using hfinds
        exact absurd herror (told_status htold hvm e)
    · rw [hsame]
      exact hadopted hbefore

theorem Adopts.rebuilds (h : Adopts key s) (hc : s.creating = some c) (hkey : c.pod.key = key) :
    c.pc.rebuilds = false := by
  obtain ⟨hstaged, hadopted⟩ := h c hc hkey
  by_contra hrebuilds
  rw [Bool.not_eq_false] at hrebuilds
  unfold CreatePC.rebuilds at hrebuilds
  split at hrebuilds
  · rename_i hpc
    simp only [CreateCall.Staged, hpc] at hstaged
    rw [hadopted (by rw [hpc]; rfl)] at hstaged
    cases hstaged
  · rename_i hpc
    simp only [CreateCall.Staged, hpc] at hstaged
    rw [hadopted (by rw [hpc]; rfl)] at hstaged
    cases hstaged
  · rename_i w remaining hpc
    simp only [CreateCall.Staged, hpc] at hstaged
    rw [hadopted (by rw [hpc]; rfl)] at hstaged
    cases hstaged
  · cases hrebuilds

end Adopts

/-- A fresh provider after `RecoverAllocations` of addresses that are free, usable and
distinct. -/
theorem fresh_recovered {net : IPNet} {recorded : List Pod} (hkeys : (recorded.map Pod.key).Nodup)
    (hips : (recorded.map fun pod => pod.status.podIP).Nodup)
    (hrecordable : ∀ pod ∈ recorded, Recordable (newPodIPAM net) pod) (podNet : Bool)
    (hostIP : String) (base : Int) (vms : VMTable) (nextInst : Nat) (hpod : pod ∈ recorded) :
    Recovered pod.key pod.status.podIP (Sys.fresh podNet hostIP base
      (recoverAllocations (some (newPodIPAM net)) recorded) vms nextInst) where
  addressed := fresh_addressed podNet hostIP base _ vms nextInst pod.key
  holds := (foldl_reserveRecorded hkeys hips hrecordable fun _ _ => ⟨rfl, rfl⟩).1 pod hpod
  staged := fun _ h => by cases h
  had := fun _ h => by cases h
  accepted := fun _ h => by cases h
  tracked := fun _ h => by cases h

/-- No other Pod holds, reports or creates with a recovered address. -/
theorem Recovered.unshared {key ip other : String} {s : Sys} (h : Recovered key ip s)
    (hother : Addressed other s) (hne : other ≠ key) :
    s.holds other ≠ some ip ∧ (∀ st, s.pods other = some st → st.status.podIP ≠ ip) ∧
      ∀ c, s.creating = some c → c.pod.key = other → c.pc.addressed = true → c.podIP ≠ ip := by
  have hholds : s.holds other ≠ some ip := by
    intro hboth
    have hheld := h.holds
    cases hipam : s.ipam with
    | none => simp [Sys.holds, hipam] at hheld
    | some a =>
      simp only [Sys.holds, hipam, Option.bind_some] at hboth hheld
      exact hne (a.holder_unique hboth hheld)
  refine ⟨hholds, ?_, ?_⟩
  · intro st hst hreported
    rcases hother.tracked st hst with hdown | ⟨held, _, hheld, hreports⟩
    · exact h.ne_empty (hreported.symm.trans hdown.2.stored)
    · rw [← hreported, hreports.stored] at hholds
      exact hholds hheld
  · intro c hc hkey hpc hshared
    rw [← hshared] at hholds
    exact hholds (hother.call c hc hkey hpc)

/-- After `RecoverAllocations` of addresses on record that are canonical, usable and
distinct, over every run of steps other than deletions in which the Pods on record are
translated, found out about truthfully, and not refused for their architecture: a tracked
Pod on record is reported at its recorded address, no other key holds, reports or is
being created with that address, and `CreatePod` of a Pod on record whose micro-VM is
there calls none of `Pull`, `Create` and `Destroy`. -/
theorem recovered_pods_keep_addresses {net : IPNet} {recorded : List Pod}
    (hkeys : (recorded.map Pod.key).Nodup) (hips : (recorded.map fun pod => pod.status.podIP).Nodup)
    (hrecordable : ∀ pod ∈ recorded, Recordable (newPodIPAM net) pod) {podNet : Bool}
    {hostIP : String} {base : Int} {vms : VMTable} {nextInst : Nat} {start : Sys}
    (hstart : start = Sys.fresh podNet hostIP base
      (recoverAllocations (some (newPodIPAM net)) recorded) vms nextInst) {ls : List Label}
    {s : Sys}
    (hrun : Run step (fun s l => servesRecord (recorded.map Pod.key) s l = true) start ls s) :
    (∀ pod ∈ recorded, ∀ st, s.pods pod.key = some st →
      st.status.podIP = pod.status.podIP ∧
        ∀ o, (s.read st o).1.status.podIP = pod.status.podIP) ∧
      (∀ pod ∈ recorded, ∀ other, other ≠ pod.key →
        s.holds other ≠ some pod.status.podIP ∧
          (∀ st, s.pods other = some st → st.status.podIP ≠ pod.status.podIP) ∧
          ∀ c, s.creating = some c → c.pod.key = other → c.pc.addressed = true →
            c.podIP ≠ pod.status.podIP) ∧
      ∀ pod ∈ recorded, ∀ s₁, step s (.createBegin pod) = some s₁ → ∀ ms s₂,
        Run step (fun s l => servesRecord (recorded.map Pod.key) s l = true ∧
          findsVM pod.key s l = true) s₁ ms s₂ →
        ∀ c, s₂.creating = some c → c.pod.key = pod.key → c.pc.rebuilds = false := by
  subst hstart
  have hmem {pod : Pod} (hpod : pod ∈ recorded) : pod.key ∈ recorded.map Pod.key :=
    List.mem_map_of_mem hpod
  have hrecovered {pod : Pod} (hpod : pod ∈ recorded) : Recovered pod.key pod.status.podIP s :=
    hrun.invariant (fresh_recovered hkeys hips hrecordable podNet hostIP base vms nextInst hpod)
      fun h hl hstep => step_recovered h (hmem hpod) hl hstep
  have haddressed (other : String) : Addressed other s :=
    hrun.invariant (fresh_addressed podNet hostIP base _ vms nextInst other)
      fun h hl hstep => h.step (deletesNone_of_servesRecord hl) hstep
  refine ⟨?_, ?_, ?_⟩
  · intro pod hpod st hst
    have hreports := (hrecovered hpod).tracked st hst
    exact ⟨hreports.stored, fun o =>
      (hreports.read (Or.inl (hrecovered hpod).ne_empty) o).stored⟩
  · intro pod hpod other hother
    exact (hrecovered hpod).unshared (haddressed other) hother
  · intro pod hpod s₁ hbegin ms s₂ hcall c hc hkey
    have hadopts : Adopts pod.key s₂ := by
      refine hcall.invariant (I := Adopts pod.key) ?_ fun h hl hstep =>
        step_adopts h (hmem hpod) hl.1 hl.2 hstep
      obtain ⟨_, rfl⟩ := createBegin_eq hbegin
      intro c hc _
      obtain rfl := Option.some.inj hc
      exact ⟨begin_staged pod, flag_off⟩
    exact hadopts.rebuilds hc hkey

namespace RecoveryWitness

open Sample AddressWitness

theorem recordable : ∀ pod ∈ [recorded], Recordable (newPodIPAM podCIDR) pod := by
  intro pod hpod
  obtain rfl := List.mem_singleton.mp hpod
  exact ⟨0xffff0af40107, by decide, by decide, by decide⟩

def recordedAPI : Pod :=
  { web with
    name := "api", uid := "91aa", status := { PodStatus.empty with podIP := "10.244.1.9" } }

/-- A Pod that is not on record. -/
def newcomer : Pod := { web with name := "db", uid := "c07e" }

theorem pair_recordable :
    ∀ pod ∈ [recorded, recordedAPI], Recordable (newPodIPAM podCIDR) pod := by
  intro pod hpod
  rcases List.mem_pair.mp hpod with rfl | rfl
  · exact recordable _ List.mem_cons_self
  · exact ⟨0xffff0af40109, by decide, by decide, by decide⟩

/-- The provider after `RecoverAllocations` of two Pods. -/
def pairRecovered : Sys :=
  Sys.fresh true "192.168.1.10" defaultRestartBackoffBase
    (recoverAllocations (some (newPodIPAM podCIDR)) [recorded, recordedAPI]) (fun _ => none) 0

/-- The Pod that is not on record is created between the two that are. -/
def createThree : List Label :=
  createPod recordedAPI "192.168.64.5" ++ createPod newcomer "192.168.64.6" ++
    createPod recorded "192.168.64.7"

def tracksThree (s : Sys) : Bool :=
  (s.pods "default/api").isSome && (s.pods "default/db").isSome && (s.pods "default/web").isSome

def reportsAt (addr : String) (s : Sys) : Bool :=
  (s.pods "default/web").any fun st => st.status.podIP = addr

/-- What is assumed of a recovery: nothing but `CreatePod` is called, translation, `Start`,
the observation of the address and `Attach` succeed, and `Status` tells the truth. -/
def assumed (s : Sys) : Label → Bool
  | .createBegin _ => true
  | .create o => s.creating.all fun c =>
    match c.pc with
    | .translate => (translatePod c.pod o.resolved).isOk
    | .lookup | .commit => o.told
    | .startAdopted | .start => (startError s.vms c.id o.fault).isNone
    | .observe => o.told && (pollVMIP s.vms c.id o).isSome
    | .attach => o.fault.isNone
    | _ => true
  | _ => false

def wrongArch : Outcome :=
  { Outcome.ok with fault := some ⟨.incompatibleArch "pull nginx:1.27", false⟩ }

/-- `CreatePod` of a Pod on record whose micro-VM is gone, up to the end. -/
def refused : List Label :=
  .createBegin recorded :: List.replicate 8 (.create .ok) ++ [.create wrongArch, .create .ok]

end RecoveryWitness

open RecoveryWitness AddressWitness Sample in
/-- Two Pods on record are created again and reported where they were, and a third Pod is at
neither address. -/
theorem recovered_pods_keep_addresses_web : ∃ (s : Sys) (api db web : PodState),
    Run step (fun s l => servesRecord ([recorded, recordedAPI].map Pod.key) s l = true)
      pairRecovered createThree s ∧
    s.pods "default/api" = some api ∧ api.status.podIP = "10.244.1.9" ∧
    s.pods "default/web" = some web ∧ web.status.podIP = "10.244.1.7" ∧
    s.pods "default/db" = some db ∧ db.status.podIP ≠ "10.244.1.7" ∧
      db.status.podIP ≠ "10.244.1.9" := by
  obtain ⟨s, hrun, hcheck⟩ : ∃ s, Run step
      (fun s l => servesRecord ([recorded, recordedAPI].map Pod.key) s l = true) pairRecovered
      createThree s ∧ tracksThree s = true :=
    exists_run_of_check (servesRecord ([recorded, recordedAPI].map Pod.key)) (fun _ _ h => h)
      (by decide +kernel)
  simp only [tracksThree, Bool.and_eq_true, Option.isSome_iff_exists] at hcheck
  obtain ⟨⟨⟨api, hapi⟩, db, hdb⟩, web, hweb⟩ := hcheck
  obtain ⟨hreported, hunshared, -⟩ := recovered_pods_keep_addresses (by decide) (by decide)
    pair_recordable rfl hrun
  have hfirst : recorded ∈ [recorded, recordedAPI] := List.mem_cons_self
  have hsecond : recordedAPI ∈ [recorded, recordedAPI] := List.mem_cons_of_mem _ List.mem_cons_self
  exact ⟨s, api, db, web, hrun, hapi, (hreported recordedAPI hsecond api hapi).1,
    hweb, (hreported recorded hfirst web hweb).1,
    hdb, (hunshared recorded hfirst "default/db" (by decide)).2.1 db hdb,
    (hunshared recordedAPI hsecond "default/db" (by decide)).2.1 db hdb⟩

open RecoveryWitness AddressWitness Sample in
/-- The micro-VM of a Pod on record is gone and its image is refused for its architecture:
the Pod is tracked and reported without an address. -/
theorem refused_pod_reported_without_address :
    ¬ ∀ (net : IPNet) (recorded : List Pod) (podNet : Bool) (hostIP : String) (base : Int)
      (vms : VMTable) (nextInst : Nat) (ls : List Label) (s : Sys),
      (recorded.map Pod.key).Nodup → (recorded.map fun pod => pod.status.podIP).Nodup →
      (∀ pod ∈ recorded, Recordable (newPodIPAM net) pod) →
      Run step (fun s l => assumed s l = true) (Sys.fresh podNet hostIP base
        (recoverAllocations (some (newPodIPAM net)) recorded) vms nextInst) ls s →
      ∀ pod ∈ recorded, ∀ st, s.pods pod.key = some st → st.status.podIP = pod.status.podIP := by
  intro hall
  obtain ⟨s, hrun, hcheck⟩ : ∃ s, Run step (fun s l => assumed s l = true) recovered refused s ∧
      reportsAt "" s = true :=
    exists_run_of_check assumed (fun _ _ h => h) (by decide)
  rw [reportsAt, Option.any_eq_true] at hcheck
  obtain ⟨st, hst, hempty⟩ := hcheck
  have hreported := hall podCIDR [recorded] true "192.168.1.10" defaultRestartBackoffBase
    (fun _ => none) 0 refused s (by decide) (by decide) recordable hrun recorded
    List.mem_cons_self st hst
  rw [of_decide_eq_true hempty] at hreported
  revert hreported
  decide

end MacVz
