/-
Whether a deleted Pod's address returns to the pool.  An address enters the table by
`RecoverAllocations` or by `CreatePod`, and leaves it by a failed `CreatePod` that has
assigned it or by `DeletePod` of a tracked Pod.  So a reservation recovered for a Pod
that is never stored has no way out.
-/
import MacVz.CallFrame
import MacVz.FailedCreate

namespace MacVz

open Interleaving

/-- One turn of `RecoverAllocations`: a Pod without an address is passed over, and so is
one whose address cannot be reserved. -/
def reserveRecorded (a : PodIPAM) (pod : Pod) : PodIPAM :=
  if pod.status.podIP = "" then a
  else
    match a.reserve pod.key pod.status.podIP with
    | .ok a' => a'
    | .error _ => a

/-- `RecoverAllocations`: nothing to do without an allocator. -/
def recoverAllocations (ipam : Option PodIPAM) (pods : List Pod) : Option PodIPAM :=
  ipam.map fun a => pods.foldl reserveRecorded a

/-- No two of the calls are concurrent: `CreatePod` waits for `DeletePod`, and `DeletePod`
for both. -/
def inTurn (s : Sys) : Label → Bool
  | .createBegin _ => s.deletes.isEmpty
  | .deleteBegin _ => s.creating.isNone && s.deletes.isEmpty
  | _ => true

/-- `CreatePod` of the key stores the Pod at this step. -/
def storesPod (key : String) (s : Sys) : Label → Bool
  | .create _ => s.creating.any fun c => c.pod.key = key && c.pc.stores
  | _ => false

theorem storesPod_create {key : String} {s : Sys} {c : CreateCall} (hc : s.creating = some c)
    (o : Outcome) : storesPod key s (.create o) = true ↔ c.pod.key = key ∧ c.pc.stores = true := by
  simp [storesPod, hc]

/-- `CreatePod` and `DeletePod` are not both in flight. -/
def Sequential (s : Sys) : Prop := ∀ c, s.creating = some c → s.deletes = []

section Sequential

variable {s s' : Sys} {l : Label}

theorem Sequential.free (h : Sequential s) {d : DeleteCall} (hd : d ∈ s.deletes) :
    s.creating = none := by
  cases hc : s.creating with
  | none => rfl
  | some c =>
    rw [h c hc] at hd
    cases hd

/-- Steps in turn keep creations and teardowns apart. -/
theorem step_sequential (h : Sequential s) (hl : inTurn s l = true)
    (hstep : step s l = some s') : Sequential s' := by
  intro c' hc'
  have hdeletes : s.deletes = [] := by
    rcases step_creating hstep hc' with ⟨hc, _⟩ | ⟨pod, rfl, _⟩ | ⟨c, o, rfl, hc, _⟩
    · exact h c' hc
    · exact List.isEmpty_iff.mp hl
    · exact h c hc
  rcases step_deletes hstep with hsame | ⟨pod, st, rfl, hst, _⟩ | ⟨place, o, d, rfl, hd, _⟩
  · exact hsame.trans hdeletes
  · -- a deletion begins only once no `CreatePod` is in flight
    simp only [inTurn, Bool.and_eq_true, Option.isNone_iff_eq_none] at hl
    rcases step_creating hstep hc' with ⟨hc, _⟩ | ⟨_, hbegin, _⟩ | ⟨_, _, hcreate, _⟩
    · rw [hl.1] at hc
      cases hc
    · cases hbegin
    · cases hcreate
  · rw [hdeletes] at hd
    cases hd

end Sequential

/-- The places of `DeletePod` after the release of the address. -/
def DeletePC.released : DeletePC → Bool
  | .stop _ | .destroy _ _ => true
  | _ => false

/-- Some `CreatePod` of the key has stored its Pod. -/
def Stored (key : String) (start : Sys) (ls : List Label) : Prop :=
  Happened step (fun s l => storesPod key s l = true) start ls

/-- The address an untracked key holds: none once the Pod has been stored, and the
recovered one before. -/
def Due (key : String) (start : Sys) (ls : List Label) (held : Option String) : Prop :=
  Stored key start ls ∧ held = none ∨ ¬ Stored key start ls ∧ held = start.holds key

/-- Where the address of a key is after a history of calls in turn. -/
structure Accounted (key : String) (start : Sys) (ls : List Label) (s : Sys) : Prop where
  tracked : ∀ st, s.pods key = some st → Stored key start ls
  call : ∀ c, s.creating = some c → c.pod.key = key → c.Staged ∧ c.pc ≠ .done ∧
    (s.pods key = none → ∃ held, Due key start ls held ∧ c.IPDue s held)
  teardown : ∀ d ∈ s.deletes, d.key = key →
    Stored key start ls ∧ (d.pc.released = true → s.holds key = none)
  idle : s.pods key = none → (∀ c, s.creating = some c → c.pod.key ≠ key) →
    (∀ d ∈ s.deletes, d.key ≠ key) → Due key start ls (s.holds key)

section Accounted

variable {key : String} {start s s' : Sys} {ls : List Label} {l : Label}
  {P : Sys → Label → Prop}

theorem start_accounted (hpods : start.pods key = none) (hfree : start.creating = none)
    (hdeletes : start.deletes = []) : Accounted key start [] start where
  tracked := by simp [hpods]
  call := by simp [hfree]
  teardown := by simp [hdeletes]
  idle := fun _ _ _ => Or.inr ⟨not_happened_nil, rfl⟩

theorem Due.snoc {held : Option String} (h : Due key start ls held) (hrun : Run step P start ls s)
    (hno : storesPod key s l = false) : Due key start (ls ++ [l]) held := by
  have hiff : Stored key start (ls ++ [l]) ↔ Stored key start ls := by
    rw [Stored, hrun.happened_snoc, hno]
    simp [Stored]
  rw [Due, hiff]
  exact h

theorem storesPod_eq_false (hstep : step s l = some s') (hnone : s'.pods key = none) :
    storesPod key s l = false := by
  cases step_cases hstep with
  | create c o hc =>
    refine Bool.eq_false_iff.mpr fun hstores => ?_
    obtain ⟨rfl, hpc⟩ := (storesPod_create hc o).mp hstores
    rw [stores_of_untracked hnone] at hpc
    cases hpc
  | _ => rfl

/-- A creation under way after a step still has the Pod's address accounted for. -/
theorem Accounted.step_call (h : Accounted key start ls s) (hsequential : Sequential s)
    (hl : inTurn s l = true) (hrun : Run step P start ls s) (hstep : step s l = some s')
    {c' : CreateCall} (hc' : s'.creating = some c') (hkey : c'.pod.key = key) :
    c'.Staged ∧ c'.pc ≠ .done ∧
      (s'.pods key = none → ∃ held, Due key start (ls ++ [l]) held ∧ c'.IPDue s' held) := by
  rcases step_creating hstep hc' with ⟨hc, hother⟩ | ⟨pod, rfl, rfl⟩ | ⟨c, o, rfl, hc, rfl⟩
  · obtain ⟨hstaged, hflight, hdue⟩ := h.call c' hc hkey
    refine ⟨hstaged, hflight, fun hnone => ?_⟩
    have hbefore : s.pods key = none := by
      cases hst : s.pods key with
      | none => rfl
      | some st =>
        obtain ⟨pod, rfl, _⟩ := step_tracked hstep hst hnone
        simp [inTurn, hc] at hl
    obtain ⟨held, hheld, hip⟩ := hdue hbefore
    have hholds : s'.holds key = s.holds key := by
      refine step_holds hstep (fun _ o hcreate => absurd hcreate (hother o)) ?_
      intro place o d _ hd
      rw [hsequential c' hc] at hd
      cases hd
    refine ⟨held, hheld.snoc hrun (storesPod_eq_false hstep hnone), ?_, fun hpc => ?_⟩
    · rw [CreateCall.dueIP, hkey, hholds, ← hkey]
      exact hip.due
    · rw [hkey, hholds, ← hkey]
      exact hip.had hpc
  · refine ⟨begin_staged pod, (fun h => by cases h), fun hnone => ?_⟩
    obtain ⟨hfree, rfl⟩ := createBegin_eq hstep
    have hdeletes : s.deletes = [] := List.isEmpty_iff.mp hl
    have hheld : Due key start ls (s.holds key) :=
      h.idle hnone (by simp [hfree]) (by simp [hdeletes])
    refine ⟨s.holds key, hheld.snoc hrun rfl, ?_, fun h => by cases h⟩
    rw [← hkey]
    rfl
  · have hown : c.pod.key = key := (createNext_move s c o).pod_eq ▸ hkey
    obtain ⟨hstaged, _, hdue⟩ := h.call c hc hown
    obtain rfl := create_step hstep hc
    obtain ⟨_, hgoes⟩ := createStep_goes hc'
    refine ⟨createNext_staged s o hstaged, hgoes, fun hnone => ?_⟩
    have hbefore : s.pods key = none := by
      cases hst : s.pods key with
      | none => rfl
      | some st =>
        obtain ⟨pod, hlabel, _⟩ := step_tracked hstep hst hnone
        cases hlabel
    obtain ⟨held, hheld, hip⟩ := hdue hbefore
    have hnext := hip.step (o := o) hstaged
    have hholds : (createStep s c o).holds key = (createEffect s c o).holds key :=
      holds_of_ipam (createStep_ipam s c o) key
    refine ⟨held, hheld.snoc hrun (storesPod_eq_false hstep hnone), ?_, fun hpc => ?_⟩
    · rw [CreateCall.dueIP, hkey, hholds, ← hkey]
      exact hnext.due
    · rw [hkey, hholds, ← hkey]
      exact hnext.had hpc

/-- With no creation under way, a step gives no address. -/
theorem step_holds_none (hstep : step s l = some s') (hfree : s.creating = none)
    (hnone : s.holds key = none) : s'.holds key = none := by
  rcases step_ipam hstep with hsame | ⟨c, _, _, hc, _⟩ | ⟨place, o, d, _, _, _, hipam⟩
  · exact (holds_of_ipam hsame key).trans hnone
  · rw [hfree] at hc
    cases hc
  · have hrelease : s'.holds key = ({ s with ipam := releaseIP s.ipam d.key } : Sys).holds key :=
      holds_of_ipam hipam key
    rw [hrelease]
    by_cases hkey : key = d.key
    · rw [hkey]
      exact releaseIP_self s d.key
    · exact (releaseIP_other hkey).trans hnone

theorem deleteNext_released {d d' : DeleteCall} (h : deleteNext d = some d')
    (hreleased : d'.pc.released = true) : d.pc = .release ∨ d.pc.released = true := by
  unfold deleteNext at h
  split at h
  case h_1 =>
      obtain rfl := Option.some.inj h
      cases hreleased
  case h_2 hpc => exact Or.inl hpc
  case h_4 => cases h
  all_goals
    rename_i hpc
    exact Or.inr (by rw [hpc]; rfl)

/-- A teardown after a step is of a stored Pod, which holds no address once released. -/
theorem Accounted.step_teardown (h : Accounted key start ls s) (hsequential : Sequential s)
    (hstep : step s l = some s') {d' : DeleteCall} (hd' : d' ∈ s'.deletes) (hkey : d'.key = key) :
    Stored key start (ls ++ [l]) ∧ (d'.pc.released = true → s'.holds key = none) := by
  have hkept {d : DeleteCall} (hd : d ∈ s.deletes) (hown : d.key = key) :
      Stored key start (ls ++ [l]) ∧ (d.pc.released = true → s'.holds key = none) := by
    obtain ⟨hstored, hreleased⟩ := h.teardown d hd hown
    refine ⟨hstored.append [l], fun hpc => ?_⟩
    exact step_holds_none hstep (hsequential.free hd) (hreleased hpc)
  rcases step_deletes hstep with hsame | ⟨pod, st, rfl, hst, hnew⟩ | ⟨place, o, d, rfl, hd, hnext⟩
  · rw [hsame] at hd'
    exact hkept hd' hkey
  · rw [hnew, List.mem_append, List.mem_singleton] at hd'
    rcases hd' with hold | rfl
    · exact hkept hold hkey
    · have hst' : s.pods key = some st := by rw [← hkey]; exact hst
      exact ⟨(h.tracked st hst').append [.deleteBegin pod], flag_off⟩
  · have hd₀ : d ∈ s.deletes := List.mem_of_getElem? hd
    rw [hnext] at hd'
    rcases mem_advance hd' with hold | hmoved
    · exact hkept hold hkey
    · have hown : d.key = key := (deleteNext_key hmoved).symm.trans hkey
      refine ⟨(hkept hd₀ hown).1, fun hreleased => ?_⟩
      rcases deleteNext_released hmoved hreleased with hpc | hbefore
      · obtain rfl := delete_step hstep hd
        have hrelease : (deleteEffect s d o).ipam = releaseIP s.ipam d.key := by
          simp only [deleteEffect, hpc]
        rw [← hown]
        exact (holds_of_ipam hrelease d.key).trans (releaseIP_self s d.key)
      · exact (hkept hd₀ hown).2 hbefore

/-- With no call under way after a step, an untracked Pod holds what is due to it. -/
theorem Accounted.step_idle (h : Accounted key start ls s) (hsequential : Sequential s)
    (hrun : Run step P start ls s) (hstep : step s l = some s') (hnone : s'.pods key = none)
    (hcalls : ∀ c, s'.creating = some c → c.pod.key ≠ key)
    (hdeletes : ∀ d ∈ s'.deletes, d.key ≠ key) : Due key start (ls ++ [l]) (s'.holds key) := by
  have hno : storesPod key s l = false := storesPod_eq_false hstep hnone
  have hbefore : s.pods key = none := untracked_before hstep hnone hdeletes
  by_cases hcall : ∃ c, s.creating = some c ∧ c.pod.key = key
  · -- the call on the key has returned
    obtain ⟨c, hc, hkey⟩ := hcall
    obtain ⟨hstaged, hflight, hdue⟩ := h.call c hc hkey
    obtain ⟨held, hheld, hip⟩ := hdue hbefore
    have hcreate : ∃ o, l = .create o := by
      by_contra hother
      rw [not_exists] at hother
      exact hcalls c (step_creating_kept hstep hc hother) hkey
    obtain ⟨o, rfl⟩ := hcreate
    obtain rfl := create_step hstep hc
    have hdone : (createNext s c o).pc = .done := by
      cases hnext : (createStep s c o).creating with
      | none => exact createStep_done hnext
      | some c' =>
        obtain ⟨rfl, _⟩ := createStep_goes hnext
        have hother := hcalls _ hnext
        rw [(createNext_move s c o).pod_eq] at hother
        exact absurd hkey hother
    have hcommit : c.pc ≠ .commit := by
      intro hpc
      have hstores : storesPod key s (.create o) = true :=
        (storesPod_create hc o).mpr ⟨hkey, by rw [hpc]; rfl⟩
      rw [hstores] at hno
      cases hno
    have hholds : (createStep s c o).holds key = held := by
      rw [holds_of_ipam (createStep_ipam s c o), ← hkey]
      exact hip.returned hstaged hflight hcommit hdone
    rw [hholds]
    exact hheld.snoc hrun hno
  · have hother (c : CreateCall) (hc : s.creating = some c) : c.pod.key ≠ key :=
      fun hkey => hcall ⟨c, hc, hkey⟩
    by_cases hdelete : ∃ d ∈ s.deletes, d.key = key
    · -- the deletion of the key has returned
      obtain ⟨d, hd, rfl⟩ := hdelete
      obtain ⟨place, o, rfl, _, hpc⟩ := step_deletion_over hstep hd hdeletes
      obtain ⟨hstored, hreleased⟩ := h.teardown d hd rfl
      exact Or.inl ⟨hstored.append [.delete place o],
        step_holds_none hstep (hsequential.free hd) (hreleased (by rw [hpc]; rfl))⟩
    · have huninvolved (d : DeleteCall) (hd : d ∈ s.deletes) : d.key ≠ key :=
        fun hkey => hdelete ⟨d, hd, hkey⟩
      rw [step_holds hstep (fun c _ _ hc => hother c hc)
        fun _ _ d _ hd _ => huninvolved d (List.mem_of_getElem? hd)]
      exact (h.idle hbefore hother huninvolved).snoc hrun hno

/-- A step in turn keeps the Pod's address accounted for. -/
theorem step_accounted (h : Accounted key start ls s) (hsequential : Sequential s)
    (hl : inTurn s l = true) (hrun : Run step P start ls s) (hstep : step s l = some s') :
    Accounted key start (ls ++ [l]) s' where
  tracked := by
    intro st' hst'
    cases hst : s.pods key with
    | some st => exact (h.tracked st hst).append [l]
    | none =>
      obtain ⟨c, o, rfl, hc, hkey, hplace⟩ := step_born hstep hst hst'
      refine hrun.happened ((storesPod_create hc o).mpr ⟨hkey, ?_⟩)
      rcases hplace with ⟨hpc, _⟩ | ⟨_, _, hpc, _⟩ <;> rw [hpc] <;> rfl
  call := fun _ => h.step_call hsequential hl hrun hstep
  teardown := fun _ => h.step_teardown hsequential hstep
  idle := h.step_idle hsequential hrun hstep

end Accounted

/-- Over every run of `RecoverAllocations` and of calls in turn: when `DeletePod` returns,
the key holds no address if and only if `RecoverAllocations` had reserved none for it, or some
`CreatePod` of it had stored the Pod. -/
theorem deleted_pod_address_returned_iff {podNet : Bool} {hostIP : String} {base : Int}
    {ipam : Option PodIPAM} {pods : List Pod} {vms : VMTable} {nextInst : Nat} {start : Sys}
    (hstart : start = Sys.fresh podNet hostIP base (recoverAllocations ipam pods) vms nextInst)
    {ls : List Label} {s s' : Sys} {l : Label}
    (hrun : Run step (fun s l => inTurn s l = true) start ls s) (hl : inTurn s l = true)
    (hstep : step s l = some s') {key : String} {found : Bool}
    (hreturned : s'.returned = .deleted key found :: s.returned) :
    s'.holds key = none ↔ start.holds key = none ∨
      Happened step (fun s l => storesPod key s l = true) start ls := by
  have hinv : Sequential s ∧ Accounted key start ls s := by
    apply hrun.history (I := fun ls s => Sequential s ∧ Accounted key start ls s)
    · have hpods : start.pods key = none := by rw [hstart]; rfl
      have hfree : start.creating = none := by rw [hstart]; rfl
      have hdeletes : start.deletes = [] := by rw [hstart]; rfl
      exact ⟨fun _ _ => hdeletes, start_accounted hpods hfree hdeletes⟩
    · intro ls s s' l hrun h hl hstep
      exact ⟨step_sequential h.1 hl hstep, step_accounted h.2 h.1 hl hrun hstep⟩
  rcases step_deleted hstep hreturned with
    ⟨pod, rfl, rfl, hnone, rfl⟩ | ⟨place, o, d, rfl, hd, hpc, rfl, rfl⟩
  · -- an untracked Pod: nothing moves
    simp only [inTurn, Bool.and_eq_true, Option.isNone_iff_eq_none, List.isEmpty_iff] at hl
    have hdue := hinv.2.idle hnone (by simp [hl.1]) (by simp [hl.2])
    rw [step_holds hstep (fun _ _ h => by cases h) (fun _ _ _ h => by cases h)]
    rcases hdue with ⟨hstored, hheld⟩ | ⟨hnot, hheld⟩
    · exact iff_of_true hheld (Or.inr hstored)
    · rw [hheld]
      exact (or_iff_left hnot).symm
  · -- a tracked Pod: its address is long released
    have hd₀ : d ∈ s.deletes := List.mem_of_getElem? hd
    have hfree : s.creating = none := hinv.1.free hd₀
    obtain ⟨hstored, hreleased⟩ := hinv.2.teardown d hd₀ rfl
    have hheld := hreleased (by rw [hpc]; rfl)
    exact iff_of_true (step_holds_none hstep hfree hheld) (Or.inr hstored)

namespace AddressWitness

open Sample

def recorded : Pod := { web with status := { PodStatus.empty with podIP := "10.244.1.7" } }

/-- The provider after `RecoverAllocations`. -/
def recovered : Sys :=
  Sys.fresh true "192.168.1.10" defaultRestartBackoffBase
    (recoverAllocations (some (newPodIPAM podCIDR)) [recorded]) (fun _ => none) 0

/-- `CreatePod`, and `DeletePod` up to its last step. -/
def createAndDelete : List Label :=
  createPod recorded "192.168.64.5" ++ .deleteBegin recorded :: List.replicate 4 (.delete 0 .ok)

/-- The next step of `DeletePod` returns nil. -/
def returns (s : Sys) : Bool :=
  (step s (.delete 0 .ok)).any fun s' =>
    s'.returned = .deleted "default/web" true :: s.returned

end AddressWitness

open AddressWitness Sample in
/-- The recovered address is back in the pool once the Pod was created and deleted. -/
theorem deleted_pod_address_returned_created : ∃ s s' : Sys,
    recovered.holds "default/web" = some "10.244.1.7" ∧
    Run step (fun s l => inTurn s l = true) recovered createAndDelete s ∧
    step s (.delete 0 .ok) = some s' ∧
    s'.returned = .deleted "default/web" true :: s.returned ∧ s'.holds "default/web" = none := by
  have hexec : ∃ s, Run step (fun s l => inTurn s l = true) recovered createAndDelete s ∧
      returns s = true :=
    exists_run_of_check inTurn (fun _ _ h => h) (by decide)
  obtain ⟨s, hrun, hcheck⟩ := hexec
  rw [returns, Option.any_eq_true] at hcheck
  obtain ⟨s', hstep, hreturned⟩ := hcheck
  have hreturned := of_decide_eq_true hreturned
  have hstores : (exec step recovered (createAndDelete.take 14)).any (fun s =>
      storesPod "default/web" s (.create (okAt "192.168.64.5"))) = true := by decide
  obtain ⟨t, ht, hstored⟩ := (Option.any_eq_true _ _).mp hstores
  have hstored : Happened step (fun s l => storesPod "default/web" s l = true) recovered
      createAndDelete :=
    ⟨createAndDelete.take 14, _, createAndDelete.drop 15, t, rfl, ht, hstored⟩
  exact ⟨s, s', by decide, hrun, hstep, hreturned,
    (deleted_pod_address_returned_iff rfl hrun rfl hstep hreturned).mpr (Or.inr hstored)⟩

open AddressWitness Sample in
/-- The Pod is deleted from the API before the provider has created it again: `DeletePod`
returns NotFound and the recovered reservation stays. -/
theorem recovered_address_never_returned :
    ¬ ∀ (podNet : Bool) (hostIP : String) (base : Int) (ipam : Option PodIPAM) (pods : List Pod)
      (vms : VMTable) (nextInst : Nat) (ls : List Label) (s s' : Sys) (l : Label),
      Run step (fun s l => inTurn s l = true)
        (Sys.fresh podNet hostIP base (recoverAllocations ipam pods) vms nextInst) ls s →
      inTurn s l = true → step s l = some s' →
      ∀ (key : String) (found : Bool), s'.returned = .deleted key found :: s.returned →
      s'.holds key = none := by
  intro hall
  have hnone := hall true "192.168.1.10" defaultRestartBackoffBase (some (newPodIPAM podCIDR))
    [recorded] (fun _ => none) 0 [] recovered _ (.deleteBegin recorded) .nil rfl rfl
    "default/web" false rfl
  exact absurd hnone (by decide +kernel)

end MacVz
