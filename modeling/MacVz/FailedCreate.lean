/-
What `CreatePod` leaves behind when it fails.  It owes the world at most an address
that it has assigned and a micro-VM that it has made, and gives both back before it
returns an error.  The debt is a function of the state of the call, so that what will
be there once it is paid does not change from step to step.
-/
import MacVz.CreateRollback

namespace MacVz

open Interleaving

variable {s' : Sys}

/-- The call has assigned an address and will release it unless it succeeds. -/
def CreateCall.owesIP (c : CreateCall) : Bool := c.podIP ≠ "" && !c.hadPodIP

/-- The address the key holds once the call has paid what it owes. -/
def CreateCall.dueIP (c : CreateCall) (s : Sys) : Option String :=
  if c.owesIP then none else s.holds c.pod.key

/-- The address the key will hold if the call fails, which knows before it asks for an
address whether the key holds one. -/
structure CreateCall.IPDue (c : CreateCall) (s : Sys) (held : Option String) : Prop where
  due : c.dueIP s = held
  had : c.pc = .allocate → c.hadPodIP = (s.holds c.pod.key).isSome

section Address

variable {s : Sys} {c : CreateCall} {o : Outcome} {held : Option String} {key : String}
  {ipam : Option PodIPAM}

theorem createEffect_ipam (s : Sys) (o : Outcome) (hallocate : c.pc ≠ .allocate)
    (hrelease : c.pc ≠ .release) : (createEffect s c o).ipam = s.ipam := by
  unfold createEffect
  split
  case h_2 hpc => exact absurd hpc hallocate
  case h_10 hpc => exact absurd hpc hrelease
  all_goals rfl

theorem releaseIP_self (s : Sys) (key : String) :
    ({ s with ipam := releaseIP s.ipam key } : Sys).holds key = none := by
  cases hipam : s.ipam with
  | none => simp [Sys.holds, releaseIP]
  | some a => simp [Sys.holds, releaseIP]

theorem hasAllocatedIP_holds (s : Sys) (key : String) :
    hasAllocatedIP s.ipam key = (s.holds key).isSome := by
  cases hipam : s.ipam with
  | none => simp [hasAllocatedIP, Sys.holds, hipam]
  | some a =>
    cases hkey : a.table.byKey key with
    | none => simp [hasAllocatedIP, Sys.holds, hipam, PodIPAM.ip, hkey]
    | some ip =>
      have hne := a.nonempty key ip hkey
      simp [hasAllocatedIP, Sys.holds, hipam, PodIPAM.ip, hkey, hne]

theorem afterAllocate_held {ip : String} (h : s.holds key = some ip) :
    afterAllocate s.ipam key = s.ipam := by
  cases hipam : s.ipam with
  | none => rfl
  | some a =>
    have hkey : a.table.byKey key = some ip := by simpa [Sys.holds, hipam] using h
    simp [afterAllocate, allocateIP, PodIPAM.allocate_held hkey, Except.map]

/-- Without an address to assign `allocateIP` leaves the allocator alone. -/
theorem afterAllocate_empty {ipam' : Option PodIPAM} (h : allocateIP ipam key = .ok ("", ipam')) :
    afterAllocate ipam key = ipam := by
  cases ipam with
  | none => rfl
  | some a =>
    cases hallocate : a.allocate key with
    | error e =>
      rw [allocateIP, hallocate] at h
      cases h
    | ok result =>
      have hip : result.1 = "" := by
        simp only [allocateIP, hallocate, Except.map, Except.ok.injEq, Prod.mk.injEq] at h
        exact h.1
      exact absurd hip (PodIPAM.allocate_ne_empty hallocate)

theorem afterAllocate_error {e : IPAMError} (h : allocateIP ipam key = .error e) :
    afterAllocate ipam key = ipam := by
  simp only [afterAllocate, h]

theorem CreateMove.address_eq {c' : CreateCall} (h : CreateMove s o c c') (hhad : c.pc ≠ .hadIP)
    (hallocate : c.pc ≠ .allocate) : c'.podIP = c.podIP ∧ c'.hadPodIP = c.hadPodIP := by
  cases h with
  | reservation hpc => exact absurd hpc hhad
  | allocated ip ipam hpc _ => exact absurd hpc hallocate
  | _ => exact ⟨rfl, rfl⟩

theorem CreateMove.allocate_cases {c' : CreateCall} (h : CreateMove s o c c')
    (hpc : c'.pc = .allocate) : c.pc = .hadIP := by
  cases h with
  | reservation hhad => exact hhad
  | found rs pc _ _ hgo => rcases hgo with ⟨rfl, _⟩ | ⟨rfl, _⟩ | ⟨rfl, _⟩ <;> cases hpc
  | started pc _ _ hgo => rcases hgo with ⟨rfl, _⟩ | ⟨rfl, _⟩ <;> cases hpc
  | recorded _ _ pc _ hgo | rolledBackAll pc _ hgo | failedEarly _ pc _ hgo =>
    rcases hgo with rfl | rfl <;> cases hpc
  | failedLate e pc _ hgo => rcases hgo with rfl | rfl | rfl <;> cases hpc
  | _ => cases hpc

theorem allocate_due (hpc : c.pc = .allocate) (hempty : c.podIP = "")
    (hhad : c.hadPodIP = (s.holds c.pod.key).isSome) :
    (createNext s c o).dueIP (createEffect s c o) = c.dueIP s := by
  have hbefore : c.dueIP s = s.holds c.pod.key := by
    simp [CreateCall.dueIP, CreateCall.owesIP, hempty]
  have hipam : (createEffect s c o).ipam = afterAllocate s.ipam c.pod.key := by
    simp only [createEffect, hpc]
  rw [hbefore]
  cases hallocate : allocateIP s.ipam c.pod.key with
  | error e =>
    have hnext : createNext s c o = c.failWith (.allocateIP c.pod.key e) := by
      simp only [createNext, hpc, hallocate]
    rw [afterAllocate_error hallocate] at hipam
    rw [hnext]
    rcases failWith_cases c (.allocateIP c.pod.key e) with heq | heq
    · rw [heq]
      simp only [CreateCall.dueIP, CreateCall.owesIP, hempty]
      exact holds_of_ipam hipam c.pod.key
    · rw [heq]
      simp only [CreateCall.dueIP, CreateCall.owesIP, hempty]
      exact holds_of_ipam hipam c.pod.key
  | ok result =>
    obtain ⟨ip, ipam⟩ := result
    have hnext : createNext s c o = { c with pc := .lookup, podIP := ip, startTime := o.now } := by
      simp only [createNext, hpc, hallocate]
    rw [hnext]
    cases hheld : s.holds c.pod.key with
    | some held =>
      rw [afterAllocate_held hheld] at hipam
      rw [hheld] at hhad
      simp only [CreateCall.dueIP, CreateCall.owesIP, hhad, Option.isSome_some, Bool.not_true,
        Bool.and_false]
      exact (holds_of_ipam hipam c.pod.key).trans hheld
    | none =>
      rw [hheld] at hhad
      by_cases hip : ip = ""
      · subst hip
        rw [afterAllocate_empty hallocate] at hipam
        exact (holds_of_ipam hipam c.pod.key).trans hheld
      · simp [CreateCall.dueIP, CreateCall.owesIP, hhad, hip]

/-- A step of a creation keeps the address the Pod is left with on failure. -/
theorem CreateCall.IPDue.step (h : c.IPDue s held) (hstaged : c.Staged) :
    (createNext s c o).IPDue (createEffect s c o) held := by
  have hmove := createNext_move s c o
  have hkey := hmove.pod_eq
  unfold CreateCall.Staged at hstaged
  by_cases hhad : c.pc = .hadIP
  · simp only [hhad] at hstaged
    have hipam : (createEffect s c o).ipam = s.ipam := by simp only [createEffect, hhad]
    have hnext : createNext s c o =
        { c with pc := .allocate, hadPodIP := hasAllocatedIP s.ipam c.pod.key } := by
      simp only [createNext, hhad]
    rw [hnext]
    refine ⟨?_, fun _ => ?_⟩
    · have hdue := h.due
      simp only [CreateCall.dueIP, CreateCall.owesIP, hstaged.2] at hdue ⊢
      rw [holds_of_ipam hipam]
      exact hdue
    · exact (hasAllocatedIP_holds s c.pod.key).trans
        (congrArg Option.isSome (holds_of_ipam hipam c.pod.key).symm)
  · refine ⟨?_, fun hpc => absurd (hmove.allocate_cases hpc) hhad⟩
    rw [← h.due]
    by_cases hallocate : c.pc = .allocate
    · simp only [hallocate] at hstaged
      exact allocate_due hallocate hstaged.2 (h.had hallocate)
    · obtain ⟨hip, hhadIP⟩ := hmove.address_eq hhad hallocate
      have howes : (createNext s c o).owesIP = c.owesIP := by
        rw [CreateCall.owesIP, CreateCall.owesIP, hip, hhadIP]
      by_cases hrelease : c.pc = .release
      · simp only [hrelease] at hstaged
        have hyes : c.owesIP = true := by simp [CreateCall.owesIP, hstaged]
        rw [CreateCall.dueIP, CreateCall.dueIP, howes, hyes, if_pos rfl, if_pos rfl]
      · rw [CreateCall.dueIP, CreateCall.dueIP, howes, hkey,
          holds_of_ipam (createEffect_ipam s o hallocate hrelease)]

theorem CreateMove.addressed_cases {c' : CreateCall} (h : CreateMove s o c c')
    (hnext : c'.pc.addressed = true) :
    (∃ ipam, c.pc = .allocate ∧ allocateIP s.ipam c.pod.key = .ok (c'.podIP, ipam)) ∨
      c.pc.addressed = true ∧ c'.podIP = c.podIP := by
  cases h with
  | allocated ip ipam hpc hok => exact Or.inl ⟨ipam, hpc, hok⟩
  | found _ _ hpc _ _ | notFound _ hpc _ | credentials hpc | pulled hpc | created hpc _
  | observed _ hpc _ | polled hpc _ | attached hpc _ => exact Or.inr ⟨by rw [hpc]; rfl, rfl⟩
  | started _ hpc _ _ => exact Or.inr ⟨by rcases hpc with hpc | hpc <;> rw [hpc] <;> rfl, rfl⟩
  | recorded _ _ pc _ hgo | rolledBackAll pc _ hgo | failedEarly _ pc _ hgo =>
    rcases hgo with rfl | rfl <;> cases hnext
  | failedLate e pc _ hgo => rcases hgo with rfl | rfl | rfl <;> cases hnext
  | _ => cases hnext

theorem afterAllocate_holds {ip : String} (hipam : s.ipam.isSome = true)
    (h : allocateIP s.ipam key = .ok (ip, ipam)) :
    ({ s with ipam := afterAllocate s.ipam key } : Sys).holds key = some ip := by
  obtain ⟨a, ha⟩ := Option.isSome_iff_exists.mp hipam
  rw [ha] at h
  cases hallocate : a.allocate key with
  | error e => simp [allocateIP, hallocate, Except.map] at h
  | ok result =>
    have hbyKey := PodIPAM.allocate_ok hallocate
    simp only [allocateIP, hallocate, Except.map, Except.ok.injEq, Prod.mk.injEq] at h
    simp [Sys.holds, afterAllocate, allocateIP, ha, hallocate, Except.map, hbyKey, h.1]

/-- Once addressed, a creation's Pod holds the address it was given. -/
theorem createEffect_holds (hipam : s.ipam.isSome = true)
    (hheld : c.pc.addressed = true → s.holds c.pod.key = some c.podIP)
    (hnext : (createNext s c o).pc.addressed = true) :
    (createEffect s c o).holds c.pod.key = some (createNext s c o).podIP := by
  rcases (createNext_move s c o).addressed_cases hnext with ⟨ipam, hallocate, hok⟩ | ⟨hbefore, hip⟩
  · simp only [createEffect, hallocate]
    exact afterAllocate_holds hipam hok
  · have hplace (pc : CreatePC) (hpc : pc.addressed = false) : c.pc ≠ pc := by
      rintro rfl
      rw [hbefore] at hpc
      cases hpc
    rw [hip, holds_of_ipam (createEffect_ipam s o (hplace .allocate rfl) (hplace .release rfl))]
    exact hheld hbefore

/-- The call goes on, or leaves with its address released or not owed. -/
def CreateCall.Leaves (c' : CreateCall) : Prop :=
  c'.pc ≠ .done ∨ ∃ c₀ : CreateCall, c' = c₀.leave

theorem unwind_leaves (c : CreateCall) (e : CreateError) : (c.unwind e).Leaves := by
  unfold CreateCall.unwind
  split
  · exact Or.inr ⟨_, rfl⟩
  · exact Or.inl (fun h => by cases h)

theorem toNetwork_leaves (c : CreateCall) (podNet : Bool) : (c.toNetwork podNet).Leaves := by
  unfold CreateCall.toNetwork
  split
  · exact Or.inl (by simp)
  · exact Or.inl (by simp)

/-- A creation that ends past its check leaves through its deferred release. -/
theorem createNext_leaves (s : Sys) (c : CreateCall) (o : Outcome) :
    c.pc = .check ∨ c.pc = .commit ∨ c.pc = .release ∨ c.pc = .done ∨
      (createNext s c o).Leaves := by
  cases hpc : c.pc with
  | check | commit | release | done => simp
  | rollback remaining =>
    refine Or.inr (Or.inr (Or.inr (Or.inr ?_)))
    cases remaining with
    | nil =>
      simp only [createNext, hpc]
      exact Or.inr ⟨c, rfl⟩
    | cons w rest =>
      simp only [createNext, hpc]
      exact Or.inl (by simp)
  | _ =>
    refine Or.inr (Or.inr (Or.inr (Or.inr ?_)))
    simp only [createNext, hpc]
    repeat' split
    all_goals first
      | exact unwind_leaves c _
      | exact toNetwork_leaves _ s.podNet
      | exact Or.inr ⟨_, rfl⟩
      | exact Or.inl (fun h => by cases h)

/-- A creation that fails returns with the Pod holding what it held before. -/
theorem CreateCall.IPDue.returned (h : c.IPDue s held) (hstaged : c.Staged)
    (hflight : c.pc ≠ .done) (hcommit : c.pc ≠ .commit)
    (hdone : (createNext s c o).pc = .done) : (createEffect s c o).holds c.pod.key = held := by
  have hkey := (createNext_move s c o).pod_eq
  have hdue := (h.step (o := o) hstaged).due
  rw [← hdue, CreateCall.dueIP, hkey]
  unfold CreateCall.Staged at hstaged
  rcases createNext_leaves s c o with hpc | hpc | hpc | hpc | hleaves
  · simp only [hpc] at hstaged
    have howes : (createNext s c o).owesIP = false := by
      rw [CreateCall.owesIP, ((createNext_move s c o).address_eq (by simp [hpc]) (by simp [hpc])).1,
        hstaged.2]
      rfl
    rw [howes, if_neg Bool.false_ne_true]
  · exact absurd hpc hcommit
  · simp only [createEffect, hpc, releaseIP_self]
    split <;> rfl
  · exact absurd hpc hflight
  · rcases hleaves with hgoes | ⟨c₀, heq⟩
    · exact absurd hdone hgoes
    · have howes : (createNext s c o).owesIP = false := by
        rw [heq] at hdone ⊢
        unfold CreateCall.leave at hdone ⊢
        split at hdone
        · cases hdone
        · rename_i hnot
          rw [if_neg hnot]
          simpa [CreateCall.owesIP] using hnot
      rw [howes, if_neg Bool.false_ne_true]

end Address

/-- The call has made a micro-VM and will destroy it unless it succeeds. -/
def CreateCall.owesVM (c : CreateCall) : Bool :=
  match c.pc with
  | .start | .observe | .attach | .commit => !c.adopted
  | .rollback (_ :: _) => true
  | _ => false

/-- Whether there is a micro-VM under the ID once the call has paid what it owes. -/
def CreateCall.dueVM (c : CreateCall) (s : Sys) (id : String) : Bool :=
  !c.owesVM && (s.vms id).isSome

/-- The places of `CreatePod` after it has found no workload and before it makes one. -/
def CreatePC.unmade : CreatePC → Bool
  | .credentials | .pull | .create => true
  | _ => false

/-- Whether there will be a micro-VM under the ID if the call fails. -/
structure CreateCall.VMDue (c : CreateCall) (s : Sys) (id : String) (was : Bool) : Prop where
  due : c.dueVM s id = was
  absent : c.pc.unmade = true → s.vms id = none

section Workload

variable {s : Sys} {c : CreateCall} {o : Outcome} {id : String} {was : Bool}

theorem CreateCall.VMDue.quiet {c' : CreateCall} (h : c.VMDue s id was) (howes : c.owesVM = false)
    (howes' : c'.owesVM = false) (hvms : (s'.vms id).isSome = (s.vms id).isSome)
    (habsent : c'.pc.unmade = true → s.vms id = none) : c'.VMDue s' id was where
  due := by
    rw [← h.due, CreateCall.dueVM, CreateCall.dueVM, howes, howes', hvms]
  absent := by
    intro hpc
    rw [habsent hpc] at hvms
    simpa using hvms

theorem CreateCall.VMDue.owing {c' : CreateCall} (hwas : was = false) (howes' : c'.owesVM = true)
    (hpc : c'.pc.unmade = false) : c'.VMDue s' id was where
  due := by
    rw [CreateCall.dueVM, howes', hwas]
    rfl
  absent := by
    intro hunmade
    rw [hpc] at hunmade
    cases hunmade

theorem CreateCall.VMDue.was_eq (h : c.VMDue s id was) (howes : c.owesVM = true) : was = false := by
  rw [← h.due, CreateCall.dueVM, howes]
  rfl

theorem leave_owesVM (c : CreateCall) : c.leave.owesVM = false ∧ c.leave.pc.unmade = false := by
  unfold CreateCall.leave
  split <;> exact ⟨rfl, rfl⟩

theorem failWith_owesVM (c : CreateCall) (e : CreateError) :
    (c.failWith e).owesVM = false ∧ (c.failWith e).pc.unmade = false :=
  leave_owesVM { c with err := some e }

theorem toNetwork_owesVM (c : CreateCall) (podNet : Bool) :
    (c.toNetwork podNet).owesVM = !c.adopted ∧ (c.toNetwork podNet).pc.unmade = false := by
  unfold CreateCall.toNetwork
  split <;> exact ⟨rfl, rfl⟩

/-- Starting to unwind keeps what is due of the micro-VM. -/
theorem unwind_due (h : c.VMDue s id was) (hpc : c.owesVM = !c.adopted)
    (hworkloads : c.workloads ≠ []) (hvms : (s'.vms id).isSome = (s.vms id).isSome)
    (e : CreateError) : (c.unwind e).VMDue s' id was := by
  unfold CreateCall.unwind
  split
  · rename_i hadopted
    obtain ⟨howes, hunmade⟩ := failWith_owesVM c e
    refine h.quiet (by rw [hpc, hadopted]; rfl) howes hvms fun hpc' => ?_
    rw [hunmade] at hpc'
    cases hpc'
  · rename_i hadopted
    have howes : c.owesVM = true := by rw [hpc, Bool.eq_false_iff.mpr hadopted]; rfl
    refine .owing (h.was_eq howes) ?_ rfl
    unfold CreateCall.rollBack CreateCall.owesVM
    cases hw : c.workloads with
    | nil => exact absurd hw hworkloads
    | cons w rest => rfl

/-- The calls of `CreatePod` go to the runtime under the ID of its workload. -/
theorem CreateCall.Placed.request_id {call : RuntimeCall} (h : c.Placed)
    (hcall : c.request s o = some call) : c.pc.translated = true ∧ call.id = c.spec.name := by
  cases hpc : c.pc with
  | startAdopted | start =>
    simp only [CreateCall.request, hpc, Option.some.injEq] at hcall
    refine ⟨rfl, ?_⟩
    rw [← hcall]
    exact h.id_eq (by rw [hpc]; rfl)
  | create =>
    simp only [CreateCall.request, hpc, createRequest] at hcall
    split at hcall
    · cases hcall
    · cases hcall
      exact ⟨rfl, rfl⟩
  | rollback remaining =>
    cases remaining with
    | nil => simp [CreateCall.request, hpc] at hcall
    | cons w rest =>
      simp only [CreateCall.request, hpc, Option.some.injEq] at hcall
      refine ⟨rfl, ?_⟩
      rw [← hcall]
      exact h.remaining _ hpc w List.mem_cons_self
  | _ => simp [CreateCall.request, hpc] at hcall

/-- The lookup of `CreatePod` tells whether there is a micro-VM, a `Create` that fails
makes none, and a `Destroy` succeeds. -/
def CreateCall.failsClean (c : CreateCall) (s : Sys) (o : Outcome) : Bool :=
  match c.pc with
  | .lookup => (s.vms.status c.spec.name o.status).toOption.isSome = (s.vms c.spec.name).isSome
  | .create => o.failsClean
  | .rollback _ => o.fault.isNone
  | _ => true

/-- The places of `CreatePod` where it neither owes a micro-VM nor works on one. -/
def CreatePC.bare : CreatePC → Bool
  | .lookup | .startAdopted | .create | .start | .observe | .attach | .commit
  | .rollback (_ :: _) => false
  | _ => true

theorem CreatePC.bare_facts (hbare : c.pc.bare = true) :
    c.owesVM = false ∧ c.request s o = none := by
  cases hpc : c.pc with
  | rollback remaining =>
    cases remaining with
    | nil => simp only [CreateCall.owesVM, CreateCall.request, hpc, and_self]
    | cons w rest => simp [hpc, CreatePC.bare] at hbare
  | lookup | startAdopted | create | start | observe | attach | commit =>
    simp [hpc, CreatePC.bare] at hbare
  | _ => simp only [CreateCall.owesVM, CreateCall.request, hpc, and_self]

theorem CreateMove.bare {c' : CreateCall} (h : CreateMove s o c c') (hbare : c.pc.bare = true) :
    c'.owesVM = false ∧ (c'.pc.unmade = true → c.pc.unmade = true) := by
  cases h with
  | found _ _ hpc _ _ | notFound _ hpc _ | created hpc _ | observed _ hpc _ | polled hpc _
  | attached hpc _ | rolledBack _ _ hpc =>
    rw [hpc] at hbare
    cases hbare
  | started _ hpc _ _ => rcases hpc with hpc | hpc <;> rw [hpc] at hbare <;> cases hbare
  | failedLate _ _ hpc _ =>
    cases hplace : c.pc <;> simp [hplace, CreatePC.late] at hpc <;>
      simp [hplace, CreatePC.bare] at hbare
  | recorded _ _ _ _ hgo | rolledBackAll _ _ hgo | failedEarly _ _ _ hgo =>
    rcases hgo with rfl | rfl <;> exact ⟨rfl, flag_off⟩
  | credentials hpc | pulled hpc => exact ⟨rfl, fun _ => by rw [hpc]; rfl⟩
  | _ => exact ⟨rfl, flag_off⟩

theorem CreateCall.VMDue.clear {c' : CreateCall} (h : c.VMDue s id was) (howes : c.owesVM = false)
    (hnext : c'.owesVM = false ∧ c'.pc.unmade = false)
    (hvms : (s'.vms id).isSome = (s.vms id).isSome) : c'.VMDue s' id was := by
  refine h.quiet howes hnext.1 hvms fun hunmade => ?_
  rw [hnext.2] at hunmade
  cases hunmade

theorem createEffect_quiet (hnone : c.request s o = none) :
    ((createEffect s c o).vms id).isSome = (s.vms id).isSome := by
  rw [createEffect_vms, hnone]
  rfl

theorem createEffect_start {w : String}
    (hrequest : c.request s o = some ⟨w, .start o.now, o.fault⟩) :
    ((createEffect s c o).vms id).isSome = (s.vms id).isSome := by
  rw [createEffect_vms, hrequest]
  rcases served_cases s.vms (some ⟨w, .start o.now, o.fault⟩) id with
    ⟨_, hkept⟩ | ⟨made, hmade, _, _, hchanged⟩
  · rw [hkept]
  · obtain rfl := Option.some.inj hmade
    rw [hchanged]
    exact Option.isSome_map

/-- The lookup keeps what is due of the micro-VM. -/
theorem lookup_due (h : c.VMDue s c.spec.name was) (hpc : c.pc = .lookup)
    (hclean : c.failsClean s o = true) :
    (createNext s c o).VMDue (createEffect s c o) c.spec.name was := by
  have howes : c.owesVM = false := by simp only [CreateCall.owesVM, hpc]
  have hkept : ((createEffect s c o).vms c.spec.name).isSome = (s.vms c.spec.name).isSome :=
    createEffect_quiet (by simp only [CreateCall.request, hpc])
  simp only [CreateCall.failsClean, hpc, decide_eq_true_eq] at hclean
  simp only [createNext, hpc]
  split
  · split
    · exact h.clear howes ⟨rfl, rfl⟩ hkept
    · exact h.clear howes (toNetwork_owesVM _ s.podNet) hkept
  · rename_i e herror
    -- nothing was found, so nothing was there
    refine h.quiet howes rfl hkept fun _ => ?_
    rw [herror] at hclean
    simpa [Except.toOption] using hclean.symm

theorem startAdopted_due (h : c.VMDue s id was) (hpc : c.pc = .startAdopted)
    (hadopted : c.adopted = true) : (createNext s c o).VMDue (createEffect s c o) id was := by
  have howes : c.owesVM = false := by simp only [CreateCall.owesVM, hpc]
  have hkept : ((createEffect s c o).vms id).isSome = (s.vms id).isSome :=
    createEffect_start (w := c.id) (by simp only [CreateCall.request, hpc])
  simp only [createNext, hpc]
  split
  · exact h.clear howes (failWith_owesVM c _) hkept
  · have hnext := toNetwork_owesVM c s.podNet
    rw [hadopted] at hnext
    exact h.clear howes hnext hkept

/-- The runtime's create keeps what is due of the micro-VM. -/
theorem create_due (h : c.VMDue s id was) (hplaced : c.Placed) (hpc : c.pc = .create)
    (hnew : c.adopted = false) (hclean : o.failsClean = true) :
    (createNext s c o).VMDue (createEffect s c o) id was := by
  have howes : c.owesVM = false := by simp only [CreateCall.owesVM, hpc]
  have hnone : s.vms id = none := h.absent (by rw [hpc]; rfl)
  have hwas : was = false := by
    rw [← h.due, CreateCall.dueVM, hnone]
    exact Bool.and_false _
  cases herror : createError c.spec o.fault with
  | none =>
    simp only [createNext, hpc, herror]
    exact .owing hwas (by simp only [CreateCall.owesVM, hnew]; rfl) rfl
  | some e =>
    -- a `Create` that is refused or fails makes nothing
    have hvms : (createEffect s c o).vms = s.vms := by
      simp only [createEffect, hpc, createCall]
      split
      · rfl
      · cases hfault : o.fault with
        | none => simp_all [createError]
        | some fault =>
          have happlied : effective o.fault = false := by
            simpa [Outcome.failsClean, hfault, effective] using hclean
          rw [← hfault, VMTable.call, happlied, if_neg Bool.false_ne_true]
    have hblank : c.workloads = [] := hplaced.blank (by rw [hpc]; rfl)
    simp only [createNext, hpc, herror]
    refine h.clear howes ⟨?_, rfl⟩ (by rw [hvms])
    simp only [CreateCall.rollBack, CreateCall.owesVM, hblank]

theorem start_due (h : c.VMDue s id was) (hplaced : c.Placed) (hpc : c.pc = .start)
    (hnew : c.adopted = false) : (createNext s c o).VMDue (createEffect s c o) id was := by
  have howes : c.owesVM = true := by simp only [CreateCall.owesVM, hpc, hnew, Bool.not_false]
  have hworkloads := hplaced.placed (by rw [hpc]; rfl)
  simp only [createNext, hpc]
  split
  · refine .owing (h.was_eq howes) ?_ rfl
    simp only [CreateCall.rollBack, CreateCall.owesVM, hworkloads]
  · have hnext := toNetwork_owesVM c s.podNet
    rw [hnew] at hnext
    exact .owing (h.was_eq howes) hnext.1 hnext.2

theorem CreateCall.VMDue.same {c' : CreateCall} (h : c.VMDue s id was)
    (howes : c'.owesVM = c.owesVM) (hunmade : c'.pc.unmade = false)
    (hvms : (s'.vms id).isSome = (s.vms id).isSome) : c'.VMDue s' id was where
  due := by rw [← h.due, CreateCall.dueVM, CreateCall.dueVM, howes, hvms]
  absent := by
    intro hpc
    rw [hunmade] at hpc
    cases hpc

/-- The network's steps keep what is due of the micro-VM. -/
theorem network_due (h : c.VMDue s id was) (hplaced : c.Placed)
    (hpc : c.pc = .observe ∨ c.pc = .attach) :
    (createNext s c o).VMDue (createEffect s c o) id was := by
  have howes : c.owesVM = !c.adopted := by
    rcases hpc with hpc | hpc <;> simp only [CreateCall.owesVM, hpc]
  have hworkloads : c.workloads ≠ [] := by
    rw [hplaced.placed (by rcases hpc with hpc | hpc <;> rw [hpc] <;> rfl)]
    exact List.cons_ne_nil _ _
  have hkept : ((createEffect s c o).vms id).isSome = (s.vms id).isSome :=
    createEffect_quiet (by rcases hpc with hpc | hpc <;> simp only [CreateCall.request, hpc])
  rcases hpc with hpc | hpc
  · simp only [createNext, hpc]
    split
    · exact h.same howes.symm rfl hkept
    · split
      · exact unwind_due h howes hworkloads hkept _
      · exact h.same howes.symm rfl hkept
  · simp only [createNext, hpc]
    split
    · exact unwind_due h howes hworkloads hkept _
    · exact h.same howes.symm rfl hkept

theorem rollback_due (h : c.VMDue s c.spec.name was) (hplaced : c.Placed) {w : Workload}
    {rest : List Workload} (hpc : c.pc = .rollback (w :: rest)) (hclean : o.fault = none) :
    (createNext s c o).VMDue (createEffect s c o) c.spec.name was := by
  have howes : c.owesVM = true := by simp only [CreateCall.owesVM, hpc]
  have hw : w.id = c.spec.name := hplaced.remaining _ hpc w List.mem_cons_self
  have hgone : (createEffect s c o).vms c.spec.name = none := by
    simp only [createEffect, hpc, hw, VMTable.call_self, hclean]
    rfl
  have hnext : createNext s c o = { c with pc := .rollback rest } := by
    simp only [createNext, hpc]
  rw [hnext, h.was_eq howes]
  refine ⟨?_, flag_off⟩
  rw [CreateCall.dueVM, hgone]
  exact Bool.and_false _

/-- Whether there will be a micro-VM if the call fails is not changed by a step of the
call that does not end it well. -/
theorem CreateCall.VMDue.step (h : c.VMDue s id was) (hplaced : c.Placed) (hstaged : c.Staged)
    (hid : c.pc.translated = true → c.spec.name = id) (hcommit : c.pc ≠ .commit)
    (hclean : c.failsClean s o = true) : (createNext s c o).VMDue (createEffect s c o) id was := by
  by_cases hbare : c.pc.bare = true
  · obtain ⟨howes, hrequest⟩ := CreatePC.bare_facts (s := s) (o := o) hbare
    obtain ⟨howes', hunmade⟩ := (createNext_move s c o).bare hbare
    exact h.quiet howes howes' (createEffect_quiet hrequest) fun hpc => h.absent (hunmade hpc)
  · unfold CreateCall.Staged at hstaged
    cases hpc : c.pc with
    | commit => exact absurd hpc hcommit
    | lookup =>
      obtain rfl := hid (by rw [hpc]; rfl)
      exact lookup_due h hpc hclean
    | startAdopted =>
      simp only [hpc] at hstaged
      exact startAdopted_due h hpc hstaged
    | create =>
      simp only [hpc] at hstaged
      simp only [CreateCall.failsClean, hpc] at hclean
      exact create_due h hplaced hpc hstaged hclean
    | start =>
      simp only [hpc] at hstaged
      exact start_due h hplaced hpc hstaged
    | observe => exact network_due h hplaced (Or.inl hpc)
    | attach => exact network_due h hplaced (Or.inr hpc)
    | rollback remaining =>
      cases remaining with
      | nil => simp [hpc, CreatePC.bare] at hbare
      | cons w rest =>
        obtain rfl := hid (by rw [hpc]; rfl)
        simp only [CreateCall.failsClean, hpc] at hclean
        exact rollback_due h hplaced hpc (by simpa using hclean)
    | _ => simp [hpc, CreatePC.bare] at hbare

end Workload

/-- The places of `CreatePod` once it has failed. -/
def CreatePC.unwinding : CreatePC → Bool
  | .rollback _ | .release | .done => true
  | _ => false

section Repaying

variable {s s₀ : Sys} {c c' : CreateCall} {o : Outcome}

/-- A creation has an error only while it unwinds. -/
theorem CreateMove.failing (h : CreateMove s o c c')
    (hfailing : c.err = none ∨ c.pc.unwinding = true) : c'.err = none ∨ c'.pc.unwinding = true := by
  rcases hfailing with herr | hunwinding
  · cases h with
    | failedEarly e pc _ hgo => exact Or.inr (by rcases hgo with rfl | rfl <;> rfl)
    | failedLate e pc _ hgo => exact Or.inr (by rcases hgo with rfl | rfl | rfl <;> rfl)
    | _ => exact Or.inl herr
  · refine Or.inr ?_
    cases h with
    | rolledBack | released => rfl
    | rolledBackAll pc _ hgo => rcases hgo with rfl | rfl <;> rfl
    | failedEarly e pc _ hgo => rcases hgo with rfl | rfl <;> rfl
    | failedLate e pc _ hgo => rcases hgo with rfl | rfl | rfl <;> rfl
    | started pc hpc _ _ =>
      rcases hpc with hpc | hpc <;> rw [hpc] at hunwinding <;> cases hunwinding
    | recorded _ _ _ hpc _ | found _ _ hpc _ _ | notFound _ hpc _ | created hpc _
    | observed _ hpc _ | polled hpc _ | attached hpc _ | tracked hpc _ | untracked hpc _
    | unsupported _ hpc | translated _ _ hpc _ | dirs hpc | files hpc | reservation hpc
    | allocated _ _ hpc _ | credentials hpc | wrongArch _ hpc | pulled hpc | committed hpc =>
      rw [hpc] at hunwinding
      cases hunwinding

theorem createNext_err (s : Sys) (o : Outcome) (h : c.pc.stores = true ∨ c.pc = .release) :
    (createNext s c o).err = c.err := by
  have hleave : c.leave.err = c.err := by
    unfold CreateCall.leave
    split <;> rfl
  cases hpc : c.pc with
  | commit | release => simp only [createNext, hpc]
  | terminal reason message =>
    simp only [createNext, hpc]
    exact hleave
  | _ => simp [hpc, CreatePC.stores] at h

/-- The workload of the first container, the only one a Pod has. -/
def Pod.ownID (pod : Pod) : String := pod.workloadID pod.firstContainer

theorem CreateCall.Placed.ownID (h : c.Placed) (hpc : c.pc.translated = true) :
    c.spec.name = c.pod.ownID := by
  obtain ⟨x, hx, hname⟩ := h.named hpc
  rw [hname, Pod.ownID, Pod.firstContainer, hx]
  rfl

/-- A call in flight that began in the state `s₀`, the keys of `K` and the micro-VMs of
`V` being left to it: if it fails now, it will leave them as they were. -/
structure Repaying (s₀ : Sys) (pod : Pod) (K V : Set String) (s : Sys) (c : CreateCall) :
    Prop where
  pod_eq : c.pod = pod
  placed : c.Placed
  staged : c.Staged
  flight : c.pc ≠ .done
  failing : c.err = none ∨ c.pc.unwinding = true
  tracked : s.pods pod.key = s₀.pods pod.key ∨ c.err = none ∧ c.pc = .release
  address : c.IPDue s (s₀.holds pod.key)
  workload : pod.ownID ∈ V → c.VMDue s pod.ownID (s₀.vms pod.ownID).isSome
  keys : ∀ key ∈ K, key ≠ pod.key → s.pods key = s₀.pods key ∧ s.holds key = s₀.holds key
  ids : ∀ id ∈ V, id ≠ pod.ownID → (s.vms id).isSome = (s₀.vms id).isSome

/-- `Start`, `Stop` and the end of a guest leave a micro-VM in being. -/
def VMChange.keeps : VMChange → Bool
  | .create _ _ | .destroy => false
  | _ => true

/-- Another party moves, on none of these keys, and neither makes nor destroys any of
these micro-VMs; or `CreatePod` moves. -/
def LeavesAlone (K V : Set String) (s : Sys) (l : Label) : Prop :=
  (∃ o, l = .create o) ∨ (∀ key ∈ K, l.party s ≠ some key) ∧
    ∀ call, runtimeCall s l = some call → call.id ∈ V → call.change.keeps = true

/-- The lookup of `CreatePod` is truthful, its `Create` fails without an effect and its
`Destroy` succeeds. -/
def createFailsClean (s : Sys) : Label → Bool
  | .create o => s.creating.all fun c => c.failsClean s o
  | _ => true

theorem served_isSome (vms : VMTable) {call : Option RuntimeCall} {id : String}
    (h : ∀ made, call = some made → made.id = id → made.change.keeps = true) :
    (vms.served call id).isSome = (vms id).isSome := by
  rcases served_cases vms call id with ⟨_, hkept⟩ | ⟨made, hmade, hid, _, hchanged⟩
  · rw [hkept]
  · rw [hchanged]
    have hkeeps := h made hmade hid
    cases hchange : made.change with
    | create inst addr => simp [hchange, VMChange.keeps] at hkeeps
    | destroy => simp [hchange, VMChange.keeps] at hkeeps
    | start now => exact Option.isSome_map
    | stop exitCode => exact Option.isSome_map
    | exit failed exitCode => exact Option.isSome_map

variable {pod : Pod} {K V : Set String}

/-- A creation that begins owes nothing. -/
theorem begin_repaying (pod : Pod) (K V : Set String) (s₀ : Sys) :
    Repaying s₀ pod K V { s₀ with creating := some (CreateCall.begin pod) }
      (CreateCall.begin pod) where
  pod_eq := rfl
  placed := begin_placed pod
  staged := begin_staged pod
  flight := fun h => by cases h
  failing := Or.inl rfl
  tracked := Or.inl rfl
  address := ⟨rfl, fun h => by cases h⟩
  workload := fun _ => ⟨rfl, flag_off⟩
  keys := fun _ _ _ => ⟨rfl, rfl⟩
  ids := fun _ _ _ => rfl

theorem Repaying.frame (h : Repaying s₀ pod K V s c) (hkey : pod.key ∈ K)
    (hsame : ∀ key ∈ K, s'.pods key = s.pods key ∧ s'.holds key = s.holds key)
    (hvms : ∀ id ∈ V, (s'.vms id).isSome = (s.vms id).isSome) : Repaying s₀ pod K V s' c where
  pod_eq := h.pod_eq
  placed := h.placed
  staged := h.staged
  flight := h.flight
  failing := h.failing
  tracked := by
    rw [(hsame pod.key hkey).1]
    exact h.tracked
  address := by
    have hholds : s'.holds c.pod.key = s.holds c.pod.key := by
      rw [h.pod_eq]
      exact (hsame pod.key hkey).2
    refine ⟨?_, fun hpc => ?_⟩
    · rw [CreateCall.dueIP, hholds]
      exact h.address.due
    · rw [hholds]
      exact h.address.had hpc
  workload := by
    intro hV
    refine ⟨?_, fun hpc => ?_⟩
    · rw [CreateCall.dueVM, hvms _ hV]
      exact (h.workload hV).due
    · have hnone := hvms _ hV
      rw [(h.workload hV).absent hpc] at hnone
      simpa using hnone
  keys := fun key hK hne => by
    rw [(hsame key hK).1, (hsame key hK).2]
    exact h.keys key hK hne
  ids := fun id hV hne => by
    rw [hvms id hV]
    exact h.ids id hV hne

/-- A creation's step changes nothing of the other Pods. -/
theorem Repaying.others (h : Repaying s₀ pod K V s c) (o : Outcome) :
    (∀ key ∈ K, key ≠ pod.key → (createEffect s c o).pods key = s₀.pods key ∧
      (createEffect s c o).holds key = s₀.holds key) ∧
    ∀ id ∈ V, id ≠ pod.ownID → ((createEffect s c o).vms id).isSome = (s₀.vms id).isSome := by
  refine ⟨fun key hK hne => ?_, fun id hV hne => ?_⟩
  · have hother : key ≠ c.pod.key := by
      rw [h.pod_eq]
      exact hne
    obtain ⟨hpods, hholds⟩ := h.keys key hK hne
    exact ⟨(createEffect_pods_other s o hother).trans hpods,
      (createEffect_holds_other hother).trans hholds⟩
  · rw [← h.ids id hV hne, createEffect_vms]
    refine served_isSome s.vms fun made hmade hid => ?_
    obtain ⟨htranslated, hname⟩ := h.placed.request_id hmade
    rw [hid, h.placed.ownID htranslated, h.pod_eq] at hname
    exact absurd hname hne

theorem Repaying.tracked_next (h : Repaying s₀ pod K V s c) (o : Outcome) :
    (createEffect s c o).pods pod.key = s₀.pods pod.key ∨ (createNext s c o).err = none ∧
      ((createNext s c o).pc = .release ∨ (createNext s c o).pc = .done) := by
  cases hstores : c.pc.stores with
  | true =>
    refine Or.inr ⟨(createNext_err s o (Or.inl hstores)).trans ?_, ?_⟩
    · refine h.failing.resolve_right fun hunwinding => ?_
      cases hpc : c.pc <;> simp [hpc, CreatePC.stores] at hstores <;>
        simp [hpc, CreatePC.unwinding] at hunwinding
    · cases hpc : c.pc with
      | commit => exact Or.inr (by simp only [createNext, hpc])
      | terminal reason message =>
        simp only [createNext, hpc]
        rcases leave_cases c with hleave | hleave
        · exact Or.inl (by rw [hleave])
        · exact Or.inr (by rw [hleave])
      | _ => simp [hpc, CreatePC.stores] at hstores
  | false =>
    rw [createEffect_pods s o hstores]
    refine h.tracked.imp_right fun hreleasing => ⟨?_, Or.inr ?_⟩
    · exact (createNext_err s o (Or.inr hreleasing.2)).trans hreleasing.1
    · simp only [createNext, hreleasing.2]

/-- A step of a creation that fails cleanly keeps what it owes. -/
theorem Repaying.step (h : Repaying s₀ pod K V s c) (hclean : c.failsClean s o = true)
    (hgoes : (createNext s c o).pc ≠ .done) :
    Repaying s₀ pod K V (createEffect s c o) (createNext s c o) where
  pod_eq := (createNext_move s c o).pod_eq.trans h.pod_eq
  placed := (createNext_move s c o).placed h.placed
  staged := createNext_staged s o h.staged
  flight := hgoes
  failing := (createNext_move s c o).failing h.failing
  tracked := (h.tracked_next o).imp_right (And.imp_right fun hpc => hpc.resolve_right hgoes)
  address := h.address.step h.staged
  workload := fun hV => (h.workload hV).step h.placed h.staged
    (fun hpc => (h.placed.ownID hpc).trans (congrArg Pod.ownID h.pod_eq))
    (fun hpc => hgoes (by simp only [createNext, hpc])) hclean
  keys := (h.others o).1
  ids := (h.others o).2

/-- A creation that returns an error has paid back all it took. -/
theorem Repaying.returned (h : Repaying s₀ pod K V s c) (hclean : c.failsClean s o = true)
    (hdone : (createNext s c o).pc = .done) {e : CreateError}
    (herr : (createNext s c o).err = some e) :
    (∀ key ∈ K, (createEffect s c o).pods key = s₀.pods key ∧
      (createEffect s c o).holds key = s₀.holds key) ∧
    ∀ id ∈ V, ((createEffect s c o).vms id).isSome = (s₀.vms id).isSome := by
  obtain ⟨hkeys, hids⟩ := h.others o
  have hcommit : c.pc ≠ .commit := by
    intro hpc
    rcases h.failing with hnone | hunwinding
    · rw [createNext_err s o (Or.inl (by rw [hpc]; rfl)), hnone] at herr
      cases herr
    · rw [hpc] at hunwinding
      cases hunwinding
  refine ⟨fun key hK => ?_, fun id hV => ?_⟩
  · by_cases hkey : key = pod.key
    · subst hkey
      refine ⟨(h.tracked_next o).resolve_right fun hreturns => ?_, ?_⟩
      · rw [hreturns.1] at herr
        cases herr
      · have hholds := h.address.returned (o := o) h.staged h.flight hcommit hdone
        rwa [h.pod_eq] at hholds
    · exact hkeys key hK hkey
  · by_cases hid : id = pod.ownID
    · subst hid
      have hdue := ((h.workload hV).step (o := o) h.placed h.staged
        (fun hpc => (h.placed.ownID hpc).trans (congrArg Pod.ownID h.pod_eq)) hcommit hclean).due
      have howes : (createNext s c o).owesVM = false := by
        simp only [CreateCall.owesVM, hdone]
      rw [← hdue, CreateCall.dueVM, howes]
      exact (Bool.true_and _).symm
    · exact hids id hV hid

/-- The call is the only one on its key, so one in flight on it is this one. -/
theorem step_repaying {l : Label} (hkey : pod.key ∈ K)
    (h : ∀ c, s.creating = some c → c.pod.key = pod.key → Repaying s₀ pod K V s c)
    (hclean : createFailsClean s l = true) (halone : LeavesAlone K V s l)
    (hstep : step s l = some s') :
    ∀ c', s'.creating = some c' → c'.pod.key = pod.key → Repaying s₀ pod K V s' c' := by
  intro c' hc' hown
  rcases halone with ⟨o, rfl⟩ | ⟨hparty, hcalls⟩
  · obtain ⟨c, hc, rfl⟩ := Option.map_eq_some_iff.mp hstep
    unfold createStep at hc' ⊢
    split at hc'
    · cases hc'
    · rename_i hgoes
      obtain rfl := Option.some.inj hc'
      have hbefore : c.pod.key = pod.key := by
        rw [← hown, (createNext_move s c o).pod_eq]
      have hclean' : c.failsClean s o = true := by simpa [createFailsClean, hc] using hclean
      have hnext := (h c hc hbefore).step hclean' hgoes
      rw [if_neg hgoes]
      exact hnext.frame hkey (fun _ _ => ⟨rfl, rfl⟩) (fun _ _ => rfl)
  · have hc : s.creating = some c' := by
      rcases step_creating hstep hc' with ⟨hc, _⟩ | ⟨begun, rfl, rfl⟩ | ⟨c, o, rfl, hc, rfl⟩
      · exact hc
      · exact absurd (congrArg some hown) (hparty pod.key hkey)
      · rw [(createNext_move s c o).pod_eq] at hown
        refine absurd ?_ (hparty pod.key hkey)
        rw [Label.party, hc, Option.map_some, hown]
    refine (h c' hc hown).frame hkey (fun key hK => ⟨step_pods_other (hparty key hK) hstep,
      step_holds_other (hparty key hK) hstep⟩) fun id hV => ?_
    rw [step_runtime hstep]
    exact served_isSome s.vms fun made hmade hid => hcalls made hmade (hid ▸ hV)

end Repaying

/-- `CreatePod` begins in any state and returns an error, while others leave the keys of `K`, its
own among them, and the micro-VMs of `V` alone.  If its lookup is truthful, a `Create` that fails
makes nothing and `Destroy` succeeds, those keys are tracked and hold addresses as before, and
those micro-VMs exist as before. -/
theorem failed_create_restores {ms : List Label} {s₀ s₁ s s' : Sys} {pod : Pod}
    (hbegin : step s₀ (.createBegin pod) = some s₁) {K V : Set String} (hkey : pod.key ∈ K)
    (hrun : Run step (fun s l => createFailsClean s l = true ∧ LeavesAlone K V s l) s₁ ms s)
    {o : Outcome} {e : CreateError} (hclean : createFailsClean s (.create o) = true)
    (hstep : step s (.create o) = some s')
    (hreturned : s'.returned = .created pod.key (some e) :: s.returned) :
    (∀ key ∈ K, s'.pods key = s₀.pods key ∧ s'.holds key = s₀.holds key) ∧
      ∀ id ∈ V, (s'.vms id).isSome = (s₀.vms id).isSome := by
  obtain ⟨_, rfl⟩ := createBegin_eq hbegin
  have hinv : ∀ c, s.creating = some c → c.pod.key = pod.key → Repaying s₀ pod K V s c := by
    refine hrun.invariant (fun c hc _ => ?_) fun h hl hstep =>
      step_repaying hkey h hl.1 hl.2 hstep
    obtain rfl := Option.some.inj hc
    exact begin_repaying pod K V s₀
  obtain ⟨c, hc, rfl⟩ := Option.map_eq_some_iff.mp hstep
  unfold createStep at hreturned ⊢
  split at hreturned
  · rename_i hdone
    rw [if_pos hdone]
    simp only [List.cons.injEq, Returned.created.injEq, and_true] at hreturned
    have hclean' : c.failsClean s o = true := by simpa [createFailsClean, hc] using hclean
    exact (hinv c hc hreturned.1).returned hclean' hdone hreturned.2
  · rename_i hgoes
    have hsame : (createEffect s c o).returned = s.returned := by
      unfold createEffect
      split <;> rfl
    have hlength := congrArg List.length hreturned
    simp [hsame] at hlength

namespace RollbackWitness

open Sample

/-- `CreatePod` moves, its calls failing without effects. -/
def movesClean (s : Sys) : Label → Bool
  | .create o => createFailsClean s (.create o)
  | _ => false

theorem movesClean_alone {s : Sys} {l : Label} (h : movesClean s l = true) :
    createFailsClean s l = true ∧ LeavesAlone Set.univ Set.univ s l := by
  cases l with
  | create o => exact ⟨h, Or.inl ⟨o, rfl⟩⟩
  | _ => cases h

def startFailed : CreateError := .start "app" (.other "start" "failed")

/-- The next step of `CreatePod` returns the error of `Start`. -/
def returning (s : Sys) : Bool :=
  createFailsClean s (.create .ok) && (step s (.create .ok)).any fun s' =>
    s'.returned = .created web.key (some startFailed) :: s.returned

end RollbackWitness

open RollbackWitness Sample in
/-- `Start` of a new micro-VM fails: the micro-VM and the address are gone when
`CreatePod` returns. -/
theorem failed_create_restores_start : ∃ s s' : Sys, step s (.create .ok) = some s' ∧
    s'.returned = .created web.key (some startFailed) :: s.returned ∧
    (∀ key ∈ Set.univ, s'.pods key = node.pods key ∧ s'.holds key = node.holds key) ∧
      ∀ id ∈ Set.univ, (s'.vms id).isSome = (node.vms id).isSome := by
  have hexec : ∃ s, Run step (fun s l => createFailsClean s l = true ∧
      LeavesAlone Set.univ Set.univ s l) { node with creating := some (CreateCall.begin web) }
      (startFails (.actual true) ++ List.replicate 2 (.create .ok)) s ∧ returning s = true :=
    exists_run_of_check movesClean (fun _ _ h => movesClean_alone h) (by decide)
  obtain ⟨s, hrun, hcheck⟩ := hexec
  rw [returning, Bool.and_eq_true, Option.any_eq_true] at hcheck
  obtain ⟨hclean, s', hstep, hreturned⟩ := hcheck
  have hreturned := of_decide_eq_true hreturned
  exact ⟨s, s', hstep, hreturned,
    failed_create_restores rfl (Set.mem_univ _) hrun hclean hstep hreturned⟩

end MacVz
