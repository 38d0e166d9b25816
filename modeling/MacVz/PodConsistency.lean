/-
Concurrent `CreatePod` and `DeletePod`.  `CreatePod` calls exclude each other, but
`DeletePod` does not take their lock: it drops the Pod first and then tears down what
the Pod has, key by key.  As long as no `CreatePod` begins to work on a key that is
still being torn down, every tracked Pod has its address, its micro-VM and its endpoint.
-/
import MacVz.CallFrame
import MacVz.FailedCreate
import MacVz.PodReachability
import MacVz.WorkloadReaping

namespace MacVz

open Interleaving

variable {c' : CreateCall} {st' : PodState}

/-- A call outside the provider succeeds, and `Status` tells what the runtime holds. -/
def Outcome.succeeds (o : Outcome) : Bool :=
  o.fault.isNone && match o.status with
    | .actual _ => true
    | .given _ => false

/-- The steps of `CreatePod` and `DeletePod`, every call succeeding. -/
def callSucceeds : Label → Bool
  | .createBegin _ | .deleteBegin _ => true
  | .create o | .delete _ o => o.succeeds
  | _ => false

/-- Pods of different keys have different workloads. -/
def OwnIDs (pods : Set Pod) : Prop :=
  ∀ pod ∈ pods, ∀ other ∈ pods, pod.key ≠ other.key → pod.ownID ≠ other.ownID

/-- A step of `CreatePod` or `DeletePod` on one of these Pods. -/
structure CallStep (pods : Set Pod) (l : Label) : Prop where
  succeeds : callSucceeds l = true
  begins : ∀ pod, l = .createBegin pod → pod ∈ pods

/-- `CreatePod` finds a key untracked only once no `DeletePod` works on it. -/
def recreatesAfter (s : Sys) : Label → Bool
  | .create _ => s.creating.all fun c =>
    c.pc ≠ .check || (s.pods c.pod.key).isSome || s.deletes.all fun d => d.key ≠ c.pod.key
  | _ => true

/-- The Pod holds its address, and its endpoint leads from there to its micro-VM. -/
structure Wired (s : Sys) (key : String) (st : PodState) : Prop where
  holds : s.holds key = some st.status.podIP
  endpoint : ∃ vm, s.vms st.pod.ownID = some vm ∧ s.net key = some ⟨st.status.podIP, vm.addr⟩

/-- What `CreatePod` has of all this so far. -/
structure Joining (s : Sys) (c : CreateCall) : Prop where
  reach : CreateReach s c
  holds : c.pc.addressed = true → s.holds c.pod.key = some c.podIP
  vm : c.pc.placed = true → (s.vms c.spec.name).isSome = true
  terminal : ∀ reason message, c.pc = .terminal reason message → c.podIP = ""

/-- The call is past its check and has not returned. -/
def CreatePC.begun : CreatePC → Bool
  | .check | .done => false
  | _ => true

/-- Over whole runs: what is tracked, attached, allocated and running is one account of the same
Pods, but for the calls under way. -/
structure Consistent (pods : Set Pod) (s : Sys) : Prop where
  podNet : s.podNet = true
  ipam : s.ipam.isSome = true
  keyed : Keyed s
  call : ∀ c, s.creating = some c → c.pod ∈ pods ∧ c.Placed ∧ c.Staged ∧ Joining s c
  alone : ∀ c, s.creating = some c → c.pc.begun = true →
    s.pods c.pod.key = none ∧ ∀ d ∈ s.deletes, d.key ≠ c.pod.key
  named : ∀ key st, s.pods key = some st →
    st.pod ∈ pods ∧ ∀ w ∈ st.workloads, w.id = st.pod.ownID
  wired : ∀ key st, s.pods key = some st →
    (∀ d ∈ s.deletes, d.key ≠ key) ∧ (st.terminalStatus = none → Wired s key st)
  teardown : ∀ d ∈ s.deletes,
    d.st.pod ∈ pods ∧ d.st.pod.key = d.key ∧ ∀ w ∈ d.toDestroy, w.id = d.st.pod.ownID

/-- The endpoint and the address of the key and the micro-VM under the ID are as they
were. -/
structure SameAround (key id : String) (s s' : Sys) : Prop where
  net : s'.net key = s.net key
  holds : s'.holds key = s.holds key
  vms : s'.vms id = s.vms id

section Around

variable {s s' : Sys} {key : String} {c : CreateCall} {st : PodState}

theorem Wired.frame (h : Wired s key st) (hsame : SameAround key st.pod.ownID s s') :
    Wired s' key st where
  holds := hsame.holds.trans h.holds
  endpoint := by
    rw [hsame.vms, hsame.net]
    exact h.endpoint

/-- A step that leaves the Pod's surroundings alone keeps the creation joining. -/
theorem Joining.frame (h : Joining s c) (hplaced : c.Placed)
    (hsame : SameAround c.pod.key c.pod.ownID s s') : Joining s' c := by
  have hvms (hpc : c.pc.translated = true) : s'.vms c.spec.name = s.vms c.spec.name := by
    rw [hplaced.ownID hpc]
    exact hsame.vms
  refine ⟨⟨h.reach.podIP, ?_, ?_⟩, ?_, ?_, h.terminal⟩
  · intro hpc vm hvm
    rw [hvms (by rcases hpc with hpc | hpc <;> rw [hpc] <;> rfl)] at hvm
    exact h.reach.vmIP hpc vm hvm
  · intro hpc
    exact hsame.net.trans (h.reach.net hpc)
  · intro hpc
    exact hsame.holds.trans (h.holds hpc)
  · intro hpc
    rw [hvms (by cases hplace : c.pc <;> simp [hplace, CreatePC.placed] at hpc <;> rfl)]
    exact h.vm hpc

end Around

section Create

variable {s : Sys} {c : CreateCall} {o : Outcome}

theorem Outcome.succeeds.fault (h : o.succeeds = true) : o.fault = none := by
  rw [Outcome.succeeds, Bool.and_eq_true] at h
  exact Option.isNone_iff_eq_none.mp h.1

theorem Outcome.succeeds.truthful (h : o.succeeds = true) : o.truthful = true := by
  rw [Outcome.succeeds, Bool.and_eq_true] at h
  unfold Outcome.truthful
  cases hstatus : o.status with
  | actual shown => rfl
  | given result =>
    rw [hstatus] at h
    cases h.2

theorem CreateMove.placed_cases (h : CreateMove s o c c') (hnext : c'.pc.placed = true) :
    c'.spec = c.spec ∧
      ((∃ rs, c.pc = .lookup ∧ s.vms.status c.spec.name o.status = .ok rs) ∨
        c.pc = .create ∧ createError c.spec o.fault = none ∨ c.pc.placed = true) := by
  cases h with
  | found rs _ hpc hok _ => exact ⟨rfl, Or.inl ⟨rs, hpc, hok⟩⟩
  | created hpc hok => exact ⟨rfl, Or.inr (Or.inl ⟨hpc, hok⟩)⟩
  | observed _ hpc _ | polled hpc _ | attached hpc _ =>
    exact ⟨rfl, Or.inr (Or.inr (by rw [hpc]; rfl))⟩
  | started _ hpc _ _ =>
    exact ⟨rfl, Or.inr (Or.inr (by rcases hpc with hpc | hpc <;> rw [hpc] <;> rfl))⟩
  | recorded _ _ pc _ hgo | rolledBackAll pc _ hgo | failedEarly _ pc _ hgo =>
    rcases hgo with rfl | rfl <;> cases hnext
  | failedLate e pc _ hgo => rcases hgo with rfl | rfl | rfl <;> cases hnext
  | _ => cases hnext

theorem Joining.step_vm (h : Joining s c) (ho : o.succeeds = true)
    (hnext : (createNext s c o).pc.placed = true) :
    ((createEffect s c o).vms (createNext s c o).spec.name).isSome = true := by
  obtain ⟨hspec, hcases⟩ := (createNext_move s c o).placed_cases hnext
  rw [hspec]
  rcases hcases with ⟨rs, hpc, hok⟩ | ⟨hpc, hok⟩ | hbefore
  · obtain ⟨vm, hvm, _⟩ := truthful_status (Outcome.succeeds.truthful ho) hok
    simp only [createEffect, hpc, hvm, Option.isSome_some]
  · have hvms : (createEffect s c o).vms =
        s.vms.call c.spec.name (createVM s.nextInst o.addr) none := by
      have hfault := Outcome.succeeds.fault ho
      unfold createError at hok
      split at hok
      · cases hok
      · rename_i hname
        split at hok
        · cases hok
        · rename_i himage
          simp only [createEffect, hpc, createCall, hfault]
          rw [if_neg (not_or.mpr ⟨hname, himage⟩)]
    rw [hvms, VMTable.call_self]
    rfl
  · rw [createEffect_vms, served_isSome]
    · exact h.vm hbefore
    · intro made hmade _
      -- a call with its workload starts it, or asks the runtime for nothing
      cases hpc : c.pc <;> simp [hpc, CreatePC.placed] at hbefore <;>
        simp only [CreateCall.request, hpc, Option.some.injEq, reduceCtorEq] at hmade <;>
        rw [← hmade] <;> rfl

theorem createNext_terminal (ho : o.succeeds = true) {reason message : String}
    (hnext : (createNext s c o).pc = .terminal reason message) : c.pc = .translate := by
  have hpull : c.pc ≠ .pull := by
    intro hpc
    simp only [createNext, hpc, Outcome.succeeds.fault ho] at hnext
    cases hnext
  have hmove := createNext_move s c o
  generalize createNext s c o = c' at hmove hnext
  cases hmove with
  | unsupported _ hpc => exact hpc
  | wrongArch _ hpc => exact absurd hpc hpull
  | found rs pc _ _ hgo => rcases hgo with ⟨rfl, _⟩ | ⟨rfl, _⟩ | ⟨rfl, _⟩ <;> cases hnext
  | started pc _ _ hgo => rcases hgo with ⟨rfl, _⟩ | ⟨rfl, _⟩ <;> cases hnext
  | recorded _ _ pc _ hgo | rolledBackAll pc _ hgo | failedEarly _ pc _ hgo =>
    rcases hgo with rfl | rfl <;> cases hnext
  | failedLate e pc _ hgo => rcases hgo with rfl | rfl | rfl <;> cases hnext
  | _ => cases hnext

/-- A successful step of the creation keeps it joining. -/
theorem Joining.step (h : Joining s c) (hplaced : c.Placed) (hstaged : c.Staged)
    (hpodNet : s.podNet = true) (hipam : s.ipam.isSome = true) (ho : o.succeeds = true) :
    Joining (createStep s c o) (createNext s c o) := by
  have hmove := createNext_move s c o
  constructor
  · refine hmove.reach h.reach hplaced hpodNet hipam (fun _ => Outcome.succeeds.truthful ho) ?_ ?_
    · intro hpc
      rw [createStep_vms]
      rcases hpc with hpc | hpc <;> simp only [createEffect, hpc]
    · intro hpc
      rw [createStep_net]
      simp only [createEffect, hpc]
  · intro hnext
    rw [hmove.pod_eq, holds_of_ipam (createStep_ipam s c o)]
    exact createEffect_holds hipam h.holds hnext
  · intro hnext
    rw [createStep_vms]
    exact h.step_vm ho hnext
  · intro reason message hnext
    have hpc := createNext_terminal ho hnext
    rw [(hmove.address_eq (by simp [hpc]) (by simp [hpc])).1]
    simp only [CreateCall.Staged, hpc] at hstaged
    exact hstaged.2

theorem Joining.idle (hpc : c.pc.begun = false) : Joining s c := by
  have hplace (pc : CreatePC) (hbegun : pc.begun = true) : c.pc ≠ pc := by
    rintro rfl
    rw [hpc] at hbegun
    cases hbegun
  have hlow : c.pc.addressed = false ∧ c.pc.placed = false := by
    cases hat : c.pc <;> simp [hat, CreatePC.begun] at hpc <;> exact ⟨rfl, rfl⟩
  refine ⟨.at ?_ (hplace .attach rfl) (hplace .commit rfl), ?_, ?_, ?_⟩
  · simp [hlow.1]
  · simp [hlow.1]
  · simp [hlow.2]
  · exact fun _ _ hterminal => absurd hterminal (hplace _ rfl)

/-- A call that works on its key after its step has just found it untracked, or has
worked on it and does not store it. -/
theorem Joining.begun_cases (h : Joining s c) (hnext : (createNext s c o).pc.begun = true) :
    c.pc = .check ∧ s.pods c.pod.key = none ∨ c.pc.begun = true ∧ c.pc.stores = false := by
  cases hpc : c.pc with
  | check =>
    refine Or.inl ⟨rfl, ?_⟩
    cases hst : s.pods c.pod.key with
    | none => rfl
    | some st => simp [createNext, hpc, hst, CreatePC.begun] at hnext
  | commit | done => simp [createNext, hpc, CreatePC.begun] at hnext
  | terminal reason message =>
    simp [createNext, hpc, CreateCall.leave, h.terminal reason message hpc, CreatePC.begun] at hnext
  | _ => exact Or.inr ⟨rfl, rfl⟩

end Create

section Others

variable {pods : Set Pod} {s s' : Sys} {l : Label}

/-- A runtime call acts on the micro-VM of the party's own Pod. -/
theorem Consistent.call_id (h : Consistent pods s) (hl : CallStep pods l) {call : RuntimeCall}
    (hcall : runtimeCall s l = some call) :
    ∃ pod ∈ pods, l.party s = some pod.key ∧ call.id = pod.ownID := by
  have hsucceeds := hl.succeeds
  cases l with
  | create o =>
    obtain ⟨c, hc, hrequest⟩ := Option.bind_eq_some_iff.mp hcall
    obtain ⟨hpod, hplaced, _⟩ := h.call c hc
    obtain ⟨hpc, hid⟩ := hplaced.request_id hrequest
    exact ⟨c.pod, hpod, by simp [Label.party, hc], hid.trans (hplaced.ownID hpc)⟩
  | delete place o =>
    obtain ⟨d, hd, hrequest⟩ := Option.bind_eq_some_iff.mp hcall
    obtain ⟨hpod, hkey, hids⟩ := h.teardown d (List.mem_of_getElem? hd)
    refine ⟨d.st.pod, hpod, by simp [Label.party, hd, hkey], ?_⟩
    cases hpc : d.pc with
    | stop remaining =>
      cases remaining with
      | nil => simp [DeleteCall.request, hpc] at hrequest
      | cons w rest =>
        simp only [DeleteCall.request, hpc, Option.some.injEq] at hrequest
        rw [← hrequest]
        exact hids w (by simp [DeleteCall.toDestroy, hpc])
    | destroy w rest =>
      simp only [DeleteCall.request, hpc, Option.some.injEq] at hrequest
      rw [← hrequest]
      exact hids w (by simp [DeleteCall.toDestroy, hpc])
    | detach | release => simp [DeleteCall.request, hpc] at hrequest
  | createBegin pod | deleteBegin pod => cases hcall
  | _ => cases hsucceeds

theorem Consistent.vms_other (h : Consistent pods s) (hids : OwnIDs pods) (hl : CallStep pods l)
    (hstep : step s l = some s') {pod : Pod} (hpod : pod ∈ pods)
    (hparty : l.party s ≠ some pod.key) : s'.vms pod.ownID = s.vms pod.ownID := by
  rw [step_runtime hstep]
  rcases served_cases s.vms (runtimeCall s l) pod.ownID with ⟨_, hsame⟩ | ⟨made, hmade, hid, _⟩
  · exact hsame
  · obtain ⟨other, hother, hkey, hmadeID⟩ := h.call_id hl hmade
    have hne : pod.key ≠ other.key := fun heq => hparty (hkey.trans (congrArg some heq.symm))
    exact absurd (hid.symm.trans hmadeID) (hids pod hpod other hother hne)

theorem Consistent.sameAround (h : Consistent pods s) (hids : OwnIDs pods) (hl : CallStep pods l)
    (hstep : step s l = some s') {pod : Pod} (hpod : pod ∈ pods)
    (hcreate : ∀ c o, l = .create o → s.creating = some c → c.pod.key = pod.key →
      c.pc.begun = false)
    (hdelete : ∀ place o d, l = .delete place o → s.deletes[place]? = some d → d.key ≠ pod.key) :
    SameAround pod.key pod.ownID s s' := by
  by_cases hparty : l.party s = some pod.key
  · have hsucceeds := hl.succeeds
    cases step_cases hstep with
    | create c o hc =>
      have hidle := hcreate c o rfl hc (by simpa [Label.party, hc] using hparty)
      have heffect : (createEffect s c o).net = s.net ∧ (createEffect s c o).ipam = s.ipam ∧
          (createEffect s c o).vms = s.vms := by
        cases hpc : c.pc <;> simp [hpc, CreatePC.begun] at hidle <;> simp [createEffect, hpc]
      exact ⟨congrFun ((createStep_net s c o).trans heffect.1) _,
        holds_of_ipam ((createStep_ipam s c o).trans heffect.2.1) _,
        congrFun ((createStep_vms s c o).trans heffect.2.2) _⟩
    | delete place o d hd =>
      exact absurd (by simpa [Label.party, hd] using hparty) (hdelete place o d rfl hd)
    | createBegin | notFound | deleteBegin => exact ⟨rfl, rfl, rfl⟩
    | _ => cases hsucceeds
  · exact ⟨step_net_other hparty hstep, step_holds_other hparty hstep,
      h.vms_other hids hl hstep hpod hparty⟩

/-- The creation under way after a step is of one of the Pods and in order. -/
theorem Consistent.step_call (h : Consistent pods s) (hids : OwnIDs pods) (hl : CallStep pods l)
    (hstep : step s l = some s') (hc' : s'.creating = some c') :
    c'.pod ∈ pods ∧ c'.Placed ∧ c'.Staged ∧ Joining s' c' := by
  rcases step_creating hstep hc' with ⟨hc, hother⟩ | ⟨pod, hbegin, rfl⟩ | ⟨c, o, rfl, hc, rfl⟩
  · obtain ⟨hpod, hplaced, hstaged, hjoining⟩ := h.call c' hc
    refine ⟨hpod, hplaced, hstaged, ?_⟩
    by_cases hbegun : c'.pc.begun = true
    · refine hjoining.frame hplaced (h.sameAround hids hl hstep hpod ?_ ?_)
      · exact fun _ o hcreate => absurd hcreate (hother o)
      · exact fun _ _ d _ hd => (h.alone c' hc hbegun).2 d (List.mem_of_getElem? hd)
    · rw [Bool.not_eq_true] at hbegun
      exact .idle hbegun
  · exact ⟨hl.begins pod hbegin, begin_placed pod, begin_staged pod, .idle rfl⟩
  · obtain ⟨hpod, hplaced, hstaged, hjoining⟩ := h.call c hc
    have hmove := createNext_move s c o
    obtain rfl := create_step hstep hc
    refine ⟨?_, hmove.placed hplaced, createNext_staged s o hstaged, ?_⟩
    · rw [hmove.pod_eq]
      exact hpod
    · exact hjoining.step hplaced hstaged h.podNet h.ipam hl.succeeds

/-- A begun creation's Pod is neither tracked nor being torn down. -/
theorem Consistent.step_alone (h : Consistent pods s) (hlate : recreatesAfter s l = true)
    (hstep : step s l = some s') (hc' : s'.creating = some c') (hbegun : c'.pc.begun = true) :
    s'.pods c'.pod.key = none ∧ ∀ d ∈ s'.deletes, d.key ≠ c'.pod.key := by
  rcases step_creating hstep hc' with ⟨hc, hother⟩ | ⟨pod, _, rfl⟩ | ⟨c, o, rfl, hc, rfl⟩
  · obtain ⟨hnone, halone⟩ := h.alone c' hc hbegun
    refine ⟨?_, fun d' hd' => ?_⟩
    · cases hst : s'.pods c'.pod.key with
      | none => rfl
      | some st =>
        obtain ⟨_, o, hcreate, _⟩ := step_born hstep hnone hst
        exact absurd hcreate (hother o)
    · rcases step_deletion hstep hd' with ⟨d, hd, hkey, _⟩ | ⟨pod, st, _, hst, rfl⟩
      · rw [hkey]
        exact halone d hd
      · -- a deletion begins on a tracked Pod
        intro hkey
        rw [← hkey] at hnone
        cases hnone.symm.trans hst
  · cases hbegun
  · obtain ⟨_, _, _, hjoining⟩ := h.call c hc
    obtain rfl := create_step hstep hc
    rw [(createNext_move s c o).pod_eq, createStep_deletes, createEffect_deletes, createStep_pods]
    rcases hjoining.begun_cases hbegun with ⟨hpc, hnone⟩ | ⟨hbefore, hstores⟩
    · rw [createEffect_pods s o (by rw [hpc]; rfl)]
      simpa [recreatesAfter, hc, hpc, hnone] using hlate
    · rw [createEffect_pods s o hstores]
      exact h.alone c hc hbefore

theorem CallStep.state_cases (hl : CallStep pods l) (hstep : step s l = some s') {key : String}
    (hst' : s'.pods key = some st') :
    s.pods key = some st' ∨ ∃ c o, l = .create o ∧ s.creating = some c ∧ c.pod.key = key ∧
      (c.pc = .commit ∧ st' = (c.committed s o).1 ∨
        ∃ reason message, c.pc = .terminal reason message ∧
          st' = c.terminalState reason message o.now) := by
  rcases step_stored hstep hst' with hsame | ⟨e, hnotices, happly⟩
  · exact Or.inl hsame
  · have hsucceeds := hl.succeeds
    cases hnotices with
    | commit c o hc hkey hpc =>
      exact Or.inr ⟨c, o, rfl, hc, hkey, Or.inl ⟨hpc, (Option.some.inj happly).symm⟩⟩
    | refuse c o reason message hc hkey hpc =>
      exact Or.inr ⟨c, o, rfl, hc, hkey,
        Or.inr ⟨reason, message, hpc, (Option.some.inj happly).symm⟩⟩
    | delete pod _ => cases happly
    | _ => cases hsucceeds

/-- A tracked Pod's workloads bear its own name after a step. -/
theorem Consistent.step_named (h : Consistent pods s) (hl : CallStep pods l)
    (hstep : step s l = some s') {key : String} (hst' : s'.pods key = some st') :
    st'.pod ∈ pods ∧ ∀ w ∈ st'.workloads, w.id = st'.pod.ownID := by
  rcases hl.state_cases hstep hst' with
    hst | ⟨c, o, _, hc, _, ⟨hpc, rfl⟩ | ⟨reason, message, hpc, rfl⟩⟩
  · exact h.named key st' hst
  · obtain ⟨hpod, hplaced, _⟩ := h.call c hc
    have hcore := committed_sameCore s c o
    rw [hcore.pod, hcore.workloads]
    refine ⟨hpod, fun w hw => ?_⟩
    have hworkloads : c.workloads = _ := hplaced.placed (by rw [hpc]; rfl)
    rw [show c.state.workloads = c.workloads from rfl, hworkloads, List.mem_singleton] at hw
    rw [hw]
    exact hplaced.ownID (by rw [hpc]; rfl)
  · exact ⟨(h.call c hc).1, fun _ h => by cases h⟩

/-- A creation that commits leaves its Pod wired. -/
theorem Joining.wired {c : CreateCall} {o : Outcome} (h : Joining s c) (hplaced : c.Placed)
    (hpc : c.pc = .commit) (hlive : (c.committed s o).1.terminalStatus = none) :
    Wired s c.pod.key (c.committed s o).1 := by
  have hpod : (c.committed s o).1.pod = c.pod := (committed_sameCore s c o).pod
  obtain ⟨vm, hvm⟩ := Option.isSome_iff_exists.mp (h.vm (by rw [hpc]; rfl))
  constructor
  · rw [h.reach.committed_podIP hpc hlive]
    exact h.holds (by rw [hpc]; rfl)
  · refine ⟨vm, ?_, ?_⟩
    · rw [hpod, ← hplaced.ownID (by rw [hpc]; rfl)]
      exact hvm
    · rw [h.reach.committed_podIP hpc hlive, h.reach.vmIP (Or.inr hpc) vm hvm]
      exact h.reach.net hpc

/-- A tracked Pod that has not ended is wired after a step. -/
theorem Consistent.step_wired (h : Consistent pods s) (hids : OwnIDs pods) (hl : CallStep pods l)
    (hstep : step s l = some s') {key : String} (hst' : s'.pods key = some st') :
    (∀ d ∈ s'.deletes, d.key ≠ key) ∧ (st'.terminalStatus = none → Wired s' key st') := by
  rcases hl.state_cases hstep hst' with hst | ⟨c, o, rfl, hc, rfl, hstored⟩
  · obtain ⟨halone, hwired⟩ := h.wired key st' hst
    have hown : st'.pod.key = key := h.keyed key st' hst
    refine ⟨fun d' hd' => ?_, fun hlive => (hwired hlive).frame ?_⟩
    · rcases step_deletion hstep hd' with ⟨d, hd, hkey, _⟩ | ⟨pod, st, rfl, _, rfl⟩
      · rw [hkey]
        exact halone d hd
      · rintro rfl
        cases (deleteBegin_untracked hstep).symm.trans hst'
    · subst hown
      refine h.sameAround hids hl hstep (h.named _ st' hst).1 ?_ ?_
      · intro c o _ hc hkey
        rw [Bool.eq_false_iff]
        intro hbegun
        rw [← hkey, (h.alone c hc hbegun).1] at hst
        cases hst
      · exact fun _ _ d _ hd => halone d (List.mem_of_getElem? hd)
  · obtain ⟨_, hplaced, _, hjoining⟩ := h.call c hc
    obtain rfl := create_step hstep hc
    rw [createStep_deletes, createEffect_deletes]
    rcases hstored with ⟨hpc, rfl⟩ | ⟨reason, message, hpc, rfl⟩
    · refine ⟨(h.alone c hc (by rw [hpc]; rfl)).2, fun hlive => ?_⟩
      refine (hjoining.wired hplaced hpc hlive).frame ⟨congrFun ((createStep_net s c o).trans ?_) _,
        holds_of_ipam ((createStep_ipam s c o).trans ?_) _,
        congrFun ((createStep_vms s c o).trans ?_) _⟩
      · exact createEffect_net s o (by simp [hpc])
      · exact createEffect_ipam s o (by simp [hpc]) (by simp [hpc])
      · simp only [createEffect, hpc]
        rfl
    · exact ⟨(h.alone c hc (by rw [hpc]; rfl)).2, fun h => by cases h⟩

theorem deleteNext_toDestroy_mem {d d' : DeleteCall} (h : deleteNext d = some d') {w : Workload}
    (hw : w ∈ d'.toDestroy) : w ∈ d.toDestroy := by
  cases hpc : d.pc with
  | stop remaining =>
    cases remaining with
    | nil => simp [deleteNext, hpc] at h
    | cons first rest =>
      simp only [deleteNext, hpc, Option.some.injEq] at h
      subst h
      simpa [DeleteCall.toDestroy, hpc] using hw
  | destroy first rest =>
    simp only [deleteNext, hpc, Option.some.injEq] at h
    subst h
    simp only [DeleteCall.toDestroy, hpc]
    exact List.mem_cons_of_mem first hw
  | detach | release =>
    simp only [deleteNext, hpc, Option.some.injEq] at h
    subst h
    simpa [DeleteCall.toDestroy, hpc] using hw

/-- A teardown after a step is of one of the Pods and destroys its workloads only. -/
theorem Consistent.step_teardown (h : Consistent pods s) (hstep : step s l = some s')
    {d' : DeleteCall} (hd' : d' ∈ s'.deletes) : d'.st.pod ∈ pods ∧ d'.st.pod.key = d'.key ∧
      ∀ w ∈ d'.toDestroy, w.id = d'.st.pod.ownID := by
  rcases step_deletes hstep with hsame | ⟨pod, st, _, hst, hnew⟩ | ⟨place, o, d, _, hd, hnext⟩
  · exact h.teardown d' (hsame ▸ hd')
  · rw [hnew, List.mem_append, List.mem_singleton] at hd'
    rcases hd' with hold | rfl
    · exact h.teardown d' hold
    · obtain ⟨hpod, hworkloads⟩ := h.named pod.key st hst
      exact ⟨hpod, h.keyed pod.key st hst, hworkloads⟩
  · rw [hnext] at hd'
    rcases mem_advance hd' with hold | hmoved
    · exact h.teardown d' hold
    · obtain ⟨hpod, hkey, hworkloads⟩ := h.teardown d (List.mem_of_getElem? hd)
      rw [deleteNext_key hmoved, deleteNext_st hmoved]
      exact ⟨hpod, hkey, fun w hw => hworkloads w (deleteNext_toDestroy_mem hmoved hw)⟩

theorem step_consistent (h : Consistent pods s) (hids : OwnIDs pods) (hl : CallStep pods l)
    (hlate : recreatesAfter s l = true) (hstep : step s l = some s') : Consistent pods s' where
  podNet := (step_config hstep).1.trans h.podNet
  ipam := (step_config hstep).2.trans h.ipam
  keyed := step_keyed h.keyed hstep
  call := fun _ => h.step_call hids hl hstep
  alone := fun _ => h.step_alone hlate hstep
  named := fun _ _ => h.step_named hl hstep
  wired := fun _ _ => h.step_wired hids hl hstep
  teardown := fun _ => h.step_teardown hstep

end Others

/-- A started provider is consistent. -/
theorem fresh_consistent (pods : Set Pod) (hostIP : String) (base : Int) (ipam : PodIPAM)
    (vms : VMTable) (nextInst : Nat) :
    Consistent pods (Sys.fresh true hostIP base (some ipam) vms nextInst) where
  podNet := rfl
  ipam := rfl
  keyed := fun _ _ h => by cases h
  call := fun _ h => by cases h
  alone := fun _ h => by cases h
  named := fun _ _ h => by cases h
  wired := fun _ _ h => by cases h
  teardown := fun _ h => by cases h

theorem Wired.key_unique {s : Sys} {key other : String} {st : PodState} (h : Wired s key st)
    (h' : Wired s other st') (hshared : st.status.podIP = st'.status.podIP) : key = other := by
  have hleft := h.holds
  have hright := h'.holds
  rw [hshared] at hleft
  cases hipam : s.ipam with
  | none => simp [Sys.holds, hipam] at hleft
  | some a =>
    simp only [Sys.holds, hipam, Option.bind_some] at hleft hright
    exact a.holder_unique hleft hright

/-- Over every interleaving of `CreatePod` and `DeletePod` calls in which a Pod is created
again only once no `DeletePod` works on its key, and in every state, whether calls are in
flight or not: every tracked Pod that has not failed for good holds its address under its
own key and has an endpoint that leads from this address to the micro-VM under its
workload ID, and no two such Pods share an address. -/
theorem tracked_pods_wired {pods : Set Pod} (hids : OwnIDs pods) {hostIP : String} {base : Int}
    {ipam : PodIPAM} {vms : VMTable} {nextInst : Nat} {ls : List Label} {s : Sys}
    (hrun : Run step (fun s l => CallStep pods l ∧ recreatesAfter s l = true)
      (Sys.fresh true hostIP base (some ipam) vms nextInst) ls s) :
    (∀ key st, s.pods key = some st → st.terminalStatus = none → Wired s key st) ∧
      ∀ key other st st', s.pods key = some st → s.pods other = some st' →
        st.terminalStatus = none → st'.terminalStatus = none →
        st.status.podIP = st'.status.podIP → key = other := by
  have h : Consistent pods s := by
    apply hrun.invariant (I := Consistent pods)
    · exact fresh_consistent pods hostIP base ipam vms nextInst
    · intro s s' l h hl hstep
      exact step_consistent h hids hl.1 hl.2 hstep
  have hwired (key : String) (st : PodState) (hst : s.pods key = some st)
      (hlive : st.terminalStatus = none) : Wired s key st := (h.wired key st hst).2 hlive
  refine ⟨hwired, fun key other st st' hst hst' hlive hlive' hshared => ?_⟩
  exact (hwired key st hst hlive).key_unique (hwired other st' hst' hlive') hshared

namespace ConsistencyWitness

open Sample

def api : Pod := { web with name := "api" }

def apiAndWeb : Set Pod := { pod | pod ∈ [api, web] }

theorem apiAndWeb_ids : OwnIDs apiAndWeb := by
  have hlist : ∀ pod ∈ [api, web], ∀ other ∈ [api, web], pod.key ≠ other.key →
      pod.ownID ≠ other.ownID := by decide
  exact hlist

def callOnTwo : Label → Bool
  | .createBegin pod => pod ∈ [api, web]
  | l => callSucceeds l

theorem callOnTwo_step {l : Label} (h : callOnTwo l = true) : CallStep apiAndWeb l := by
  constructor
  · cases l with
    | createBegin pod => rfl
    | _ => exact h
  · rintro pod rfl
    have hmem : pod ∈ [api, web] := of_decide_eq_true h
    exact hmem

def createdMeanwhile : List Label :=
  createPod web "192.168.64.5" ++ .deleteBegin web :: .createBegin api ::
    (List.replicate 6 (.create (okAt "192.168.64.6")) ++ List.replicate 3 (.delete 0 .ok) ++
      List.replicate 8 (.create (okAt "192.168.64.6")) ++ List.replicate 2 (.delete 0 .ok))

/-- The Pod is created again while it is deleted: `CreatePod` has asked for its address
before `DeletePod` releases it, and finds the micro-VM before `DeletePod` destroys it. -/
def recreatedMeanwhile : List Label :=
  createPod web "192.168.64.5" ++ .deleteBegin web :: .createBegin web ::
    (List.replicate 6 (.create .ok) ++ List.replicate 2 (.delete 0 .ok) ++
      List.replicate 4 (.create .ok) ++ List.replicate 3 (.delete 0 .ok))

def settled (key : String) (s : Sys) : Bool :=
  s.creating.isNone && s.deletes.isEmpty && (s.pods key).any fun st => st.terminalStatus.isNone

theorem settled_spec {key : String} {s : Sys} (h : settled key s = true) :
    s.creating = none ∧ s.deletes = [] ∧
      ∃ st, s.pods key = some st ∧ st.terminalStatus = none := by
  simp only [settled, Bool.and_eq_true, Option.isNone_iff_eq_none, List.isEmpty_iff,
    Option.any_eq_true] at h
  obtain ⟨⟨hcreating, hdeletes⟩, st, hst, hlive⟩ := h
  exact ⟨hcreating, hdeletes, st, hst, hlive⟩

end ConsistencyWitness

open ConsistencyWitness Sample in
/-- A Pod created while another one is deleted is wired. -/
theorem tracked_pods_wired_meanwhile : ∃ (s : Sys) (st : PodState),
    Run step (fun s l => CallStep apiAndWeb l ∧ recreatesAfter s l = true) node
      createdMeanwhile s ∧
    s.pods "default/api" = some st ∧ st.terminalStatus = none ∧ Wired s "default/api" st := by
  have hexec : ∃ s, Run step (fun s l => CallStep apiAndWeb l ∧ recreatesAfter s l = true) node
      createdMeanwhile s ∧ settled "default/api" s = true := by
    refine exists_run_of_check (fun s l => callOnTwo l && recreatesAfter s l) ?_ (by decide +kernel)
    intro s l h
    rw [Bool.and_eq_true] at h
    exact ⟨callOnTwo_step h.1, h.2⟩
  obtain ⟨s, hrun, hcheck⟩ := hexec
  obtain ⟨_, _, st, hst, hlive⟩ := settled_spec hcheck
  exact ⟨s, st, hrun, hst, hlive, (tracked_pods_wired apiAndWeb_ids hrun).1 _ st hst hlive⟩

open ConsistencyWitness Sample in
/-- A Pod that is created again while it is deleted is tracked in the end, while its
address is released and its micro-VM destroyed. -/
theorem recreated_pod_loses_address_and_vm :
    ¬ ∀ (pods : Set Pod), OwnIDs pods → ∀ (hostIP : String) (base : Int) (ipam : PodIPAM)
      (vms : VMTable) (nextInst : Nat) (ls : List Label) (s : Sys),
      Run step (fun _ l => CallStep pods l)
        (Sys.fresh true hostIP base (some ipam) vms nextInst) ls s →
      s.creating = none → s.deletes = [] →
      ∀ key st, s.pods key = some st → st.terminalStatus = none → Wired s key st := by
  intro hall
  have hexec : ∃ s, Run step (fun _ l => CallStep apiAndWeb l) node recreatedMeanwhile s ∧
      (settled "default/web" s && (s.holds "default/web").isNone &&
        (s.vms web.ownID).isNone) = true :=
    exists_run_of_check (fun _ => callOnTwo) (fun _ _ => callOnTwo_step) (by decide)
  obtain ⟨s, hrun, hcheck⟩ := hexec
  simp only [Bool.and_eq_true, Option.isNone_iff_eq_none] at hcheck
  obtain ⟨⟨hsettled, hholds⟩, _⟩ := hcheck
  obtain ⟨hcreating, hdeletes, st, hst, hlive⟩ := settled_spec hsettled
  have hwired := hall apiAndWeb apiAndWeb_ids _ _ _ _ _ _ s hrun hcreating hdeletes _ st hst hlive
  rw [hwired.holds] at hholds
  cases hholds

/-- Over every run from any state in which no call, restart, prober or read is about a key, its Pod
is stored as it was, with the same endpoint on the network path and the same address. -/
theorem other_pods_leave_key {key : String} {start s : Sys} {ls : List Label}
    (hrun : Run step (fun s l => l.party s ≠ some key) start ls s) :
    s.pods key = start.pods key ∧ s.net key = start.net key ∧ s.holds key = start.holds key := by
  refine hrun.invariant (I := fun s => s.pods key = start.pods key ∧ s.net key = start.net key ∧
    s.holds key = start.holds key) ⟨rfl, rfl, rfl⟩ fun h hother hstep => ?_
  exact ⟨(step_pods_other hother hstep).trans h.1, (step_net_other hother hstep).trans h.2.1,
    (step_holds_other hother hstep).trans h.2.2⟩

open ConsistencyWitness Sample in
theorem other_pods_leave_web : ∃ start s : Sys, (start.pods "default/web").isSome = true ∧
    (s.pods "default/api").isSome = true ∧ s.pods "default/web" = start.pods "default/web" := by
  let start := (exec step node (createPod web "192.168.64.5")).getD node
  have hexec : ∃ s, Run step (fun s l => l.party s ≠ some "default/web") start
      (createPod api "192.168.64.6") s ∧ (s.pods "default/api").isSome = true :=
    exists_run_of_check (fun s l => l.party s ≠ some "default/web") (fun _ _ => of_decide_eq_true)
      (by decide +kernel)
  obtain ⟨s, hrun, hapi⟩ := hexec
  exact ⟨start, s, by decide +kernel, hapi, (other_pods_leave_key hrun).1⟩

/-- Through one key, every run of the provider is a run of one Pod over its own events, which ends
in the state that is stored and reports the statuses that are reported. -/
theorem run_refines_pod (key : String) {start s : Sys} {ls : List Label}
    (hrun : Run step (fun _ _ => True) start ls s) :
    Run podStep (fun _ _ => True) (start.pods key) (observed step (podEvent key) start ls)
        (s.pods key) ∧
      observed step (reportedStatus key) start ls =
        observed podStep PodEvent.reported (start.pods key)
          (observed step (podEvent key) start ls) :=
  run_events key (fun _ _ => True) (fun _ _ _ _ => trivial) hrun

open ConsistencyWitness Sample in
theorem run_refines_api : ∃ s : Sys, settled "default/api" s = true ∧
    Run podStep (fun _ _ => True) none
      (observed step (podEvent "default/api") node createdMeanwhile) (s.pods "default/api") := by
  have hexec : ∃ s, Run step (fun _ _ => True) node createdMeanwhile s ∧
      settled "default/api" s = true :=
    exists_run_of_check (fun _ _ => true) (fun _ _ _ => trivial) (by decide +kernel)
  obtain ⟨s, hrun, hsettled⟩ := hexec
  exact ⟨s, hsettled, (run_refines_pod "default/api" hrun).1⟩

end MacVz
