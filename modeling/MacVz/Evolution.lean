/-
What one step can do to a key that is not deleted: to its entry in the store, to
its restart, to its endpoint and to the call that creates it.
-/
import MacVz.Binding
import MacVz.Instances

namespace MacVz

open Interleaving

section Evolution

variable {s : Sys} {key : String} {t : RestartTask} {st : PodState} {s' : Sys} {l : Label}
  {o : Outcome} {t' : RestartTask} {vm' : VM} {p : Prober} {base : Int} {ok : Bool} {u : Update}
  {st' : PodState} {id : String}

/-- Two states of a Pod that is not terminal, with the same reported status. -/
def SameStatus (st st' : PodState) : Prop :=
  st'.terminalStatus = none → st.terminalStatus = none ∧ st'.status = st.status

theorem committed_sameStatus (s : Sys) (c : CreateCall) (o : Outcome) :
    SameStatus (s.read c.state o).1 (c.committed s o).1 := by
  rw [committed_eq]
  exact fun hlive => ⟨hlive, rfl⟩

theorem finished_sameStatus (t : RestartTask) (s : Sys) (st : PodState) :
    SameStatus st (t.finished s st).1 := by
  rw [finished_eq]
  split <;> exact fun hlive => ⟨hlive, rfl⟩

theorem snapshotUpdate_sameStatus (st : PodState) : SameStatus st (snapshotUpdate st).st := by
  rw [snapshotUpdate_eq]
  exact fun hlive => ⟨hlive, rfl⟩

theorem Acts.sameStatus (h : Acts p base ok st u) : SameStatus st u.st := by
  cases h with
  | fail => exact fun hlive => by cases hlive
  | _ => exact fun hlive => ⟨hlive, rfl⟩

/-- The status of a Pod that has not ended changes by a status read only. -/
theorem Evolves.status_cases (h : Evolves key s st l st') (hlive : st'.terminalStatus = none) :
    st.terminalStatus = none ∧
      (st'.status = st.status ∨ ∃ o, l = .status key o ∧ st' = (s.read st o).1) := by
  have hsame : SameStatus st st' → st.terminalStatus = none ∧
      (st'.status = st.status ∨ ∃ o, l = .status key o ∧ st' = (s.read st o).1) :=
    fun hstatus => ⟨(hstatus hlive).1, Or.inl (hstatus hlive).2⟩
  cases h with
  | same => exact hsame fun h => ⟨h, rfl⟩
  | read o =>
    rw [read_terminal] at hlive
    exact ⟨hlive, Or.inr ⟨o, rfl, rfl⟩⟩
  | snapshot place o t _ _ _ => exact hsame (snapshotUpdate_sameStatus st)
  | finish place o t _ _ _ => exact hsame (finished_sameStatus t s st)
  | unsupported place o p _ _ _ _ _ => exact hsame fun h => ⟨h, rfl⟩
  | act place o p ok _ _ _ => exact hsame (actUpdate_acts _ _ _ st).sameStatus

/-- No recorded end of the Pod is reported as ready. -/
def Unready (key : String) (s : Sys) : Prop :=
  ∀ st status, s.pods key = some st → st.terminalStatus = some status → status.isReady = false

theorem committed_terminal (s : Sys) (c : CreateCall) (o : Outcome) :
    (c.committed s o).1.terminalStatus = none := by
  rw [committed_eq, read_eq]
  rfl

theorem finished_terminal (t : RestartTask) (s : Sys) (st : PodState) :
    (t.finished s st).1.terminalStatus = st.terminalStatus := by
  rw [finished_eq]
  split <;> rfl

theorem snapshotUpdate_terminal (st : PodState) :
    (snapshotUpdate st).st.terminalStatus = st.terminalStatus := by
  rw [snapshotUpdate_eq]

theorem Acts.terminal (h : Acts p base ok st u) : u.st.terminalStatus = st.terminalStatus ∨
      ∃ id, u.st.terminalStatus = some (probeFailureStatus st id) := by
  cases h with
  | fail => exact Or.inr ⟨_, rfl⟩
  | _ => exact Or.inl rfl

theorem Evolves.terminal_cases (h : Evolves key s st l st') :
    st'.terminalStatus = st.terminalStatus ∨
      ∃ id, st'.terminalStatus = some (probeFailureStatus st id) := by
  cases h with
  | same => exact Or.inl rfl
  | read o => exact Or.inl (read_terminal s st o)
  | snapshot place o t _ _ _ => exact Or.inl (snapshotUpdate_terminal st)
  | finish place o t _ _ _ => exact Or.inl (finished_terminal t s st)
  | unsupported place o p _ _ _ _ _ => exact Or.inl rfl
  | act place o p ok _ _ _ => exact (actUpdate_acts _ _ _ st).terminal

/-- A step leaves no ended Pod with a ready status. -/
theorem step_unready (hbound : Bound key s) (h : Unready key s) (hstep : step s l = some s') :
    Unready key s' := by
  intro st' status hst' hterminal
  cases hst : s.pods key with
  | some st =>
    have hevolves := step_evolves_to hbound hstep hst hst'
    rcases hevolves.terminal_cases with hsame | ⟨id, hfailed⟩
    · exact h st status hst (hsame.symm.trans hterminal)
    · obtain rfl := Option.some.inj (hfailed.symm.trans hterminal)
      rfl
  | none =>
    obtain ⟨c, o, _, _, _, ⟨_, rfl⟩ | ⟨_, _, _, rfl⟩⟩ := step_born hstep hst hst'
    · rw [committed_terminal] at hterminal
      cases hterminal
    · obtain rfl := Option.some.inj hterminal
      rfl

theorem Unready.live (h : Unready key s) (hst : s.pods key = some st)
    (hready : (s.read st o).1.status.isReady = true) : st.terminalStatus = none := by
  cases hterminal : st.terminalStatus with
  | none => rfl
  | some status =>
    have hstatus : (s.read st o).1.status = status := by
      change (reconcileStatus _ _ _ st).1 = status
      unfold reconcileStatus
      rw [hterminal]
    rw [hstatus, h st status hst hterminal] at hready
    cases hready

/-- The step is one of this restart task. -/
def Moves (s : Sys) (l : Label) (t : RestartTask) (o : Outcome) : Prop :=
  ∃ place, l = .restart place o ∧ s.restarts[place]? = some t

theorem Moves.eq {o' : Outcome} {place : Nat} (h : Moves s (.restart place o') t o)
    (ht' : s.restarts[place]? = some t') : t = t' ∧ o = o' := by
  obtain ⟨place', heq, ht⟩ := h
  cases heq
  exact ⟨Option.some.inj (ht.symm.trans ht'), rfl⟩

/-- A restart of the key after a step: one that did not move, one just launched,
or one that has moved. -/
inductive RestartFrom (key : String) (s : Sys) (l : Label) (t' : RestartTask) : Prop
  | stayed : t' ∈ s.restarts → (∀ t o, Moves s l t o → t.key ≠ key) → RestartFrom key s l t'
  | launched (inc : Nat) (launch : Launch) : t' = RestartTask.begin key inc launch →
      RestartFrom key s l t'
  | moved (t : RestartTask) (o : Outcome) : Moves s l t o → t.key = key →
      restartNext s t o = some t' → RestartFrom key s l t'

/-- Where a restart task of a bound Pod comes from. -/
theorem step_restarts (h : Bound key s) (hstep : step s l = some s') (ht' : t' ∈ s'.restarts)
    (hkey : t'.key = key) : RestartFrom key s l t' := by
  rcases step_restart_origin hstep ht' with ⟨hold, helse⟩ | ⟨place, o, t, rfl, ht, hnext⟩ |
    ⟨st', launch, _, _, heq⟩
  · refine .stayed hold fun t o hmoves htkey => ?_
    -- the restart that moved would be a second one of the key
    obtain ⟨place, rfl, ht⟩ := hmoves
    obtain ⟨i, hi, hne⟩ := helse place o rfl
    exact hne (h.unique i place t' t hi ht hkey htkey)
  · have hmove := restartNext_move s t o
    rw [hnext] at hmove
    exact .moved t o ⟨place, rfl, ht⟩ (hmove.key_eq.symm.trans hkey) hnext
  · rw [hkey] at heq
    exact .launched st'.inc launch heq

theorem step_restarts_stay (hstep : step s l = some s') (ht : t ∈ s.restarts) :
    t ∈ s'.restarts ∨ ∃ o, Moves s l t o := by
  rcases (step_tasks hstep).stays ht with hstays | ⟨place, o, hl, hplace⟩
  · exact Or.inl hstays
  · exact Or.inr ⟨o, place, hl, hplace⟩

theorem RestartMove.not_waiting (h : RestartMove s o t (some t')) : t'.pc ≠ .waiting := by
  cases h with
  | started pc _ _ hgo => rcases hgo with ⟨rfl, _⟩ | ⟨rfl, _⟩ <;> exact fun h => by cases h
  | _ => exact fun h => by cases h

def Undeleted (key : String) (s : Sys) : Prop := ∀ d ∈ s.deletes, d.key ≠ key

theorem step_undeleted (h : Undeleted key s) (hkeep : keepsKey key l = true)
    (hstep : step s l = some s') : Undeleted key s' := by
  intro d' hd' hown
  rcases step_deletion hstep hd' with ⟨d, hd, hkey, _⟩ | ⟨pod, st, rfl, _, rfl⟩
  · exact h d hd (hkey.symm.trans hown)
  · rw [keepsKey, decide_eq_true_eq] at hkeep
    exact hkeep hown

/-- What can change the endpoint of a key that is not deleted: `Attach` at its
creation, `Detach` and `Attach` of its restart. -/
inductive NetFrom (key : String) (s s' : Sys) (l : Label) : Prop
  | same : s'.net key = s.net key → NetFrom key s s' l
  | attach (c : CreateCall) (o : Outcome) : l = .create o → s.creating = some c →
      c.pod.key = key → c.pc = .attach →
      s'.net = netCall s.net key (some ⟨c.podIP, c.vmIP⟩) o.fault → NetFrom key s s' l
  | detach (t : RestartTask) (o : Outcome) : Moves s l t o → t.key = key → t.pc = .detach →
      NetFrom key s s' l
  | reattach (t : RestartTask) (o : Outcome) : Moves s l t o → t.key = key → t.pc = .attach →
      s'.net = netCall s.net key (some ⟨t.podIP, t.vmIP⟩) o.fault → NetFrom key s s' l

/-- Where a Pod's endpoint after a step comes from. -/
theorem step_net (h : Undeleted key s) (hstep : step s l = some s') : NetFrom key s s' l := by
  by_cases hparty : l.party s = some key
  · cases step_cases hstep with
    | create c o hc =>
      have hkey : c.pod.key = key := by simpa [Label.party, hc] using hparty
      by_cases hpc : c.pc = .attach
      · refine .attach c o rfl hc hkey hpc ?_
        rw [createStep_net, ← hkey]
        simp only [createEffect, hpc]
      · refine .same ?_
        rw [createStep_net, createEffect_net s o hpc]
    | delete place o d hd =>
      have hkey : d.key = key := by simpa [Label.party, hd] using hparty
      exact absurd hkey (h d (List.mem_of_getElem? hd))
    | restart place o t ht =>
      have hkey : t.key = key := by simpa [Label.party, ht] using hparty
      by_cases hdetach : t.pc = .detach
      · exact .detach t o ⟨place, rfl, ht⟩ hkey hdetach
      · by_cases hattach : t.pc = .attach
        · refine .reattach t o ⟨place, rfl, ht⟩ hkey hattach ?_
          simp only [restartEffect, hattach, hkey]
        · exact .same (congrFun (restartEffect_net s o hdetach hattach) key)
    | probe place o p _ => exact .same (congrFun (probeEffect_net s o p) key)
    | status other o => exact .same (congrFun (locked_net s other _) key)
    | createBegin | deleteBegin | notFound | vmExit | vmLost => exact .same rfl
  · exact .same (step_net_other hparty hstep)

/-- No `Create` and no `Attach` of the key's own calls, and no move of its restart. -/
structure Quiet (key : String) (s : Sys) (l : Label) : Prop where
  creating : ∀ c o, l = .create o → s.creating = some c → c.pod.key = key →
    c.pc ≠ .create ∧ c.pc ≠ .attach
  restarts : ∀ t o, Moves s l t o → t.key ≠ key

/-- The workload ID of the key, tracked or about to be. -/
inductive Names (key : String) (s : Sys) (id : String) : Prop
  | tracked (st : PodState) : s.pods key = some st → st.spec.name = id → Names key s id
  | creating (c : CreateCall) : s.creating = some c → c.pod.key = key → c.spec.name = id →
      Names key s id

/-- Nobody else makes a micro-VM under the workload ID of the key. -/
def ownsVM (key : String) (s : Sys) (l : Label) : Bool :=
  (makes s l).all fun made => l.party s = some key ||
    ((s.pods key).all (fun st => st.spec.name ≠ made.1) &&
      s.creating.all fun c => c.pod.key ≠ key || c.spec.name ≠ made.1)

theorem makes_cases {made : String × String} (h : makes s l = some made) :
    (∃ c o, l = .create o ∧ s.creating = some c ∧ c.pc = .create) ∨
      ∃ t o, Moves s l t o ∧ t.pc = .create := by
  obtain ⟨⟨spec, o'⟩, hcreates, _⟩ := Option.bind_eq_some_iff.mp h
  cases l with
  | create o =>
    obtain ⟨c, hc, hspec⟩ := Option.bind_eq_some_iff.mp hcreates
    split at hspec
    · rename_i hpc
      exact Or.inl ⟨c, o, rfl, hc, hpc⟩
    · cases hspec
  | restart place o =>
    obtain ⟨t, ht, hspec⟩ := Option.bind_eq_some_iff.mp hcreates
    split at hspec
    · rename_i hpc
      exact Or.inr ⟨t, o, ⟨place, rfl, ht⟩, hpc⟩
    · cases hspec
  | _ => cases hcreates

theorem own_of_makes (hown : ownsVM key s l = true) {addr : String} (hnames : Names key s id)
    (hmakes : makes s l = some (id, addr)) : l.party s = some key := by
  by_contra hother
  simp only [ownsVM, hmakes, Option.all_some, hother, decide_false, Bool.false_or,
    Bool.and_eq_true] at hown
  rcases hnames with ⟨st, hst, hid⟩ | ⟨c, hc, hkey, hid⟩
  · simp [hst, hid] at hown
  · simp [hc, hkey, hid] at hown

theorem vm_old_of_own (hown : ownsVM key s l = true)
    (hparty : makes s l ≠ none → l.party s ≠ some key) (hnames : Names key s id)
    (hfrom : VMFrom s l id vm') :
    ∃ vm, s.vms id = some vm ∧ vm'.inst = vm.inst ∧ vm'.addr = vm.addr := by
  rcases hfrom with ⟨vm, hvm, hinst, haddr⟩ | ⟨_, hmakes, _⟩
  · exact ⟨vm, hvm, hinst, haddr⟩
  · exact absurd (own_of_makes hown hnames hmakes) (hparty (by simp [hmakes]))

theorem makes_party (hmakes : makes s l ≠ none) (hparty : l.party s = some key) :
    (∃ c o, l = .create o ∧ s.creating = some c ∧ c.pod.key = key ∧ c.pc = .create) ∨
      ∃ t o, Moves s l t o ∧ t.key = key ∧ t.pc = .create := by
  obtain ⟨made, hmade⟩ := Option.ne_none_iff_exists'.mp hmakes
  rcases makes_cases hmade with ⟨c, o, rfl, hc, hpc⟩ | ⟨t, o, hmoves, hpc⟩
  · exact Or.inl ⟨c, o, rfl, hc, by simpa [Label.party, hc] using hparty, hpc⟩
  · obtain ⟨place, rfl, ht⟩ := hmoves
    exact Or.inr ⟨t, o, ⟨place, rfl, ht⟩, by simpa [Label.party, ht] using hparty, hpc⟩

theorem Quiet.vm_old (h : Quiet key s l) (hown : ownsVM key s l = true) (hnames : Names key s id)
    (hfrom : VMFrom s l id vm') :
    ∃ vm, s.vms id = some vm ∧ vm'.inst = vm.inst ∧ vm'.addr = vm.addr := by
  refine vm_old_of_own hown (fun hmakes hparty => ?_) hnames hfrom
  rcases makes_party hmakes hparty with ⟨c, o, hl, hc, hkey, hpc⟩ | ⟨t, o, hmoves, hkey, _⟩
  · exact (h.creating c o hl hc hkey).1 hpc
  · exact h.restarts t o hmoves hkey

theorem Quiet.net_same (h : Quiet key s l) (hfrom : NetFrom key s s' l) :
    s'.net key = s.net key := by
  rcases hfrom with hsame | ⟨c, o, hl, hc, hkey, hpc, _⟩ | ⟨t, o, hmoves, hkey, _⟩ |
    ⟨t, o, hmoves, hkey, _, _⟩
  · exact hsame
  · exact absurd hpc (h.creating c o hl hc hkey).2
  · exact absurd hkey (h.restarts t o hmoves)
  · exact absurd hkey (h.restarts t o hmoves)

theorem Bound.quiet_of_tracked (h : Bound key s) (hst : s.pods key = some st)
    (hrestarts : ∀ t o, Moves s l t o → t.key ≠ key) : Quiet key s l where
  creating := by
    intro c o _ hc hkey
    have hpending : c.pc.pending = true → False := by
      intro hpending
      rw [h.untracked c hc hkey hpending] at hst
      cases hst
    refine ⟨fun hpc => hpending ?_, fun hpc => hpending ?_⟩
    · rw [hpc]
      rfl
    · rw [hpc]
      rfl
  restarts := hrestarts

/-- The micro-VM of a tracked Pod is an old one unless its restart has just made it. -/
theorem Bound.vm_old (h : Bound key s) (hst : s.pods key = some st) (hown : ownsVM key s l = true)
    (hrestart : ∀ t o, Moves s l t o → t.key = key → t.pc ≠ .create)
    (hfrom : VMFrom s l st.spec.name vm') :
    ∃ vm, s.vms st.spec.name = some vm ∧ vm'.inst = vm.inst ∧ vm'.addr = vm.addr := by
  refine vm_old_of_own hown (fun hmakes hparty => ?_) (.tracked st hst rfl) hfrom
  rcases makes_party hmakes hparty with ⟨c, o, _, hc, hkey, hpc⟩ | ⟨t, o, hmoves, hkey, hpc⟩
  · rw [h.untracked c hc hkey (by rw [hpc]; rfl)] at hst
    cases hst
  · exact hrestart t o hmoves hkey hpc

theorem Bound.quiet_of_pending (h : Bound key s) (hnone : s.pods key = none)
    (hother : ∀ c o, l = .create o → s.creating = some c → c.pod.key = key →
      c.pc ≠ .create ∧ c.pc ≠ .attach) : Quiet key s l where
  creating := hother
  restarts := by
    intro t o hmoves
    obtain ⟨place, _, ht⟩ := hmoves
    exact h.no_restart hnone t (List.mem_of_getElem? ht)

end Evolution

end MacVz
