/-
What one step can do to the calls in flight, to the allocator, to what was returned
and to whether a Pod is tracked.
-/
import MacVz.Evolution

namespace MacVz

open Interleaving

section CallFrame

variable {s s' : Sys} {l : Label} {c : CreateCall} {o : Outcome} {d : DeleteCall} {key : String}

theorem create_step (hstep : step s (.create o) = some s') (hc : s.creating = some c) :
    s' = createStep s c o := by
  rw [step, hc] at hstep
  exact (Option.some.inj hstep).symm

/-- A step of `CreatePod` after which its Pod is untracked has not stored it. -/
theorem stores_of_untracked (hnone : (createStep s c o).pods c.pod.key = none) :
    c.pc.stores = false := by
  rw [createStep_pods] at hnone
  cases hpc : c.pc with
  | commit | terminal =>
    simp only [createEffect, hpc] at hnone
    exact absurd ((Function.update_self c.pod.key _ s.pods).symm.trans hnone)
      (Option.some_ne_none _)
  | _ => rfl

theorem delete_step {place : Nat} (hstep : step s (.delete place o) = some s')
    (hd : s.deletes[place]? = some d) :
    s' = { deleteEffect s d o with deletes := advance s.deletes place (deleteNext d) } := by
  rw [step, hd] at hstep
  exact (Option.some.inj hstep).symm

theorem deleteNext_none (h : deleteNext d = none) : d.pc = .stop [] := by
  unfold deleteNext at h
  split at h
  case h_4 hpc => exact hpc
  all_goals cases h

/-- A deletion ends only by the step that has nothing left to stop. -/
theorem step_deletion_over (hstep : step s l = some s') (hd : d ∈ s.deletes)
    (hover : ∀ d' ∈ s'.deletes, d'.key ≠ d.key) :
    ∃ place o, l = .delete place o ∧ s.deletes[place]? = some d ∧ d.pc = .stop [] := by
  rcases step_deletes hstep with hsame | ⟨pod, st, rfl, _, hnew⟩ | ⟨place, o, mover, rfl, hm, hnext⟩
  · exact absurd rfl (hover d (hsame ▸ hd))
  · exact absurd rfl (hover d (hnew ▸ List.mem_append_left _ hd))
  · rw [hnext] at hover
    rcases mem_advance_of_mem hm (deleteNext mover) hd with rfl | hstays
    · refine ⟨place, o, rfl, hm, ?_⟩
      cases hmoved : deleteNext d with
      | none => exact deleteNext_none hmoved
      | some moved =>
        rw [hmoved] at hover
        exact absurd (deleteNext_key hmoved) (hover moved (moved_mem_advance hm moved))
    · exact absurd rfl (hover d hstays)

theorem step_creating_kept (hstep : step s l = some s') (hc : s.creating = some c)
    (hother : ∀ o, l ≠ .create o) : s'.creating = some c := by
  cases step_cases hstep with
  | createBegin pod hfree =>
    rw [hfree] at hc
    cases hc
  | create c' o _ => exact absurd rfl (hother o)
  | delete place o d _ => exact (deleteEffect_creating s o d).trans hc
  | restart place o t _ => exact (restartEffect_creating s o t).trans hc
  | probe place o p _ => exact (probeEffect_creating s o p).trans hc
  | status key o => exact (locked_creating _ _ _).trans hc
  | notFound | deleteBegin | vmExit | vmLost => exact hc

theorem deleteBegin_untracked {pod : Pod} (hstep : step s (.deleteBegin pod) = some s') :
    s'.pods pod.key = none := by
  cases step_cases hstep with
  | notFound _ hnone => exact hnone
  | deleteBegin _ st _ => exact Function.update_self _ _ _

theorem deletion_of_untracked (hstep : step s l = some s') {st : PodState}
    (hst : s.pods key = some st) (hnone : s'.pods key = none) : ∃ d ∈ s'.deletes, d.key = key := by
  obtain ⟨pod, rfl, rfl⟩ := step_tracked hstep hst hnone
  cases step_cases hstep with
  | notFound _ hgone => cases hst.symm.trans hgone
  | deleteBegin _ st' _ => exact ⟨_, List.mem_append_right _ (List.mem_singleton_self _), rfl⟩

theorem untracked_before (hstep : step s l = some s') (hnone : s'.pods key = none)
    (hdeletes : ∀ d ∈ s'.deletes, d.key ≠ key) : s.pods key = none := by
  cases hst : s.pods key with
  | none => rfl
  | some st =>
    obtain ⟨d, hd, hown⟩ := deletion_of_untracked hstep hst hnone
    exact absurd hown (hdeletes d hd)

/-- What a step adds to the answers of `CreatePod` and `DeletePod`. -/
theorem step_returned (hstep : step s l = some s') : s'.returned = s.returned ∨
      (∃ c o, l = .create o ∧ s.creating = some c ∧ (createNext s c o).pc = .done ∧
        s'.returned = .created c.pod.key (createNext s c o).err :: s.returned) ∨
      (∃ pod, l = .deleteBegin pod ∧ s.pods pod.key = none ∧
        s'.returned = .deleted pod.key false :: s.returned) ∨
      ∃ place o d, l = .delete place o ∧ s.deletes[place]? = some d ∧ d.pc = .stop [] ∧
        s'.returned = .deleted d.key true :: s.returned := by
  cases step_cases hstep with
  | create c o hc =>
    unfold createStep
    split
    · rename_i hdone
      exact Or.inr (Or.inl ⟨c, o, rfl, hc, hdone, rfl⟩)
    · refine Or.inl ?_
      unfold createEffect
      split <;> rfl
  | notFound pod hnone => exact Or.inr (Or.inr (Or.inl ⟨pod, rfl, hnone, rfl⟩))
  | delete place o d hd =>
    by_cases hpc : d.pc = .stop []
    · refine Or.inr (Or.inr (Or.inr ⟨place, o, d, rfl, hd, hpc, ?_⟩))
      simp only [deleteEffect, hpc]
    · refine Or.inl ?_
      unfold deleteEffect
      split
      case h_4 h => exact absurd h hpc
      all_goals rfl
  | restart place o t _ =>
    refine Or.inl ?_
    unfold restartEffect
    split
    case h_1 => exact locked_returned _ _ _
    case h_10 => exact locked_returned _ _ _
    all_goals rfl
  | probe place o p _ =>
    refine Or.inl ?_
    unfold probeEffect
    repeat' split
    all_goals first
      | rfl
      | exact locked_returned _ _ _
  | status key o => exact Or.inl (locked_returned _ _ _)
  | createBegin | deleteBegin | vmExit | vmLost => exact Or.inl rfl

/-- `DeletePod` returns at once for an untracked Pod, or with its last call. -/
theorem step_deleted (hstep : step s l = some s') {found : Bool}
    (hreturned : s'.returned = .deleted key found :: s.returned) :
    (∃ pod, l = .deleteBegin pod ∧ pod.key = key ∧ s.pods key = none ∧ found = false) ∨
      ∃ place o d, l = .delete place o ∧ s.deletes[place]? = some d ∧ d.pc = .stop [] ∧
        d.key = key ∧ found = true := by
  rcases step_returned hstep with hsame | ⟨_, _, _, _, _, hnew⟩ | ⟨pod, hl, hnone, hnew⟩ |
    ⟨place, o, d, hl, hd, hpc, hnew⟩
  · have hlength := congrArg List.length (hsame.symm.trans hreturned)
    simp at hlength
  · rw [hnew] at hreturned
    cases hreturned
  · rw [hnew] at hreturned
    obtain ⟨rfl, rfl⟩ : pod.key = key ∧ false = found := by simpa using hreturned
    exact Or.inl ⟨pod, hl, rfl, hnone, rfl⟩
  · rw [hnew] at hreturned
    obtain ⟨rfl, rfl⟩ : d.key = key ∧ true = found := by simpa using hreturned
    exact Or.inr ⟨place, o, d, hl, hd, hpc, rfl, rfl⟩

end CallFrame

end MacVz
