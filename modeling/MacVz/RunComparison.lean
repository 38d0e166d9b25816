/-
Comparing runs.  A run, seen by an observer who keeps a part of the state and notices some of
the steps, is a run of what the observer sees.  Two runs whose noticed labels correspond one to
one, but for some that only the first has, stay related and let the same be seen.
-/
import MacVz.Interleaving
import Mathlib.Data.List.Forall2

namespace Interleaving

universe u v w x y

variable {S : Type u} {L : Type v} {T : Type w} {M : Type x} {O : Type y} {step : S → L → Option S}
  {allowed : S → L → Prop} {start : S} {step' : T → M → Option T} {allowed' : T → M → Prop}
  {start' : T} {see : S → L → Option O} {see' : T → M → Option O} {s : S} {ls : List L} {l : L}
  {s' : S} {same : L → M → Prop} {ms : List M}

theorem Run.eq_start (hrun : Run step allowed start [] s) : s = start :=
  (Option.some.inj hrun.exec).symm

theorem observed_cons (hs : step s l = some s') (ls : List L) :
    observed step see s (l :: ls) = (see s l).toList ++ observed step see s' ls := by
  rw [observed, hs]
  rfl

theorem Run.snoc_inv (hrun : Run step allowed start (ls ++ [l]) s') :
    ∃ s, Run step allowed start ls s ∧ allowed s l ∧ step s l = some s' := by
  generalize hms : ls ++ [l] = ms at hrun
  cases hrun with
  | nil => simp at hms
  | snoc hrun hallowed hstep =>
    obtain ⟨rfl, hlast⟩ := List.append_inj' hms rfl
    obtain rfl := List.singleton_inj.mp hlast
    exact ⟨_, hrun, hallowed, hstep⟩

/-- What an observer of a part of the state makes of a step: nothing that changes the part, or a
step of the observer's own. -/
def Projects (step' : T → M → Option T) (allowed' : T → M → Prop) (see' : T → M → Option O)
    (part : T) (noticed : Option M) (seen : Option O) (part' : T) : Prop :=
  match noticed with
  | none => part' = part ∧ seen = none
  | some m => allowed' part m ∧ step' part m = some part' ∧ seen = see' part m

/-- A run is, to the observer, a run of what is noticed, in which the same is seen. -/
theorem Run.project (part : S → T) (notice : S → L → Option M)
    (hstep : ∀ {ls : List L} {s s' : S} {l : L}, Run step allowed start ls s → allowed s l →
      step s l = some s' →
      Projects step' allowed' see' (part s) (notice s l) (see s l) (part s'))
    (hrun : Run step allowed start ls s) :
    Run step' allowed' (part start) (observed step notice start ls) (part s) ∧
      observed step see start ls =
        observed step' see' (part start) (observed step notice start ls) := by
  induction hrun with
  | nil => exact ⟨.nil, rfl⟩
  | snoc hrun hallowed hs ih =>
    have hprojects := hstep hrun hallowed hs
    rw [hrun.observed_snoc hs, hrun.observed_snoc hs]
    unfold Projects at hprojects
    split at hprojects
    · rename_i hnone
      rw [hnone, hprojects.1, hprojects.2]
      simpa using ih
    · rename_i m hsome
      obtain ⟨hallowed', hs', hseen⟩ := hprojects
      rw [hsome, hseen, ih.2]
      exact ⟨.snoc ih.1 hallowed' hs', (ih.1.observed_snoc hs').symm⟩

/-- The last of the first list has its counterpart at the end of the second. -/
theorem forall₂_snoc_left (h : List.Forall₂ same (ls ++ [l]) ms) :
    ∃ ms' m, ms = ms' ++ [m] ∧ List.Forall₂ same ls ms' ∧ same l m := by
  induction ls generalizing ms with
  | nil =>
    obtain ⟨m, rest, hsame, hrest, rfl⟩ := List.forall₂_cons_left_iff.mp h
    obtain rfl := List.forall₂_nil_left_iff.mp hrest
    exact ⟨[], m, rfl, .nil, hsame⟩
  | cons first ls ih =>
    obtain ⟨m, rest, hsame, hrest, rfl⟩ := List.forall₂_cons_left_iff.mp h
    obtain ⟨ms', last, rfl, hms', hlast⟩ := ih hrest
    exact ⟨m :: ms', last, rfl, .cons hsame hms', hlast⟩

/-- Two runs, the second with a counterpart of every label of the first that is not silent: a
relation between the states that matched and silent steps keep holds at the end, and along the
way the same was seen. -/
theorem Run.simulates {R : S → T → Prop} {silent : L → Bool} (hstart : R start start')
    (hsilent : ∀ {s s' : S} {t : T} {l : L}, R s t → allowed s l → step s l = some s' →
      silent l = true → R s' t ∧ see s l = none)
    (hmatched : ∀ {s s' : S} {t t' : T} {l : L} {m : M}, R s t → allowed s l →
      step s l = some s' → same l m → step' t m = some t' → R s' t' ∧ see s l = see' t m)
    (hrun : Run step allowed start ls s) {t : T} (hrun' : Run step' allowed' start' ms t)
    (hsame : List.Forall₂ same (ls.filter fun l => !silent l) ms) :
    R s t ∧ observed step see start ls = observed step' see' start' ms := by
  induction hrun generalizing ms t with
  | nil =>
    obtain rfl := List.forall₂_nil_left_iff.mp hsame
    rw [hrun'.eq_start]
    exact ⟨hstart, rfl⟩
  | snoc hrun hallowed hs ih =>
    rename_i ls s₀ s₁ l
    rw [hrun.observed_snoc hs]
    cases hl : silent l with
    | true =>
      obtain ⟨hR, hseen⟩ := ih hrun' (by simpa [hl] using hsame)
      obtain ⟨hR', hnone⟩ := hsilent hR hallowed hs hl
      exact ⟨hR', by rw [hnone, hseen]; simp⟩
    | false =>
      obtain ⟨ms', m, rfl, hms', hm⟩ := forall₂_snoc_left (by simpa [hl] using hsame)
      obtain ⟨t₀, hrun₀, _, ht⟩ := hrun'.snoc_inv
      obtain ⟨hR, hseen⟩ := ih hrun₀ hms'
      obtain ⟨hR', hsee⟩ := hmatched hR hallowed hs hm ht
      rw [hrun₀.observed_snoc ht, hseen, hsee]
      exact ⟨hR', rfl⟩

end Interleaving
