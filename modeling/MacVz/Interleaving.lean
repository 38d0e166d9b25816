/-
Interleaved executions of a step function.  A run is a list of labels, each
taken in a state that meets a given condition; an invariant of the steps is an
invariant of the runs.  Concurrent tasks live in a pool in which one task moves
at a time.
-/
import Mathlib.Data.List.Basic

namespace Interleaving

universe u v

variable {S : Type u} {L : Type v} {ls : List L} {s : S} {l : L} {P : S → L → Prop} {ms : List L}

/-- Execute the labels one after the other; `none` when one is not enabled. -/
def exec (step : S → L → Option S) : S → List L → Option S
  | s, [] => some s
  | s, l :: ls => (step s l).bind fun s' => exec step s' ls

/-- The runs from `start` all of whose steps are taken in a state that meets
`allowed`. -/
inductive Run (step : S → L → Option S) (allowed : S → L → Prop) (start : S) :
    List L → S → Prop
  | nil : Run step allowed start [] start
  | snoc {ls : List L} {s s' : S} {l : L} : Run step allowed start ls s →
      allowed s l → step s l = some s' → Run step allowed start (ls ++ [l]) s'

variable {step : S → L → Option S} {allowed : S → L → Prop} {start : S}

/-- What holds at the start and is kept by every allowed step holds in every
state reached. -/
theorem Run.invariant {I : S → Prop} (hstart : I start)
    (hstep : ∀ {s s' : S} {l : L}, I s → allowed s l → step s l = some s' → I s')
    (hrun : Run step allowed start ls s) : I s := by
  induction hrun with
  | nil => exact hstart
  | snoc _ hallowed hs ih => exact hstep ih hallowed hs

theorem Run.mono {weaker : S → L → Prop} (himp : ∀ s l, allowed s l → weaker s l)
    (hrun : Run step allowed start ls s) : Run step weaker start ls s := by
  induction hrun with
  | nil => exact .nil
  | snoc _ hallowed hs ih => exact .snoc ih (himp _ _ hallowed) hs

theorem Run.append {middle : S} (hfirst : Run step allowed start ls middle)
    (hsecond : Run step allowed middle ms s) : Run step allowed start (ls ++ ms) s := by
  induction hsecond with
  | nil => simpa using hfirst
  | snoc _ hallowed hs ih =>
    rw [← List.append_assoc]
    exact .snoc ih hallowed hs

theorem Run.cons {s' : S} (hallowed : allowed start l) (hs : step start l = some s')
    (hrun : Run step allowed s' ls s) : Run step allowed start (l :: ls) s := by
  simpa using (Run.snoc .nil hallowed hs).append hrun

theorem exec_append : ∀ {start middle : S},
    exec step start ls = some middle → exec step start (ls ++ ms) = exec step middle ms := by
  induction ls with
  | nil =>
    intro start middle h
    rw [Option.some.inj h, List.nil_append]
  | cons l ls ih =>
    intro start middle h
    obtain ⟨next, hnext, hrest⟩ := Option.bind_eq_some_iff.mp h
    rw [List.cons_append, exec, hnext]
    exact ih hrest

theorem Run.exec (hrun : Run step allowed start ls s) : exec step start ls = some s := by
  induction hrun with
  | nil => rfl
  | snoc _ _ hs ih =>
    rw [exec_append ih, Interleaving.exec, hs]
    rfl

/-- What holds of the empty history and is kept by every allowed step holds of
every history and the state it leads to. -/
theorem Run.history {I : List L → S → Prop} (hstart : I [] start)
    (hstep : ∀ {ls : List L} {s s' : S} {l : L}, Run step allowed start ls s → I ls s →
      allowed s l → step s l = some s' → I (ls ++ [l]) s') (hrun : Run step allowed start ls s) :
    I ls s := by
  induction hrun with
  | nil => exact hstart
  | snoc hrun hallowed hs ih => exact hstep hrun ih hallowed hs

/-- Somewhere along the labels one was taken in a state with which it has the
property. -/
def Happened (step : S → L → Option S) (P : S → L → Prop) (start : S) (ls : List L) : Prop :=
  ∃ ms l rest s, ls = ms ++ l :: rest ∧ Interleaving.exec step start ms = some s ∧ P s l

theorem not_happened_nil : ¬ Happened step P start [] := by
  rintro ⟨ms, l, rest, _, hnil, _⟩
  simp at hnil

theorem Happened.append (h : Happened step P start ls) (more : List L) :
    Happened step P start (ls ++ more) := by
  obtain ⟨ms, l, rest, s, rfl, hexec, hP⟩ := h
  exact ⟨ms, l, rest ++ more, s, by simp, hexec, hP⟩

theorem Run.happened (hrun : Run step allowed start ls s) (hP : P s l) :
    Happened step P start (ls ++ [l]) :=
  ⟨ls, l, [], s, rfl, hrun.exec, hP⟩

/-- What has happened by the end of a run had happened before its last step, or happens
there. -/
theorem Run.happened_snoc (hrun : Run step allowed start ls s) :
    Happened step P start (ls ++ [l]) ↔ Happened step P start ls ∨ P s l := by
  constructor
  · rintro ⟨ms, l', rest, s', hls, hexec, hP⟩
    rcases rest.eq_nil_or_concat with rfl | ⟨rest, last, rfl⟩
    · obtain ⟨rfl, hlast⟩ := List.append_inj' hls rfl
      obtain rfl := List.singleton_inj.mp hlast
      obtain rfl := Option.some.inj (hexec.symm.trans hrun.exec)
      exact Or.inr hP
    · have hsplit : ls ++ [l] = (ms ++ l' :: rest) ++ [last] := by simpa using hls
      exact Or.inl ⟨ms, l', rest, s', (List.append_inj' hsplit rfl).1, hexec, hP⟩
  · rintro (hbefore | hP)
    · exact hbefore.append [l]
    · exact hrun.happened hP

section Observed

universe w

variable {O : Type w} {see : S → L → Option O}

/-- What an observer sees along a run. -/
def observed (step : S → L → Option S) (see : S → L → Option O) : S → List L → List O
  | _, [] => []
  | s, l :: ls => (see s l).toList ++ (step s l).elim [] fun s' => observed step see s' ls

/-- What is seen of two runs in a row is what is seen of each. -/
theorem observed_append : ∀ {start middle : S},
    exec step start ls = some middle →
      observed step see start (ls ++ ms) =
        observed step see start ls ++ observed step see middle ms := by
  induction ls with
  | nil =>
    intro start middle h
    rw [Option.some.inj h]
    rfl
  | cons l ls ih =>
    intro start middle h
    obtain ⟨next, hnext, hrest⟩ := Option.bind_eq_some_iff.mp h
    simp only [List.cons_append, observed, hnext, Option.elim_some, ih hrest, List.append_assoc]

/-- A run lets be seen what was seen before its last step, and what is seen there. -/
theorem Run.observed_snoc {s' : S} (hrun : Run step allowed start ls s) (hs : step s l = some s') :
    observed step see start (ls ++ [l]) = observed step see start ls ++ (see s l).toList := by
  rw [observed_append hrun.exec]
  simp [observed, hs]

end Observed

/-- Execute the labels as long as a Boolean condition admits them. -/
def execWhen (step : S → L → Option S) (permits : S → L → Bool) :
    S → List L → Option S
  | s, [] => some s
  | s, l :: ls =>
    if permits s l then (step s l).bind fun s' => execWhen step permits s' ls
    else none

/-- A run evaluated under a stronger condition is a run. -/
theorem run_of_execWhen {permits : S → L → Bool}
    (hpermits : ∀ s l, permits s l = true → allowed s l) :
    ∀ {start s : S}, execWhen step permits start ls = some s →
      Run step allowed start ls s := by
  induction ls with
  | nil =>
    intro start s h
    simp only [execWhen, Option.some.injEq] at h
    rw [h]
    exact .nil
  | cons l ls ih =>
    intro start s h
    simp only [execWhen] at h
    split at h
    · obtain ⟨next, hnext, hrest⟩ := Option.bind_eq_some_iff.mp h
      exact Run.cons (hpermits _ _ (by assumption)) hnext (ih hrest)
    · simp at h

/-- What a computed execution rules out at each of its steps has not happened. -/
theorem not_happened_of_execWhen {permits : S → L → Bool}
    (hpermits : ∀ s l, permits s l = true → ¬ P s l) :
    ∀ {start s : S}, execWhen step permits start ls = some s →
      ¬ Happened step P start ls := by
  induction ls with
  | nil => exact fun _ => not_happened_nil
  | cons first ls ih =>
    rintro start s h ⟨ms, l, rest, s₁, hls, hexec, hP⟩
    rw [execWhen] at h
    split at h
    · rename_i hfirst
      obtain ⟨next, hnext, hrest⟩ := Option.bind_eq_some_iff.mp h
      cases ms with
      | nil =>
        obtain ⟨rfl, rfl⟩ := List.cons.inj hls
        obtain rfl := Option.some.inj hexec
        exact hpermits _ _ hfirst hP
      | cons m ms =>
        obtain ⟨rfl, rfl⟩ := List.cons.inj hls
        rw [exec, hnext] at hexec
        exact ih hrest ⟨ms, l, rest, s₁, rfl, hexec, hP⟩
    · cases h

/-- A computed execution that ends in a state with a computed property. -/
theorem exists_run_of_check (permits : S → L → Bool) {check : S → Bool}
    (hpermits : ∀ s l, permits s l = true → allowed s l)
    (hcheck : (execWhen step permits start ls).any check = true) :
    ∃ s, Run step allowed start ls s ∧ check s = true := by
  obtain ⟨s, hexec, hs⟩ := (Option.any_eq_true _ _).mp hcheck
  exact ⟨s, run_of_execWhen hpermits hexec, hs⟩

variable {T : Type u} {pool : List T} {place : Nat} {next : Option T} {task mover : T}

/-- A task takes its next step, or leaves the pool. -/
def advance (pool : List T) (place : Nat) : Option T → List T
  | some task => pool.set place task
  | none => pool.eraseIdx place

/-- A task of the pool after a move was there before or is the one that moved. -/
theorem mem_advance (htask : task ∈ advance pool place next) : task ∈ pool ∨ next = some task := by
  cases next with
  | none => exact Or.inl (List.mem_of_mem_eraseIdx htask)
  | some moved =>
    rcases List.mem_or_eq_of_mem_set htask with hold | rfl
    · exact Or.inl hold
    · exact Or.inr rfl

/-- A task of the pool after a move stood at another place or is the one that
moved. -/
theorem mem_advance_place (hmover : pool[place]? = some mover)
    (htask : task ∈ advance pool place next) :
    (∃ i : Nat, pool[i]? = some task ∧ i ≠ place) ∨ next = some task := by
  cases next with
  | none =>
    obtain ⟨i, hne, hi⟩ := List.mem_eraseIdx_iff_getElem?.mp htask
    exact Or.inl ⟨i, hi, hne⟩
  | some moved =>
    obtain ⟨i, hi⟩ := List.mem_iff_getElem?.mp htask
    by_cases hplace : i = place
    · subst hplace
      rw [advance, List.getElem?_set_self', hmover] at hi
      exact Or.inr hi
    · rw [advance, List.getElem?_set_ne (Ne.symm hplace)] at hi
      exact Or.inl ⟨i, hi, hplace⟩

/-- What a move does not change of the task is not changed in the pool. -/
theorem map_advance {R : Type u} (f : T → R) {moved : T} (hmover : pool[place]? = some mover)
    (hf : f moved = f mover) : (advance pool place (some moved)).map f = pool.map f := by
  apply List.ext_getElem?
  intro i
  rw [List.getElem?_map, List.getElem?_map, advance]
  by_cases hplace : i = place
  · subst hplace
    rw [List.getElem?_set_self', hmover]
    exact congrArg some hf
  · rw [List.getElem?_set_ne (Ne.symm hplace)]

theorem mem_advance_of_mem (hmover : pool[place]? = some mover) (next : Option T)
    (htask : task ∈ pool) : task = mover ∨ task ∈ advance pool place next := by
  obtain ⟨other, hother⟩ := List.mem_iff_getElem?.mp htask
  by_cases hplace : other = place
  · subst other
    rw [hmover] at hother
    exact Or.inl (Option.some.inj hother).symm
  · right
    cases next with
    | some moved =>
      refine List.mem_iff_getElem?.mpr ⟨other, ?_⟩
      simp only [advance]
      rw [List.getElem?_set_ne (Ne.symm hplace)]
      exact hother
    | none => exact List.mem_eraseIdx_iff_getElem?.mpr ⟨other, hplace, hother⟩

theorem moved_mem_advance (hmover : pool[place]? = some mover) (moved : T) :
    moved ∈ advance pool place (some moved) := by
  have hlt : place < pool.length := by
    by_contra hge
    rw [List.getElem?_eq_none (by omega)] at hmover
    cases hmover
  exact List.mem_set hlt moved

/-- At most one place of the pool holds such a task. -/
def AtMostOne (P : T → Prop) (pool : List T) : Prop :=
  ∀ (i j : Nat) t t', pool[i]? = some t → pool[j]? = some t' → P t → P t' → i = j

/-- Advancing one task of a pool leaves at most one of a kind. -/
theorem atMostOne_advance {P : T → Prop} (h : AtMostOne P pool) (hmover : pool[place]? = some mover)
    (hnext : ∀ t, next = some t → P t → P mover) : AtMostOne P (advance pool place next) := by
  intro i j t t' hi hj ht ht'
  cases next with
  | some moved =>
    have hplace : ∀ {k : Nat} {u : T}, (pool.set place moved)[k]? = some u → P u →
        ∃ u', pool[k]? = some u' ∧ P u' := by
      intro k u hk hu
      by_cases hkp : k = place
      · subst hkp
        rw [List.getElem?_set_self', hmover] at hk
        obtain rfl := Option.some.inj hk
        exact ⟨mover, hmover, hnext moved rfl hu⟩
      · rw [List.getElem?_set_ne (Ne.symm hkp)] at hk
        exact ⟨u, hk, hu⟩
    obtain ⟨u, hu, hPu⟩ := hplace hi ht
    obtain ⟨u', hu', hPu'⟩ := hplace hj ht'
    exact h i j u u' hu hu' hPu hPu'
  | none =>
    simp only [advance, List.getElem?_eraseIdx] at hi hj
    split at hi <;> split at hj
    · exact h i j t t' hi hj ht ht'
    · have := h i (j + 1) t t' hi hj ht ht'
      omega
    · have := h (i + 1) j t t' hi hj ht ht'
      omega
    · have := h (i + 1) (j + 1) t t' hi hj ht ht'
      omega

theorem AtMostOne.append_of_not {P : T → Prop} (h : AtMostOne P pool) {more : List T}
    (hmore : ∀ t ∈ more, ¬ P t) : AtMostOne P (pool ++ more) := by
  have hplace : ∀ {k : Nat} {u : T}, (pool ++ more)[k]? = some u → P u → pool[k]? = some u := by
    intro k u hk hu
    rw [List.getElem?_append] at hk
    split at hk
    · exact hk
    · exact absurd hu (hmore u (List.mem_of_getElem? hk))
  intro i j t t' hi hj ht ht'
  exact h i j t t' (hplace hi ht) (hplace hj ht') ht ht'

theorem atMostOne_append {P : T → Prop} (hnone : ∀ t ∈ pool, ¬ P t) (task : T) :
    AtMostOne P (pool ++ [task]) := by
  intro i j t t' hi hj ht ht'
  have hplace : ∀ {k : Nat} {u : T}, (pool ++ [task])[k]? = some u → P u → k = pool.length := by
    intro k u hk hu
    rw [List.getElem?_append] at hk
    split at hk
    · exact absurd hu (hnone u (List.mem_of_getElem? hk))
    · have hzero : k - pool.length = 0 := by
        by_contra hpos
        rw [List.getElem?_eq_none (by simp; omega)] at hk
        cases hk
      omega
  rw [hplace hi ht, hplace hj ht']

end Interleaving
