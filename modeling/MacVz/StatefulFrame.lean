/-
Frame conditions for stateful programs that may fail.  A relation between the
state before and the state after, reflexive and transitive, passes from the
parts of a program to the whole, whether it ends normally or in an error.
-/
import Mathlib.Order.Defs.Unbundled

namespace StatefulFrame

universe u

variable {ε σ α β : Type u} {f : α → EStateM ε σ PUnit} {l : List α} {wrap : ε → ε} {s : σ} {a : α}
  {P : β → Prop}

/-- The state a computation ends in, also when it throws. -/
def final : EStateM.Result ε σ α → σ
  | .ok _ s => s
  | .error _ s => s

@[simp]
theorem final_ok (a : α) (s : σ) : final (EStateM.Result.ok a s : EStateM.Result ε σ α) = s := rfl

@[simp]
theorem final_error (e : ε) (s : σ) :
    final (EStateM.Result.error e s : EStateM.Result ε σ α) = s := rfl

def succeeded : EStateM.Result ε σ α → Bool
  | .ok _ _ => true
  | .error _ _ => false

theorem eq_ok_of_succeeded {r : EStateM.Result ε σ PUnit} (h : succeeded r = true) :
    r = .ok PUnit.unit (final r) := by
  cases r with
  | ok a s => rfl
  | error e s => cases h

theorem eq_error_of_not_succeeded {r : EStateM.Result ε σ α} (h : succeeded r = false) :
    ∃ e, r = .error e (final r) := by
  cases r with
  | ok a s => cases h
  | error e s => exact ⟨e, rfl⟩

/-- Every outcome of the program is related to the state it started in. -/
def Frame (R : σ → σ → Prop) (x : EStateM ε σ α) : Prop :=
  ∀ s, R s (final (x.run s))

variable {R : σ → σ → Prop}

theorem Frame.pure [Std.Refl R] (a : α) : Frame R (pure a : EStateM ε σ α) :=
  fun s => refl s

theorem Frame.throw [Std.Refl R] (e : ε) : Frame R (throw e : EStateM ε σ α) :=
  fun s => refl s

theorem Frame.get [Std.Refl R] : Frame R (get : EStateM ε σ σ) :=
  fun s => refl s

theorem Frame.bind [IsTrans σ R] {x : EStateM ε σ α} {f : α → EStateM ε σ β}
    (hx : Frame R x) (hf : ∀ a, Frame R (f a)) : Frame R (x >>= f) := by
  intro s
  have hfirst := hx s
  rw [EStateM.run_bind]
  cases hrun : x.run s with
  | ok a s' =>
    rw [hrun] at hfirst
    exact IsTrans.trans _ _ _ hfirst (hf a s')
  | error e s' =>
    rw [hrun] at hfirst
    exact hfirst

theorem Frame.adaptExcept {x : EStateM ε σ α} (hx : Frame R x) :
    Frame R (EStateM.adaptExcept wrap x) := by
  intro s
  have hpart := hx s
  rw [EStateM.run_adaptExcept]
  cases hrun : x.run s with
  | ok a s' =>
    rw [hrun] at hpart
    exact hpart
  | error e s' =>
    rw [hrun] at hpart
    exact hpart

theorem Frame.forM [Std.Refl R] [IsTrans σ R] (hf : ∀ a ∈ l, Frame R (f a)) :
    Frame R (l.forM f) := by
  induction l with
  | nil => exact Frame.pure PUnit.unit
  | cons a rest ih =>
    exact (hf a List.mem_cons_self).bind fun _ => ih fun b hb => hf b (List.mem_cons_of_mem _ hb)

/-- The outcome of a sequence: the first part fails, or the second part runs
from where the first one ended. -/
theorem run_bind_cases (x : EStateM ε σ α) (f : α → EStateM ε σ β) (s : σ) :
    (∃ e s', x.run s = .error e s' ∧ (x >>= f).run s = .error e s') ∨
      ∃ a s', x.run s = .ok a s' ∧ (x >>= f).run s = (f a).run s' := by
  rw [EStateM.run_bind]
  cases hrun : x.run s with
  | ok a s' => exact Or.inr ⟨a, s', rfl, rfl⟩
  | error e s' => exact Or.inl ⟨e, s', rfl, rfl⟩

/-- A loop none of whose rounds fails: what each round brings about still holds
at the end if no later round undoes it. -/
theorem exists_run_forM [Std.Refl R] [IsTrans σ R] {Q : α → σ → Prop}
    (hkeep : ∀ a s s', Q a s → R s s' → Q a s')
    (hf : ∀ a ∈ l, ∀ s, ∃ s', (f a).run s = .ok PUnit.unit s' ∧ R s s' ∧ Q a s') (s : σ) :
    ∃ s', (l.forM f).run s = .ok PUnit.unit s' ∧ R s s' ∧ ∀ a ∈ l, Q a s' := by
  induction l generalizing s with
  | nil => exact ⟨s, rfl, refl s, List.forall_mem_nil _⟩
  | cons a rest ih =>
    obtain ⟨s₁, hrun, hfirst, hdone⟩ := hf a List.mem_cons_self s
    obtain ⟨s₂, hloop, hlater, hrest⟩ := ih (fun b hb => hf b (List.mem_cons_of_mem _ hb)) s₁
    refine ⟨s₂, ?_, IsTrans.trans _ _ _ hfirst hlater, ?_⟩
    · change (f a >>= fun _ => rest.forM f).run s = _
      rw [EStateM.run_bind, hrun]
      exact hloop
    · exact List.forall_mem_cons.mpr ⟨hkeep a s₁ s₂ hdone hlater, hrest⟩

/-- A loop whose steps do nothing does nothing. -/
theorem run_forM_idle (hf : ∀ a ∈ l, (f a).run s = .ok PUnit.unit s) :
    (l.forM f).run s = .ok PUnit.unit s := by
  induction l with
  | nil => rfl
  | cons a rest ih =>
    change (f a >>= fun _ => rest.forM f).run s = _
    rw [EStateM.run_bind, hf a List.mem_cons_self]
    exact ih fun b hb => hf b (List.mem_cons_of_mem _ hb)

/-- A loop that ended normally: what each of its rounds brings about when it does
not fail still holds at the end if no later round undoes it. -/
theorem forall_of_run_forM [Std.Refl R] [IsTrans σ R] {Q : α → σ → Prop}
    (hkeep : ∀ a s s', Q a s → R s s' → Q a s') (hframe : ∀ a ∈ l, Frame R (f a))
    (hf : ∀ a ∈ l, ∀ s s', (f a).run s = .ok PUnit.unit s' → Q a s') {s' : σ}
    (hrun : (l.forM f).run s = .ok PUnit.unit s') : ∀ a ∈ l, Q a s' := by
  induction l generalizing s with
  | nil => exact List.forall_mem_nil _
  | cons a rest ih =>
    have hrest := Frame.forM fun b hb => hframe b (List.mem_cons_of_mem _ hb)
    rcases run_bind_cases (f a) (fun _ => rest.forM f) s with
      ⟨e, s₁, -, hfails⟩ | ⟨⟨⟩, s₁, hround, hlater⟩
    · cases hfails.symm.trans hrun
    · have hloop := hlater.symm.trans hrun
      have hlast := hrest s₁
      rw [hloop] at hlast
      refine List.forall_mem_cons.mpr ⟨?_, ?_⟩
      · exact hkeep a s₁ s' (hf a List.mem_cons_self s s₁ hround) hlast
      · exact ih (fun b hb => hframe b (List.mem_cons_of_mem _ hb))
          (fun b hb => hf b (List.mem_cons_of_mem _ hb)) hloop

/-- Two states look the same through `view`. -/
def Same {τ : Type u} (view : σ → τ) (s s' : σ) : Prop := view s' = view s

instance {τ : Type u} (view : σ → τ) : Std.Refl (Same view) := ⟨fun _ => rfl⟩

instance {τ : Type u} (view : σ → τ) : IsTrans σ (Same view) := ⟨fun _ _ _ h h' => h'.trans h⟩

/-- What every value that is returned satisfies. -/
def Returns (P : α → Prop) (x : EStateM ε σ α) : Prop :=
  ∀ s a s', x.run s = .ok a s' → P a

theorem Returns.pure {P : α → Prop} (ha : P a) : Returns P (pure a : EStateM ε σ α) := by
  intro s b s' hrun
  cases hrun
  exact ha

theorem Returns.bind {x : EStateM ε σ α} {f : α → EStateM ε σ β} (hf : ∀ a, Returns P (f a)) :
    Returns P (x >>= f) := by
  intro s b s' hrun
  rcases run_bind_cases x f s with ⟨e, s₁, _, hfails⟩ | ⟨a, s₁, _, hrest⟩
  · cases hfails.symm.trans hrun
  · exact hf a s₁ b s' (hrest.symm.trans hrun)

/-- From a state with `I` the program ends in one with `I`, and what it returns
satisfies `Q`. -/
def Maintains (I : σ → Prop) (Q : α → Prop) (x : EStateM ε σ α) : Prop :=
  ∀ s, I s → I (final (x.run s)) ∧ ∀ a s', x.run s = .ok a s' → Q a

variable {I : σ → Prop} {Q : α → Prop} {x : EStateM ε σ α}

theorem Maintains.pure (ha : Q a) : Maintains I Q (pure a : EStateM ε σ α) := by
  intro s hs
  refine ⟨hs, ?_⟩
  intro b s' hrun
  cases hrun
  exact ha

theorem Maintains.throw (e : ε) : Maintains I Q (throw e : EStateM ε σ α) := by
  intro s hs
  refine ⟨hs, ?_⟩
  intro b s' hrun
  cases hrun

theorem Maintains.get : Maintains I I (get : EStateM ε σ σ) := by
  intro s hs
  refine ⟨hs, ?_⟩
  intro b s' hrun
  cases hrun
  exact hs

theorem Maintains.bind {f : α → EStateM ε σ β} (hx : Maintains I Q x)
    (hf : ∀ a, Q a → Maintains I P (f a)) : Maintains I P (x >>= f) := by
  intro s hs
  obtain ⟨hstate, hvalue⟩ := hx s hs
  rw [EStateM.run_bind]
  cases hrun : x.run s with
  | ok a s' =>
    rw [hrun] at hstate
    exact hf a (hvalue a s' hrun) s' hstate
  | error e s' =>
    rw [hrun] at hstate
    exact ⟨hstate, fun b s'' h => by cases h⟩

theorem Maintains.adaptExcept (hx : Maintains I Q x) :
    Maintains I Q (EStateM.adaptExcept wrap x) := by
  intro s hs
  obtain ⟨hstate, hvalue⟩ := hx s hs
  rw [EStateM.run_adaptExcept]
  cases hrun : x.run s with
  | ok a s' =>
    rw [hrun] at hstate
    refine ⟨hstate, ?_⟩
    intro b s'' h
    cases h
    exact hvalue a s' hrun
  | error e s' =>
    rw [hrun] at hstate
    exact ⟨hstate, fun b s'' h => by cases h⟩

theorem Maintains.forM (hf : ∀ a ∈ l, Maintains I (fun _ => True) (f a)) :
    Maintains I (fun _ => True) (l.forM f) := by
  induction l with
  | nil => exact .pure trivial
  | cons a rest ih =>
    exact (hf a List.mem_cons_self).bind fun _ _ =>
      ih fun b hb => hf b (List.mem_cons_of_mem _ hb)

end StatefulFrame
