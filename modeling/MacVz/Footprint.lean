/-
Stateful programs over a table that read and write a few of its keys only.  What
such a program does depends on these keys alone, so the rounds of a loop that
work on different keys do not see each other.
-/
import Mathlib.Data.Set.Function

namespace Footprint

universe u

variable {κ ν α β : Type u} {F G : Set κ} {m : StateM (κ → ν) α} {f : α → StateM (κ → ν) β}

/-- Two sets of keys without a common one. -/
def Apart (F G : Set κ) : Prop := ∀ k ∈ F, k ∉ G

/-- A computation that reads and changes the state on a set of keys only. -/
structure Touches (F : Set κ) (m : StateM (κ → ν) α) : Prop where
  frame : ∀ s, ∀ k ∉ F, (m.run s).2 k = s k
  result : ∀ s s', Set.EqOn s s' F → (m.run s).1 = (m.run s').1
  effect : ∀ s s', Set.EqOn s s' F → Set.EqOn (m.run s).2 (m.run s').2 F

theorem Touches.pure (a : α) : Touches F (pure a : StateM (κ → ν) α) :=
  ⟨fun _ _ _ => rfl, fun _ _ _ => rfl, fun _ _ h => h⟩

theorem Touches.mono (h : Touches F m) (hsub : F ⊆ G) : Touches G m where
  frame := fun s k hk => h.frame s k fun hF => hk (hsub hF)
  result := fun s s' heq => h.result s s' (heq.mono hsub)
  effect := by
    intro s s' heq k hk
    by_cases hF : k ∈ F
    · exact h.effect s s' (heq.mono hsub) hF
    · rw [h.frame s k hF, h.frame s' k hF]
      exact heq hk

theorem Touches.bind (hm : Touches F m) (hf : ∀ a, Touches F (f a)) : Touches F (m >>= f) where
  frame := fun s k hk => ((hf _).frame _ k hk).trans (hm.frame s k hk)
  result := by
    intro s s' heq
    change ((f (m.run s).1).run (m.run s).2).1 = ((f (m.run s').1).run (m.run s').2).1
    rw [hm.result s s' heq]
    exact (hf _).result _ _ (hm.effect s s' heq)
  effect := by
    intro s s' heq
    change Set.EqOn ((f (m.run s).1).run (m.run s).2).2 ((f (m.run s').1).run (m.run s').2).2 F
    rw [hm.result s s' heq]
    exact (hf _).effect _ _ (hm.effect s s' heq)

theorem Touches.mapM {l : List α} (hf : ∀ a ∈ l, Touches F (f a)) : Touches F (l.mapM f) := by
  induction l with
  | nil => exact Touches.pure []
  | cons a rest ih =>
    rw [List.mapM_cons]
    refine (hf a List.mem_cons_self).bind fun b => ?_
    exact (ih fun c hc => hf c (List.mem_cons_of_mem _ hc)).bind fun bs => Touches.pure (b :: bs)

/-- A program on other keys does not change what a program finds. -/
theorem Touches.eqOn (h : Touches F m) (hapart : Apart F G) (s : κ → ν) :
    Set.EqOn (m.run s).2 s G :=
  fun k hk => h.frame s k fun hF => hapart k hF hk

/-- The rounds of a loop on keys that are apart: each one gives what it gives from the start,
and leaves what it leaves from the start. -/
theorem run_mapM_of_apart {keys : α → Set κ} {l : List α} (hf : ∀ a ∈ l, Touches (keys a) (f a))
    (hapart : l.Pairwise fun a b => Apart (keys a) (keys b)) (s : κ → ν) {i : Nat} {a : α}
    (ha : l[i]? = some a) : ((l.mapM f).run s).1[i]? = some ((f a).run s).1 ∧
      Set.EqOn ((l.mapM f).run s).2 ((f a).run s).2 (keys a) := by
  induction l generalizing s i with
  | nil => cases ha
  | cons b rest ih =>
    obtain ⟨hb, hrest⟩ := List.pairwise_cons.mp hapart
    have hlater : ∀ c ∈ rest, Touches (keys c) (f c) := fun c hc =>
      hf c (List.mem_cons_of_mem _ hc)
    rw [List.mapM_cons]
    cases i with
    | zero =>
      obtain rfl : b = a := Option.some.inj ha
      refine ⟨rfl, ?_⟩
      have htouch : Touches {k | ∃ c ∈ rest, k ∈ keys c} (rest.mapM f) :=
        Touches.mapM fun c hc => (hlater c hc).mono fun k hk => ⟨c, hc, hk⟩
      refine htouch.eqOn ?_ ((f b).run s).2
      rintro k ⟨c, hc, hk⟩ hkb
      exact hb c hc k hkb hk
    | succ i =>
      have hmem : a ∈ rest := List.mem_of_getElem? ha
      have hsame : Set.EqOn ((f b).run s).2 s (keys a) :=
        (hf b List.mem_cons_self).eqOn (hb a hmem) s
      obtain ⟨hresult, heffect⟩ := ih hlater hrest ((f b).run s).2 ha
      refine ⟨?_, ?_⟩
      · rw [← (hlater a hmem).result _ _ hsame]
        exact hresult
      · exact heffect.trans ((hlater a hmem).effect _ _ hsame)

end Footprint
