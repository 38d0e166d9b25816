/-
Checks in sequence.  A validator runs one check after the other and reports the
first that fails; it accepts exactly when every check does.
-/
import Mathlib.Data.List.Forall2

namespace Checks

universe u

variable {ε ε' : Type u} {α β : Type} {l : List α} {l' : List β} {convert : α → Except ε β}
  {R : α → β → Prop}

/-- A check that fails with the given error. -/
def demand (condition : Prop) [Decidable condition] (failure : ε) : Except ε Unit :=
  if condition then .ok () else .error failure

/-- A check whose error is put in a context. -/
def within (wrap : ε → ε') : Except ε Unit → Except ε' Unit
  | .ok () => .ok ()
  | .error e => .error (wrap e)

/-- A check of every element, from the first on. -/
def each (check : α → Except ε Unit) : List α → Except ε Unit
  | [] => .ok ()
  | a :: rest => do
      check a
      each check rest

@[simp]
theorem demand_eq_ok (condition : Prop) [Decidable condition] (failure : ε) :
    demand condition failure = .ok () ↔ condition := by
  by_cases h : condition <;> simp [demand, h]

@[simp]
theorem within_eq_ok (wrap : ε → ε') (check : Except ε Unit) :
    within wrap check = .ok () ↔ check = .ok () := by
  cases check <;> simp [within]

theorem bind_eq_ok (check : Except ε α) (next : α → Except ε β) (b : β) :
    (check >>= next) = .ok b ↔ ∃ a, check = .ok a ∧ next a = .ok b := by
  cases check with
  | ok a =>
    change next a = .ok b ↔ _
    simp
  | error e =>
    change Except.error e = Except.ok b ↔ _
    simp

@[simp]
theorem then_eq_ok (check : Except ε Unit) (next : Unit → Except ε β) (b : β) :
    (check >>= next) = .ok b ↔ check = .ok () ∧ next () = .ok b := by
  rw [bind_eq_ok]
  constructor
  · rintro ⟨⟨⟩, hcheck, hnext⟩
    exact ⟨hcheck, hnext⟩
  · rintro ⟨hcheck, hnext⟩
    exact ⟨(), hcheck, hnext⟩

@[simp]
theorem each_eq_ok (check : α → Except ε Unit) (l : List α) :
    each check l = .ok () ↔ ∀ a ∈ l, check a = .ok () := by
  induction l with
  | nil => simp [each]
  | cons a rest ih => simp [each, ih]

/-- `mapM` succeeds exactly where each conversion does. -/
theorem mapM_eq_ok (convert : α → Except ε β) (l : List α) (l' : List β) :
    l.mapM convert = .ok l' ↔ List.Forall₂ (fun a b => convert a = .ok b) l l' := by
  induction l generalizing l' with
  | nil =>
    rw [List.forall₂_nil_left_iff]
    exact ⟨fun h => by cases h; rfl, fun h => by rw [h]; rfl⟩
  | cons a rest ih =>
    rw [List.mapM_cons, List.forall₂_cons_left_iff]
    simp only [bind_eq_ok, ih]
    constructor
    · rintro ⟨b, hb, rest', hrest, hl'⟩
      exact ⟨b, rest', hb, hrest, (Except.ok.inj hl').symm⟩
    · rintro ⟨b, rest', hb, hrest, rfl⟩
      exact ⟨b, hb, rest', hrest, rfl⟩

/-- Every result of a list of conversions comes from an element of the list. -/
theorem exists_of_mem_mapM (h : l.mapM convert = .ok l') {b : β} (hb : b ∈ l') :
    ∃ a ∈ l, convert a = .ok b := by
  rw [mapM_eq_ok] at h
  induction h with
  | nil => cases hb
  | cons hfirst _ ih =>
    rcases List.mem_cons.mp hb with rfl | hb
    · exact ⟨_, List.mem_cons_self, hfirst⟩
    · obtain ⟨a, ha, hconvert⟩ := ih hb
      exact ⟨a, List.mem_cons_of_mem _ ha, hconvert⟩

/-- Conversions that succeed on every element succeed on the list. -/
theorem exists_mapM (h : ∀ a ∈ l, ∃ b, convert a = .ok b) : ∃ l', l.mapM convert = .ok l' := by
  simp only [mapM_eq_ok]
  induction l with
  | nil => exact ⟨[], .nil⟩
  | cons a rest ih =>
    obtain ⟨b, hb⟩ := h a List.mem_cons_self
    obtain ⟨rest', hrest⟩ := ih fun a' ha' => h a' (List.mem_cons_of_mem a ha')
    exact ⟨b :: rest', .cons hb hrest⟩

/-- What holds of related elements alike holds of all of one list as of all of the
other. -/
theorem forall_mem_iff_of_forall₂ {P : α → Prop} {Q : β → Prop} (hR : ∀ a b, R a b → (P a ↔ Q b))
    (h : List.Forall₂ R l l') : (∀ a ∈ l, P a) ↔ ∀ b ∈ l', Q b := by
  induction h with
  | nil => simp
  | cons hfirst _ ih => rw [List.forall_mem_cons, List.forall_mem_cons, hR _ _ hfirst, ih]

theorem pairwise_iff_of_forall₂ {P : α → α → Prop} {Q : β → β → Prop}
    (hR : ∀ a b a' b', R a b → R a' b' → (P a a' ↔ Q b b')) (h : List.Forall₂ R l l') :
    l.Pairwise P ↔ l'.Pairwise Q := by
  induction h with
  | nil => simp
  | cons hfirst hrest ih =>
    rw [List.pairwise_cons, List.pairwise_cons, ih,
      forall_mem_iff_of_forall₂ (fun _ _ h => hR _ _ _ _ hfirst h) hrest]

end Checks
