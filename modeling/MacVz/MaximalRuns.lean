/-
Maximal runs of a list: the kept stretches between separators, and the loop
that writes them out with one separator between two neighbours.  Two lists
collapse to the same text exactly when they have the same runs.
-/
import Mathlib.Data.List.DropRight

namespace MaximalRuns

universe u

variable {α : Type u} {a sep : α} {word l : List α} {keep : α → Bool}

/-- The maximal stretches of elements satisfying `keep`, in order. -/
def runs (keep : α → Bool) (l : List α) : List (List α) :=
  (l.splitOnP (fun a => !keep a)).filter (fun w => !w.isEmpty)

/-- Copy kept elements and write one `sep` for every stretch of the others;
`last` says that the element written last was a separator. -/
def collapse (keep : α → Bool) (sep : α) : Bool → List α → List α
  | _, [] => []
  | last, a :: rest =>
    if keep a then a :: collapse keep sep false rest
    else if last then collapse keep sep true rest
    else sep :: collapse keep sep true rest

def trim [BEq α] (sep : α) (l : List α) : List α :=
  (l.dropWhile (· == sep)).rdropWhile (· == sep)

@[simp]
theorem runs_nil (keep : α → Bool) : runs keep [] = [] := by
  simp [runs]

theorem runs_append_cons (keep : α → Bool) (front back : List α) (ha : keep a = false) :
    runs keep (front ++ a :: back) = runs keep front ++ runs keep back := by
  unfold runs
  rw [List.splitOnP_append_cons front back (by simp [ha]), List.filter_append]

theorem runs_cons_of_not_keep (keep : α → Bool) (back : List α) (ha : keep a = false) :
    runs keep (a :: back) = runs keep back := by
  simpa using runs_append_cons keep [] back ha

theorem runs_of_all_keep (keep : α → Bool) (hne : word ≠ []) (hword : ∀ a ∈ word, keep a = true) :
    runs keep word = [word] := by
  unfold runs
  rw [List.splitOnP_eq_singleton (fun a ha => by simp [hword a ha])]
  simp [hne]

theorem mem_runs_ne_nil (hword : word ∈ runs keep l) : word ≠ [] := by
  simp only [runs, List.mem_filter] at hword
  simpa using hword.2

theorem keep_of_mem_splitOnP (l : List α) :
    ∀ part ∈ l.splitOnP (fun a => !keep a), ∀ a ∈ part, keep a = true := by
  induction l with
  | nil => simp
  | cons head tail ih =>
    rw [List.splitOnP_cons_eq_if_modifyHead]
    by_cases hkeep : keep head = true
    · obtain ⟨first, others, hsplit⟩ := List.exists_cons_of_ne_nil
        (List.splitOnP_ne_nil (fun a => !keep a) tail)
      rw [hsplit] at ih ⊢
      simpa [hkeep] using ih
    · simpa [hkeep] using ih

section Separator

variable [DecidableEq α]

theorem not_mem_of_mem_splitOn {part : List α} (h : part ∈ l.splitOn sep) : sep ∉ part := by
  have hmark : (fun a : α => !(a != sep)) = (· == sep) := by
    simp [bne]
  rw [List.splitOn, ← hmark] at h
  intro hsep
  simpa using keep_of_mem_splitOnP l part h sep hsep

theorem subset_of_mem_splitOn (sep : α) (l : List α) : ∀ part ∈ l.splitOn sep, part ⊆ l := by
  induction l with
  | nil => simp [List.splitOn]
  | cons head tail ih =>
    rw [List.splitOn] at ih ⊢
    rw [List.splitOnP_cons_eq_if_modifyHead]
    have hlater : ∀ part ∈ tail.splitOnP (· == sep), part ⊆ head :: tail :=
      fun part hpart => List.Subset.trans (ih part hpart) (List.subset_cons_self head tail)
    split
    · intro part hpart
      rcases List.mem_cons.mp hpart with rfl | hpart
      · exact List.nil_subset _
      · exact hlater part hpart
    · obtain ⟨first, others, hsplit⟩ := List.exists_cons_of_ne_nil
        (List.splitOnP_ne_nil (· == sep) tail)
      rw [hsplit] at ih hlater ⊢
      intro part hpart
      rcases List.mem_cons.mp hpart with rfl | hpart
      · exact List.cons_subset_cons head (ih first List.mem_cons_self)
      · exact hlater part (List.mem_cons_of_mem first hpart)

end Separator

theorem keep_of_mem_runs (hword : word ∈ runs keep l) (ha : a ∈ word) : keep a = true := by
  simp only [runs, List.mem_filter] at hword
  exact keep_of_mem_splitOnP l word hword.1 a ha

theorem runs_ne_nil (ha : a ∈ l) (hkeep : keep a = true) : runs keep l ≠ [] := by
  induction l with
  | nil => cases ha
  | cons head tail ih =>
    by_cases hhead : keep head = true
    · obtain ⟨first, others, hsplit⟩ := List.exists_cons_of_ne_nil
        (List.splitOnP_ne_nil (fun a => !keep a) tail)
      rw [runs, List.splitOnP_cons_eq_if_modifyHead, hsplit]
      simp [hhead]
    · rw [runs_cons_of_not_keep keep tail (by simpa using hhead)]
      rcases List.mem_cons.mp ha with rfl | htail
      · exact absurd hkeep hhead
      · exact ih htail

/-- Joined lists have their own elements and those of the separator. -/
theorem mem_intercalate {between : List α} {words : List (List α)}
    (h : a ∈ between.intercalate words) : a ∈ between ∨ ∃ w ∈ words, a ∈ w := by
  induction words with
  | nil => cases h
  | cons w rest ih =>
    cases rest with
    | nil =>
      rw [List.intercalate_singleton] at h
      exact Or.inr ⟨w, List.mem_cons_self, h⟩
    | cons next rest =>
      rw [List.intercalate_cons_cons, List.mem_append, List.mem_append] at h
      rcases h with (hword | hbetween) | hrest
      · exact Or.inr ⟨w, List.mem_cons_self, hword⟩
      · exact Or.inl hbetween
      · refine (ih hrest).imp_right ?_
        rintro ⟨v, hv, hmem⟩
        exact ⟨v, List.mem_cons_of_mem _ hv, hmem⟩

theorem mem_collapse {last : Bool} (h : a ∈ collapse keep sep last l) :
    keep a = true ∨ a = sep := by
  induction l generalizing last with
  | nil => cases h
  | cons head tail ih =>
    rw [collapse] at h
    split at h
    · rename_i hkeep
      rcases List.mem_cons.mp h with rfl | hmem
      · exact Or.inl hkeep
      · exact ih hmem
    · split at h
      · exact ih h
      · rcases List.mem_cons.mp h with rfl | hmem
        · exact Or.inr rfl
        · exact ih hmem

theorem mem_of_mem_trim [BEq α] (h : a ∈ trim sep l) : a ∈ l :=
  (List.dropWhile_sublist _).subset ((List.rdropWhile_prefix _ _).subset h)

theorem collapse_true_head? [DecidableEq α] (hsep : keep sep = false) (l : List α) :
    (collapse keep sep true l).head? ≠ some sep := by
  induction l with
  | nil => simp [collapse]
  | cons head tail ih =>
    by_cases hkeep : keep head = true
    · simp only [collapse, hkeep, ↓reduceIte, List.head?_cons, ne_eq, Option.some.injEq]
      rintro rfl
      simp [hsep] at hkeep
    · simpa [collapse, hkeep] using ih

/-- Dropping the leading separator is the same as starting in the state that
has just written one. -/
theorem dropWhile_collapse_false [DecidableEq α] (hsep : keep sep = false) (l : List α) :
    (collapse keep sep false l).dropWhile (· == sep) =
      collapse keep sep true l := by
  have hstable : (collapse keep sep true l).dropWhile (· == sep) = collapse keep sep true l := by
    have hhead := collapse_true_head? hsep l
    cases hrest : collapse keep sep true l with
    | nil => rfl
    | cons head tail =>
      have hne : (head == sep) = false := by
        rw [hrest] at hhead
        simpa using hhead
      simp [List.dropWhile, hne]
  cases l with
  | nil => rfl
  | cons head tail =>
    by_cases hkeep : keep head = true
    · simpa [collapse, hkeep] using hstable
    · simpa [collapse, hkeep] using hstable

theorem rdropWhile_append_cons (drop : α → Bool) (front back : List α) (ha : drop a = true) :
    (front ++ a :: back).rdropWhile drop =
      if back.rdropWhile drop = [] then front.rdropWhile drop
      else front ++ a :: back.rdropWhile drop := by
  induction back using List.reverseRecOn with
  | nil => simp [List.rdropWhile_concat_pos drop front a ha]
  | append_singleton init last ih =>
    by_cases hlast : drop last = true
    · rw [← List.cons_append, ← List.append_assoc,
        List.rdropWhile_concat_pos _ _ _ hlast,
        List.rdropWhile_concat_pos _ _ _ hlast]
      exact ih
    · rw [← List.cons_append, ← List.append_assoc,
        List.rdropWhile_concat_neg _ _ _ hlast,
        List.rdropWhile_concat_neg _ _ _ hlast]
      simp

/-- Dropping from the end stops at the last element that is not dropped. -/
theorem prefix_rdropWhile (drop : α → Bool) (front back : List α) (ha : drop a = false) :
    front ++ [a] <+: (front ++ a :: back).rdropWhile drop := by
  induction back using List.reverseRecOn with
  | nil =>
    have hkept := List.rdropWhile_concat_neg drop front a (by simp [ha])
    exact ⟨[], by rw [List.append_nil, hkept]⟩
  | append_singleton init last ih =>
    rw [← List.cons_append, ← List.append_assoc, List.rdropWhile_concat]
    split
    · exact ih
    · exact ⟨init ++ [last], by simp⟩

theorem rdropWhile_eq_self_of_all_keep [DecidableEq α] (hsep : keep sep = false)
    (hword : ∀ a ∈ word, keep a = true) : word.rdropWhile (· == sep) = word := by
  rw [List.rdropWhile_eq_self_iff]
  intro hne hlast
  have hkeep := hword _ (List.getLast_mem hne)
  rw [beq_iff_eq.mp hlast] at hkeep
  simp [hsep] at hkeep

/-- The loop followed by the right trim, from both of its states: from the
separator state it writes the runs of the rest, and in the middle of a word it
completes that word first. -/
theorem rdropWhile_collapse [DecidableEq α] (hsep : keep sep = false) (l : List α) :
    (collapse keep sep true l).rdropWhile (· == sep) =
        [sep].intercalate (runs keep l) ∧
      ∀ word : List α, word ≠ [] → (∀ a ∈ word, keep a = true) →
        (word ++ collapse keep sep false l).rdropWhile (· == sep) =
          [sep].intercalate (runs keep (word ++ l)) := by
  induction l with
  | nil =>
    refine ⟨by simp [collapse, List.intercalate], ?_⟩
    intro word hne hword
    rw [List.append_nil, runs_of_all_keep keep hne hword]
    simpa [collapse, List.intercalate] using rdropWhile_eq_self_of_all_keep hsep hword
  | cons head tail ih =>
    obtain ⟨ihTrue, ihWord⟩ := ih
    by_cases hkeep : keep head = true
    · constructor
      · simpa [collapse, hkeep] using ihWord [head] (by simp) (by simpa using hkeep)
      · intro word hne hword
        have hword' : ∀ a ∈ word ++ [head], keep a = true := by
          intro a ha
          rcases List.mem_append.mp ha with hold | hnew
          · exact hword a hold
          · rw [List.mem_singleton.mp hnew]
            exact hkeep
        simpa [collapse, hkeep] using ihWord (word ++ [head]) (by simp) hword'
    · have hskip : keep head = false := by simpa using hkeep
      constructor
      · rw [runs_cons_of_not_keep keep tail hskip]
        simpa [collapse, hskip] using ihTrue
      · intro word hne hword
        rw [runs_append_cons keep word tail hskip, runs_of_all_keep keep hne hword]
        simp only [collapse, hskip, Bool.false_eq_true, ↓reduceIte]
        rw [rdropWhile_append_cons _ _ _ (by simp), ihTrue,
          rdropWhile_eq_self_of_all_keep hsep hword]
        cases hruns : runs keep tail with
        | nil => simp [List.intercalate]
        | cons first others =>
          have hfirst : first ≠ [] :=
            mem_runs_ne_nil (by rw [hruns]; exact List.mem_cons_self)
          have hjoin : [sep].intercalate (first :: others) ≠ [] := by
            cases others <;> simp [List.intercalate, hfirst]
          rw [if_neg hjoin]
          simp [List.intercalate]

/-- What the loop and the trim leave are the runs, joined by one separator. -/
theorem trim_collapse [DecidableEq α] (hsep : keep sep = false) (l : List α) :
    trim sep (collapse keep sep false l) = [sep].intercalate (runs keep l) := by
  unfold trim
  rw [dropWhile_collapse_false hsep]
  exact (rdropWhile_collapse hsep l).1

/-- Joined runs are equal exactly where the runs are. -/
theorem intercalate_runs_inj [DecidableEq α] (hsep : keep sep = false) {left right : List α}
    (hleft : runs keep left ≠ []) (hright : runs keep right ≠ []) :
    [sep].intercalate (runs keep left) = [sep].intercalate (runs keep right) ↔
      runs keep left = runs keep right := by
  have hfree : ∀ l : List α, ∀ word ∈ runs keep l, sep ∉ word := by
    intro l word hword hmem
    have hkeep := keep_of_mem_runs hword hmem
    simp [hsep] at hkeep
  constructor
  · intro heq
    rw [← List.splitOn_intercalate sep (hfree left) hleft, heq,
      List.splitOn_intercalate sep (hfree right) hright]
  · exact fun heq => by rw [heq]

end MaximalRuns
