/-
Runs of consecutive entries in a log that has its latest entry first, and a flag that runs of a
history raise and lower.
-/
import Mathlib.Data.List.Infix
import Mathlib.Data.List.TakeWhile

namespace Streak

universe u

variable {A : Type u} {n : Nat} {log : List A} {a : A} {P : A → Prop}

/-- The length of the latest streak. -/
def latest (p : A → Bool) (log : List A) : Nat := (log.takeWhile p).length

@[simp]
theorem latest_cons_of_pos {p : A → Bool} (h : p a = true) (log : List A) :
    latest p (a :: log) = latest p log + 1 := by
  simp [latest, h]

/-- There was a streak of this length. -/
def Had (n : Nat) (P : A → Prop) (log : List A) : Prop :=
  ∃ later run earlier, log = later ++ run ++ earlier ∧ n ≤ run.length ∧ ∀ a ∈ run, P a

theorem had_of_latest {p : A → Bool} (h : n ≤ latest p log) : Had n (fun a => p a = true) log := by
  refine ⟨[], log.takeWhile p, log.dropWhile p, ?_, h, ?_⟩
  · rw [List.nil_append, List.takeWhile_append_dropWhile]
  · intro a ha
    exact List.mem_takeWhile_imp ha

theorem Had.append (h : Had n P log) (more : List A) : Had n P (more ++ log) := by
  obtain ⟨later, run, earlier, rfl, hlength, hrun⟩ := h
  exact ⟨more ++ later, run, earlier, by simp, hlength, hrun⟩

theorem Had.mono {Q : A → Prop} (h : Had n P log) (hPQ : ∀ a ∈ log, P a → Q a) : Had n Q log := by
  obtain ⟨later, run, earlier, rfl, hlength, hrun⟩ := h
  refine ⟨later, run, earlier, rfl, hlength, ?_⟩
  intro a ha
  exact hPQ a (by simp [ha]) (hrun a ha)

theorem Had.exists_mem (h : Had n P log) (hn : 0 < n) : ∃ a ∈ log, P a := by
  obtain ⟨later, run, earlier, rfl, hlength, hrun⟩ := h
  cases run with
  | nil => simp at hlength; omega
  | cons a rest => exact ⟨a, by simp, hrun a List.mem_cons_self⟩

section Trailing

variable [DecidableEq A]

/-- The length of the run of `a` a history ends with. -/
def trailing (a : A) (history : List A) : Nat := latest (· == a) history.reverse

theorem trailing_snoc_self (a : A) (history : List A) :
    trailing a (history ++ [a]) = trailing a history + 1 := by
  rw [trailing, List.reverse_concat', latest_cons_of_pos (by simp)]
  rfl

theorem trailing_snoc_of_ne {b : A} (h : b ≠ a) (history : List A) :
    trailing a (history ++ [b]) = 0 := by
  simp [trailing, latest, h]

/-- A history ends with `n` times `a` exactly when its last run of `a` is that long. -/
theorem replicate_suffix_iff {history : List A} :
    List.replicate n a <:+ history ↔ n ≤ trailing a history := by
  have hbegins : ∀ (log : List A) (n : Nat),
      List.replicate n a <+: log ↔ n ≤ latest (· == a) log := by
    intro log
    induction log with
    | nil =>
      simp [latest]
    | cons b log ih =>
      intro n
      cases n with
      | zero => simp
      | succ n =>
        by_cases hb : b = a
        · rw [List.replicate_succ, List.cons_prefix_cons, ih n]
          simp [hb]
        · simp [List.replicate_succ, List.cons_prefix_cons, latest, hb, Ne.symm hb]
  rw [← List.reverse_prefix, List.reverse_replicate]
  exact hbegins history.reverse n

end Trailing

/-- A run of `up` times true was completed after which no run of `down` times false was. -/
def Latched (up down : Nat) (history : List Bool) : Prop :=
  ∃ before after, history = before ++ after ∧ List.replicate up true <:+ before ∧
    ¬ List.replicate down false <:+: after

section Latched

variable {up down : Nat} {history : List Bool}

theorem exists_snoc_true (hup : 0 < up) (h : List.replicate up true <:+ history) :
    ∃ front, history = front ++ [true] := by
  obtain ⟨n, rfl⟩ := Nat.exists_eq_succ_of_ne_zero (Nat.pos_iff_ne_zero.mp hup)
  obtain ⟨front, rfl⟩ := h
  exact ⟨front ++ List.replicate n true, by rw [List.replicate_succ', List.append_assoc]⟩

theorem not_latched_nil (hup : 0 < up) : ¬ Latched up down [] := by
  rintro ⟨before, after, hnil, hbefore, -⟩
  obtain ⟨rfl, rfl⟩ := List.append_eq_nil_iff.mp hnil.symm
  simp at hbefore
  omega

theorem latched_of_trailing (hdown : 0 < down) (h : up ≤ trailing true history) :
    Latched up down history := by
  refine ⟨history, [], (List.append_nil history).symm, replicate_suffix_iff.mpr h, ?_⟩
  simp
  omega

/-- A run within a list with one more entry is within the list or ends with that entry. -/
theorem replicate_infix_snoc {b c : Bool} {l : List Bool} (h : List.replicate n b <:+: l ++ [c]) :
    List.replicate n b <:+: l ∨ List.replicate n b <:+ l ++ [c] := by
  obtain ⟨front, back, hsplit⟩ := h
  rcases back.eq_nil_or_concat' with rfl | ⟨back, last, rfl⟩
  · exact Or.inr ⟨front, by simpa using hsplit⟩
  · refine Or.inl ⟨front, back, ?_⟩
    have hinit : (front ++ List.replicate n b ++ back) ++ [last] = l ++ [c] := by
      simpa using hsplit
    exact (List.append_inj' hinit rfl).1

/-- A success raises the flag when it completes a run, and never lowers it. -/
theorem latched_snoc_true (hdown : 0 < down) : Latched up down (history ++ [true]) ↔
      up ≤ trailing true (history ++ [true]) ∨ Latched up down history := by
  constructor
  · rintro ⟨before, after, hsplit, hbefore, hafter⟩
    rcases after.eq_nil_or_concat' with rfl | ⟨after, last, rfl⟩
    · rw [List.append_nil] at hsplit
      rw [hsplit]
      exact Or.inl (replicate_suffix_iff.mp hbefore)
    · have hinit : history ++ [true] = (before ++ after) ++ [last] := by simpa using hsplit
      refine Or.inr ⟨before, after, (List.append_inj' hinit rfl).1, hbefore, fun hrun => ?_⟩
      exact hafter (hrun.trans (List.infix_append' [] after [last]))
  · rintro (hrun | ⟨before, after, rfl, hbefore, hafter⟩)
    · exact latched_of_trailing hdown hrun
    · refine ⟨before, after ++ [true], List.append_assoc _ _ _, hbefore, fun hrun => ?_⟩
      rcases replicate_infix_snoc hrun with hwithin | hends
      · exact hafter hwithin
      · rw [replicate_suffix_iff, trailing_snoc_of_ne (by decide)] at hends
        omega

/-- A failure lowers the flag when it completes a run, and never raises it. -/
theorem latched_snoc_false (hup : 0 < up) : Latched up down (history ++ [false]) ↔
      Latched up down history ∧ ¬ down ≤ trailing false (history ++ [false]) := by
  constructor
  · rintro ⟨before, after, hsplit, hbefore, hafter⟩
    rcases after.eq_nil_or_concat' with rfl | ⟨after, last, rfl⟩
    · rw [List.append_nil] at hsplit
      rw [← hsplit, replicate_suffix_iff, trailing_snoc_of_ne (by decide)] at hbefore
      omega
    · have hinit : history ++ [false] = (before ++ after) ++ [last] := by simpa using hsplit
      obtain ⟨rfl, hlast⟩ := List.append_inj' hinit rfl
      obtain rfl := List.singleton_inj.mp hlast
      refine ⟨⟨before, after, rfl, hbefore, fun hrun => ?_⟩, fun hrun => ?_⟩
      · exact hafter (hrun.trans (List.infix_append' [] after [false]))
      · -- the run cannot go back over the true at the end of the first part
        obtain ⟨front, rfl⟩ := exists_snoc_true hup hbefore
        have hfalse : true ∉ List.replicate down false := by simp
        have htail : true :: (after ++ [false]) <:+ front ++ [true] ++ after ++ [false] :=
          ⟨front, by simp⟩
        rw [← replicate_suffix_iff] at hrun
        rcases List.suffix_or_suffix_of_suffix hrun htail with hwithin | hmore
        · rcases List.suffix_cons_iff.mp hwithin with heq | hends
          · exact hfalse (heq ▸ List.mem_cons_self)
          · exact hafter hends.isInfix
        · exact hfalse (hmore.subset List.mem_cons_self)
  · rintro ⟨⟨before, after, rfl, hbefore, hafter⟩, hrun⟩
    refine ⟨before, after ++ [false], List.append_assoc _ _ _, hbefore, fun hwithin => ?_⟩
    rcases replicate_infix_snoc hwithin with hold | hends
    · exact hafter hold
    · rw [← replicate_suffix_iff, List.append_assoc] at hrun
      exact hrun (hends.trans (List.suffix_append before (after ++ [false])))

theorem not_latched_of_trailing (hup : 0 < up) (hdown : 0 < down)
    (h : down ≤ trailing false history) : ¬ Latched up down history := by
  rcases history.eq_nil_or_concat' with rfl | ⟨history, last, rfl⟩
  · exact not_latched_nil hup
  · cases last with
    | true =>
      rw [trailing_snoc_of_ne (by decide)] at h
      omega
    | false => exact fun hlatched => ((latched_snoc_false hup).mp hlatched).2 h

end Latched

end Streak
