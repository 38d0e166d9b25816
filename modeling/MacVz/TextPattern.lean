/-
Patterns over text as a backtracking engine reads them.  A pattern lists what it may read at a
position, the preferred reading first; a relation says what it may read without the order.
-/
import Mathlib.Data.List.Basic

namespace TextPattern

variable {s : List Char} {c : Char} {accepts : Char → Bool}

/-- The character in front of what follows a text. -/
def lastOf : Option Char → List Char → Option Char
  | before, [] => before
  | _, c :: s => lastOf (some c) s

@[simp] theorem lastOf_nil (before : Option Char) : lastOf before [] = before := rfl

@[simp] theorem lastOf_cons (before : Option Char) (c : Char) (s : List Char) :
    lastOf before (c :: s) = lastOf (some c) s := rfl

@[simp] theorem lastOf_append (before : Option Char) (s t : List Char) :
    lastOf before (s ++ t) = lastOf (lastOf before s) t := by
  induction s generalizing before with
  | nil => rfl
  | cons c s ih => exact ih (some c)

theorem lastOf_mem (before : Option Char) (hs : s ≠ []) : ∃ c ∈ s, lastOf before s = some c := by
  induction s generalizing before with
  | nil => exact absurd rfl hs
  | cons c s ih =>
    by_cases hnil : s = []
    · exact ⟨c, by simp, by simp [hnil]⟩
    · obtain ⟨d, hd, hlast⟩ := ih (some c) hnil
      exact ⟨d, List.mem_cons_of_mem c hd, hlast⟩

theorem lastOf_of_getLast? {before : Option Char} (h : s.getLast? = some c) :
    lastOf before s = some c := by
  obtain ⟨s', rfl⟩ := List.getLast?_eq_some_iff.mp h
  rw [lastOf_append]
  rfl

/-- The empty matches of a pattern. -/
inductive Assertion where
  | lineStart
  | lineEnd
  | wordBoundary
deriving Repr, DecidableEq

def isWord (c : Char) : Bool := c.isAlphanum || c == '_'

def Assertion.holds : Assertion → Option Char → Option Char → Bool
  | .lineStart, before, _ => before.all (· == '\n')
  | .lineEnd, _, next => next.all (· == '\n')
  | .wordBoundary, before, next => before.any isWord != next.any isWord

/-- Patterns whose repetitions are of single characters. -/
inductive Pattern where
  | empty
  | assert (condition : Assertion)
  | one (accepts : Char → Bool)
  | many (accepts : Char → Bool)
  | fewest (accepts : Char → Bool)
  | seq (first second : Pattern)
  | alt (first second : Pattern)

variable {p : Pattern}

/-- The splits of a text behind a beginning of accepted characters, shortest beginning first. -/
def splits (accepts : Char → Bool) : List Char → List (List Char × List Char)
  | [] => [([], [])]
  | c :: s =>
    ([], c :: s) :: if accepts c then (splits accepts s).map fun p => (c :: p.1, p.2) else []

/-- What a pattern may read at a position, with what is left, preferred first: a repetition
prefers to read on (`many`) or to stop (`fewest`), an alternative prefers its first pattern. -/
def Pattern.run : Pattern → Option Char → List Char → List (List Char × List Char)
  | .empty, _, s => [([], s)]
  | .assert condition, before, s => if condition.holds before s.head? then [([], s)] else []
  | .one _, _, [] => []
  | .one accepts, _, c :: s => if accepts c then [([c], s)] else []
  | .many accepts, _, s => (splits accepts s).reverse
  | .fewest accepts, _, s => splits accepts s
  | .seq first second, before, s =>
    (first.run before s).flatMap fun p =>
      (second.run (lastOf before p.1) p.2).map fun q => (p.1 ++ q.1, q.2)
  | .alt first second, before, s => first.run before s ++ second.run before s

/-- The pattern may read the text between what stands before and the rest. -/
def Pattern.Matches : Pattern → Option Char → List Char → List Char → Prop
  | .empty, _, text, _ => text = []
  | .assert condition, before, text, rest => text = [] ∧ condition.holds before rest.head? = true
  | .one accepts, _, text, _ => ∃ c, text = [c] ∧ accepts c = true
  | .many accepts, _, text, _ => ∀ c ∈ text, accepts c = true
  | .fewest accepts, _, text, _ => ∀ c ∈ text, accepts c = true
  | .seq first second, before, text, rest =>
    ∃ u v, text = u ++ v ∧ first.Matches before u (v ++ rest) ∧
      second.Matches (lastOf before u) v rest
  | .alt first second, before, text, rest =>
    first.Matches before text rest ∨ second.Matches before text rest

/-- `splits` lists every way to take accepted characters off the front. -/
theorem mem_splits {text rest : List Char} :
    (text, rest) ∈ splits accepts s ↔ s = text ++ rest ∧ ∀ c ∈ text, accepts c = true := by
  induction s generalizing text with
  | nil =>
    rw [splits, List.mem_singleton, Prod.mk.injEq]
    constructor
    · rintro ⟨rfl, rfl⟩
      simp
    · rintro ⟨hsplit, _⟩
      exact List.append_eq_nil_iff.mp hsplit.symm
  | cons c s ih =>
    rw [splits, List.mem_cons, Prod.mk.injEq]
    constructor
    · rintro (⟨rfl, rfl⟩ | hmem)
      · simp
      · split at hmem
        · rename_i hc
          obtain ⟨p, hp, hpair⟩ := List.mem_map.mp hmem
          obtain ⟨rfl, rfl⟩ := Prod.mk.inj hpair
          obtain ⟨rfl, haccepts⟩ := ih.mp hp
          exact ⟨rfl, List.forall_mem_cons.mpr ⟨hc, haccepts⟩⟩
        · cases hmem
    · rintro ⟨hsplit, haccepts⟩
      cases text with
      | nil => exact Or.inl ⟨rfl, hsplit.symm⟩
      | cons d text =>
        obtain ⟨rfl, rfl⟩ := List.cons.inj hsplit
        obtain ⟨hc, haccepts⟩ := List.forall_mem_cons.mp haccepts
        rw [if_pos hc]
        exact Or.inr (List.mem_map.mpr ⟨(text, rest), ih.mpr ⟨rfl, haccepts⟩, rfl⟩)

/-- `run` lists exactly the matches at the front of the text. -/
theorem Pattern.mem_run {before : Option Char} {text rest : List Char} :
    (text, rest) ∈ p.run before s ↔ s = text ++ rest ∧ p.Matches before text rest := by
  induction p generalizing before s text rest with
  | empty =>
    rw [run, List.mem_singleton, Prod.mk.injEq]
    constructor
    · rintro ⟨rfl, rfl⟩
      exact ⟨rfl, rfl⟩
    · rintro ⟨rfl, rfl⟩
      exact ⟨rfl, rfl⟩
  | assert condition =>
    rw [run]
    constructor
    · intro hmem
      split at hmem
      · rename_i hholds
        obtain ⟨rfl, rfl⟩ := Prod.mk.inj (List.mem_singleton.mp hmem)
        exact ⟨rfl, rfl, hholds⟩
      · cases hmem
    · rintro ⟨rfl, rfl, hholds⟩
      rw [List.nil_append, if_pos hholds]
      exact List.mem_singleton.mpr rfl
  | one accepts =>
    constructor
    · intro hmem
      cases s with
      | nil => cases hmem
      | cons c s =>
        rw [run] at hmem
        split at hmem
        · rename_i hc
          obtain ⟨rfl, rfl⟩ := Prod.mk.inj (List.mem_singleton.mp hmem)
          exact ⟨rfl, c, rfl, hc⟩
        · cases hmem
    · rintro ⟨rfl, c, rfl, hc⟩
      rw [List.singleton_append, run, if_pos hc]
      exact List.mem_singleton.mpr rfl
  | many accepts =>
    rw [run, List.mem_reverse]
    exact mem_splits
  | fewest accepts =>
    exact mem_splits
  | seq first second ih₁ ih₂ =>
    rw [run, List.mem_flatMap]
    constructor
    · rintro ⟨⟨u, s'⟩, hu, hmem⟩
      obtain ⟨⟨v, rest'⟩, hv, hpair⟩ := List.mem_map.mp hmem
      obtain ⟨rfl, rfl⟩ := Prod.mk.inj hpair
      obtain ⟨rfl, hsecond⟩ := ih₂.mp hv
      obtain ⟨rfl, hfirst⟩ := ih₁.mp hu
      exact ⟨by rw [List.append_assoc], u, v, rfl, hfirst, hsecond⟩
    · rintro ⟨rfl, u, v, rfl, hfirst, hsecond⟩
      refine ⟨(u, v ++ rest), ih₁.mpr ⟨by rw [List.append_assoc], hfirst⟩, ?_⟩
      exact List.mem_map.mpr ⟨(v, rest), ih₂.mpr ⟨rfl, hsecond⟩, rfl⟩
  | alt first second ih₁ ih₂ =>
    rw [run, List.mem_append, ih₁, ih₂]
    exact and_or_left.symm

def Pattern.some (accepts : Char → Bool) : Pattern := .seq (.one accepts) (.many accepts)

def Pattern.atLeast : Nat → (Char → Bool) → Pattern
  | 0, accepts => .many accepts
  | n + 1, accepts => .seq (.one accepts) (.atLeast n accepts)

def Pattern.optional (accepts : Char → Bool) : Pattern := .alt (.one accepts) .empty

/-- The characters of a word, up to what `fold` identifies. -/
def Pattern.word (fold : Char → Char) : List Char → Pattern
  | [] => .empty
  | c :: cs => .seq (.one fun x => fold x == fold c) (.word fold cs)

/-- One of the patterns, an earlier one preferred; no pattern reads nothing. -/
def Pattern.oneOf : List Pattern → Pattern
  | [] => .empty
  | [p] => p
  | p :: q :: ps => .alt p (oneOf (q :: ps))

section

variable {before : Option Char} {text rest : List Char} {ps : List Pattern} {fold : Char → Char}
  {cs : List Char}

theorem Pattern.matches_word :
    (Pattern.word fold cs).Matches before text rest ↔ text.map fold = cs.map fold := by
  induction cs generalizing before text with
  | nil => simp [word, Matches]
  | cons c cs ih =>
    rw [List.map_cons, List.map_eq_cons_iff]
    constructor
    · rintro ⟨u, v, rfl, ⟨x, rfl, hx⟩, hv⟩
      exact ⟨x, v, rfl, beq_iff_eq.mp hx, ih.mp hv⟩
    · rintro ⟨x, v, rfl, hx, hv⟩
      exact ⟨[x], v, rfl, ⟨x, rfl, beq_iff_eq.mpr hx⟩, ih.mpr hv⟩

theorem Pattern.matches_some : (Pattern.some accepts).Matches before text rest ↔
      text ≠ [] ∧ ∀ c ∈ text, accepts c = true := by
  constructor
  · rintro ⟨u, v, rfl, ⟨x, rfl, hx⟩, hv⟩
    exact ⟨by simp, List.forall_mem_cons.mpr ⟨hx, hv⟩⟩
  · rintro ⟨hne, haccepts⟩
    obtain ⟨x, v, rfl⟩ := List.exists_cons_of_ne_nil hne
    obtain ⟨hx, hv⟩ := List.forall_mem_cons.mp haccepts
    exact ⟨[x], v, rfl, ⟨x, rfl, hx⟩, hv⟩

theorem Pattern.matches_oneOf (hps : ps ≠ []) :
    (Pattern.oneOf ps).Matches before text rest ↔ ∃ p ∈ ps, p.Matches before text rest := by
  induction ps with
  | nil => exact absurd rfl hps
  | cons p ps ih =>
    cases ps with
    | nil => simp [oneOf]
    | cons q ps =>
      rw [oneOf, Matches, ih (List.cons_ne_nil q ps)]
      exact (List.exists_mem_cons_iff (fun p : Pattern => p.Matches before text rest) p _).symm

/-- The pattern looks at nothing around its match. -/
def Pattern.plain : Pattern → Bool
  | .assert _ => false
  | .seq first second | .alt first second => first.plain && second.plain
  | .empty | .one _ | .many _ | .fewest _ => true

def Pattern.avoids (c : Char) : Pattern → Bool
  | .empty | .assert _ => true
  | .one accepts | .many accepts | .fewest accepts => !accepts c
  | .seq first second | .alt first second => first.avoids c && second.avoids c

/-- No match is empty. -/
def Pattern.consumes : Pattern → Bool
  | .one _ => true
  | .seq first second => first.consumes || second.consumes
  | .alt first second => first.consumes && second.consumes
  | .empty | .assert _ | .many _ | .fewest _ => false

theorem Pattern.plain_word (fold : Char → Char) (cs : List Char) :
    (Pattern.word fold cs).plain = true := by
  induction cs with
  | nil => rfl
  | cons c cs ih => exact ih

theorem Pattern.avoids_word (h : fold c ∉ cs.map fold) :
    (Pattern.word fold cs).avoids c = true := by
  induction cs with
  | nil => rfl
  | cons d cs ih =>
    obtain ⟨hd, hcs⟩ := List.ne_and_not_mem_of_not_mem_cons h
    simp only [word, avoids, ih hcs, beq_eq_false_iff_ne.mpr hd, Bool.not_false, Bool.and_true]

theorem Pattern.plain_oneOf (h : ∀ p ∈ ps, p.plain = true) : (Pattern.oneOf ps).plain = true := by
  induction ps with
  | nil => rfl
  | cons p ps ih =>
    obtain ⟨hp, hps⟩ := List.forall_mem_cons.mp h
    cases ps with
    | nil => exact hp
    | cons q ps => exact Bool.and_eq_true_iff.mpr ⟨hp, ih hps⟩

theorem Pattern.avoids_oneOf (h : ∀ p ∈ ps, p.avoids c = true) :
    (Pattern.oneOf ps).avoids c = true := by
  induction ps with
  | nil => rfl
  | cons p ps ih =>
    obtain ⟨hp, hps⟩ := List.forall_mem_cons.mp h
    cases ps with
    | nil => exact hp
    | cons q ps => exact Bool.and_eq_true_iff.mpr ⟨hp, ih hps⟩

theorem Pattern.Matches.of_plain (hplain : p.plain = true) (h : p.Matches before text rest)
    (before' : Option Char) (rest' : List Char) : p.Matches before' text rest' := by
  induction p generalizing before text rest before' rest' with
  | empty => exact h
  | assert _ => cases hplain
  | one _ => exact h
  | many _ => exact h
  | fewest _ => exact h
  | seq first second ih₁ ih₂ =>
    obtain ⟨hfirst, hsecond⟩ := Bool.and_eq_true_iff.mp hplain
    obtain ⟨u, v, rfl, hu, hv⟩ := h
    exact ⟨u, v, rfl, ih₁ hfirst hu before' (v ++ rest'), ih₂ hsecond hv _ rest'⟩
  | alt first second ih₁ ih₂ =>
    obtain ⟨hfirst, hsecond⟩ := Bool.and_eq_true_iff.mp hplain
    rcases h with h | h
    · exact Or.inl (ih₁ hfirst h before' rest')
    · exact Or.inr (ih₂ hsecond h before' rest')

theorem not_mem_of_class (hc : (!accepts c) = true) (htext : ∀ d ∈ text, accepts d = true) :
    c ∉ text := by
  intro hmem
  rw [htext c hmem] at hc
  cases hc

theorem Pattern.Matches.not_mem (havoids : p.avoids c = true) (h : p.Matches before text rest) :
    c ∉ text := by
  induction p generalizing before text rest with
  | empty =>
    obtain rfl : text = [] := h
    exact List.not_mem_nil
  | assert _ =>
    obtain ⟨rfl, _⟩ := h
    exact List.not_mem_nil
  | one accepts =>
    obtain ⟨d, rfl, hd⟩ := h
    exact not_mem_of_class havoids (List.forall_mem_singleton.mpr hd)
  | many accepts => exact not_mem_of_class havoids h
  | fewest accepts => exact not_mem_of_class havoids h
  | seq first second ih₁ ih₂ =>
    obtain ⟨hfirst, hsecond⟩ := Bool.and_eq_true_iff.mp havoids
    obtain ⟨u, v, rfl, hu, hv⟩ := h
    rw [List.mem_append, not_or]
    exact ⟨ih₁ hfirst hu, ih₂ hsecond hv⟩
  | alt first second ih₁ ih₂ =>
    obtain ⟨hfirst, hsecond⟩ := Bool.and_eq_true_iff.mp havoids
    rcases h with h | h
    · exact ih₁ hfirst h
    · exact ih₂ hsecond h

theorem Pattern.Matches.ne_nil (hconsumes : p.consumes = true) (h : p.Matches before text rest) :
    text ≠ [] := by
  induction p generalizing before text rest with
  | empty => cases hconsumes
  | assert _ => cases hconsumes
  | many _ => cases hconsumes
  | fewest _ => cases hconsumes
  | one _ =>
    obtain ⟨c, rfl, _⟩ := h
    exact List.cons_ne_nil c []
  | seq first second ih₁ ih₂ =>
    obtain ⟨u, v, rfl, hu, hv⟩ := h
    rcases Bool.or_eq_true_iff.mp hconsumes with hfirst | hsecond
    · exact List.append_ne_nil_of_left_ne_nil (ih₁ hfirst hu) v
    · exact List.append_ne_nil_of_right_ne_nil u (ih₂ hsecond hv)
  | alt first second ih₁ ih₂ =>
    obtain ⟨hfirst, hsecond⟩ := Bool.and_eq_true_iff.mp hconsumes
    rcases h with h | h
    · exact ih₁ hfirst h
    · exact ih₂ hsecond h

end

/-- Of its accepted characters, a repetition that prefers to read on reads all first. -/
theorem splits_longest (accepts : Char → Bool) (s : List Char) :
    ∃ shorter, (splits accepts s).reverse =
      (s.takeWhile accepts, s.dropWhile accepts) :: shorter := by
  induction s with
  | nil => exact ⟨[], rfl⟩
  | cons c s ih =>
    obtain ⟨shorter, hlongest⟩ := ih
    rw [splits]
    split
    · rename_i hc
      rw [List.takeWhile_cons_of_pos hc, List.dropWhile_cons_of_pos hc, List.reverse_cons,
        ← List.map_reverse, hlongest]
      exact ⟨_, rfl⟩
    · rename_i hc
      rw [List.takeWhile_cons_of_neg hc, List.dropWhile_cons_of_neg hc]
      exact ⟨[], rfl⟩

def Pattern.EndsIn (accepts : Char → Bool) : Pattern → Prop
  | .many accepts' => accepts' = accepts
  | .seq _ second => second.EndsIn accepts
  | _ => False

/-- In front of what goes on with it, the repetition at the end reads all it can, or nothing
goes on from there. -/
theorem Pattern.EndsIn.reads_on (h : p.EndsIn accepts) {β : Type}
    {next : List Char × List Char → List β} {before : Option Char} {b : β}
    (hfirst : ((p.run before s).flatMap next).head? = Option.some b) :
    ∃ text rest, (next (text, rest)).head? = Option.some b ∧
      ((∀ c, rest.head? = Option.some c → accepts c = false) ∨
        next (text ++ rest.takeWhile accepts, rest.dropWhile accepts) = []) := by
  induction p generalizing before s next with
  | many accepts' =>
    obtain rfl : accepts' = accepts := h
    obtain ⟨shorter, hlongest⟩ := splits_longest accepts' s
    have hmem : ∀ q ∈ shorter, q ∈ splits accepts' s := fun q hq => by
      rw [← List.mem_reverse, hlongest]
      exact List.mem_cons_of_mem _ hq
    rw [run, hlongest, List.flatMap_cons, List.head?_append] at hfirst
    rcases Option.or_eq_some_iff.mp hfirst with hfull | ⟨hnone, hshort⟩
    · refine ⟨_, _, hfull, Or.inl fun c hc => ?_⟩
      have hdrop := List.head?_dropWhile_not accepts' s
      rw [hc] at hdrop
      exact hdrop
    · rw [List.head?_flatMap] at hshort
      obtain ⟨⟨text, rest⟩, hq, hhead⟩ := List.exists_of_findSome?_eq_some hshort
      obtain ⟨rfl, haccepts⟩ := mem_splits.mp (hmem _ hq)
      rw [List.takeWhile_append_of_pos haccepts, List.dropWhile_append_of_pos haccepts] at hnone
      exact ⟨text, rest, hhead, Or.inr (List.head?_eq_none_iff.mp hnone)⟩
  | seq first second _ ih =>
    rw [run, List.flatMap_assoc, List.head?_flatMap] at hfirst
    obtain ⟨⟨u, s'⟩, _, hhead⟩ := List.exists_of_findSome?_eq_some hfirst
    rw [List.flatMap_map] at hhead
    obtain ⟨text, rest, hb, hrest⟩ := ih h hhead
    refine ⟨u ++ text, rest, hb, hrest.imp_right fun hnone => ?_⟩
    rw [List.append_assoc]
    exact hnone
  | empty | assert _ | one _ | fewest _ | alt _ _ _ _ => cases h

/-- The preferred reading of such a pattern leaves none of these characters. -/
theorem Pattern.EndsIn.rest_rejected (h : p.EndsIn accepts) {before : Option Char}
    {text rest : List Char} (hfirst : (p.run before s).head? = Option.some (text, rest))
    (hc : rest.head? = Option.some c) : accepts c = false := by
  rw [← List.flatMap_singleton' (p.run before s)] at hfirst
  obtain ⟨text', rest', hb, hrest⟩ := h.reads_on hfirst
  obtain ⟨rfl, rfl⟩ := Prod.mk.inj (Option.some.inj hb)
  rcases hrest with hrejected | hnone
  · exact hrejected c hc
  · cases hnone

def LineEnd (rest : List Char) : Prop := ∀ c, rest.head? = some c → c = '\n'

theorem lineEnd_iff {before : Option Char} {rest : List Char} :
    Assertion.lineEnd.holds before rest.head? = true ↔ LineEnd rest := by
  rw [Assertion.holds, LineEnd]
  cases rest.head? with
  | none => simp
  | some c => simp

def LineStart (before : Option Char) : Prop := ∀ c, before = some c → c = '\n'

theorem lineStart_iff {before next : Option Char} :
    Assertion.lineStart.holds before next = true ↔ LineStart before := by
  rw [Assertion.holds, LineStart]
  cases before with
  | none => simp
  | some c => simp

theorem exists_line (s : List Char) :
    ∃ line rest, s = line ++ rest ∧ '\n' ∉ line ∧ LineEnd rest := by
  induction s with
  | nil => exact ⟨[], [], rfl, List.not_mem_nil, fun _ h => by cases h⟩
  | cons c s ih =>
    by_cases hc : c = '\n'
    · exact ⟨[], c :: s, rfl, List.not_mem_nil, fun d h => (Option.some.inj h).symm.trans hc⟩
    · obtain ⟨line, rest, rfl, hline, hrest⟩ := ih
      have hcons : '\n' ∉ c :: line := List.not_mem_cons_of_ne_of_not_mem (Ne.symm hc) hline
      exact ⟨c :: line, rest, rfl, hcons, hrest⟩

theorem line_unique {line line' rest rest' : List Char} (h : line ++ rest = line' ++ rest')
    (hline : '\n' ∉ line) (hline' : '\n' ∉ line') (hrest : LineEnd rest)
    (hrest' : LineEnd rest') : line = line' := by
  induction line generalizing line' with
  | nil =>
    cases line' with
    | nil => rfl
    | cons c line' =>
      have hc := hrest c (by rw [← List.nil_append rest, h]; rfl)
      exact absurd (hc ▸ List.mem_cons_self) hline'
  | cons c line ih =>
    cases line' with
    | nil =>
      have hc := hrest' c (by rw [← List.nil_append rest', ← h]; rfl)
      exact absurd (hc ▸ List.mem_cons_self) hline
    | cons d line' =>
      obtain ⟨rfl, htail⟩ := List.cons.inj h
      rw [ih htail (List.not_mem_of_not_mem_cons hline) (List.not_mem_of_not_mem_cons hline')]

end TextPattern
