/-
Replacing what a pattern reads.  A rule keeps the first part of each match and puts a fixed text
for the second.  What comes out is aligned with what went in: characters are copied, or a
dropped stretch stands against the new text.
-/
import MacVz.TextPattern

namespace TextPattern

variable {c : Char} {text : List Char}

/-- A pattern in two parts, of which the second reads something. -/
structure Rule where
  keep : Pattern
  drop : Pattern
  drops : drop.consumes = true

namespace Rule

/-- The matches at a position, preferred first: the kept part, the dropped part, the rest. -/
def run (r : Rule) (before : Option Char) (s : List Char) :
    List (List Char × List Char × List Char) :=
  (r.keep.run before s).flatMap fun p =>
    (r.drop.run (lastOf before p.1) p.2).map fun q => (p.1, q.1, q.2)

/-- The match a leftmost-first engine takes. -/
def first (r : Rule) (before : Option Char) (s : List Char) :
    Option (List Char × List Char × List Char) :=
  (r.run before s).head?

/-- Replace the matches from left to right.  The number says how much of the text ahead
belongs to a match that has been replaced. -/
def replace (r : Rule) (new : List Char) : Option Char → Nat → List Char → List Char
  | _, _, [] => []
  | _, n + 1, c :: s => r.replace new (some c) n s
  | before, 0, c :: s =>
    match r.first before (c :: s) with
    | none => c :: r.replace new (some c) 0 s
    | some (kept, dropped, _) =>
      kept ++ new ++ r.replace new (some c) (kept.length + dropped.length - 1) s

/-- `ReplaceAllString`. -/
def replaceAll (r : Rule) (new : List Char) (s : List Char) : List Char :=
  r.replace new none 0 s

/-- The rule may match with the two parts between what stands before and the rest. -/
structure Matches (r : Rule) (before : Option Char) (kept dropped rest : List Char) : Prop where
  keep : r.keep.Matches before kept (dropped ++ rest)
  drop : r.drop.Matches (lastOf before kept) dropped rest

/-- The rule matches somewhere in the text. -/
def Occurs (r : Rule) (text : List Char) : Prop :=
  ∃ front kept dropped rest, text = front ++ (kept ++ (dropped ++ rest)) ∧
    r.Matches (lastOf none front) kept dropped rest

def OnlyDrops (r : Rule) (new text : List Char) : Prop :=
  ∀ front kept dropped rest, text = front ++ (kept ++ (dropped ++ rest)) →
    r.Matches (lastOf none front) kept dropped rest → dropped = new

variable {r : Rule} {before : Option Char} {s kept dropped rest new : List Char}

theorem Matches.dropped_ne_nil (h : r.Matches before kept dropped rest) : dropped ≠ [] :=
  h.drop.ne_nil r.drops

theorem mem_run : (kept, dropped, rest) ∈ r.run before s ↔
    s = kept ++ (dropped ++ rest) ∧ r.Matches before kept dropped rest := by
  rw [run, List.mem_flatMap]
  constructor
  · rintro ⟨⟨u, s'⟩, hu, hmem⟩
    obtain ⟨⟨v, rest'⟩, hv, htriple⟩ := List.mem_map.mp hmem
    obtain ⟨rfl, hpair⟩ := Prod.mk.inj htriple
    obtain ⟨rfl, rfl⟩ := Prod.mk.inj hpair
    obtain ⟨rfl, hdrop⟩ := Pattern.mem_run.mp hv
    obtain ⟨rfl, hkeep⟩ := Pattern.mem_run.mp hu
    exact ⟨rfl, hkeep, hdrop⟩
  · rintro ⟨rfl, hkeep, hdrop⟩
    refine ⟨(kept, dropped ++ rest), Pattern.mem_run.mpr ⟨rfl, hkeep⟩, ?_⟩
    exact List.mem_map.mpr ⟨(dropped, rest), Pattern.mem_run.mpr ⟨rfl, hdrop⟩, rfl⟩

theorem matches_of_first (h : r.first before s = some (kept, dropped, rest)) :
    s = kept ++ (dropped ++ rest) ∧ r.Matches before kept dropped rest :=
  mem_run.mp (List.mem_of_head? h)

theorem not_matches_of_first (h : r.first before (kept ++ (dropped ++ rest)) = none) :
    ¬ r.Matches before kept dropped rest := by
  intro hmatch
  have hmem : (kept, dropped, rest) ∈ r.run before (kept ++ (dropped ++ rest)) :=
    mem_run.mpr ⟨rfl, hmatch⟩
  rw [List.head?_eq_none_iff.mp h] at hmem
  cases hmem

theorem head_of_first (h : r.first before s = some (kept, dropped, rest)) :
    ∃ s', (r.drop.run (lastOf before kept) s').head? = some (dropped, rest) := by
  rw [first, run, List.head?_flatMap] at h
  obtain ⟨⟨u, s'⟩, _, hhead⟩ := List.exists_of_findSome?_eq_some h
  rw [List.head?_map] at hhead
  obtain ⟨⟨v, rest'⟩, hv, htriple⟩ := Option.map_eq_some_iff.mp hhead
  obtain ⟨rfl, hpair⟩ := Prod.mk.inj htriple
  obtain ⟨rfl, rfl⟩ := Prod.mk.inj hpair
  exact ⟨s', hv⟩

/-- When the kept part ends in a repetition, it reads all it can, or nothing can be dropped
from there. -/
theorem keep_reads_on {accepts : Char → Bool} (hends : r.keep.EndsIn accepts)
    (h : r.first before s = some (kept, dropped, rest)) :
    (∀ c, (dropped ++ rest).head? = some c → accepts c = false) ∨
      ∃ before', ∀ text rest', (dropped ++ rest).dropWhile accepts = text ++ rest' →
        ¬ r.drop.Matches before' text rest' := by
  obtain ⟨text, tail, hhead, htail⟩ := hends.reads_on h
  rw [List.head?_map] at hhead
  obtain ⟨⟨v, rest'⟩, hv, htriple⟩ := Option.map_eq_some_iff.mp hhead
  obtain ⟨rfl, hpair⟩ := Prod.mk.inj htriple
  obtain ⟨rfl, rfl⟩ := Prod.mk.inj hpair
  obtain ⟨rfl, _⟩ := Pattern.mem_run.mp (List.mem_of_head? hv)
  rcases htail with hrejected | hnone
  · exact Or.inl hrejected
  · right
    refine ⟨lastOf before (text ++ (v ++ rest').takeWhile accepts), ?_⟩
    intro text' rest'' hsplit hmatch
    have hmem := Pattern.mem_run.mpr ⟨hsplit, hmatch⟩
    rw [List.map_eq_nil_iff.mp hnone] at hmem
    cases hmem

theorem replace_skip (h : r.first before (c :: s) = none) :
    r.replace new before 0 (c :: s) = c :: r.replace new (some c) 0 s := by
  rw [replace, h]

theorem replace_pass (text : List Char) :
    r.replace new before text.length (text ++ s) = r.replace new (lastOf before text) 0 s := by
  induction text generalizing before with
  | nil => rfl
  | cons c text ih => exact ih

theorem replace_hit (h : r.first before s = some (kept, dropped, rest)) : r.replace new before 0 s =
      kept ++ (new ++ r.replace new (lastOf before (kept ++ dropped)) 0 rest) := by
  obtain ⟨rfl, hmatch⟩ := matches_of_first h
  have hne : kept ++ dropped ≠ [] :=
    List.append_ne_nil_of_right_ne_nil kept hmatch.dropped_ne_nil
  obtain ⟨c, text, htext⟩ := List.exists_cons_of_ne_nil hne
  have hlength : kept.length + dropped.length - 1 = text.length := by
    rw [← List.length_append, htext, List.length_cons, Nat.add_sub_cancel]
  rw [← List.append_assoc, htext, List.cons_append] at h ⊢
  rw [replace, h]
  simp only
  rw [hlength, replace_pass, List.append_assoc]
  rfl

end Rule

/-- Behind `front`, the text `s` came out as `t`: characters were copied where `kept` allows it,
and a stretch that `dropped` allows was replaced by the new text. -/
inductive Aligned (new : List Char) (kept dropped : List Char → List Char → List Char → Prop) :
    List Char → List Char → List Char → Prop where
  | nil (front : List Char) : Aligned new kept dropped front [] []
  | keep {front s t : List Char} {c : Char} (hkept : kept front (c :: s) (c :: t))
      (hrest : Aligned new kept dropped (front ++ [c]) s t) :
      Aligned new kept dropped front (c :: s) (c :: t)
  | drop {front v s t : List Char} (hne : v ≠ []) (hdropped : dropped front v s)
      (hrest : Aligned new kept dropped (front ++ v) s t) :
      Aligned new kept dropped front (v ++ s) (new ++ t)

namespace Aligned

variable {new : List Char} {kept dropped : List Char → List Char → List Char → Prop}
  {front s t : List Char}

theorem keep_append (hkept : ∀ u v, text = u ++ v → v ≠ [] → kept (front ++ u) (v ++ s) (v ++ t))
    (hrest : Aligned new kept dropped (front ++ text) s t) :
    Aligned new kept dropped front (text ++ s) (text ++ t) := by
  induction text generalizing front with
  | nil => simpa using hrest
  | cons c text ih =>
    have hhere := hkept [] (c :: text) rfl (List.cons_ne_nil c text)
    rw [List.append_nil] at hhere
    apply keep hhere
    apply ih
    · intro u v htext hv
      have hnext := hkept (c :: u) v (by rw [htext, List.cons_append]) hv
      rwa [List.append_cons] at hnext
    · rwa [← List.append_cons]

theorem eq_nil_of_nil (h : Aligned new kept dropped front [] t) : t = [] := by
  generalize hs : ([] : List Char) = s at h
  cases h with
  | nil => rfl
  | keep => cases hs
  | drop hne => exact absurd (List.append_eq_nil_iff.mp hs.symm).1 hne

theorem nil_of_eq_nil (h : Aligned new kept dropped front s []) (hnew : new ≠ []) : s = [] := by
  generalize ht : ([] : List Char) = t at h
  cases h with
  | nil => rfl
  | keep => cases ht
  | drop => exact absurd (List.append_eq_nil_iff.mp ht.symm).1 hnew

/-- A rewriting that drops only what it puts in changes nothing. -/
theorem eq_of_dropped (h : Aligned new kept dropped front s t)
    (hdropped : ∀ v rest front', front ++ s = front' ++ (v ++ rest) → dropped front' v rest →
      v = new) : t = s := by
  induction h with
  | nil => rfl
  | keep _ _ ih =>
    rw [ih]
    intro v rest front' htext
    rw [List.append_assoc] at htext
    exact hdropped v rest front' htext
  | @drop front v s t _ hdrop _ ih =>
    rw [hdropped v s front rfl hdrop, ih]
    intro v' rest front' htext
    rw [List.append_assoc] at htext
    exact hdropped v' rest front' htext

theorem copied_char {first : Char} (hfirst : new.head? = some first)
    (h : Aligned new kept dropped front s (c :: t)) (hc : c ≠ first) :
    ∃ s', s = c :: s' ∧ kept front (c :: s') (c :: t) ∧
      Aligned new kept dropped (front ++ [c]) s' t := by
  generalize ht : c :: t = t' at h
  cases h with
  | nil => cases ht
  | keep hkept hrest =>
    obtain ⟨rfl, rfl⟩ := List.cons.inj ht
    exact ⟨_, rfl, hkept, hrest⟩
  | drop =>
    obtain ⟨new', rfl⟩ := List.head?_eq_some_iff.mp hfirst
    exact absurd (List.cons.inj ht).1 hc

theorem copied {first : Char} (hfirst : new.head? = some first)
    (h : Aligned new kept dropped front s (text ++ t)) (htext : first ∉ text) :
    ∃ s', s = text ++ s' ∧ Aligned new kept dropped (front ++ text) s' t := by
  induction text generalizing front s with
  | nil => exact ⟨s, rfl, by rwa [List.append_nil]⟩
  | cons c text ih =>
    obtain ⟨hc, htext⟩ := List.ne_and_not_mem_of_not_mem_cons htext
    obtain ⟨s', rfl, _, hrest⟩ := h.copied_char hfirst hc.symm
    obtain ⟨s'', rfl, hrest⟩ := ih hrest htext
    exact ⟨s'', rfl, by rwa [List.append_cons]⟩

theorem kept_char (h : Aligned new kept dropped front (c :: s) t)
    (hc : ∀ v rest, ¬ dropped front (c :: v) rest) :
    ∃ t', t = c :: t' ∧ Aligned new kept dropped (front ++ [c]) s t' := by
  generalize hs : c :: s = s' at h
  cases h with
  | nil => cases hs
  | keep _ hrest =>
    obtain ⟨rfl, rfl⟩ := List.cons.inj hs
    exact ⟨_, rfl, hrest⟩
  | @drop _ v s' _ hne hdropped =>
    obtain ⟨d, v, rfl⟩ := List.exists_cons_of_ne_nil hne
    obtain ⟨rfl, _⟩ := List.cons.inj hs
    exact absurd hdropped (hc v s')

theorem kept_text (h : Aligned new kept dropped front (text ++ s) t)
    (htext : ∀ u c v, text = u ++ c :: v → ∀ v' rest, ¬ dropped (front ++ u) (c :: v') rest) :
    ∃ t', t = text ++ t' ∧ Aligned new kept dropped (front ++ text) s t' := by
  induction text generalizing front t with
  | nil => exact ⟨t, rfl, by rwa [List.append_nil]⟩
  | cons c text ih =>
    have hc := htext [] c text rfl
    rw [List.append_nil] at hc
    obtain ⟨t', rfl, hrest⟩ := h.kept_char hc
    obtain ⟨t'', rfl, hrest⟩ := ih hrest fun u d v hsplit => by
      have hd := htext (c :: u) d v (by rw [hsplit, List.cons_append])
      rwa [List.append_cons] at hd
    exact ⟨t'', rfl, by rwa [List.append_cons]⟩

end Aligned

/-- A stretch that overlaps the new text nowhere: it has neither of its ends, and something
that is not in it. -/
structure Apart (new text : List Char) : Prop where
  first : ∃ c, new.head? = some c ∧ c ∉ text
  last : ∃ c, new.getLast? = some c ∧ c ∉ text
  foreign : ∃ c ∈ text, c ∉ new

theorem Apart.ne_nil {new : List Char} (h : Apart new text) : text ≠ [] := by
  obtain ⟨c, hc, _⟩ := h.foreign
  exact List.ne_nil_of_mem hc

/-- Where the stretch stands behind the new text or a part of it, it stands behind all of it. -/
theorem Apart.split {new front rest t : List Char} (h : Apart new text)
    (heq : new ++ t = front ++ (text ++ rest)) :
    ∃ front', front = new ++ front' ∧ t = front' ++ (text ++ rest) := by
  rcases List.append_eq_append_iff.mp heq with ⟨front', hfront, ht⟩ | ⟨tail, hnew, ht⟩
  · exact ⟨front', hfront, ht⟩
  · by_cases htail : tail = []
    · subst htail
      rw [List.append_nil] at hnew
      exact ⟨[], by rw [hnew, List.append_nil], ht.symm⟩
    · -- the stretch would begin inside the new text
      exfalso
      rcases List.append_eq_append_iff.mp ht with ⟨more, hmore, _⟩ | ⟨more, hmore, _⟩
      · obtain ⟨c, hc, hforeign⟩ := h.foreign
        apply hforeign
        rw [hnew, hmore]
        simp [hc]
      · obtain ⟨c, hlast, hc⟩ := h.last
        apply hc
        rw [hnew, List.getLast?_append_of_ne_nil _ htail] at hlast
        rw [hmore]
        exact List.mem_append_left more (List.mem_of_getLast? hlast)

theorem Apart.before {new rest s t : List Char} (h : Apart new text)
    (heq : text ++ rest = s ++ (new ++ t)) :
    ∃ more, s = text ++ more ∧ rest = more ++ (new ++ t) := by
  rcases List.append_eq_append_iff.mp heq with ⟨more, hs, hrest⟩ | ⟨more, htext, hnew⟩
  · exact ⟨more, hs, hrest⟩
  · cases more with
    | nil => exact ⟨[], by rw [htext, List.append_nil, List.append_nil], hnew.symm⟩
    | cons c more =>
      -- the stretch would reach into the new text
      obtain ⟨first, hfirst, hnot⟩ := h.first
      obtain ⟨new', rfl⟩ := List.head?_eq_some_iff.mp hfirst
      obtain ⟨rfl, _⟩ := List.cons.inj hnew
      exact absurd (by simp [htext]) hnot

/-- A character of a text of two parts stands in the first or in the second. -/
theorem append_cons_split {x y first second : List Char} (h : x ++ c :: y = first ++ second) :
    (∃ more, first = x ++ c :: more) ∨ ∃ more, x = first ++ more ∧ second = more ++ c :: y := by
  rcases List.append_eq_append_iff.mp h with ⟨more, hfirst, hsecond⟩ | ⟨more, hx, hsecond⟩
  · cases more with
    | nil => exact Or.inr ⟨[], by rw [hfirst, List.append_nil, List.append_nil], hsecond.symm⟩
    | cons d more =>
      obtain ⟨rfl, _⟩ := List.cons.inj hsecond
      exact Or.inl ⟨more, hfirst⟩
  · exact Or.inr ⟨more, hx, hsecond⟩

/-- How what stands in front of a place came out: there is nothing, or a copied character, or a
dropped stretch right before it. -/
inductive Behind (new : List Char) (dropped : List Char → List Char → List Char → Prop)
    (front rest : List Char) : List Char → List Char → Prop where
  | start : Behind new dropped front rest [] []
  | char (c : Char) (s t : List Char) : Behind new dropped front rest (s ++ [c]) (t ++ [c])
  | drop {v s t : List Char} (hdropped : dropped (front ++ s) v rest) :
      Behind new dropped front rest (s ++ v) (t ++ new)

theorem Behind.lastOf_eq {new : List Char} {dropped : List Char → List Char → List Char → Prop}
    {rest s t : List Char} (h : Behind new dropped [] rest s t) {last : Char}
    (hlast : new.getLast? = some last) : lastOf none t = lastOf none s ∨
      lastOf none t = some last ∧ ∃ front v, dropped front v rest := by
  cases h with
  | start => exact Or.inl rfl
  | char c s t =>
    rw [lastOf_append, lastOf_append]
    exact Or.inl rfl
  | drop hdropped =>
    rw [lastOf_append none _ new, lastOf_of_getLast? hlast]
    exact Or.inr ⟨rfl, _, _, hdropped⟩

namespace Aligned

variable {new : List Char} {kept dropped : List Char → List Char → List Char → Prop}
  {front s t : List Char}

theorem locate {pre rest : List Char} (hapart : Apart new text)
    (h : Aligned new kept dropped front s t) (ht : t = pre ++ (text ++ rest)) :
    ∃ pre' s', s = pre' ++ s' ∧ Aligned new kept dropped (front ++ pre') s' (text ++ rest) ∧
      Behind new dropped front s' pre' pre := by
  induction h generalizing pre with
  | nil front =>
    obtain ⟨rfl, htext⟩ := List.append_eq_nil_iff.mp ht.symm
    exact ⟨[], [], rfl, by rw [List.append_nil, htext]; exact .nil front, .start⟩
  | @keep front s t c hkept hrest ih =>
    cases pre with
    | nil =>
      refine ⟨[], c :: s, rfl, ?_, .start⟩
      rw [List.append_nil, ← List.nil_append (text ++ rest), ← ht]
      exact keep hkept hrest
    | cons d pre =>
      obtain ⟨rfl, htail⟩ := List.cons.inj ht
      obtain ⟨pre', s', rfl, haligned, hbehind⟩ := ih htail
      refine ⟨c :: pre', s', rfl, by rwa [List.append_cons], ?_⟩
      cases hbehind with
      | start => exact .char c [] []
      | char e s t => exact .char e (c :: s) (c :: t)
      | @drop v s t hdropped =>
        rw [← List.append_cons] at hdropped
        exact .drop (s := c :: s) (t := c :: t) hdropped
  | @drop front v s t hne hdropped hrest ih =>
    obtain ⟨pre, rfl, htail⟩ := hapart.split ht
    obtain ⟨pre', s', rfl, haligned, hbehind⟩ := ih htail
    refine ⟨v ++ pre', s', by rw [List.append_assoc], by rwa [← List.append_assoc], ?_⟩
    cases hbehind with
    | start =>
      rw [← List.append_nil front] at hdropped
      simpa using Behind.drop (s := []) (t := []) hdropped
    | char e s t =>
      rw [← List.append_assoc, ← List.append_assoc]
      exact .char e (v ++ s) (new ++ t)
    | @drop v' s t hdropped' =>
      rw [List.append_assoc] at hdropped'
      rw [← List.append_assoc, ← List.append_assoc]
      exact .drop hdropped'

/-- A text that the rewriting cannot make was there before it. -/
theorem find {pre rest : List Char} (hapart : Apart new text)
    (h : Aligned new kept dropped front s (pre ++ (text ++ rest))) :
    ∃ pre' rest', s = pre' ++ (text ++ rest') ∧
      kept (front ++ pre') (text ++ rest') (text ++ rest) ∧
      Aligned new kept dropped (front ++ (pre' ++ text)) rest' rest ∧
      Behind new dropped front (text ++ rest') pre' pre := by
  obtain ⟨pre', s', rfl, haligned, hbehind⟩ := h.locate hapart rfl
  obtain ⟨first, hfirst, htext⟩ := hapart.first
  obtain ⟨rest', rfl, hrest⟩ := haligned.copied hfirst htext
  refine ⟨pre', rest', rfl, ?_, by rwa [← List.append_assoc], hbehind⟩
  obtain ⟨c, text, rfl⟩ := List.exists_cons_of_ne_nil hapart.ne_nil
  obtain ⟨s', hs, hkept, _⟩ := haligned.copied_char hfirst
    (List.ne_and_not_mem_of_not_mem_cons htext).1.symm
  obtain rfl : text ++ rest' = s' := (List.cons.inj hs).2
  exact hkept

end Aligned

namespace Rule

variable {r : Rule} {new : List Char}

/-- What was copied: a character at which nothing matches, or one of a kept part. -/
def Kept (r : Rule) (new front s t : List Char) : Prop :=
  r.first (lastOf none front) s = none ∨
    ∃ front' u v dropped rest, front = front' ++ u ∧ v ≠ [] ∧ s = v ++ (dropped ++ rest) ∧
      r.Matches (lastOf none front') (u ++ v) dropped rest ∧
      t = v ++ (new ++ r.replace new (lastOf none (front' ++ (u ++ v) ++ dropped)) 0 rest)

def Dropped (r : Rule) (front dropped rest : List Char) : Prop :=
  ∃ front' kept, front = front' ++ kept ∧
    r.first (lastOf none front') (kept ++ (dropped ++ rest)) = some (kept, dropped, rest)

/-- A replacement keeps or drops each piece of the text in order. -/
theorem replace_aligned (front s : List Char) :
    Aligned new (r.Kept new) r.Dropped front s (r.replace new (lastOf none front) 0 s) := by
  generalize hn : s.length = n
  induction n using Nat.strongRecOn generalizing front s with
  | ind n ih =>
    cases s with
    | nil => exact .nil front
    | cons c s =>
      cases hfirst : r.first (lastOf none front) (c :: s) with
      | none =>
        rw [replace_skip hfirst]
        apply Aligned.keep (Or.inl hfirst)
        have hrest := ih s.length (by simp [← hn]) (front ++ [c]) s rfl
        rwa [lastOf_append] at hrest
      | some parts =>
        obtain ⟨kept, dropped, rest⟩ := parts
        obtain ⟨hs, hmatch⟩ := matches_of_first hfirst
        have hdropped := hmatch.dropped_ne_nil
        have hlength : rest.length < n := by
          have := List.length_pos_iff.mpr hdropped
          rw [← hn, hs]
          simp only [List.length_append]
          omega
        have hrest := ih rest.length hlength (front ++ (kept ++ dropped)) rest rfl
        rw [replace_hit hfirst, hs, ← lastOf_append]
        rw [hs] at hfirst
        apply Aligned.keep_append
        · intro u v htext hv
          subst htext
          right
          exact ⟨front, u, v, dropped, rest, rfl, hv, rfl, hmatch, by simp only [List.append_assoc]⟩
        · apply Aligned.drop hdropped ⟨front, kept, rfl, hfirst⟩
          rwa [List.append_assoc]

theorem replaceAll_aligned (r : Rule) (new s : List Char) :
    Aligned new (r.Kept new) r.Dropped [] s (r.replaceAll new s) :=
  replace_aligned [] s

/-- A text whose matches drop the new text already comes out as it went in. -/
theorem replaceAll_eq_self
    (h : ∀ front kept dropped rest, text = front ++ (kept ++ (dropped ++ rest)) →
      r.first (lastOf none front) (kept ++ (dropped ++ rest)) = some (kept, dropped, rest) →
      dropped = new) : r.replaceAll new text = text := by
  apply (r.replaceAll_aligned new text).eq_of_dropped
  rintro v rest front' htext ⟨front, kept, rfl, hfirst⟩
  apply h front kept v rest _ hfirst
  rw [← List.append_assoc, ← htext, List.nil_append]

theorem replaceAll_eq_self_of_not_occurs (h : ¬ r.Occurs text) : r.replaceAll new text = text := by
  apply replaceAll_eq_self
  intro front kept dropped rest htext hfirst
  exact absurd ⟨front, kept, dropped, rest, htext, (matches_of_first hfirst).2⟩ h

/-- A match of a rule without assertions was there in what went in, when it is apart from the
new text. -/
theorem Occurs.found {kept dropped : List Char → List Char → List Char → Prop} {s t : List Char}
    (hoccurs : r.Occurs t) (h : Aligned new kept dropped [] s t)
    (hplain : (r.keep.plain && r.drop.plain) = true)
    (hapart : ∀ before u v rest, r.Matches before u v rest → Apart new (u ++ v)) :
    ∃ front u v rest rest', s = front ++ (u ++ (v ++ rest)) ∧
      r.Matches (lastOf none front) u v rest ∧
      kept front (u ++ (v ++ rest)) (u ++ (v ++ rest')) := by
  obtain ⟨pre, u, v, rest', rfl, hmatch⟩ := hoccurs
  obtain ⟨hkeep, hdrop⟩ := Bool.and_eq_true_iff.mp hplain
  rw [← List.append_assoc u] at h
  obtain ⟨front, rest, rfl, hkept, _⟩ := h.find (hapart _ u v rest' hmatch)
  rw [List.append_assoc, List.append_assoc] at hkept
  refine ⟨front, u, v, rest, rest', by rw [List.append_assoc], ?_, hkept⟩
  exact ⟨hmatch.keep.of_plain hkeep _ _, hmatch.drop.of_plain hdrop _ _⟩

/-- A rule without assertions matches nowhere in what comes out of any replacement, when it
matches nowhere in what goes in. -/
theorem not_occurs_of_aligned {kept dropped : List Char → List Char → List Char → Prop}
    {s t : List Char} (h : Aligned new kept dropped [] s t) (hs : ¬ r.Occurs s)
    (hplain : (r.keep.plain && r.drop.plain) = true)
    (hapart : ∀ before u v rest, r.Matches before u v rest → Apart new (u ++ v)) :
    ¬ r.Occurs t := by
  intro hoccurs
  obtain ⟨front, u, v, rest, _, rfl, hmatch, _⟩ := hoccurs.found h hplain hapart
  exact hs ⟨front, u, v, rest, rfl, hmatch⟩

end Rule

end TextPattern
