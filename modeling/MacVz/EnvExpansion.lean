/-
References to variables in the literal values of an environment.  The loop moves its index
by what it has read; what it computes is one pass from left to right in which whatever is put
in is not looked at again.
-/
import MacVz.VolumeResolution

namespace MacVz

variable {out : Bytes} {text : Bytes}

def dollar : UInt8 := '$'.toUInt8

def leftParen : UInt8 := '('.toUInt8

def rightParen : UInt8 := ')'.toUInt8

/-- The loop of `expandEnv` from an index on, for at most `fuel` turns. -/
def expandLoop (value : Bytes) (vars : Bytes → Option Bytes) : Nat → Nat → Bytes
  | 0, _ => []
  | fuel + 1, i =>
    match value[i]?, value[i + 1]? with
    | none, _ => []
    | some c, none => c :: expandLoop value vars fuel (i + 1)
    | some c, some next =>
      if c ≠ dollar then c :: expandLoop value vars fuel (i + 1)
      else if next = dollar then dollar :: expandLoop value vars fuel (i + 2)
      else if next = leftParen then
        match (value.drop (i + 2)).idxOf? rightParen with
        | none => dollar :: expandLoop value vars fuel (i + 1)
        | some stop =>
          (vars ((value.drop (i + 2)).take stop)).getD ((value.drop i).take (stop + 3)) ++
            expandLoop value vars fuel (i + stop + 3)
      else dollar :: expandLoop value vars fuel (i + 1)

/-- `expandEnv`; every turn of the loop reads at least one byte. -/
def expandEnv (value : Bytes) (vars : Bytes → Option Bytes) : Bytes :=
  if dollar ∉ value then value else expandLoop value vars value.length 0

/-- The text `$(name)`. -/
def reference (name : Bytes) : Bytes := dollar :: leftParen :: (name ++ [rightParen])

/-- The text begins with an escaped dollar or with a reference that is closed. -/
def StartsForm (text : Bytes) : Prop :=
  (∃ rest, text = dollar :: dollar :: rest) ∨
    ∃ name rest, rightParen ∉ name ∧ text = reference name ++ rest

/-- One pass over a text, from left to right: of a reference the value of the variable is put
out, or the reference itself where there is none. -/
inductive Expands (vars : Bytes → Option Bytes) : Bytes → Bytes → Prop where
  | done : Expands vars [] []
  | escaped {rest out : Bytes} : Expands vars rest out →
      Expands vars (dollar :: dollar :: rest) (dollar :: out)
  | referenced {name rest out : Bytes} : rightParen ∉ name → Expands vars rest out →
      Expands vars (reference name ++ rest) ((vars name).getD (reference name) ++ out)
  | copied {c : UInt8} {rest out : Bytes} : ¬ StartsForm (c :: rest) → Expands vars rest out →
      Expands vars (c :: rest) (c :: out)

section

variable {vars : Bytes → Option Bytes} {c : UInt8} {tail rest value : Bytes} {i : Nat}
  {next : UInt8}

theorem reference_append (name rest : Bytes) :
    reference name ++ rest = dollar :: leftParen :: (name ++ rightParen :: rest) := by
  simp [reference]

theorem not_startsForm_of_ne (h : c ≠ dollar) (rest : Bytes) : ¬ StartsForm (c :: rest) := by
  rintro (⟨_, heq⟩ | ⟨_, _, _, heq⟩)
  · exact h (List.cons.inj heq).1
  · exact h (List.cons.inj heq).1

/-- A dollar starts a form with another dollar or with a parenthesis that is closed. -/
theorem startsForm_dollar (h : StartsForm (dollar :: next :: tail)) :
    next = dollar ∨ next = leftParen ∧ rightParen ∈ tail := by
  rcases h with ⟨rest, heq⟩ | ⟨name, rest, -, heq⟩
  · exact Or.inl (List.cons.inj (List.cons.inj heq).2).1
  · obtain ⟨hnext, htail⟩ := List.cons.inj (List.cons.inj heq).2
    rw [htail]
    exact Or.inr ⟨hnext, by simp⟩

/-- A text starts with one reference at most. -/
theorem reference_inj {name name' rest' : Bytes} (hname : rightParen ∉ name)
    (hname' : rightParen ∉ name') (h : reference name ++ rest = reference name' ++ rest') :
    name = name' ∧ rest = rest' := by
  rw [reference_append, reference_append] at h
  obtain ⟨-, htail⟩ := List.cons.inj h
  obtain ⟨-, htail⟩ := List.cons.inj htail
  have hcut : ∀ {n r : Bytes}, rightParen ∉ n →
      (n ++ rightParen :: r).takeWhile (· ≠ rightParen) = n := by
    intro n r hn
    have hbefore : ∀ c ∈ n, decide (c ≠ rightParen) = true := by
      intro c hc
      exact decide_eq_true fun heq => hn (heq ▸ hc)
    rw [List.takeWhile_append_of_pos hbefore]
    simp
  have heq : name = name' := by
    rw [← hcut (r := rest) hname, htail, hcut hname']
  subst heq
  exact ⟨rfl, (List.cons.inj (List.append_cancel_left htail)).2⟩

theorem escaped_ne_reference (name rest rest' : Bytes) :
    dollar :: dollar :: rest ≠ reference name ++ rest' := by
  intro h
  have hsecond := (List.cons.inj (List.cons.inj h).2).1
  revert hsecond
  decide

theorem Expands.escaped_inv (h : Expands vars (dollar :: dollar :: rest) out) :
    ∃ out', out = dollar :: out' ∧ Expands vars rest out' := by
  generalize htext : dollar :: dollar :: rest = text at h
  cases h with
  | done => cases htext
  | escaped hrest =>
    cases htext
    exact ⟨_, rfl, hrest⟩
  | referenced _ _ => exact absurd htext (escaped_ne_reference _ _ _)
  | copied hstarts _ => exact absurd (Or.inl ⟨rest, htext.symm⟩) hstarts

theorem Expands.referenced_inv {name : Bytes} (hname : rightParen ∉ name)
    (h : Expands vars (reference name ++ rest) out) :
    ∃ out', out = (vars name).getD (reference name) ++ out' ∧ Expands vars rest out' := by
  generalize htext : reference name ++ rest = text at h
  cases h with
  | done => cases htext
  | escaped _ => exact absurd htext.symm (escaped_ne_reference _ _ _)
  | referenced hname' hrest =>
    obtain ⟨rfl, rfl⟩ := reference_inj hname hname' htext
    exact ⟨_, rfl, hrest⟩
  | copied hstarts _ => exact absurd (Or.inr ⟨name, rest, hname, htext.symm⟩) hstarts

theorem Expands.copied_inv (hstarts : ¬ StartsForm (c :: rest)) (h : Expands vars (c :: rest) out) :
    ∃ out', out = c :: out' ∧ Expands vars rest out' := by
  generalize htext : c :: rest = text at h
  cases h with
  | done => cases htext
  | escaped _ => exact absurd (Or.inl ⟨_, htext⟩) hstarts
  | referenced hname _ => exact absurd (Or.inr ⟨_, _, hname, htext⟩) hstarts
  | copied _ hrest =>
    cases htext
    exact ⟨_, rfl, hrest⟩

/-- A text expands in one way only. -/
theorem Expands.unique {out' : Bytes} (h : Expands vars text out) (h' : Expands vars text out') :
    out = out' := by
  induction h generalizing out' with
  | done =>
    cases h' with
    | done => rfl
  | escaped _ ih =>
    obtain ⟨rest', rfl, hrest⟩ := h'.escaped_inv
    rw [ih hrest]
  | referenced hname _ ih =>
    obtain ⟨rest', rfl, hrest⟩ := h'.referenced_inv hname
    rw [ih hrest]
  | copied hstarts _ ih =>
    obtain ⟨rest', rfl, hrest⟩ := h'.copied_inv hstarts
    rw [ih hrest]

theorem of_drop_eq_cons (h : value.drop i = c :: rest) :
    value[i]? = some c ∧ value.drop (i + 1) = rest := by
  constructor
  · rw [← Nat.add_zero i, ← List.getElem?_drop, h]
    rfl
  · rw [← List.tail_drop, h]
    rfl

theorem expandLoop_copies (htext : value.drop i = c :: rest) (hc : c ≠ dollar ∨ rest = [])
    (fuel : Nat) :
    expandLoop value vars (fuel + 1) i = c :: expandLoop value vars fuel (i + 1) := by
  obtain ⟨hget, hrest⟩ := of_drop_eq_cons htext
  rw [expandLoop, hget]
  cases hnext : value[i + 1]? with
  | none => rfl
  | some next =>
    have hne : rest ≠ [] := by
      rintro rfl
      rw [List.getElem?_eq_none (List.drop_eq_nil_iff.mp hrest)] at hnext
      cases hnext
    exact if_pos (hc.resolve_right hne)

theorem expandLoop_dollar (htext : value.drop i = dollar :: next :: tail) (fuel : Nat) :
    expandLoop value vars (fuel + 1) i =
      if next = dollar then dollar :: expandLoop value vars fuel (i + 2)
      else if next = leftParen then
        match tail.idxOf? rightParen with
        | none => dollar :: expandLoop value vars fuel (i + 1)
        | some stop =>
          (vars (tail.take stop)).getD (dollar :: next :: tail.take (stop + 1)) ++
            expandLoop value vars fuel (i + stop + 3)
      else dollar :: expandLoop value vars fuel (i + 1) := by
  obtain ⟨hget, hrest⟩ := of_drop_eq_cons htext
  obtain ⟨hnext, htail⟩ := of_drop_eq_cons hrest
  rw [expandLoop, hget, hnext, htext, htail]
  rfl

theorem of_idxOf?_eq_some {stop : Nat} (h : tail.idxOf? rightParen = some stop) :
    rightParen ∉ tail.take stop ∧ tail.take (stop + 1) = tail.take stop ++ [rightParen] := by
  obtain ⟨hlt, hstop, hfirst⟩ := List.idxOf?_eq_some_iff.mp h
  constructor
  · intro hmem
    obtain ⟨j, hj, hat⟩ := List.mem_iff_getElem.mp hmem
    rw [List.length_take] at hj
    rw [List.getElem_take] at hat
    exact hfirst j (by omega) hat
  · rw [← hstop, List.take_append_getElem]

theorem expands_dollar {fuel : Nat} (htext : value.drop i = dollar :: next :: tail)
    (hcopied : Expands vars (next :: tail) (expandLoop value vars fuel (i + 1)))
    (hlater : ∀ n, Expands vars (tail.drop n) (expandLoop value vars fuel (i + 2 + n))) :
    Expands vars (dollar :: next :: tail) (expandLoop value vars (fuel + 1) i) := by
  rw [expandLoop_dollar htext]
  split
  · rename_i hescaped
    rw [hescaped]
    exact .escaped (hlater 0)
  · rename_i hnotEscaped
    split
    · rename_i hparen
      split
      · rename_i hopen
        rw [List.idxOf?_eq_none_iff] at hopen
        refine .copied (fun hstarts => ?_) hcopied
        exact (startsForm_dollar hstarts).elim hnotEscaped fun h => hopen h.2
      · rename_i stop hstop
        obtain ⟨hname, htake⟩ := of_idxOf?_eq_some hstop
        have hwritten : dollar :: next :: tail.take (stop + 1) = reference (tail.take stop) := by
          rw [htake, hparen]
          rfl
        have hform : dollar :: next :: tail =
            reference (tail.take stop) ++ tail.drop (stop + 1) := by
          rw [← hwritten, List.cons_append, List.cons_append, List.take_append_drop]
        have hindex : i + 2 + (stop + 1) = i + stop + 3 := by omega
        rw [hwritten, hform]
        exact .referenced hname (hindex ▸ hlater (stop + 1))
    · rename_i hnotParen
      refine .copied (fun hstarts => ?_) hcopied
      exact (startsForm_dollar hstarts).elim hnotEscaped fun h => hnotParen h.1

/-- The loop expands what is left of the value, given fuel for its length. -/
theorem expandLoop_expands (value : Bytes) (fuel i : Nat) (hfuel : value.length ≤ i + fuel) :
    Expands vars (value.drop i) (expandLoop value vars fuel i) := by
  induction fuel generalizing i with
  | zero =>
    rw [List.drop_eq_nil_of_le (by omega)]
    exact .done
  | succ fuel ih =>
    cases htext : value.drop i with
    | nil =>
      have hnone : value[i]? = none :=
        List.getElem?_eq_none (List.drop_eq_nil_iff.mp htext)
      rw [expandLoop, hnone]
      exact .done
    | cons c rest =>
      obtain ⟨-, hrest⟩ := of_drop_eq_cons htext
      have hcopied : Expands vars rest (expandLoop value vars fuel (i + 1)) :=
        hrest ▸ ih (i + 1) (by omega)
      by_cases hc : c = dollar
      · subst hc
        cases rest with
        | nil =>
          rw [expandLoop_copies htext (Or.inr rfl)]
          refine .copied ?_ hcopied
          rintro (⟨_, heq⟩ | ⟨_, _, _, heq⟩) <;> cases heq
        | cons next tail =>
          apply expands_dollar htext hcopied
          intro n
          rw [← (of_drop_eq_cons hrest).2, List.drop_drop]
          exact ih (i + 2 + n) (by omega)
      · rw [expandLoop_copies htext (Or.inl hc)]
        exact .copied (not_startsForm_of_ne hc rest) hcopied

theorem expands_self (h : dollar ∉ text) : Expands vars text text := by
  induction text with
  | nil => exact .done
  | cons c rest ih =>
    refine .copied (not_startsForm_of_ne ?_ rest) (ih (List.not_mem_of_not_mem_cons h))
    exact (List.ne_of_not_mem_cons h).symm

theorem expandEnv_expands (value : Bytes) (vars : Bytes → Option Bytes) :
    Expands vars value (expandEnv value vars) := by
  unfold expandEnv
  split
  · rename_i hplain
    exact expands_self hplain
  · exact expandLoop_expands value value.length 0 (Nat.zero_add _).ge

end

/-- A part of a text: a byte that is put out, or a variable that is referred to. -/
inductive Piece where
  | byte (c : UInt8)
  | variable (name : Bytes)
deriving Repr, DecidableEq

/-- A variable that is not defined stays as it is written. -/
def Piece.value (vars : Bytes → Option Bytes) : Piece → Bytes
  | .byte c => [c]
  | .variable name => (vars name).getD (reference name)

/-- An expansion is a list of literals and references, whatever the variables. -/
theorem Expands.pieces {vars : Bytes → Option Bytes} (h : Expands vars text out) :
    ∃ pieces : List Piece, ∀ vars, Expands vars text (pieces.flatMap (Piece.value vars)) := by
  induction h with
  | done => exact ⟨[], fun _ => .done⟩
  | escaped _ ih =>
    obtain ⟨pieces, hpieces⟩ := ih
    exact ⟨.byte dollar :: pieces, fun vars => .escaped (hpieces vars)⟩
  | @referenced name _ _ hname _ ih =>
    obtain ⟨pieces, hpieces⟩ := ih
    exact ⟨.variable name :: pieces, fun vars => .referenced hname (hpieces vars)⟩
  | @copied c _ _ hstarts _ ih =>
    obtain ⟨pieces, hpieces⟩ := ih
    exact ⟨.byte c :: pieces, fun vars => .copied hstarts (hpieces vars)⟩

/-- The text with every dollar sign doubled. -/
def doubled (text : Bytes) : Bytes :=
  text.flatMap fun c => if c = dollar then [dollar, dollar] else [c]

/-- A text with its dollars doubled expands to itself. -/
theorem expands_doubled (vars : Bytes → Option Bytes) (text : Bytes) :
    Expands vars (doubled text) text := by
  induction text with
  | nil => exact .done
  | cons c rest ih =>
    rw [doubled, List.flatMap_cons]
    split
    · rename_i hc
      rw [hc]
      exact .escaped ih
    · rename_i hc
      exact .copied (not_startsForm_of_ne hc _) ih

/-- `expandEnv` makes one pass over the value: its outcome is that of the pass, it consists of
the bytes and values of parts that do not depend on the values, and a text with its dollars
doubled comes out as it was. -/
theorem expandEnv_one_pass (value : Bytes) :
    (∀ vars out, Expands vars value out ↔ out = expandEnv value vars) ∧
      (∃ pieces : List Piece, ∀ vars,
        expandEnv value vars = pieces.flatMap (Piece.value vars)) ∧
      ∀ vars, expandEnv (doubled value) vars = value := by
  refine ⟨fun vars out => ⟨fun h => h.unique (expandEnv_expands value vars), ?_⟩, ?_, ?_⟩
  · rintro rfl
    exact expandEnv_expands value vars
  · obtain ⟨pieces, hpieces⟩ := (expandEnv_expands value fun _ => none).pieces
    exact ⟨pieces, fun vars => (expandEnv_expands value vars).unique (hpieces vars)⟩
  · intro vars
    exact (expandEnv_expands (doubled value) vars).unique (expands_doubled vars value)

end MacVz
