/-
Cleaned absolute paths as texts.  Splitting at the slashes and joining with them are
inverse on plain segments, so a text and its segments determine each other, and the
relative path between two of them tells whether one is below the other.
-/
import MacVz.GoPackages
import MacVz.MaximalRuns

namespace GoFilepath

variable {path parts : List String} {s segment : String} {rooted : Bool} {dir : List String}
  {left right base targ : List String}

/-- A name that `clean` keeps. -/
structure Plain (segment : String) : Prop where
  ne_empty : segment ≠ ""
  ne_dot : segment ≠ "."
  ne_dots : segment ≠ ".."
  no_slash : '/' ∉ segment.toList

def PlainPath (path : List String) : Prop := ∀ segment ∈ path, Plain segment

theorem PlainPath.dropLast (h : PlainPath path) : PlainPath path.dropLast :=
  fun segment hsegment => h segment (List.mem_of_mem_dropLast hsegment)

theorem split_ne_nil (s : String) : split s ≠ [] := by
  rw [split, ne_eq, List.map_eq_nil_iff]
  exact List.splitOn_ne_nil _ _

theorem no_slash_of_mem_split (h : segment ∈ split s) : '/' ∉ segment.toList := by
  obtain ⟨part, hpart, rfl⟩ := List.mem_map.mp h
  rw [String.toList_ofList]
  exact MaximalRuns.not_mem_of_mem_splitOn hpart

theorem split_slash (left right : String) :
    split (left ++ "/" ++ right) = split left ++ split right := by
  have htext : (left ++ "/" ++ right).toList = left.toList ++ '/' :: right.toList := by simp
  rw [split, htext, List.splitOn, List.splitOnP_append_cons _ _ (by simp), List.map_append]
  rfl

theorem split_of_no_slash (h : '/' ∉ s.toList) : split s = [s] := by
  rw [split, List.splitOn_eq_singleton h, List.map_singleton, String.ofList_toList]

theorem split_intercalate (hne : parts ≠ []) (h : ∀ part ∈ parts, '/' ∉ part.toList) :
    split ("/".intercalate parts) = parts := by
  have htext : ("/".intercalate parts).toList = ['/'].intercalate (parts.map String.toList) :=
    String.toList_intercalate
  rw [split, htext, List.splitOn_intercalate '/' (by simpa using h) (by simpa using hne)]
  simp

theorem split_intercalate_flatMap (first : String) (parts : List String) :
    split ("/".intercalate (first :: parts)) = split first ++ parts.flatMap split := by
  induction parts generalizing first with
  | nil => simp
  | cons next rest ih => rw [String.intercalate_cons_cons, split_slash, ih next, List.flatMap_cons]

theorem intercalate_append (hleft : left ≠ []) (hright : right ≠ []) :
    "/".intercalate (left ++ right) = "/".intercalate left ++ "/" ++ "/".intercalate right := by
  induction left with
  | nil => exact absurd rfl hleft
  | cons first left ih =>
    cases left with
    | nil =>
      obtain ⟨next, rest, rfl⟩ := List.exists_cons_of_ne_nil hright
      rw [List.singleton_append, String.intercalate_cons_cons, String.intercalate_singleton]
    | cons second left =>
      rw [List.cons_append, List.cons_append, String.intercalate_cons_cons,
        ← List.cons_append, ih (List.cons_ne_nil second left), String.intercalate_cons_cons]
      simp only [String.append_assoc]

theorem isAbs_iff (s : String) : isAbs s = true ↔ ∃ rest, s = "/" ++ rest := by
  rw [isAbs, beq_iff_eq, List.head?_eq_some_iff]
  constructor
  · rintro ⟨rest, hrest⟩
    refine ⟨String.ofList rest, String.toList_inj.mp ?_⟩
    simp [hrest]
  · rintro ⟨rest, rfl⟩
    exact ⟨rest.toList, by simp⟩

@[simp]
theorem isAbs_absText (path : List String) : isAbs (absText path) = true :=
  (isAbs_iff _).mpr ⟨_, rfl⟩

theorem split_root (rest : String) : split ("/" ++ rest) = "" :: split rest := by
  have hsplit := split_slash "" rest
  rwa [String.empty_append] at hsplit

theorem push_skip (h : segment = "" ∨ segment = ".") : push rooted path segment = path := if_pos h

theorem push_plain (h : Plain segment) : push rooted path segment = path ++ [segment] := by
  have hskip : ¬ (segment = "" ∨ segment = ".") := not_or.mpr ⟨h.ne_empty, h.ne_dot⟩
  rw [push, if_neg hskip, if_neg h.ne_dots]

theorem mem_push {other : String} (h : other ∈ push rooted path segment) :
    other ∈ path ∨ other = segment ∧ other ≠ "" := by
  by_cases hskip : segment = "" ∨ segment = "."
  · rw [push_skip hskip] at h
    exact Or.inl h
  · have hadded : other ∈ path ++ [segment] → other ∈ path ∨ other = segment ∧ other ≠ "" := by
      intro hmem
      rcases List.mem_append.mp hmem with hmem | hmem
      · exact Or.inl hmem
      · obtain rfl := List.mem_singleton.mp hmem
        exact Or.inr ⟨rfl, fun hempty => hskip (Or.inl hempty)⟩
    rw [push, if_neg hskip] at h
    split at h
    · rename_i hdots
      split at h
      · split at h
        · exact Or.inl h
        · exact hadded (hdots ▸ h)
      · exact Or.inl (List.mem_of_mem_dropLast h)
    · exact hadded h

theorem mem_foldl_push (h : segment ∈ parts.foldl (push rooted) path) :
    segment ∈ path ∨ segment ∈ parts ∧ segment ≠ "" := by
  induction parts generalizing path with
  | nil => exact Or.inl h
  | cons part parts ih =>
    rcases ih h with hpath | ⟨hparts, hne⟩
    · rcases mem_push hpath with hmem | ⟨rfl, hne⟩
      · exact Or.inl hmem
      · exact Or.inr ⟨List.mem_cons_self, hne⟩
    · exact Or.inr ⟨List.mem_cons_of_mem _ hparts, hne⟩

/-- Pushing a segment without slashes keeps the path plain. -/
theorem PlainPath.pushed (hpath : PlainPath path) (hslash : '/' ∉ segment.toList) :
    PlainPath (push true path segment) := by
  by_cases hskip : segment = "" ∨ segment = "."
  · rwa [push_skip hskip]
  · by_cases hdots : segment = ".."
    · rw [push, if_neg hskip, if_pos hdots]
      split
      · exact hpath
      · exact hpath.dropLast
    · have hplain : Plain segment :=
        ⟨fun h => hskip (Or.inl h), fun h => hskip (Or.inr h), hdots, hslash⟩
      rw [push_plain hplain]
      intro other hother
      rcases List.mem_append.mp hother with hmem | hmem
      · exact hpath other hmem
      · rwa [List.mem_singleton.mp hmem]

theorem PlainPath.foldl_push (hpath : PlainPath path) (hparts : ∀ part ∈ parts, '/' ∉ part.toList) :
    PlainPath (parts.foldl (push true) path) := by
  induction parts generalizing path with
  | nil => exact hpath
  | cons part parts ih =>
    apply ih (hpath.pushed (hparts part List.mem_cons_self))
    exact fun other hother => hparts other (List.mem_cons_of_mem _ hother)

theorem plainPath_segments (h : isAbs s = true) : PlainPath (segments s) := by
  rw [segments, h]
  apply PlainPath.foldl_push
  · intro segment hsegment
    cases hsegment
  · exact fun part hpart => no_slash_of_mem_split hpart

theorem PlainPath.joined (hdir : PlainPath dir) (elems : List String) :
    PlainPath (join dir elems) := by
  induction elems generalizing dir with
  | nil => exact hdir
  | cons elem elems ih =>
    apply ih
    exact hdir.foldl_push fun part hpart => no_slash_of_mem_split hpart

theorem foldl_push_plain (rooted : Bool) (path : List String) (h : PlainPath parts) :
    parts.foldl (push rooted) path = path ++ parts := by
  induction parts generalizing path with
  | nil => simp
  | cons part parts ih =>
    rw [List.foldl_cons, push_plain (h part List.mem_cons_self),
      ih _ fun other hother => h other (List.mem_cons_of_mem _ hother)]
    simp

theorem split_absText (hne : path ≠ []) (h : PlainPath path) :
    split (absText path) = "" :: path := by
  rw [absText, split_root, split_intercalate hne fun part hpart => (h part hpart).no_slash]

@[simp]
theorem segments_absText (h : PlainPath path) : segments (absText path) = path := by
  rw [segments]
  by_cases hne : path = []
  · subst hne
    rfl
  · rw [split_absText hne h, List.foldl_cons, push_skip (Or.inl rfl), foldl_push_plain _ _ h,
      List.nil_append]

theorem clean_of_isAbs (h : isAbs s = true) : clean s = absText (segments s) :=
  if_pos h

/-- `Clean` keeps a path absolute or relative. -/
theorem isAbs_clean (s : String) : isAbs (clean s) = isAbs s := by
  by_cases habs : isAbs s = true
  · rw [clean_of_isAbs habs, isAbs_absText, habs]
  · rw [Bool.not_eq_true] at habs
    rw [habs, clean, if_neg (by simp [habs])]
    by_cases hempty : segments s = []
    · rw [if_pos hempty]
      rfl
    · rw [if_neg hempty, ← Bool.not_eq_true, isAbs_iff]
      rintro ⟨rest, hrest⟩
      -- the first segment would be the empty one before the slash
      have hmem (segment : String) (h : segment ∈ segments s) :
          '/' ∉ segment.toList ∧ segment ≠ "" := by
        rcases mem_foldl_push h with hnil | ⟨hsplit, hne⟩
        · cases hnil
        · exact ⟨no_slash_of_mem_split hsplit, hne⟩
      have hsplit := split_intercalate hempty fun part hpart => (hmem part hpart).1
      rw [hrest, split_root] at hsplit
      exact (hmem "" (hsplit ▸ List.mem_cons_self)).2 rfl

theorem clean_absText (h : PlainPath path) : clean (absText path) = absText path := by
  rw [clean_of_isAbs (isAbs_absText path), segments_absText h]

/-- Plain paths are told apart by their texts. -/
theorem absText_inj (hleft : PlainPath left) (hright : PlainPath right) :
    absText left = absText right ↔ left = right := by
  refine ⟨fun h => ?_, congrArg absText⟩
  rw [← segments_absText hleft, h, segments_absText hright]

/-- `filepath.Join`: nothing is joined if there is nothing but empty elements. -/
def joinText (elems : List String) : String :=
  match elems.dropWhile (· == "") with
  | [] => ""
  | first :: rest => clean ("/".intercalate (first :: rest))

/-- `Join` on texts is the join of the segments. -/
theorem joinText_absText (hdir : PlainPath dir) (elems : List String) :
    joinText (absText dir :: elems) = absText (join dir elems) := by
  have hne : (absText dir == "") = false := by
    rw [beq_eq_false_iff_ne]
    intro hempty
    have habs := isAbs_absText dir
    rw [hempty] at habs
    cases habs
  have hroot : isAbs ("/".intercalate (absText dir :: elems)) = true := by
    rw [isAbs_iff]
    cases elems with
    | nil => exact ⟨_, String.intercalate_singleton⟩
    | cons elem elems =>
      rw [String.intercalate_cons_cons, absText, String.append_assoc, String.append_assoc]
      exact ⟨_, rfl⟩
  have hsegments : segments ("/".intercalate (absText dir :: elems)) = join dir elems := by
    have hdirSegments := segments_absText hdir
    rw [segments, isAbs_absText] at hdirSegments
    rw [segments, hroot, split_intercalate_flatMap, List.foldl_append, hdirSegments,
      List.foldl_flatMap]
    rfl
  simp only [joinText, List.dropWhile_cons, hne, Bool.false_eq_true, ↓reduceIte]
  rw [clean_of_isAbs hroot, hsegments]

/-- Two paths without their common beginning. -/
def apart : List String → List String → List String × List String
  | b :: base, t :: targ => if b = t then apart base targ else (b :: base, t :: targ)
  | base, targ => (base, targ)

/-- `filepath.Rel`.  The target in the current directory is an element of its own. -/
def rel (basepath targpath : String) : Option String :=
  if clean targpath = clean basepath then some "."
  else if isAbs basepath ≠ isAbs targpath then none
  else
    let targ := if clean targpath = "." then ["."] else segments targpath
    let (up, down) := apart (segments basepath) targ
    if up.head? = some ".." ∧ down ≠ [] then none
    else some ("/".intercalate (up.map (fun _ => "..") ++ down))

theorem apart_append (base rest : List String) : apart base (base ++ rest) = ([], rest) := by
  induction base with
  | nil => cases rest <;> rfl
  | cons b base ih => simp [apart, ih]

theorem apart_of_not_prefix (h : ¬ base <+: targ) :
    ∃ b up, (apart base targ).1 = b :: up ∧ b ∈ base := by
  induction base generalizing targ with
  | nil => exact absurd (List.nil_prefix) h
  | cons b base ih =>
    cases targ with
    | nil => exact ⟨b, base, rfl, List.mem_cons_self⟩
    | cons t targ =>
      by_cases hsame : b = t
      · subst hsame
        have hrest : ¬ base <+: targ := fun hpre => h ((List.cons_prefix_cons).mpr ⟨rfl, hpre⟩)
        obtain ⟨c, up, hup, hmem⟩ := ih hrest
        exact ⟨c, up, by simpa [apart] using hup, List.mem_cons_of_mem _ hmem⟩
      · exact ⟨b, base, by simp [apart, hsame], List.mem_cons_self⟩

/-- The relative path leads out of the base, or is no way at all. -/
def Escapes (rel : String) : Prop :=
  rel = "." ∨ rel = ".." ∨ (".." ++ "/").toList <+: rel.toList ∨ isAbs rel = true

instance (rel : String) : Decidable (Escapes rel) := inferInstanceAs (Decidable (_ ∨ _ ∨ _ ∨ _))

/-- A plain relative path does not lead out of its root. -/
theorem not_escapes_of_plain {down : List String} (hne : down ≠ []) (h : PlainPath down) :
    ¬ Escapes ("/".intercalate down) := by
  have hsplit := split_intercalate hne fun part hpart => (h part hpart).no_slash
  -- each of the forms would split into a first segment that is not plain
  have hfirst {first : String} {rest : List String} (hshape : down = first :: rest) :
      Plain first := h first (hshape ▸ List.mem_cons_self)
  rintro (hdot | hdots | hup | habs)
  · rw [hdot] at hsplit
    exact (hfirst hsplit.symm).ne_dot rfl
  · rw [hdots] at hsplit
    exact (hfirst hsplit.symm).ne_dots rfl
  · obtain ⟨rest, hrest⟩ := hup
    have htext : "/".intercalate down = ".." ++ "/" ++ String.ofList rest := by
      rw [← String.toList_inj, ← hrest]
      simp
    rw [htext, split_slash] at hsplit
    exact (hfirst hsplit.symm).ne_dots rfl
  · obtain ⟨rest, hrest⟩ := (isAbs_iff _).mp habs
    rw [hrest, split_root] at hsplit
    exact (hfirst hsplit.symm).ne_empty rfl

/-- The relative path between cleaned absolute paths exists, and it escapes unless the
target is below the base. -/
theorem rel_absText (hbase : PlainPath base) (htarg : PlainPath targ) :
    ∃ way, rel (absText base) (absText targ) = some way ∧ (Escapes way ↔ ¬ Below base targ) := by
  have hdot : absText targ ≠ "." := by
    intro heq
    have habs := isAbs_absText targ
    rw [heq] at habs
    cases habs
  by_cases hsame : targ = base
  · subst hsame
    refine ⟨".", if_pos rfl, ?_⟩
    simp [Escapes, Below]
  · have hclean : ¬ absText targ = absText base := by rwa [absText_inj htarg hbase]
    have hrel : rel (absText base) (absText targ) =
        if (apart base targ).1.head? = some ".." ∧ (apart base targ).2 ≠ [] then none
        else some ("/".intercalate ((apart base targ).1.map (fun _ => "..") ++
          (apart base targ).2)) := by
      simp only [rel, clean_absText hbase, clean_absText htarg, if_neg hclean, isAbs_absText,
        ne_eq, not_true_eq_false, ↓reduceIte, if_neg hdot, segments_absText hbase,
        segments_absText htarg]
    by_cases hpre : base <+: targ
    · obtain ⟨down, rfl⟩ := hpre
      have hne : down ≠ [] := by
        rintro rfl
        exact hsame (List.append_nil base)
      have hplain : PlainPath down :=
        fun part hpart => htarg part (List.mem_append_right base hpart)
      refine ⟨"/".intercalate down, ?_, ?_⟩
      · rw [hrel, apart_append]
        rfl
      · simp only [not_escapes_of_plain hne hplain, false_iff, not_not]
        exact ⟨List.prefix_append base down, hsame⟩
    · obtain ⟨b, up, hup, hmem⟩ := apart_of_not_prefix hpre
      have hplain : b ≠ ".." := (hbase b hmem).ne_dots
      have hhead : ¬ ((apart base targ).1.head? = some ".." ∧ (apart base targ).2 ≠ []) := by
        rw [hup, List.head?_cons, Option.some.injEq]
        exact fun h => hplain h.1
      rw [hrel, if_neg hhead]
      refine ⟨_, rfl, ?_⟩
      · refine iff_of_true ?_ fun hbelow => hpre hbelow.1
        rw [hup, List.map_cons, List.cons_append]
        generalize up.map (fun _ => "..") ++ (apart base targ).2 = rest
        cases rest with
        | nil => exact Or.inr (Or.inl String.intercalate_singleton)
        | cons next rest =>
          refine Or.inr (Or.inr (Or.inl ?_))
          exact ⟨("/".intercalate (next :: rest)).toList, by simp⟩

/-- The separator after a directory, as the beginning of another text: the text is one of a
path below it.  Behind the root it would be a second slash, which no cleaned path has. -/
theorem slash_prefix_iff (hdir : PlainPath dir) (hpath : PlainPath path) :
    (absText dir ++ "/").toList <+: (absText path).toList ↔ dir ≠ [] ∧ Below dir path := by
  constructor
  · rintro ⟨rest, hrest⟩
    have htext : absText path = absText dir ++ "/" ++ String.ofList rest := by
      rw [← String.toList_inj, ← hrest]
      simp
    have hsplit := congrArg split htext
    rw [split_slash] at hsplit
    have hne : path ≠ [] := by
      rintro rfl
      have hlength := congrArg List.length hrest
      simp [absText] at hlength
    rw [split_absText hne hpath] at hsplit
    have hdirNe : dir ≠ [] := by
      rintro rfl
      have hroot : split (absText []) = ["", ""] := by decide
      rw [hroot, List.cons_append, List.cons.injEq] at hsplit
      exact (hpath "" (hsplit.2 ▸ List.mem_cons_self)).ne_empty rfl
    rw [split_absText hdirNe hdir, List.cons_append, List.cons.injEq] at hsplit
    refine ⟨hdirNe, hsplit.2 ▸ List.prefix_append _ _, ?_⟩
    intro heq
    rw [heq] at hsplit
    exact split_ne_nil _ (List.self_eq_append_right.mp hsplit.2)
  · rintro ⟨hne, ⟨rest, rfl⟩, hother⟩
    cases rest with
    | nil => exact absurd (List.append_nil dir) hother
    | cons next rest =>
      rw [absText, absText, intercalate_append hne (List.cons_ne_nil next rest)]
      exact ⟨("/".intercalate (next :: rest)).toList, by simp⟩

end GoFilepath
