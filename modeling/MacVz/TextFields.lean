/-
Texts as tools write and read them: lines that each end in a line break, words
with one blank between two neighbours, and numbers in decimal notation.  What
is written in this form is read back word by word and line by line.
-/
import MacVz.AddressText
import MacVz.GoPackages

namespace GoStrings

variable {c : Char} {s : List Char} {words : List String} {text : String} {w front back : String}

theorem isSpace_eq_false (hlow : 0x21 ≤ c.toNat) (hhigh : c.toNat ≤ 0x7e) : isSpace c = false := by
  simp only [isSpace, List.mem_cons, List.not_mem_nil, or_false, Bool.or_eq_false_iff,
    decide_eq_false_iff_not, Bool.and_eq_false_iff]
  omega

theorem filter_dropWhile_isSpace (s : List Char) :
    (s.dropWhile isSpace).filter (fun c => !isSpace c) = s.filter (fun c => !isSpace c) := by
  induction s with
  | nil => rfl
  | cons c rest ih =>
    cases hc : isSpace c with
    | true => simp [hc, ih]
    | false => simp [hc]

theorem filter_trimSpace (s : List Char) :
    (trimSpace s).filter (fun c => !isSpace c) = s.filter (fun c => !isSpace c) := by
  rw [trimSpace, List.rdropWhile, List.filter_reverse, filter_dropWhile_isSpace,
    List.filter_reverse, List.reverse_reverse, filter_dropWhile_isSpace]

theorem mem_trimSpace (hc : isSpace c = false) : c ∈ trimSpace s ↔ c ∈ s := by
  have hkept (l : List Char) : c ∈ l ↔ c ∈ l.filter (fun c => !isSpace c) := by simp [hc]
  rw [hkept (trimSpace s), hkept s, filter_trimSpace]

theorem trimSpace_eq_self (hhead : ∀ c ∈ s.head?, isSpace c = false)
    (hlast : ∀ c ∈ s.getLast?, isSpace c = false) : trimSpace s = s := by
  have hfront : s.dropWhile isSpace = s := by
    cases s with
    | nil => rfl
    | cons c rest => rw [List.dropWhile_cons, hhead c (by simp), if_neg Bool.false_ne_true]
  rw [trimSpace, hfront, List.rdropWhile_eq_self_iff]
  intro hne
  simp [hlast _ (List.getLast_mem_getLast? hne)]

theorem head?_trimSpace (hc : isSpace c = false) (rest : List Char) :
    (trimSpace (c :: rest)).head? = some c := by
  have hfront : (c :: rest).dropWhile isSpace = c :: rest := by
    rw [List.dropWhile_cons, hc, if_neg Bool.false_ne_true]
  have hne : (c :: rest).rdropWhile isSpace ≠ [] := by
    rw [ne_eq, List.rdropWhile_eq_nil_iff]
    intro hall
    have hspace := hall c List.mem_cons_self
    rw [hc] at hspace
    cases hspace
  obtain ⟨tail, htail⟩ := List.rdropWhile_prefix isSpace (l := c :: rest)
  obtain ⟨first, others, hfirst⟩ := List.exists_cons_of_ne_nil hne
  rw [hfirst, List.cons_append, List.cons.injEq] at htail
  rw [trimSpace, hfront, hfirst, htail.1, List.head?_cons]

theorem trimSpace_concat (hc : isSpace c = true) (s : List Char) :
    trimSpace (s ++ [c]) = trimSpace s := by
  rw [trimSpace, trimSpace, List.dropWhile_append]
  split
  · rename_i hempty
    rw [List.isEmpty_iff.mp hempty, List.dropWhile_cons, hc, if_pos rfl, List.dropWhile_nil]
  · rw [List.rdropWhile_concat_pos _ _ _ hc]

theorem trimSpace_rdropWhile (s : List Char) : trimSpace (s.rdropWhile isSpace) = trimSpace s := by
  induction s using List.reverseRecOn with
  | nil => rfl
  | append_singleton init c ih =>
    cases hc : isSpace c with
    | true => rw [List.rdropWhile_concat_pos _ _ _ hc, ih, trimSpace_concat hc]
    | false => rw [List.rdropWhile_concat_neg _ _ _ (by simp [hc])]

theorem rdropWhile_append_cons (hc : isSpace c = false) (front back : List Char) :
    (front ++ c :: back).rdropWhile isSpace = front ++ c :: back.rdropWhile isSpace := by
  induction back using List.reverseRecOn with
  | nil => exact List.rdropWhile_concat_neg _ _ _ (by simp [hc])
  | append_singleton init d ih =>
    rw [← List.cons_append, ← List.append_assoc, List.rdropWhile_concat, List.rdropWhile_concat]
    split
    · exact ih
    · simp

/-- A word for `fields`. -/
def IsWord (w : String) : Prop := w ≠ "" ∧ ∀ c ∈ w.toList, isSpace c = false

instance : DecidablePred IsWord := fun w =>
  decidable_of_iff (w ≠ "" ∧ w.toList.all (fun c => !isSpace c) = true) (by simp [IsWord])

def unwords (words : List String) : List Char := [' '].intercalate (words.map String.toList)

theorem IsWord.toList_ne_nil (h : IsWord w) : w.toList ≠ [] := by
  intro hnil
  exact h.1 (String.toList_eq_nil_iff.mp hnil)

theorem unwords_singleton (w : String) : unwords [w] = w.toList := by
  simp [unwords, List.intercalate]

theorem unwords_cons (w next : String) (rest : List String) :
    unwords (w :: next :: rest) = w.toList ++ ' ' :: unwords (next :: rest) := by
  simp [unwords, List.intercalate]

theorem unwords_append {front back : List String} (hfront : front ≠ []) (hback : back ≠ []) :
    unwords (front ++ back) = unwords front ++ ' ' :: unwords back := by
  induction front with
  | nil => exact absurd rfl hfront
  | cons w rest ih =>
    cases rest with
    | nil =>
      obtain ⟨next, more, rfl⟩ := List.exists_cons_of_ne_nil hback
      rw [List.singleton_append, unwords_cons, unwords_singleton]
    | cons next rest =>
      rw [List.cons_append, List.cons_append, unwords_cons, ← List.cons_append,
        ih (by simp), unwords_cons, List.append_assoc, List.cons_append]

theorem mem_unwords (hc : c ∈ unwords words) : c = ' ' ∨ ∃ w ∈ words, c ∈ w.toList := by
  rcases MaximalRuns.mem_intercalate hc with hblank | ⟨text, htext, hmem⟩
  · exact Or.inl (List.mem_singleton.mp hblank)
  · obtain ⟨w, hw, rfl⟩ := List.mem_map.mp htext
    exact Or.inr ⟨w, hw, hmem⟩

/-- Words with single blanks between them read back as the words. -/
theorem fields_unwords (hwords : ∀ w ∈ words, IsWord w) : fields (unwords words) = words := by
  have hword {w : String} (hw : IsWord w) :
      MaximalRuns.runs (fun r => !isSpace r) w.toList = [w.toList] :=
    MaximalRuns.runs_of_all_keep _ hw.toList_ne_nil (fun c hc => by simp [hw.2 c hc])
  induction words with
  | nil => rfl
  | cons w rest ih =>
    have hw := hwords w List.mem_cons_self
    cases rest with
    | nil => simp [fields, unwords_singleton, hword hw]
    | cons next rest =>
      have htail := ih fun v hv => hwords v (List.mem_cons_of_mem _ hv)
      rw [fields] at htail
      rw [fields, unwords_cons, MaximalRuns.runs_append_cons _ _ _ (by decide), hword hw,
        List.map_append, htail]
      simp

theorem exists_unwords_cons (w : String) (rest : List String) :
    ∃ tail, unwords (w :: rest) = w.toList ++ tail := by
  cases rest with
  | nil => exact ⟨[], by rw [unwords_singleton, List.append_nil]⟩
  | cons next rest => exact ⟨_, unwords_cons w next rest⟩

theorem trimSpace_unwords (hwords : ∀ w ∈ words, IsWord w) :
    trimSpace (unwords words) = unwords words := by
  apply trimSpace_eq_self
  · cases words with
    | nil => exact fun c hc => by cases hc
    | cons w rest =>
      have hw := hwords w List.mem_cons_self
      obtain ⟨tail, htail⟩ := exists_unwords_cons w rest
      rw [htail, List.head?_append_of_ne_nil _ hw.toList_ne_nil]
      exact fun c hc => hw.2 c (List.mem_of_head? hc)
  · induction words with
    | nil => exact fun c hc => by cases hc
    | cons w rest ih =>
      have hw := hwords w List.mem_cons_self
      cases rest with
      | nil =>
        rw [unwords_singleton]
        exact fun c hc => hw.2 c (List.mem_of_getLast? hc)
      | cons next rest =>
        have hne : unwords (next :: rest) ≠ [] := by
          obtain ⟨tail, htail⟩ := exists_unwords_cons next rest
          rw [htail]
          exact List.append_ne_nil_of_left_ne_nil (hwords next (by simp)).toList_ne_nil _
        rw [unwords_cons, ← List.singleton_append, ← List.append_assoc,
          List.getLast?_append_of_ne_nil _ hne]
        exact ih fun v hv => hwords v (List.mem_cons_of_mem _ hv)

theorem newline_not_mem (h : IsWord w) : '\n' ∉ w.toList := by
  intro hmem
  exact absurd (h.2 '\n' hmem) (by decide)

theorem newline_not_mem_unwords (hwords : ∀ w ∈ words, IsWord w) : '\n' ∉ unwords words := by
  intro hmem
  rcases mem_unwords hmem with hblank | ⟨w, hw, hmem⟩
  · cases hblank
  · exact newline_not_mem (hwords w hw) hmem

/-- A text on one line whose fields are these words; between two there may be several blanks. -/
structure Worded (text : List Char) (words : List String) : Prop where
  newline : '\n' ∉ text
  fields : GoStrings.fields text = words

theorem worded_unwords (hwords : ∀ w ∈ words, IsWord w) : Worded (unwords words) words :=
  ⟨newline_not_mem_unwords hwords, fields_unwords hwords⟩

theorem Worded.append {front back : List Char} {more : List String} (hfront : Worded front words)
    (hback : Worded back more) : Worded (front ++ ' ' :: back) (words ++ more) := by
  refine ⟨?_, ?_⟩
  · simp [hfront.newline, hback.newline]
  · rw [← hfront.fields, ← hback.fields, GoStrings.fields,
      MaximalRuns.runs_append_cons _ _ _ (by decide), List.map_append]
    rfl

/-- The members of a list as words: all but the last with a comma. -/
def withCommas : List String → List String
  | [] => []
  | [item] => [item]
  | item :: rest => (item ++ ",") :: withCommas rest

theorem withCommas_cons (item next : String) (rest : List String) :
    withCommas (item :: next :: rest) = (item ++ ",") :: withCommas (next :: rest) := rfl

theorem withCommas_ne_nil {items : List String} (h : items ≠ []) : withCommas items ≠ [] := by
  cases items with
  | nil => exact absurd rfl h
  | cons item rest => cases rest <;> simp [withCommas]

theorem unwords_withCommas (items : List String) :
    unwords (withCommas items) = (", ".intercalate items).toList := by
  induction items with
  | nil => rfl
  | cons item rest ih =>
    cases rest with
    | nil => simp [withCommas, unwords_singleton]
    | cons next rest =>
      have hne := withCommas_ne_nil (List.cons_ne_nil next rest)
      rw [withCommas_cons, ← List.singleton_append, unwords_append (by simp) hne, ih,
        unwords_singleton]
      simp [String.toList_intercalate, List.intercalate]

theorem isWord_withCommas {items : List String} (h : ∀ item ∈ items, IsWord item) :
    ∀ w ∈ withCommas items, IsWord w := by
  induction items with
  | nil => simp [withCommas]
  | cons item rest ih =>
    have hitem := h item List.mem_cons_self
    cases rest with
    | nil => simpa [withCommas] using hitem
    | cons next rest =>
      rw [withCommas_cons, List.forall_mem_cons]
      refine ⟨⟨by simp [hitem.1], ?_⟩, ih fun t ht => h t (List.mem_cons_of_mem _ ht)⟩
      intro c hc
      rw [String.toList_append, List.mem_append] at hc
      rcases hc with hletter | hcomma
      · exact hitem.2 c hletter
      · rw [List.mem_singleton.mp hcomma]
        decide

theorem IsWord.trimSpace_eq (h : IsWord w) : trimSpace w.toList = w.toList :=
  trimSpace_eq_self (fun c hc => h.2 c (List.mem_of_head? hc))
    fun c hc => h.2 c (List.mem_of_getLast? hc)

/-- A list with commas is split into its members, all but the first with the
blank in front of them. -/
theorem splitOn_withCommas {item : String} {rest : List String}
    (h : ∀ i ∈ item :: rest, ',' ∉ i.toList) : (unwords (withCommas (item :: rest))).splitOn ',' =
      item.toList :: rest.map fun i => ' ' :: i.toList := by
  have hwhole {i : String} (hi : ',' ∉ i.toList) : i.toList.splitOn ',' = [i.toList] := by
    apply List.splitOnP_eq_singleton
    intro c hc
    rw [beq_eq_false_iff_ne]
    rintro rfl
    exact hi hc
  induction rest generalizing item with
  | nil => rw [withCommas, unwords_singleton, hwhole (h item List.mem_cons_self), List.map_nil]
  | cons next rest ih =>
    have hlater := ih fun i hi => h i (List.mem_cons_of_mem _ hi)
    have htext : unwords (withCommas (item :: next :: rest)) =
        item.toList ++ ',' :: ' ' :: unwords (withCommas (next :: rest)) := by
      rw [withCommas_cons, ← List.singleton_append,
        unwords_append (by simp) (withCommas_ne_nil (List.cons_ne_nil next rest)),
        unwords_singleton]
      simp
    rw [List.splitOn] at hlater
    rw [htext, List.splitOn, List.splitOnP_append_cons _ _ (by simp), ← List.splitOn,
      hwhole (h item List.mem_cons_self), List.splitOnP_cons_eq_if_modifyHead,
      hlater]
    rfl

theorem trimSpace_of_mem_splitOn {items : List String} (hne : items ≠ [])
    (h : ∀ item ∈ items, IsWord item ∧ ',' ∉ item.toList) {raw : List Char}
    (hraw : raw ∈ (unwords (withCommas items)).splitOn ',') :
    ∃ item ∈ items, trimSpace raw = item.toList := by
  obtain ⟨item, rest, rfl⟩ := List.exists_cons_of_ne_nil hne
  rw [splitOn_withCommas fun i hi => (h i hi).2, List.mem_cons, List.mem_map] at hraw
  rcases hraw with rfl | ⟨i, hi, rfl⟩
  · exact ⟨item, List.mem_cons_self, (h item List.mem_cons_self).1.trimSpace_eq⟩
  · have hmem := List.mem_cons_of_mem item hi
    exact ⟨i, hmem, (h i hmem).1.trimSpace_eq⟩

/-- A setting that is written `key = value` is cut into its key and its value. -/
theorem cut_setting {key : String} (hkey : IsWord key) (hsign : '=' ∉ key.toList)
    (value : List Char) :
    ∃ front back, cut '=' (trimSpace (key.toList ++ ' ' :: '=' :: ' ' :: value)) =
        some (front, back) ∧ trimSpace front = key.toList ∧ trimSpace back = trimSpace value := by
  have hfront : (key.toList ++ ' ' :: '=' :: ' ' :: value).dropWhile isSpace =
      (key.toList ++ [' ']) ++ '=' :: (' ' :: value) := by
    obtain ⟨c, rest, htext⟩ := List.exists_cons_of_ne_nil hkey.toList_ne_nil
    rw [htext, List.cons_append, List.dropWhile_cons, hkey.2 c (by simp [htext])]
    simp
  refine ⟨key.toList ++ [' '], (' ' :: value).rdropWhile isSpace, ?_, ?_, ?_⟩
  · rw [trimSpace, hfront, rdropWhile_append_cons (by decide), cut_eq_some]
    exact ⟨by simpa using hsign, rfl⟩
  · rw [trimSpace_concat (by decide), hkey.trimSpace_eq]
  · rw [trimSpace_rdropWhile]
    rfl

/-- Whatever follows the text, its own lines all satisfy `Q`; so it is empty or
ends in a line break. -/
def Lines (Q : List Char → Prop) (text : String) : Prop :=
  ∀ back : List Char, (∀ raw ∈ back.splitOn '\n', Q raw) →
    ∀ raw ∈ (text.toList ++ back).splitOn '\n', Q raw

variable {Q : List Char → Prop}

theorem Lines.nil : Lines Q "" := fun _ hback => hback

theorem Lines.append (hfront : Lines Q front) (hback : Lines Q back) : Lines Q (front ++ back) := by
  intro rest hrest
  rw [String.toList_append, List.append_assoc]
  exact hfront _ (hback rest hrest)

theorem lines_eq_singleton (hbreak : '\n' ∉ text.toList) : lines text = [text.toList] := by
  refine List.splitOnP_eq_singleton fun c hc => beq_eq_false_iff_ne.mpr ?_
  rintro rfl
  exact hbreak hc

theorem splitOn_append (s back : List Char) :
    (s ++ '\n' :: back).splitOn '\n' = s.splitOn '\n' ++ back.splitOn '\n' :=
  List.splitOnP_append_cons s back (by simp)

theorem splitOn_line (hbreak : '\n' ∉ text.toList) (back : List Char) :
    ((text ++ "\n").toList ++ back).splitOn '\n' = text.toList :: back.splitOn '\n' := by
  have hjoin : (text ++ "\n").toList ++ back = text.toList ++ '\n' :: back := by simp
  have hwhole : text.toList.splitOn '\n' = [text.toList] := lines_eq_singleton hbreak
  rw [hjoin, splitOn_append, hwhole]
  rfl

theorem Lines.line (hbreak : '\n' ∉ text.toList) (htext : Q text.toList) :
    Lines Q (text ++ "\n") := by
  intro back hback raw hraw
  rw [splitOn_line hbreak, List.mem_cons] at hraw
  rcases hraw with rfl | hraw
  · exact htext
  · exact hback raw hraw

theorem splitOn_front {front : List Char} (hbreak : '\n' ∉ front) (s : List Char) :
    (front ++ s).splitOn '\n' = (s.splitOn '\n').modifyHead (front ++ ·) := by
  induction front with
  | nil => exact (congrFun List.modifyHead_id _).symm
  | cons c rest ih =>
    rw [List.mem_cons, not_or] at hbreak
    have hc : (c == '\n') = false := beq_eq_false_iff_ne.mpr (Ne.symm hbreak.1)
    have hrest : (rest ++ s).splitOnP (· == '\n') = _ := ih hbreak.2
    rw [List.cons_append, List.splitOn, List.splitOnP_cons_eq_if_modifyHead, hc, hrest,
      if_neg Bool.false_ne_true, List.modifyHead_modifyHead]
    rfl

theorem infix_append_left {part : List Char} (h : part <:+: front.toList) (back : String) :
    part <:+: (front ++ back).toList := by
  rw [String.toList_append]
  exact h.trans (List.prefix_append _ _).isInfix

theorem infix_append_right {part : List Char} (h : part <:+: back.toList) (front : String) :
    part <:+: (front ++ back).toList := by
  rw [String.toList_append]
  exact h.trans (List.suffix_append _ _).isInfix

/-- The lines of a text but its first are lines of every text it is part of. -/
theorem mem_lines_of_tail {raw : List Char} {whole : String} (h : raw ∈ (lines text).tail)
    (hpart : (text ++ "\n").toList <:+: whole.toList) : raw ∈ lines whole := by
  obtain ⟨front, back, hwhole⟩ := hpart
  have htext : whole.toList = front ++ (text.toList ++ '\n' :: back) := by simp [← hwhole]
  have htail : raw ∈ ((front ++ (text.toList ++ '\n' :: back)).splitOn '\n').tail := by
    clear hwhole htext
    induction front with
    | nil =>
      have hne : text.toList.splitOn '\n' ≠ [] := List.splitOnP_ne_nil _ _
      rw [List.nil_append, splitOn_append, List.tail_append_of_ne_nil hne]
      exact List.mem_append_left _ h
    | cons c rest ih =>
      rw [List.cons_append, List.splitOn, List.splitOnP_cons_eq_if_modifyHead]
      split
      · exact List.mem_of_mem_tail ih
      · rw [List.tail_modifyHead]
        exact ih
  rw [lines, htext]
  exact List.mem_of_mem_tail htail

/-- A text of several lines behind a mark that its first line may follow. -/
theorem Lines.block (hmark : ∀ first, Q (front.toList ++ first)) (hbreak : '\n' ∉ front.toList)
    (hrest : ∀ raw ∈ (lines text).tail, Q raw) : Lines Q (front ++ text ++ "\n") := by
  intro back hback raw hraw
  have htext : (front ++ text ++ "\n").toList ++ back =
      front.toList ++ (text.toList ++ '\n' :: back) := by simp
  rw [htext, splitOn_front hbreak, splitOn_append] at hraw
  cases hlines : text.toList.splitOn '\n' with
  | nil => exact absurd hlines (List.splitOnP_ne_nil _ _)
  | cons first rest =>
    rw [lines, hlines] at hrest
    rw [hlines, List.cons_append, List.modifyHead_cons, List.mem_cons, List.mem_append] at hraw
    rcases hraw with rfl | hraw | hraw
    · exact hmark first
    · exact hrest raw hraw
    · exact hback raw hraw

theorem Lines.unwords (hwords : ∀ w ∈ words, IsWord w) (htext : Q (unwords words)) :
    Lines Q (String.ofList (GoStrings.unwords words) ++ "\n") := by
  apply Lines.line
  · rw [String.toList_ofList]
    exact newline_not_mem_unwords hwords
  · rwa [String.toList_ofList]

theorem Lines.join {texts : List String} (htexts : ∀ text ∈ texts, Lines Q text) :
    Lines Q (String.join texts) := by
  induction texts with
  | nil => exact Lines.nil
  | cons text rest ih =>
    rw [String.join_cons]
    exact (htexts text List.mem_cons_self).append
      (ih fun t ht => htexts t (List.mem_cons_of_mem _ ht))

theorem Lines.all (h : Lines Q text) (hempty : Q []) : ∀ raw ∈ lines text, Q raw := by
  have hall := h [] (by simpa using hempty)
  rwa [List.append_nil] at hall

section Contents

variable {α : Type} (read : List Char → Option (List α)) {items : List α}

/-- What a reader of lines makes of a text. -/
def readLines : List (List Char) → Option (List α)
  | [] => some []
  | raw :: rest =>
    match read raw, readLines rest with
    | some items, some more => some (items ++ more)
    | _, _ => none

/-- A text is read as the items, whatever follows it. -/
def Reads (text : String) (items : List α) : Prop :=
  ∀ back : List Char, readLines read ((text.toList ++ back).splitOn '\n') =
    (readLines read (back.splitOn '\n')).map (items ++ ·)

variable {read}

theorem Reads.nil : Reads read "" [] := fun back => by simp

theorem Reads.append {more : List α} (hfront : Reads read front items)
    (hback : Reads read back more) : Reads read (front ++ back) (items ++ more) := by
  intro rest
  rw [String.toList_append, List.append_assoc, hfront, hback]
  simp [Function.comp_def]

theorem Reads.skip (hfront : Reads read front []) (hback : Reads read back items) :
    Reads read (front ++ back) items := by
  exact hfront.append hback

theorem Reads.line (hbreak : '\n' ∉ text.toList) (htext : read text.toList = some items) :
    Reads read (text ++ "\n") items := by
  intro back
  rw [splitOn_line hbreak, readLines, htext]
  cases readLines read (back.splitOn '\n') <;> rfl

theorem Reads.join {β : Type} {write : β → String} {content : β → List α} {xs : List β}
    (h : ∀ x ∈ xs, Reads read (write x) (content x)) :
    Reads read (String.join (xs.map write)) (xs.flatMap content) := by
  induction xs with
  | nil => exact Reads.nil
  | cons x rest ih =>
    rw [List.map_cons, String.join_cons]
    exact (h x List.mem_cons_self).append (ih fun y hy => h y (List.mem_cons_of_mem _ hy))

theorem Reads.all (h : Reads read text items) (hempty : read [] = some []) :
    readLines read (lines text) = some items := by
  have hall := h []
  rw [List.append_nil] at hall
  rw [lines, hall]
  simp [readLines, hempty]

end Contents

theorem splitOn_filter {keep : Char → Bool} {sep : Char} (hsep : keep sep = true)
    (s : List Char) : (s.filter keep).splitOn sep = (s.splitOn sep).map (List.filter keep) := by
  induction s with
  | nil => rfl
  | cons c rest ih =>
    rw [List.splitOn] at ih ⊢
    by_cases hc : c = sep
    · subst hc
      rw [List.filter_cons_of_pos hsep, List.splitOnP_cons_eq_if_modifyHead,
        List.splitOn, List.splitOnP_cons_eq_if_modifyHead, if_pos (by simp), if_pos (by simp),
        ih]
      rfl
    · obtain ⟨first, others, hsplit⟩ := List.exists_cons_of_ne_nil
        (List.splitOnP_ne_nil (· == sep) rest)
      rw [List.splitOn, hsplit] at ih
      rw [List.splitOn, List.splitOnP_cons_eq_if_modifyHead c rest, if_neg (by simpa using hc),
        hsplit]
      by_cases hkeep : keep c = true
      · rw [List.filter_cons_of_pos hkeep, List.splitOnP_cons_eq_if_modifyHead,
          if_neg (by simpa using hc), ih]
        simp [hkeep]
      · rw [List.filter_cons_of_neg hkeep, ih]
        simp [hkeep]

theorem exists_mem_splitOn {sep : Char} (hsep : c ≠ sep) (hc : c ∈ s) :
    ∃ piece ∈ s.splitOn sep, c ∈ piece := by
  induction s with
  | nil => cases hc
  | cons head rest ih =>
    rw [List.splitOn, List.splitOnP_cons_eq_if_modifyHead]
    by_cases hhead : head = sep
    · rw [if_pos (by simpa using hhead)]
      have hrest : c ∈ rest := by
        rcases List.mem_cons.mp hc with rfl | hrest
        · exact absurd hhead hsep
        · exact hrest
      obtain ⟨piece, hpiece, hmem⟩ := ih hrest
      exact ⟨piece, List.mem_cons_of_mem _ hpiece, hmem⟩
    · rw [if_neg (by simpa using hhead)]
      obtain ⟨first, others, hsplit⟩ := List.exists_cons_of_ne_nil
        (List.splitOnP_ne_nil (· == sep) rest)
      rw [List.splitOn, hsplit] at ih
      rw [hsplit]
      rcases List.mem_cons.mp hc with rfl | hrest
      · exact ⟨_, List.mem_cons_self, List.mem_cons_self⟩
      · obtain ⟨piece, hpiece, hmem⟩ := ih hrest
        rcases List.mem_cons.mp hpiece with rfl | hpiece
        · exact ⟨_, List.mem_cons_self, List.mem_cons_of_mem _ hmem⟩
        · exact ⟨piece, List.mem_cons_of_mem _ hpiece, hmem⟩

theorem all_isDigit_toString (n : Nat) : (toString n).toList.all GoNet.isDigit = true := by
  rw [GoNet.toList_toString, List.all_eq_true]
  intro c hc
  obtain ⟨d, hd, rfl⟩ := GoNet.exists_digitChar (by omega) hc
  exact GoNet.isDigit_digitChar hd

theorem foldl_toString (n : Nat) :
    (toString n).toList.foldl (fun acc c => acc * 10 + GoNet.digitValue c) 0 = n := by
  rw [GoNet.toList_toString]
  exact GoNet.foldl_toDigits (by omega) (fun d hd => GoNet.digitValue_digitChar hd) n

theorem toString_toList_ne_nil (n : Nat) : (toString n).toList ≠ [] := by
  rw [GoNet.toList_toString]
  exact Nat.toDigits_ne_nil

theorem splitSign_of_all_isDigit (h : s.all GoNet.isDigit = true) : splitSign s = (1, s) := by
  unfold splitSign
  split
  · exact absurd (List.all_eq_true.mp h '-' List.mem_cons_self) (by decide)
  · exact absurd (List.all_eq_true.mp h '+' List.mem_cons_self) (by decide)
  · rfl

theorem isSpace_of_isDigit (hc : GoNet.isDigit c = true) : isSpace c = false := by
  simp only [GoNet.isDigit, Bool.and_eq_true, decide_eq_true_eq] at hc
  have hlow : 48 ≤ c.toNat := hc.1
  have hhigh : c.toNat ≤ 57 := hc.2
  exact isSpace_eq_false (by omega) (by omega)

theorem isWord_toString (n : Nat) : IsWord (toString n) := by
  refine ⟨?_, ?_⟩
  · intro hempty
    exact toString_toList_ne_nil n (String.toList_eq_nil_iff.mpr hempty)
  · intro c hc
    exact isSpace_of_isDigit (List.all_eq_true.mp (all_isDigit_toString n) c hc)

theorem isWord_toString_int (n : Int) : IsWord (toString n) := by
  cases n with
  | ofNat k => exact isWord_toString k
  | negSucc k =>
    have htext : toString (Int.negSucc k) = "-" ++ toString (k + 1) := rfl
    rw [htext]
    refine ⟨by simp, ?_⟩
    intro c hc
    rw [String.toList_append, List.mem_append] at hc
    rcases hc with hminus | hdigit
    · rw [List.mem_singleton.mp hminus]
      decide
    · exact (isWord_toString (k + 1)).2 c hdigit

theorem atoi_toString {n : Nat} (hn : n < 2 ^ 63) : atoi (toString n) = some (n : Int) := by
  have hdigits := all_isDigit_toString n
  rw [atoi, splitSign_of_all_isDigit hdigits]
  simp only [toString_toList_ne_nil, hdigits, Bool.not_true, Bool.false_eq_true, or_self,
    ↓reduceIte, foldl_toString, one_mul, Option.ite_none_right_eq_some, and_true]
  omega

/-- A 64-bit integer reads back from its decimal text. -/
theorem atoi_toString_int {n : Int} (hlow : -2 ^ 63 ≤ n) (hhigh : n < 2 ^ 63) :
    atoi (toString n) = some n := by
  cases n with
  | ofNat k =>
    have hk : (k : Int) < 2 ^ 63 := hhigh
    exact atoi_toString (by omega)
  | negSucc k =>
    have htext : (toString (Int.negSucc k)).toList = '-' :: (toString (k + 1)).toList := by
      rw [show toString (Int.negSucc k) = "-" ++ toString (k + 1) from rfl]
      simp
    have hdigits := all_isDigit_toString (k + 1)
    rw [atoi, htext, splitSign]
    simp only [toString_toList_ne_nil, hdigits, Bool.not_true, Bool.false_eq_true, or_self,
      ↓reduceIte, foldl_toString, Option.ite_none_right_eq_some, Option.some.injEq]
    omega

theorem isWord_of_parseIP {s : String} {ip : Nat} (h : GoNet.parseIP s = some ip) : IsWord s := by
  refine ⟨?_, ?_⟩
  · rintro rfl
    cases h
  · intro c hc
    obtain ⟨hlow, hhigh⟩ := GoNet.addrChar_range ((GoNet.parseIP_spec h).1 c hc)
    exact isSpace_eq_false (by omega) (by omega)

end GoStrings
