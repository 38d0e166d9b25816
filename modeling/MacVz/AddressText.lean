/-
The text of IP addresses.  What is written for an address is read back as that
address, in dotted and in colon notation, and the text of an address that is
read holds nothing but digits and marks.
-/
import MacVz.GoNet
import MacVz.MaximalRuns
import Mathlib.Tactic.IntervalCases

namespace GoNet

variable {d val digLen g ip : Nat} {fields groups : List Nat} {rest s : List Char} {c : Char}
  {v b n fuel v4 : Nat} {prev : Option Char} {left : List Nat} {gs right fields' groups' : List Nat}
  {run : Nat × Nat} {zeros : Nat} {ellipsis : Option Nat}

theorem toList_toString (n : Nat) : (toString n).toList = Nat.toDigits 10 n := by
  change (Nat.repr n).toList = _
  rw [Nat.repr_eq_ofList_toDigits, String.toList_ofList]

theorem isDigit_digitChar (hd : d < 10) : isDigit (Nat.digitChar d) = true := by
  interval_cases d <;> rfl

theorem digitValue_digitChar (hd : d < 10) : digitValue (Nat.digitChar d) = d := by
  interval_cases d <;> rfl

/-- An octet has one, two or three decimal digits, the first not zero unless alone. -/
theorem toDigits_octet (hv : v < 256) : (v < 10 ∧ Nat.toDigits 10 v = [Nat.digitChar v]) ∨
      (∃ a b, 0 < a ∧ a < 10 ∧ b < 10 ∧ v = a * 10 + b ∧
        Nat.toDigits 10 v = [Nat.digitChar a, Nat.digitChar b]) ∨
      ∃ a b c, 0 < a ∧ a < 10 ∧ b < 10 ∧ c < 10 ∧ v = (a * 10 + b) * 10 + c ∧
        Nat.toDigits 10 v = [Nat.digitChar a, Nat.digitChar b, Nat.digitChar c] := by
  by_cases hone : v < 10
  · exact Or.inl ⟨hone, Nat.toDigits_of_lt_base hone⟩
  · by_cases htwo : v < 100
    · refine Or.inr (Or.inl ⟨v / 10, v % 10, by omega, by omega, by omega, by omega, ?_⟩)
      rw [Nat.toDigits_of_base_le (by omega) (by omega), Nat.toDigits_of_lt_base (by omega)]
      rfl
    · refine Or.inr (Or.inr ⟨v / 100, v / 10 % 10, v % 10, by omega, by omega, by omega,
        by omega, by omega, ?_⟩)
      rw [Nat.toDigits_of_base_le (by omega) (by omega),
        Nat.toDigits_of_base_le (by omega) (by omega),
        Nat.toDigits_of_lt_base (by omega), Nat.div_div_eq_div_mul]
      rfl

theorem parseIPv4Loop_digit (hd : d < 10) (hlead : ¬ (digLen = 1 ∧ val = 0))
    (hval : val * 10 + d < 256) : parseIPv4Loop prev val digLen fields (Nat.digitChar d :: rest) =
      parseIPv4Loop (some (Nat.digitChar d)) (val * 10 + d) (digLen + 1) fields rest := by
  rw [parseIPv4Loop, if_pos (isDigit_digitChar hd), if_neg hlead, digitValue_digitChar hd,
    if_neg (by omega)]

/-- The loop reads the digits of an octet as its value. -/
theorem parseIPv4Loop_octet (hv : v < 256) (prev : Option Char) (fields : List Nat)
    (rest : List Char) : ∃ d digLen, parseIPv4Loop prev 0 0 fields (Nat.toDigits 10 v ++ rest) =
      parseIPv4Loop (some (Nat.digitChar d)) v digLen fields rest := by
  rcases toDigits_octet hv with ⟨hone, hdigits⟩ | ⟨a, b, ha, ha', hb, rfl, hdigits⟩ |
    ⟨a, b, c, ha, ha', hb, hc, rfl, hdigits⟩
  · refine ⟨v, 1, ?_⟩
    rw [hdigits, List.singleton_append, parseIPv4Loop_digit hone (by omega) (by omega)]
    simp
  · refine ⟨b, 2, ?_⟩
    rw [hdigits, List.cons_append, List.singleton_append,
      parseIPv4Loop_digit ha' (by omega) (by omega), parseIPv4Loop_digit hb (by omega) (by omega)]
    simp
  · refine ⟨c, 3, ?_⟩
    rw [hdigits, List.cons_append, List.cons_append, List.singleton_append,
      parseIPv4Loop_digit ha' (by omega) (by omega), parseIPv4Loop_digit hb (by omega) (by omega),
      parseIPv4Loop_digit hc (by omega) (by omega)]
    simp

theorem parseIPv4Loop_dot (hfields : fields.length < 3) (hrest : rest ≠ []) :
    parseIPv4Loop (some (Nat.digitChar d)) val digLen fields ('.' :: rest) =
      parseIPv4Loop (some '.') 0 0 (fields ++ [val]) rest := by
  have hdot : isDigit '.' = false := rfl
  rw [parseIPv4Loop, hdot, if_neg Bool.false_ne_true, if_pos rfl, if_neg, if_neg (by omega)]
  simp [hrest]

theorem parseIPv4Loop_octet_dot (hv : v < 256) (prev : Option Char) (hfields : fields.length < 3)
    (hrest : rest ≠ []) : parseIPv4Loop prev 0 0 fields (Nat.toDigits 10 v ++ '.' :: rest) =
      parseIPv4Loop (some '.') 0 0 (fields ++ [v]) rest := by
  obtain ⟨d, digLen, hread⟩ := parseIPv4Loop_octet hv prev fields ('.' :: rest)
  rw [hread, parseIPv4Loop_dot hfields hrest]

theorem ipv4String_toList (n : Nat) : (ipv4String n).toList =
    Nat.toDigits 10 (n / 2 ^ 24 % 256) ++ '.' :: (Nat.toDigits 10 (n / 2 ^ 16 % 256) ++
      '.' :: (Nat.toDigits 10 (n / 2 ^ 8 % 256) ++ '.' :: Nat.toDigits 10 (n % 256))) := by
  have hdot : ".".toList = ['.'] := rfl
  simp only [ipv4String, String.toList_append, toList_toString, hdot, List.append_assoc,
    List.cons_append, List.nil_append]

/-- The dotted notation reads back as its four octets. -/
theorem parseIPv4Fields_ipv4String (n : Nat) : parseIPv4Fields (ipv4String n).toList =
    some [n / 2 ^ 24 % 256, n / 2 ^ 16 % 256, n / 2 ^ 8 % 256, n % 256] := by
  have hoctet (k : Nat) : k % 256 < 256 := Nat.mod_lt k (by omega)
  obtain ⟨d, digLen, hread⟩ := parseIPv4Loop_octet (hoctet n) (some '.')
    [n / 2 ^ 24 % 256, n / 2 ^ 16 % 256, n / 2 ^ 8 % 256] []
  rw [List.append_nil] at hread
  rw [parseIPv4Fields, ipv4String_toList,
    parseIPv4Loop_octet_dot (hoctet _) none (by simp) (by simp),
    parseIPv4Loop_octet_dot (hoctet _) _ (by simp) (by simp),
    parseIPv4Loop_octet_dot (hoctet _) _ (by simp) Nat.toDigits_ne_nil]
  simp only [List.nil_append, List.cons_append]
  rw [hread]
  rfl

theorem exists_digitChar (hb : 1 < b) (hc : c ∈ Nat.toDigits b n) :
    ∃ d < b, c = Nat.digitChar d := by
  induction n using Nat.strongRecOn with
  | ind n ih =>
    by_cases hn : n < b
    · rw [Nat.toDigits_of_lt_base hn, List.mem_singleton] at hc
      exact ⟨n, hn, hc⟩
    · rw [Nat.toDigits_of_base_le hb (by omega), List.mem_append, List.mem_singleton] at hc
      rcases hc with hinit | rfl
      · exact ih (n / b) (Nat.div_lt_self (by omega) hb) hinit
      · exact ⟨n % b, Nat.mod_lt n (by omega), rfl⟩

/-- Folding the digits of a number gives the number back. -/
theorem foldl_toDigits (hb : 1 < b) {value : Char → Nat}
    (hvalue : ∀ d < b, value (Nat.digitChar d) = d) (n : Nat) :
    (Nat.toDigits b n).foldl (fun acc c => acc * b + value c) 0 = n := by
  induction n using Nat.strongRecOn with
  | ind n ih =>
    by_cases hn : n < b
    · rw [Nat.toDigits_of_lt_base hn, List.foldl_cons, List.foldl_nil, hvalue n hn]
      omega
    · rw [Nat.toDigits_of_base_le hb (by omega), List.foldl_append,
        ih (n / b) (Nat.div_lt_self (by omega) hb), List.foldl_cons,
        hvalue _ (Nat.mod_lt n (by omega))]
      exact Nat.div_add_mod' n b

theorem find?_mark (hb : 1 < b) (n : Nat) {mark : Char}
    (hmark : mark = '.' ∨ mark = ':' ∨ mark = '%') (rest : List Char) :
    (Nat.toDigits b n ++ mark :: rest).find? (fun c => c = '.' ∨ c = ':' ∨ c = '%') =
      some mark := by
  have hnone : (Nat.toDigits b n).find? (fun c => c = '.' ∨ c = ':' ∨ c = '%') = none := by
    rw [List.find?_eq_none]
    intro c hc
    obtain ⟨d, hd, rfl⟩ := exists_digitChar hb hc
    simp
  rw [List.find?_append, hnone, Option.none_or, List.find?_cons_of_pos (by simpa using hmark)]

theorem parseIP_ipv4String (hn : n < 2 ^ 32) : parseIP (ipv4String n) = some (mappedBase + n) := by
  have hfind : (ipv4String n).toList.find? (fun c => c = '.' ∨ c = ':' ∨ c = '%') = some '.' := by
    rw [ipv4String_toList]
    exact find?_mark (by omega) _ (Or.inl rfl) _
  rw [parseIP, hfind]
  simp only [parseIPv4Fields_ipv4String, Option.map_some, List.foldl_cons, List.foldl_nil,
    Option.some.injEq, Nat.add_left_cancel_iff]
  omega

theorem ipv4String_injective {left right : Nat} (hleft : left < 2 ^ 32) (hright : right < 2 ^ 32)
    (h : ipv4String left = ipv4String right) : left = right := by
  have hread := parseIP_ipv4String hleft
  rw [h, parseIP_ipv4String hright] at hread
  have hvalue := Option.some.inj hread
  omega

theorem hexValue_digitChar (hd : d < 16) : hexValue (Nat.digitChar d) = some d := by
  interval_cases d <;> rfl

theorem hexValue_colon : hexValue ':' = none := rfl

theorem foldl_hexValue (n : Nat) :
    (Nat.toDigits 16 n).foldl (fun acc c => acc * 16 + (hexValue c).getD 0) 0 = n :=
  foldl_toDigits (by omega) (fun d hd => by rw [hexValue_digitChar hd, Option.getD_some]) n

theorem hexValue_isSome_of_mem (hc : c ∈ Nat.toDigits 16 n) : (hexValue c).isSome = true := by
  obtain ⟨d, hd, rfl⟩ := exists_digitChar (by omega) hc
  rw [hexValue_digitChar hd]
  rfl

theorem length_hexDigits (hg : g < 65536) : (Nat.toDigits 16 g).length ≤ 4 :=
  (Nat.length_toDigits_le_iff (by omega) (by omega)).mpr hg

theorem span_hexDigits (g : Nat) (rest : List Char) (hrest : ∀ c ∈ rest.head?, c = ':') :
    (Nat.toDigits 16 g ++ rest).takeWhile (fun c => (hexValue c).isSome) = Nat.toDigits 16 g ∧
      (Nat.toDigits 16 g ++ rest).dropWhile (fun c => (hexValue c).isSome) = rest := by
  have hdigits : ∀ c ∈ Nat.toDigits 16 g, (hexValue c).isSome = true :=
    fun _ => hexValue_isSome_of_mem
  rw [List.takeWhile_append_of_pos hdigits, List.dropWhile_append_of_pos hdigits]
  cases rest with
  | nil => simp
  | cons c more =>
    obtain rfl : c = ':' := hrest c rfl
    simp [hexValue_colon]

theorem hexDigits_fit (hg : g < 65536) :
    ¬ (Nat.toDigits 16 g = [] ∨ 4 < (Nat.toDigits 16 g).length) := by
  have hlength := length_hexDigits hg
  rintro (hnil | hlong)
  · exact Nat.toDigits_ne_nil hnil
  · omega

theorem parseIPv6Loop_last (hg : g < 65536) (fuel : Nat) (groups : List Nat)
    (ellipsis : Option Nat) : parseIPv6Loop (fuel + 1) groups ellipsis (Nat.toDigits 16 g) =
      some (groups ++ [g], ellipsis, []) := by
  obtain ⟨htake, hdrop⟩ := span_hexDigits g [] (by simp)
  rw [List.append_nil] at htake hdrop
  rw [parseIPv6Loop]
  simp only [htake, hdrop, hexDigits_fit hg, foldl_hexValue, ↓reduceIte]
  simp

theorem parseIPv6Loop_colon (hg : g < 65536) (fuel : Nat) (groups : List Nat)
    (ellipsis : Option Nat) (hc : c ≠ ':') (more : List Char) :
    parseIPv6Loop (fuel + 1) groups ellipsis (Nat.toDigits 16 g ++ ':' :: c :: more) =
      parseIPv6Loop fuel (groups ++ [g]) ellipsis (c :: more) := by
  obtain ⟨htake, hdrop⟩ := span_hexDigits g (':' :: c :: more) (by simp)
  rw [parseIPv6Loop]
  simp only [htake, hdrop, hexDigits_fit hg, foldl_hexValue, ↓reduceIte, List.head?_cons,
    Option.some.injEq]
  simp [hc]

theorem parseIPv6Loop_ellipsis (hg : g < 65536) (fuel : Nat) (groups : List Nat)
    (tail : List Char) :
    parseIPv6Loop (fuel + 1) groups none (Nat.toDigits 16 g ++ ':' :: ':' :: tail) =
      if tail = [] then some (groups ++ [g], some (groups.length + 1), [])
      else parseIPv6Loop fuel (groups ++ [g]) (some (groups.length + 1)) tail := by
  obtain ⟨htake, hdrop⟩ := span_hexDigits g (':' :: ':' :: tail) (by simp)
  rw [parseIPv6Loop]
  simp only [htake, hdrop, hexDigits_fit hg, foldl_hexValue, ↓reduceIte]
  simp

/-- The groups in base 16 with colons between them. -/
def joinGroups (gs : List Nat) : List Char := [':'].intercalate (gs.map (Nat.toDigits 16))

theorem joinGroups_nil : joinGroups [] = [] := rfl

theorem joinGroups_singleton (g : Nat) : joinGroups [g] = Nat.toDigits 16 g := by
  simp [joinGroups]

theorem joinGroups_cons (g next : Nat) (rest : List Nat) :
    joinGroups (g :: next :: rest) = Nat.toDigits 16 g ++ ':' :: joinGroups (next :: rest) := by
  simp [joinGroups]

theorem joinGroups_head (g : Nat) (rest : List Nat) :
    ∃ c more, c ≠ ':' ∧ joinGroups (g :: rest) = c :: more := by
  obtain ⟨c, digits, hdigits⟩ := List.exists_cons_of_ne_nil (Nat.toDigits_ne_nil (n := g) (b := 16))
  have hc : c ≠ ':' := by
    rintro rfl
    have hsome := hexValue_isSome_of_mem (n := g) (hdigits ▸ List.mem_cons_self)
    cases hsome
  cases rest with
  | nil => exact ⟨c, digits, hc, by rw [joinGroups_singleton, hdigits]⟩
  | cons next rest => exact ⟨c, _, hc, by rw [joinGroups_cons, hdigits, List.cons_append]⟩

/-- The loop reads groups joined by colons back, up to the end of the text. -/
theorem parseIPv6Loop_join (hgs : ∀ g ∈ gs, g < 65536) (hne : gs ≠ []) (hfuel : gs.length ≤ fuel)
    (groups : List Nat) (ellipsis : Option Nat) :
    parseIPv6Loop fuel groups ellipsis (joinGroups gs) = some (groups ++ gs, ellipsis, []) := by
  induction gs generalizing fuel groups with
  | nil => exact absurd rfl hne
  | cons g rest ih =>
    obtain ⟨fuel, rfl⟩ : ∃ k, fuel = k + 1 := ⟨fuel - 1, by simp at hfuel; omega⟩
    have hg : g < 65536 := hgs g List.mem_cons_self
    cases rest with
    | nil => rw [joinGroups_singleton, parseIPv6Loop_last hg]
    | cons next rest =>
      obtain ⟨c, more, hc, hjoin⟩ := joinGroups_head next rest
      rw [joinGroups_cons, hjoin, parseIPv6Loop_colon hg _ _ _ hc, ← hjoin,
        ih (fun g' hg' => hgs g' (List.mem_cons_of_mem g hg')) (by simp)
          (by simp at hfuel ⊢; omega)]
      simp

theorem parseIPv6Loop_before (hleft : ∀ g ∈ left, g < 65536) (hne : left ≠ [])
    (hfuel : left.length ≤ fuel) (groups : List Nat) (tail : List Char) :
    parseIPv6Loop fuel groups none (joinGroups left ++ ':' :: ':' :: tail) =
      if tail = [] then some (groups ++ left, some (groups.length + left.length), [])
      else parseIPv6Loop (fuel - left.length) (groups ++ left)
        (some (groups.length + left.length)) tail := by
  induction left generalizing fuel groups with
  | nil => exact absurd rfl hne
  | cons g rest ih =>
    obtain ⟨fuel, rfl⟩ : ∃ k, fuel = k + 1 := ⟨fuel - 1, by simp at hfuel; omega⟩
    have hg : g < 65536 := hleft g List.mem_cons_self
    cases rest with
    | nil =>
      rw [joinGroups_singleton, parseIPv6Loop_ellipsis hg]
      simp
    | cons next rest =>
      obtain ⟨c, more, hc, hjoin⟩ := joinGroups_head next rest
      rw [joinGroups_cons, List.append_assoc, List.cons_append, hjoin, List.cons_append,
        parseIPv6Loop_colon hg _ _ _ hc, ← List.cons_append, ← hjoin,
        ih (fun g' hg' => hleft g' (List.mem_cons_of_mem g hg')) (by simp)
          (by simp at hfuel ⊢; omega)]
      have hlength : (groups ++ [g]).length + (next :: rest).length =
          groups.length + (g :: next :: rest).length := by
        simp
        omega
      have hrest : fuel - (next :: rest).length = fuel + 1 - (g :: next :: rest).length := by
        simp
      rw [hlength, hrest, List.append_assoc, List.singleton_append]

/-- A run of zero groups, given by its place and a length it has. -/
def ZeroRunAt (groups : List Nat) (run : Nat × Nat) : Prop :=
  0 < run.2 ∧ run.2 ≤ zeroRun (groups.drop run.1)

/-- The run `netip` compresses is a run of zero groups. -/
theorem longestZeroRun_spec (h : longestZeroRun groups = some run) : ZeroRunAt groups run := by
  suffices hall : ∀ found ∈ longestZeroRun groups, ZeroRunAt groups found from hall run h
  refine List.foldlRecOn (motive := fun best => ∀ found ∈ best, ZeroRunAt groups found)
    (List.range groups.length) _ ?_ ?_
  · exact fun found hfound => by cases hfound
  · intro best hbest i _ found hfound
    cases best with
    | none =>
      simp only [Option.mem_def] at hfound
      split at hfound
      · cases hfound
        exact ⟨by simp only; omega, le_rfl⟩
      · cases hfound
    | some best =>
      simp only [Option.mem_def] at hfound
      split at hfound
      · cases hfound
        exact ⟨by simp only; omega, le_rfl⟩
      · cases hfound
        exact hbest _ rfl

theorem take_zeroRun (groups : List Nat) {len : Nat} (hlen : len ≤ zeroRun groups) :
    groups.take len = List.replicate len 0 := by
  induction groups generalizing len with
  | nil =>
    obtain rfl : len = 0 := by simpa [zeroRun] using hlen
    rfl
  | cons g rest ih =>
    cases len with
    | zero => rfl
    | succ len =>
      by_cases hg : g = 0
      · have hrest : len ≤ zeroRun rest := by simpa [zeroRun, hg] using hlen
        rw [List.take_succ_cons, List.replicate_succ, ih hrest, hg]
      · simp [zeroRun, hg] at hlen

theorem ZeroRunAt.groups_eq (h : ZeroRunAt groups run) :
    groups = groups.take run.1 ++ (List.replicate run.2 0 ++ groups.drop (run.1 + run.2)) := by
  rw [← take_zeroRun _ h.2, ← List.drop_drop, List.take_append_drop, List.take_append_drop]

theorem expandEllipsis_around (hzeros : 0 < zeros)
    (hlength : left.length + (zeros + right.length) = 8) :
    expandEllipsis (left ++ right) (some left.length) =
      some (left ++ (List.replicate zeros 0 ++ right)) := by
  have hshort : (left ++ right).length < 8 := by
    rw [List.length_append]
    omega
  have hmissing : 8 - (left ++ right).length = zeros := by
    rw [List.length_append]
    omega
  rw [expandEllipsis]
  simp only [hshort, ↓reduceIte, hmissing, List.take_left, List.drop_left, List.append_assoc]

theorem parseIPv6_of_head (hc : c ≠ ':') (hzone : '%' ∉ c :: rest) :
    parseIPv6 (c :: rest) = parseIPv6.finish (parseIPv6Loop 8 [] none (c :: rest)) := by
  unfold parseIPv6
  rw [if_neg hzone]
  split
  · rename_i heq
    exact absurd (List.cons.inj heq).1 hc
  · rename_i heq
    exact absurd (List.cons.inj heq).1 hc
  · rfl

theorem parseIPv6_of_colons (hzone : '%' ∉ ':' :: ':' :: c :: rest) :
    parseIPv6 (':' :: ':' :: c :: rest) =
      parseIPv6.finish (parseIPv6Loop 8 [] (some 0) (c :: rest)) := by
  unfold parseIPv6
  rw [if_neg hzone]
  rfl

theorem mem_joinGroups (hc : c ∈ joinGroups gs) : (hexValue c).isSome = true ∨ c = ':' := by
  rcases MaximalRuns.mem_intercalate hc with hcolon | ⟨digits, hdigits, hmem⟩
  · exact Or.inr (List.mem_singleton.mp hcolon)
  · obtain ⟨g, _, rfl⟩ := List.mem_map.mp hdigits
    exact Or.inl (hexValue_isSome_of_mem hmem)

theorem percent_not_mem (hs : ∀ c ∈ s, (hexValue c).isSome = true ∨ c = ':') : '%' ∉ s := by
  intro hmem
  have hpercent := hs _ hmem
  revert hpercent
  decide

/-- Eight groups joined by colons read as their value. -/
theorem parseIPv6_join (hgroups : ∀ g ∈ groups, g < 65536) (hlength : groups.length = 8) :
    parseIPv6 (joinGroups groups) = some (groupsValue groups) := by
  cases groups with
  | nil => simp at hlength
  | cons g rest =>
    obtain ⟨c, more, hc, hjoin⟩ := joinGroups_head g rest
    have hzone : '%' ∉ joinGroups (g :: rest) := percent_not_mem fun _ => mem_joinGroups
    rw [hjoin] at hzone ⊢
    rw [parseIPv6_of_head hc hzone, ← hjoin,
      parseIPv6Loop_join hgroups (by simp) (by omega), List.nil_append, parseIPv6.finish,
      expandEllipsis, if_neg (by omega)]
    rfl

/-- A text with `::` reads as its groups with zeros in between. -/
theorem parseIPv6_ellipsis (hleft : ∀ g ∈ left, g < 65536) (hright : ∀ g ∈ right, g < 65536)
    (hzeros : 0 < zeros) (hlength : left.length + (zeros + right.length) = 8) :
    parseIPv6 (joinGroups left ++ ':' :: ':' :: joinGroups right) =
      some (groupsValue (left ++ (List.replicate zeros 0 ++ right))) := by
  have hzone : '%' ∉ joinGroups left ++ ':' :: ':' :: joinGroups right := by
    apply percent_not_mem
    intro c hc
    rw [List.mem_append, List.mem_cons, List.mem_cons] at hc
    rcases hc with hc | hc | hc | hc
    · exact mem_joinGroups hc
    · exact Or.inr hc
    · exact Or.inr hc
    · exact mem_joinGroups hc
  have hexpand := expandEllipsis_around hzeros hlength
  have hread (fuel : Nat) (hfuel : right.length ≤ fuel) : right ≠ [] →
      parseIPv6.finish (parseIPv6Loop fuel left (some left.length) (joinGroups right)) =
        some (groupsValue (left ++ (List.replicate zeros 0 ++ right))) := by
    intro hne
    rw [parseIPv6Loop_join hright hne hfuel, parseIPv6.finish, hexpand]
    rfl
  cases left with
  | nil =>
    cases right with
    | nil =>
      obtain rfl : zeros = 8 := by simpa using hlength
      decide
    | cons g rest =>
      obtain ⟨c, more, hc, hjoin⟩ := joinGroups_head g rest
      rw [← hread 8 (by simp at hlength ⊢; omega) (by simp), hjoin]
      rw [hjoin] at hzone
      exact parseIPv6_of_colons hzone
  | cons g rest =>
    obtain ⟨c, more, hc, hjoin⟩ := joinGroups_head g rest
    rw [hjoin, List.cons_append] at hzone ⊢
    rw [parseIPv6_of_head hc hzone, ← List.cons_append, ← hjoin,
      parseIPv6Loop_before hleft (by simp) (by simp at hlength ⊢; omega)]
    cases right with
    | nil =>
      rw [if_pos joinGroups_nil, List.nil_append, List.length_nil, Nat.zero_add, parseIPv6.finish]
      rw [List.append_nil] at hexpand
      rw [hexpand]
      rfl
    | cons g' rest' =>
      obtain ⟨c', more', hc', hjoin'⟩ := joinGroups_head g' rest'
      rw [if_neg (by simp [hjoin']), List.length_nil, Nat.zero_add]
      exact hread _ (by simp at hlength ⊢; omega) (by simp)

theorem groupsOf_lt (hg : g ∈ groupsOf ip) : g < 65536 := by
  obtain ⟨i, hi, rfl⟩ := List.mem_map.mp hg
  exact Nat.mod_lt _ (by omega)

theorem groupsValue_groupsOf (hip : ip < 2 ^ 128) : groupsValue (groupsOf ip) = ip := by
  have hgroup (k : Nat) : ip / 2 ^ (k + 16) * 65536 + ip / 2 ^ k % 65536 = ip / 2 ^ k := by
    rw [pow_add, ← Nat.div_div_eq_div_mul]
    omega
  have htop : ip / 2 ^ 112 % 65536 = ip / 2 ^ 112 := by omega
  change (((((((0 * 65536 + ip / 2 ^ 112 % 65536) * 65536 + ip / 2 ^ 96 % 65536) * 65536 +
    ip / 2 ^ 80 % 65536) * 65536 + ip / 2 ^ 64 % 65536) * 65536 + ip / 2 ^ 48 % 65536) * 65536 +
    ip / 2 ^ 32 % 65536) * 65536 + ip / 2 ^ 16 % 65536) * 65536 + ip / 2 ^ 0 % 65536 = ip
  rw [Nat.zero_add, htop, hgroup 96, hgroup 80, hgroup 64, hgroup 48, hgroup 32,
    hgroup 16, hgroup 0, pow_zero, Nat.div_one]

/-- `String` writes all eight groups, or puts `::` in place of a run of zeros. -/
theorem ipv6String_toList (ip : Nat) : (ipv6String ip).toList = joinGroups (groupsOf ip) ∨
      ∃ left right zeros, 0 < zeros ∧ groupsOf ip = left ++ (List.replicate zeros 0 ++ right) ∧
        (ipv6String ip).toList = joinGroups left ++ ':' :: ':' :: joinGroups right := by
  have hcolons : "::".toList = [':', ':'] := rfl
  have hjoin (gs : List Nat) : (":".intercalate (gs.map hexDigits)).toList = joinGroups gs := by
    rw [String.toList_intercalate, List.map_map]
    congr 1
    apply List.map_congr_left
    intro g hg
    exact String.toList_ofList
  unfold ipv6String
  dsimp only
  cases hrun : longestZeroRun (groupsOf ip) with
  | none => exact Or.inl (hjoin _)
  | some run =>
    have hspec := longestZeroRun_spec hrun
    refine Or.inr ⟨_, _, run.2, hspec.1, hspec.groups_eq, ?_⟩
    simp only [String.toList_append, hjoin, hcolons, List.append_assoc, List.cons_append,
      List.nil_append]

theorem mem_ipv6String (hc : c ∈ (ipv6String ip).toList) :
    (hexValue c).isSome = true ∨ c = ':' := by
  rcases ipv6String_toList ip with htext | ⟨left, right, zeros, hzeros, hgroups, htext⟩
  · rw [htext] at hc
    exact mem_joinGroups hc
  · rw [htext, List.mem_append, List.mem_cons, List.mem_cons] at hc
    rcases hc with hc | hc | hc | hc
    · exact mem_joinGroups hc
    · exact Or.inr hc
    · exact Or.inr hc
    · exact mem_joinGroups hc

theorem colon_mem_ipv6String (ip : Nat) : ':' ∈ (ipv6String ip).toList := by
  rcases ipv6String_toList ip with htext | ⟨left, right, zeros, hzeros, hgroups, htext⟩
  · obtain ⟨first, second, rest, hgroups⟩ :
        ∃ first second rest, groupsOf ip = first :: second :: rest := ⟨_, _, _, rfl⟩
    rw [htext, hgroups, joinGroups_cons]
    simp
  · rw [htext]
    simp

theorem find?_ipv6String (ip : Nat) :
    (ipv6String ip).toList.find? (fun c => c = '.' ∨ c = ':' ∨ c = '%') = some ':' := by
  cases hfind : (ipv6String ip).toList.find? (fun c => c = '.' ∨ c = ':' ∨ c = '%') with
  | none =>
    have hcolon := List.find?_eq_none.mp hfind _ (colon_mem_ipv6String ip)
    simp at hcolon
  | some c =>
    have hmark : c = '.' ∨ c = ':' ∨ c = '%' := by simpa using List.find?_some hfind
    have hchar := mem_ipv6String (List.mem_of_find?_eq_some hfind)
    rcases hmark with rfl | rfl | rfl
    · revert hchar
      decide
    · rfl
    · revert hchar
      decide

/-- An address in colon notation parses back. -/
theorem parseIP_ipv6String (hip : ip < 2 ^ 128) : parseIP (ipv6String ip) = some ip := by
  have hlength : (groupsOf ip).length = 8 := rfl
  rw [parseIP, find?_ipv6String]
  change parseIPv6 (ipv6String ip).toList = some ip
  rcases ipv6String_toList ip with htext | ⟨left, right, zeros, hzeros, hgroups, htext⟩
  · rw [htext, parseIPv6_join (fun _ => groupsOf_lt) hlength, groupsValue_groupsOf hip]
  · rw [hgroups, List.length_append, List.length_append, List.length_replicate] at hlength
    have hsmall : ∀ g ∈ groupsOf ip, g < 65536 := fun _ => groupsOf_lt
    rw [hgroups] at hsmall
    have hleft : ∀ g ∈ left, g < 65536 := fun g hg => hsmall g (List.mem_append_left _ hg)
    have hright : ∀ g ∈ right, g < 65536 :=
      fun g hg => hsmall g (List.mem_append_right _ (List.mem_append_right _ hg))
    rw [htext, parseIPv6_ellipsis hleft hright hzeros hlength, ← hgroups, groupsValue_groupsOf hip]

theorem to4_eq_some (h : to4 ip = some v4) : ip = mappedBase + v4 ∧ v4 < 2 ^ 32 := by
  simp only [to4, Option.ite_none_right_eq_some, Option.some.injEq] at h
  simp only [mappedBase]
  omega

theorem to4_mapped (hv4 : v4 < 2 ^ 32) : to4 (mappedBase + v4) = some v4 := by
  have hmapped : (mappedBase + v4) / 2 ^ 32 = 0xffff := by
    simp only [mappedBase]
    omega
  have hlow : (mappedBase + v4) % 2 ^ 32 = v4 := by
    simp only [mappedBase]
    omega
  rw [to4, if_pos hmapped, hlow]

theorem ipString_of_to4 (hip : ip < 2 ^ 128) (h : to4 ip = some v4) :
    ipString 16 ip = ipv4String v4 := by
  have hwidth : ¬ 16 = 4 := by decide
  simp only [ipString, hwidth, ↓reduceIte, Nat.mod_eq_of_lt hip, h]

theorem ipString_of_to4_none (hip : ip < 2 ^ 128) (h : to4 ip = none) :
    ipString 16 ip = ipv6String ip := by
  have hwidth : ¬ 16 = 4 := by decide
  simp only [ipString, hwidth, ↓reduceIte, Nat.mod_eq_of_lt hip, h]

theorem parseIP_ipString (hip : ip < 2 ^ 128) : parseIP (ipString 16 ip) = some ip := by
  cases hv4 : to4 ip with
  | none => rw [ipString_of_to4_none hip hv4, parseIP_ipv6String hip]
  | some v4 =>
    have hmapped := to4_eq_some hv4
    rw [ipString_of_to4 hip hv4, parseIP_ipv4String hmapped.2, ← hmapped.1]

/-- The characters of a written address. -/
def addrChar (c : Char) : Bool := (hexValue c).isSome || c = ':' || c = '.'

theorem addrChar_of_isDigit (hc : isDigit c = true) : addrChar c = true := by
  simp [addrChar, hexValue, hc]

theorem parseIPv4Loop_chars (h : parseIPv4Loop prev val digLen fields s = some fields') :
    ∀ c ∈ s, addrChar c = true := by
  induction s generalizing prev val digLen fields with
  | nil => simp
  | cons c rest ih =>
    rw [parseIPv4Loop] at h
    split at h
    · rename_i hdigit
      split at h
      · cases h
      · split at h
        · cases h
        · exact List.forall_mem_cons.mpr ⟨addrChar_of_isDigit hdigit, ih h⟩
    · split at h
      · rename_i hdot
        split at h
        · cases h
        · split at h
          · cases h
          · exact List.forall_mem_cons.mpr ⟨by subst hdot; decide, ih h⟩
      · cases h

/-- What the loop accepts has four fields, each an octet. -/
theorem parseIPv4Loop_lt (hval : val < 256) (hfields : fields.length < 4 ∧ ∀ f ∈ fields, f < 256)
    (h : parseIPv4Loop prev val digLen fields s = some fields') :
    fields'.length = 4 ∧ ∀ f ∈ fields', f < 256 := by
  induction s generalizing prev val digLen fields with
  | nil =>
    rw [parseIPv4Loop] at h
    split at h
    · cases h
    · cases h
      refine ⟨by rw [List.length_append, List.length_singleton]; omega, ?_⟩
      intro f hf
      rcases List.mem_append.mp hf with hf | hf
      · exact hfields.2 f hf
      · exact List.mem_singleton.mp hf ▸ hval
  | cons c rest ih =>
    rw [parseIPv4Loop] at h
    split at h
    · split at h
      · cases h
      · split at h
        · cases h
        · exact ih (by omega) hfields h
    · split at h
      · split at h
        · cases h
        · split at h
          · cases h
          · refine ih (by omega) ⟨?_, ?_⟩ h
            · rw [List.length_append, List.length_singleton]
              omega
            · intro f hf
              rcases List.mem_append.mp hf with hf | hf
              · exact hfields.2 f hf
              · exact List.mem_singleton.mp hf ▸ hval
      · cases h

theorem parseIPv4Fields_spec (h : parseIPv4Fields s = some fields) :
    (∀ c ∈ s, addrChar c = true) ∧ fields.length = 4 ∧ ∀ f ∈ fields, f < 256 :=
  ⟨parseIPv4Loop_chars h, parseIPv4Loop_lt (by omega) (by simp) h⟩

theorem foldl_lt {base : Nat} {digits : List Nat} (hdigits : ∀ d ∈ digits, d < base) (acc : Nat) :
    digits.foldl (fun acc d => acc * base + d) acc < (acc + 1) * base ^ digits.length := by
  induction digits generalizing acc with
  | nil => simp
  | cons d rest ih =>
    rw [List.forall_mem_cons] at hdigits
    have hrest := ih hdigits.2 (acc * base + d)
    have hstep : acc * base + d + 1 ≤ (acc + 1) * base := by
      rw [Nat.add_mul]
      omega
    calc rest.foldl (fun acc d => acc * base + d) (acc * base + d)
        < (acc * base + d + 1) * base ^ rest.length := hrest
      _ ≤ (acc + 1) * base * base ^ rest.length := Nat.mul_le_mul_right _ hstep
      _ = (acc + 1) * base ^ (rest.length + 1) := by
          rw [Nat.mul_assoc, Nat.pow_succ, Nat.mul_comm base]

/-- What the group loop has read: groups of 16 bits, at most eight of them, from
characters of an address. -/
structure GroupsRead (s : List Char) (groups : List Nat) (rest : List Char) : Prop where
  small : ∀ g ∈ groups, g < 65536
  few : groups.length ≤ 8
  chars : ∀ c ∈ s, addrChar c = true ∨ c ∈ rest

theorem hexValue_cases (h : hexValue c = some d) :
    (48 ≤ c.toNat ∧ c.toNat ≤ 57 ∧ d = c.toNat - 48) ∨
      (97 ≤ c.toNat ∧ c.toNat ≤ 102 ∧ d = c.toNat - 97 + 10) ∨
      (65 ≤ c.toNat ∧ c.toNat ≤ 70 ∧ d = c.toNat - 65 + 10) := by
  unfold hexValue at h
  split at h
  · rename_i hrange
    simp only [isDigit, Bool.and_eq_true, decide_eq_true_eq] at hrange
    exact Or.inl ⟨hrange.1, hrange.2, (Option.some.inj h).symm⟩
  · split at h
    · rename_i hrange
      exact Or.inr (Or.inl ⟨hrange.1, hrange.2, (Option.some.inj h).symm⟩)
    · split at h
      · rename_i hrange
        exact Or.inr (Or.inr ⟨hrange.1, hrange.2, (Option.some.inj h).symm⟩)
      · cases h

theorem hexValue_lt (h : hexValue c = some d) : d < 16 := by
  have hcases := hexValue_cases h
  omega

theorem addrChar_range (h : addrChar c = true) : 46 ≤ c.toNat ∧ c.toNat ≤ 102 := by
  simp only [addrChar, Bool.or_eq_true, decide_eq_true_eq] at h
  rcases h with (hhex | rfl) | rfl
  · obtain ⟨d, hd⟩ := Option.isSome_iff_exists.mp hhex
    have hcases := hexValue_cases hd
    omega
  · decide
  · decide

theorem foldl_hexValue_lt {digits : List Char} (hdigits : ∀ c ∈ digits, (hexValue c).isSome = true)
    (hlength : digits.length ≤ 4) :
    digits.foldl (fun acc c => acc * 16 + (hexValue c).getD 0) 0 < 65536 := by
  have hsmall : ∀ d ∈ digits.map fun c => (hexValue c).getD 0, d < 16 := by
    intro d hd
    obtain ⟨c, hc, rfl⟩ := List.mem_map.mp hd
    obtain ⟨d, hvalue⟩ := Option.isSome_iff_exists.mp (hdigits c hc)
    rw [hvalue]
    exact hexValue_lt hvalue
  have hbound := foldl_lt hsmall 0
  rw [List.foldl_map, List.length_map] at hbound
  have hpow : 16 ^ digits.length ≤ 16 ^ 4 := Nat.pow_le_pow_right (by omega) hlength
  omega

theorem addrChar_of_hexValue (hc : (hexValue c).isSome = true) : addrChar c = true := by
  simp [addrChar, hc]

theorem GroupsRead.behind {s' : List Char} (h : GroupsRead s' groups rest)
    (hs : ∀ c ∈ s, addrChar c = true ∨ c ∈ s') : GroupsRead s groups rest where
  small := h.small
  few := h.few
  chars := by
    intro c hc
    rcases hs c hc with hread | hmore
    · exact Or.inl hread
    · exact h.chars c hmore

/-- What the loop reads is groups of 16 bits, written in characters of an address. -/
theorem parseIPv6Loop_spec {ellipsis' : Option Nat} (hsmall : ∀ g ∈ groups, g < 65536)
    (hfew : groups.length + fuel ≤ 8)
    (h : parseIPv6Loop fuel groups ellipsis s = some (groups', ellipsis', rest)) :
    GroupsRead s groups' rest := by
  induction fuel generalizing groups ellipsis s with
  | zero =>
    cases h
    exact ⟨hsmall, by omega, fun c hc => Or.inr hc⟩
  | succ fuel ih =>
    have hdigits : ∀ c ∈ s.takeWhile (fun c => (hexValue c).isSome),
        (hexValue c).isSome = true := List.all_eq_true.mp List.all_takeWhile
    have hpast : ∀ c ∈ s, addrChar c = true ∨ c ∈ s.dropWhile (fun c => (hexValue c).isSome) := by
      intro c hc
      rw [← List.takeWhile_append_dropWhile (p := fun c => (hexValue c).isSome) (l := s),
        List.mem_append] at hc
      rcases hc with hc | hc
      · exact Or.inl (addrChar_of_hexValue (hdigits c hc))
      · exact Or.inr hc
    have hcolon : addrChar ':' = true := rfl
    rw [parseIPv6Loop] at h
    split at h
    · cases h
    · rename_i hfit
      rw [not_or, Nat.not_lt] at hfit
      have hsmall' : ∀ g ∈ groups ++ [(s.takeWhile (fun c => (hexValue c).isSome)).foldl
          (fun acc c => acc * 16 + (hexValue c).getD 0) 0], g < 65536 := by
        intro g hg
        rcases List.mem_append.mp hg with hg | hg
        · exact hsmall g hg
        · exact List.mem_singleton.mp hg ▸ foldl_hexValue_lt hdigits hfit.2
      split at h
      · split at h
        · cases h
        · split at h
          · rename_i a b c d hfields
            obtain ⟨hchars, -, hbytes⟩ := parseIPv4Fields_spec hfields
            cases h
            refine ⟨?_, by simp; omega, fun c hc => Or.inl (hchars c hc)⟩
            intro g hg
            have ha := hbytes a (by simp)
            have hb := hbytes b (by simp)
            have hc := hbytes c (by simp)
            have hd := hbytes d (by simp)
            simp only [List.mem_append, List.mem_cons, List.not_mem_nil, or_false] at hg
            rcases hg with hg | rfl | rfl
            · exact hsmall g hg
            · omega
            · omega
          · cases h
      · split at h
        · rename_i hend
          cases h
          rw [hend] at hpast
          exact ⟨hsmall', by simp; omega, hpast⟩
        · rename_i c more hmore
          rw [hmore] at hpast
          split at h
          · cases h
          · rename_i hc
            obtain rfl : c = ':' := not_not.mp hc
            split at h
            · cases h
            · rename_i tail
              have htail : ∀ c ∈ s, addrChar c = true ∨ c ∈ tail := by
                intro c hc
                rcases hpast c hc with hread | hmem
                · exact Or.inl hread
                · simp only [List.mem_cons] at hmem
                  rcases hmem with rfl | rfl | hmem
                  · exact Or.inl hcolon
                  · exact Or.inl hcolon
                  · exact Or.inr hmem
              split at h
              · cases h
              · split at h
                · rename_i hend
                  cases h
                  rw [hend] at htail
                  exact ⟨hsmall', by simp; omega, htail⟩
                · exact (ih hsmall' (by simp; omega) h).behind htail
            · refine (ih hsmall' (by simp; omega) h).behind ?_
              intro c hc
              rcases hpast c hc with hread | hmem
              · exact Or.inl hread
              · rcases List.mem_cons.mp hmem with rfl | hmem
                · exact Or.inl hcolon
                · exact Or.inr hmem

/-- Filling in the ellipsis leaves eight groups of 16 bits. -/
theorem expandEllipsis_spec (hsmall : ∀ g ∈ groups, g < 65536) (hfew : groups.length ≤ 8)
    (h : expandEllipsis groups ellipsis = some groups') :
    groups'.length = 8 ∧ ∀ g ∈ groups', g < 65536 := by
  cases ellipsis with
  | none =>
    simp only [expandEllipsis, Option.ite_none_left_eq_some, Option.some.injEq] at h
    obtain ⟨hfull, rfl⟩ := h
    exact ⟨by omega, hsmall⟩
  | some at_ =>
    simp only [expandEllipsis, Option.ite_none_right_eq_some, Option.some.injEq] at h
    obtain ⟨hshort, rfl⟩ := h
    constructor
    · simp only [List.length_append, List.length_take, List.length_replicate, List.length_drop]
      omega
    · intro g hg
      simp only [List.mem_append, List.mem_replicate] at hg
      rcases hg with (hg | ⟨-, rfl⟩) | hg
      · exact hsmall g (List.mem_of_mem_take hg)
      · omega
      · exact hsmall g (List.mem_of_mem_drop hg)

/-- An accepted IPv6 text has only characters of an address, and its value fits 128 bits. -/
theorem parseIPv6_spec (h : parseIPv6 s = some ip) :
    (∀ c ∈ s, addrChar c = true) ∧ ip < 2 ^ 128 := by
  have hfinish {ellipsis : Option Nat} {read : List Char}
      (hread : parseIPv6.finish (parseIPv6Loop 8 [] ellipsis read) = some ip) :
      (∀ c ∈ read, addrChar c = true) ∧ ip < 2 ^ 128 := by
    cases hloop : parseIPv6Loop 8 [] ellipsis read with
    | none => simp [hloop, parseIPv6.finish] at hread
    | some found =>
      obtain ⟨groups, ellipsis', rest⟩ := found
      have hspec := parseIPv6Loop_spec (by simp) (by simp) hloop
      cases rest with
      | cons c more => simp [hloop, parseIPv6.finish] at hread
      | nil =>
        rw [hloop, parseIPv6.finish, Option.map_eq_some_iff] at hread
        obtain ⟨groups', hexpand, rfl⟩ := hread
        obtain ⟨hlength, hsmall⟩ := expandEllipsis_spec hspec.small hspec.few hexpand
        have hbound := foldl_lt hsmall 0
        rw [hlength] at hbound
        refine ⟨fun c hc => (hspec.chars c hc).resolve_right List.not_mem_nil, ?_⟩
        calc groupsValue groups' < (0 + 1) * 65536 ^ 8 := hbound
          _ = 2 ^ 128 := by norm_num
  have hcolon : addrChar ':' = true := rfl
  unfold parseIPv6 at h
  split at h
  · cases h
  · split at h
    · cases h
      exact ⟨by simp [hcolon], by norm_num⟩
    · obtain ⟨hchars, hbound⟩ := hfinish h
      exact ⟨List.forall_mem_cons.mpr ⟨hcolon, List.forall_mem_cons.mpr ⟨hcolon, hchars⟩⟩, hbound⟩
    · exact hfinish h

/-- A text that is read as an address has an address's characters, and the
address has 128 bits. -/
theorem parseIP_spec {s : String} (h : parseIP s = some ip) :
    (∀ c ∈ s.toList, addrChar c = true) ∧ ip < 2 ^ 128 := by
  unfold parseIP at h
  split at h
  · obtain ⟨fields, hfields, rfl⟩ := Option.map_eq_some_iff.mp h
    obtain ⟨hchars, hlength, hbytes⟩ := parseIPv4Fields_spec hfields
    have hbound := foldl_lt hbytes 0
    rw [hlength] at hbound
    refine ⟨hchars, ?_⟩
    simp only [mappedBase]
    omega
  · exact parseIPv6_spec h
  · cases h

end GoNet
