/-
The parts of Go's `strings` and `strconv`, `time` and `path/filepath` packages the program rests
on.  A text is a list of runes.  A time is its number of nanoseconds since the Unix epoch, a
duration a number of nanoseconds within the range of the type.  A cleaned Unix path is the list of
its segments, so that being below a directory is having its segments as a beginning.
-/
import MacVz.GoNet
import MacVz.MaximalRuns
import Mathlib.Algebra.Group.Int.Defs
import Mathlib.Data.List.Basic
import Mathlib.Data.List.Infix

namespace GoStrings

/-- The simple lower-case mapping of a rune as far as ASCII is concerned.
Beyond ASCII only the dotted capital I and the Kelvin sign have an ASCII lower
case; every other rune is outside ASCII before and after. -/
def toLowerRune (r : Char) : Char :=
  if r = Char.ofNat 0x130 then 'i'
  else if r = Char.ofNat 0x212a then 'k'
  else r.toLower

/-- `strings.ToLower`, up to the case of runes outside ASCII. -/
def toLower (s : String) : List Char := s.toList.map toLowerRune

/-- `unicode.IsSpace`. -/
def isSpace (r : Char) : Bool :=
  r.toNat ∈ [0x09, 0x0a, 0x0b, 0x0c, 0x0d, 0x20, 0x85, 0xa0, 0x1680, 0x2028,
    0x2029, 0x202f, 0x205f, 0x3000] || (0x2000 ≤ r.toNat && r.toNat ≤ 0x200a)

/-- `strings.TrimSpace`. -/
def trimSpace (s : List Char) : List Char :=
  (s.dropWhile isSpace).rdropWhile isSpace

/-- `strings.Contains`. -/
def contains (s sub : List Char) : Bool := sub <:+: s

/-- `strings.HasPrefix` and `strings.TrimPrefix` in one: the rest after the
given beginning. -/
def cutBeginning (beginning s : List Char) : Option (List Char) :=
  if beginning <+: s then some (s.drop beginning.length) else none

theorem cutBeginning_eq_some {beginning s rest : List Char} :
    cutBeginning beginning s = some rest ↔ s = beginning ++ rest := by
  unfold cutBeginning
  split
  · rename_i hpre
    obtain ⟨tail, rfl⟩ := hpre
    simp
  · rename_i hpre
    simp only [reduceCtorEq, false_iff]
    rintro rfl
    exact hpre (List.prefix_append beginning rest)

/-- `strings.Cut`: the texts before and after the first separator. -/
def cut (sep : Char) (s : List Char) : Option (List Char × List Char) :=
  if sep ∈ s then some (s.takeWhile (· ≠ sep), (s.dropWhile (· ≠ sep)).tail) else none

/-- `strings.Cut` splits at the first separator. -/
theorem cut_eq_some {sep : Char} {s front back : List Char} :
    cut sep s = some (front, back) ↔ sep ∉ front ∧ s = front ++ sep :: back := by
  constructor
  · intro h
    obtain ⟨hmem, h⟩ := Option.ite_none_right_eq_some.mp h
    obtain ⟨rfl, rfl⟩ := Prod.mk.inj (Option.some.inj h)
    refine ⟨fun hfront => ?_, ?_⟩
    · simpa using List.mem_takeWhile_imp hfront
    · obtain ⟨c, rest, hdrop⟩ := List.exists_cons_of_ne_nil (l := s.dropWhile (· ≠ sep))
        (fun hnil => by simpa using List.dropWhile_eq_nil_iff.mp hnil sep hmem)
      have hc : c = sep := by
        have hhead := List.head?_dropWhile_not (fun c => decide (c ≠ sep)) s
        rw [hdrop] at hhead
        simpa using hhead
      rw [hdrop, List.tail_cons, ← hc, ← hdrop, hc, List.takeWhile_append_dropWhile]
  · rintro ⟨hfront, rfl⟩
    have hbefore : ∀ c ∈ front, decide (c ≠ sep) = true := by
      intro c hc
      rw [decide_eq_true_iff]
      rintro rfl
      exact hfront hc
    rw [cut, List.takeWhile_append_of_pos hbefore,
      List.dropWhile_append_of_pos hbefore]
    simp

/-- `strings.TrimSuffix`. -/
def trimSuffix (ending s : List Char) : List Char :=
  if ending <:+ s then s.take (s.length - ending.length) else s

/-- `strings.Fields`: the maximal stretches without white space. -/
def fields (s : List Char) : List String :=
  (MaximalRuns.runs (fun r => !isSpace r) s).map String.ofList

/-- The lines of a text, as `strings.Split` at the line break gives them. -/
def lines (s : String) : List (List Char) := s.toList.splitOn '\n'

def splitSign : List Char → Int × List Char
  | '-' :: rest => (-1, rest)
  | '+' :: rest => (1, rest)
  | rest => (1, rest)

/-- `strconv.Atoi`: an optional sign and decimal digits, within 64 bits. -/
def atoi (s : String) : Option Int :=
  let (sign, digits) := splitSign s.toList
  if digits = [] ∨ !digits.all GoNet.isDigit then none
  else
    let n : Int := sign * digits.foldl (fun acc c => acc * 10 + GoNet.digitValue c) 0
    if -2 ^ 63 ≤ n ∧ n < 2 ^ 63 then some n else none

end GoStrings

namespace GoTime

/-- The range of `time.Duration`. -/
def minDuration : Int := -2 ^ 63

def maxDuration : Int := 2 ^ 63 - 1

/-- The zero `time.Time`: the beginning of the year 1. -/
def zeroTime : Int := -62135596800000000000

/-- `Time.Sub`: the result is cut off at the ends of the range. -/
def sub (t u : Int) : Int := max minDuration (min maxDuration (t - u))

theorem le_of_le_sub {d t u : Int} (hd : minDuration < d) (h : d ≤ sub t u) : u + d ≤ t := by
  unfold sub at h
  omega

theorem sub_pos_iff {t u : Int} : 0 < sub t u ↔ u < t := by
  unfold sub minDuration maxDuration
  omega

end GoTime

namespace GoFilepath

/-- `strings.Split(s, "/")`. -/
def split (s : String) : List String := (s.toList.splitOn '/').map String.ofList

/-- `filepath.IsAbs`. -/
def isAbs (s : String) : Bool := s.toList.head? == some '/'

/-- One segment of lexical cleaning: empty and dot segments go, and two dots take the
segment before with them.  They stay at the beginning of a path that has no root. -/
def push (rooted : Bool) (path : List String) (segment : String) : List String :=
  if segment = "" ∨ segment = "." then path
  else if segment = ".." then
    if path.getLast?.all (· == "..") then
      if rooted then path else path ++ [".."]
    else path.dropLast
  else path ++ [segment]

/-- The segments of `filepath.Clean`. -/
def segments (s : String) : List String := (split s).foldl (push (isAbs s)) []

/-- The text of an absolute path. -/
def absText (path : List String) : String := "/" ++ "/".intercalate path

/-- `filepath.Clean`. -/
def clean (s : String) : String :=
  if isAbs s then absText (segments s)
  else if segments s = [] then "." else "/".intercalate (segments s)

/-- `filepath.Join` of a cleaned absolute path with further elements. -/
def join (dir : List String) (elems : List String) : List String :=
  elems.foldl (fun path elem => (split elem).foldl (push true) path) dir

/-- The path lies in the directory and is not the directory. -/
def Below (dir path : List String) : Prop := dir <+: path ∧ path ≠ dir

instance (dir path : List String) : Decidable (Below dir path) :=
  inferInstanceAs (Decidable (_ ∧ _))

theorem Below.trans {a b c : List String} (hab : Below a b) (hbc : Below b c) : Below a c := by
  refine ⟨hab.1.trans hbc.1, ?_⟩
  rintro rfl
  exact hab.2 (hab.1.eq_of_length_le hbc.1.length_le).symm

theorem Below.le {dir path : List String} (h : Below dir path) : dir <+: path := h.1

end GoFilepath
