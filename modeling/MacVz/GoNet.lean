/-
The part of Go's `net` package the program rests on: the textual forms of IP
addresses.  An address is its 128-bit value, with an IPv4 address in the mapped
range `::ffff:0:0/96`, as `net.IP` keeps it.
-/
import Mathlib.Algebra.Group.Nat.Defs
import Mathlib.Data.List.Basic

namespace GoNet

/-- Where the IPv4 addresses stand among the IPv6 ones. -/
def mappedBase : Nat := 0xffff * 2 ^ 32

/-- `IP.To4`: the 32-bit value of an IPv4 address. -/
def to4 (ip : Nat) : Option Nat :=
  if ip / 2 ^ 32 = 0xffff then some (ip % 2 ^ 32) else none

def isDigit (c : Char) : Bool := '0' ≤ c && c ≤ '9'

def digitValue (c : Char) : Nat := c.toNat - '0'.toNat

/-- The octet loop of `parseIPv4Fields`: the character before, the value and
digit count of the current octet, and the octets completed so far. -/
def parseIPv4Loop (prev : Option Char) (val digLen : Nat) (fields : List Nat) :
    List Char → Option (List Nat)
  | [] => if fields.length < 3 then none else some (fields ++ [val])
  | c :: rest =>
    if isDigit c then
      if digLen = 1 ∧ val = 0 then none
      else if val * 10 + digitValue c > 255 then none
      else parseIPv4Loop (some c) (val * 10 + digitValue c) (digLen + 1)
        fields rest
    else if c = '.' then
      if prev = none ∨ rest = [] ∨ prev = some '.' then none
      else if fields.length = 3 then none
      else parseIPv4Loop (some c) 0 0 (fields ++ [val]) rest
    else none

def parseIPv4Fields (s : List Char) : Option (List Nat) :=
  parseIPv4Loop none 0 0 [] s

def hexValue (c : Char) : Option Nat :=
  if isDigit c then some (digitValue c)
  else if 'a' ≤ c ∧ c ≤ 'f' then some (c.toNat - 'a'.toNat + 10)
  else if 'A' ≤ c ∧ c ≤ 'F' then some (c.toNat - 'A'.toNat + 10)
  else none

/-- The group loop of `parseIPv6`: the 16-bit groups read so far and the place
of the ellipsis among them.  The fuel is the number of groups still allowed. -/
def parseIPv6Loop : Nat → List Nat → Option Nat → List Char →
    Option (List Nat × Option Nat × List Char)
  | 0, groups, ellipsis, s => some (groups, ellipsis, s)
  | fuel + 1, groups, ellipsis, s =>
    let digits := s.takeWhile (fun c => (hexValue c).isSome)
    let rest := s.dropWhile (fun c => (hexValue c).isSome)
    if digits = [] ∨ 4 < digits.length then none
    else if rest.head? = some '.' then
      if (ellipsis = none ∧ groups.length ≠ 6) ∨ 8 < groups.length + 2 then none
      else
        match parseIPv4Fields s with
        | some [a, b, c, d] => some (groups ++ [a * 256 + b, c * 256 + d], ellipsis, [])
        | _ => none
    else
      let groups := groups ++
        [digits.foldl (fun acc c => acc * 16 + (hexValue c).getD 0) 0]
      match rest with
      | [] => some (groups, ellipsis, [])
      | c :: more =>
        if c ≠ ':' then none
        else
          match more with
          | [] => none
          | ':' :: tail =>
            if ellipsis.isSome then none
            else if tail = [] then some (groups, some groups.length, [])
            else parseIPv6Loop fuel groups (some groups.length) tail
          | more => parseIPv6Loop fuel groups ellipsis more

/-- Fill in the zero groups of the ellipsis and demand eight groups in all. -/
def expandEllipsis (groups : List Nat) (ellipsis : Option Nat) :
    Option (List Nat) :=
  match ellipsis with
  | none => if groups.length < 8 then none else some groups
  | some at_ =>
    if groups.length < 8 then
      some (groups.take at_ ++ List.replicate (8 - groups.length) 0 ++
        groups.drop at_)
    else none

def groupsValue (groups : List Nat) : Nat :=
  groups.foldl (fun acc g => acc * 65536 + g) 0

/-- `parseIPv6` for the addresses `net.ParseIP` accepts: those with no zone. -/
def parseIPv6 (s : List Char) : Option Nat :=
  if '%' ∈ s then none
  else
    match s with
    | ':' :: ':' :: [] => some 0
    | ':' :: ':' :: tail => finish (parseIPv6Loop 8 [] (some 0) tail)
    | s => finish (parseIPv6Loop 8 [] none s)
where
  finish : Option (List Nat × Option Nat × List Char) → Option Nat
    | some (groups, ellipsis, []) => (expandEllipsis groups ellipsis).map groupsValue
    | _ => none

/-- `net.ParseIP`: the first `.` or `:` decides the notation. -/
def parseIP (s : String) : Option Nat :=
  match s.toList.find? (fun c => c = '.' ∨ c = ':' ∨ c = '%') with
  | some '.' => (parseIPv4Fields s.toList).map fun fields =>
    mappedBase + fields.foldl (fun acc f => acc * 256 + f) 0
  | some ':' => parseIPv6 s.toList
  | _ => none

def ipv4String (n : Nat) : String :=
  toString (n / 2 ^ 24 % 256) ++ "." ++ toString (n / 2 ^ 16 % 256) ++ "." ++
    toString (n / 2 ^ 8 % 256) ++ "." ++ toString (n % 256)

def hexDigits (n : Nat) : String := String.ofList (Nat.toDigits 16 n)

/-- The eight groups of an address. -/
def groupsOf (ip : Nat) : List Nat :=
  (List.range 8).map fun i => ip / 2 ^ (16 * (7 - i)) % 65536

/-- How many groups in front are zero. -/
def zeroRun (groups : List Nat) : Nat := (groups.takeWhile (· = 0)).length

/-- The first longest run of at least two zero groups: its start and length. -/
def longestZeroRun (groups : List Nat) : Option (Nat × Nat) :=
  (List.range groups.length).foldl (fun best i =>
    let run := zeroRun (groups.drop i)
    match best with
    | none => if 2 ≤ run then some (i, run) else none
    | some (start, len) => if len < run then some (i, run) else some (start, len))
    none

/-- The colon notation with the longest zero run written as an ellipsis. -/
def ipv6String (ip : Nat) : String :=
  let groups := groupsOf ip
  match longestZeroRun groups with
  | none => ":".intercalate (groups.map hexDigits)
  | some (start, len) =>
    ":".intercalate ((groups.take start).map hexDigits) ++ "::" ++
      ":".intercalate ((groups.drop (start + len)).map hexDigits)

/-- `IP.String` of a `width`-byte address with value `n`. -/
def ipString (width n : Nat) : String :=
  if width = 4 then ipv4String (n % 2 ^ 32)
  else
    let ip := n % 2 ^ 128
    match to4 ip with
    | some v4 => ipv4String v4
    | none => ipv6String ip

/-- `net.SplitHostPort`: the port is behind the last colon, and a host with
colons in it stands in brackets. -/
def splitHostPort (s : String) : Option (List Char × List Char) :=
  let port := (s.toList.reverse.takeWhile (· ≠ ':')).reverse
  let front := s.toList.take (s.toList.length - (port.length + 1))
  if ':' ∉ s.toList then none
  else
    match s.toList with
    | '[' :: inner =>
      let host := inner.takeWhile (· ≠ ']')
      if front ≠ '[' :: (host ++ [']']) ∨ '[' ∈ inner ∨ ']' ∈ port then none
      else some (host, port)
    | _ => if ':' ∈ front ∨ '[' ∈ s.toList ∨ ']' ∈ s.toList then none else some (front, port)

theorem ipv4String_ne_empty (n : Nat) : ipv4String n ≠ "" := by
  intro hempty
  have hlen := congrArg String.length hempty
  simp only [ipv4String, String.length_append] at hlen
  have hdot : ".".length = 1 := by decide
  have hzero : "".length = 0 := by decide
  omega

theorem ipv6String_ne_empty (ip : Nat) : ipv6String ip ≠ "" := by
  intro hempty
  have hchars := congrArg String.toList hempty
  unfold ipv6String at hchars
  dsimp only at hchars
  cases hrun : longestZeroRun (groupsOf ip) with
  | some run =>
    rw [hrun] at hchars
    simp at hchars
  | none =>
    obtain ⟨first, second, rest, hgroups⟩ :
        ∃ first second rest, groupsOf ip = first :: second :: rest := ⟨_, _, _, rfl⟩
    rw [hrun, hgroups] at hchars
    simp [String.toList_intercalate] at hchars

theorem ipString_ne_empty (width n : Nat) : ipString width n ≠ "" := by
  unfold ipString
  split
  · exact ipv4String_ne_empty _
  · dsimp only
    split
    · exact ipv4String_ne_empty _
    · exact ipv6String_ne_empty _

end GoNet
