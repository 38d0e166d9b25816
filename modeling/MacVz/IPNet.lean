/-
Networks of Go's `net` package: the CIDR notation that is read and written, and
the addresses that belong to a network.
-/
import MacVz.AddressText
import MacVz.TextFields

namespace MacVz

variable {s : String} {ip : Nat} {v4 : Nat}

/-- A network: the masked address as a 128-bit value, the width of its mask in
bytes, and the number of ones in the mask. -/
structure IPNet where
  ip : Nat
  width : Nat
  ones : Nat
deriving Repr, DecidableEq

variable {net : IPNet}

def IPNet.hostBits (net : IPNet) : Nat := net.width * 8 - net.ones

/-- `ipToBig`: the 32-bit value of an IPv4 address, the 128-bit value of any other. -/
def ipToBig (ip : Nat) : Nat := (GoNet.to4 ip).getD ip

/-- `IPNet.Contains`: the same family and the same masked address. -/
def IPNet.contains (net : IPNet) (ip : Nat) : Bool :=
  (GoNet.to4 ip).isSome == (GoNet.to4 net.ip).isSome &&
    ipToBig ip / 2 ^ net.hostBits == ipToBig net.ip / 2 ^ net.hostBits

/-- `dtoi` of a text with nothing but digits in it. -/
def dtoi (s : List Char) : Option Nat :=
  if s ≠ [] ∧ s.all GoNet.isDigit then
    some (s.foldl (fun acc c => acc * 10 + GoNet.digitValue c) 0)
  else none

/-- The width in bytes of the notation of an address: the first mark decides. -/
def addrWidth (s : List Char) : Nat :=
  if s.find? (fun c => c = '.' ∨ c = ':' ∨ c = '%') = some '.' then 4 else 16

/-- `net.ParseCIDR`: the address as it is written, and its network. -/
def parseCIDR (s : String) : Option (Nat × IPNet) :=
  match GoStrings.cut '/' s.toList with
  | none => none
  | some (addr, mask) =>
    match GoNet.parseIP (String.ofList addr), dtoi mask with
    | some ip, some ones =>
      let width := addrWidth addr
      if ones ≤ width * 8 then
        let host := 2 ^ (width * 8 - ones)
        some (ip, ⟨ip / host * host, width, ones⟩)
      else none
    | _, _ => none

/-- `IPNet.String`: a network of IPv4 addresses is written in four bytes whatever
the width of its mask. -/
def IPNet.string (net : IPNet) : String :=
  match GoNet.to4 net.ip with
  | some v4 => GoNet.ipv4String v4 ++ "/" ++ toString (net.ones - (net.width * 8 - 32))
  | none => GoNet.ipv6String net.ip ++ "/" ++ toString net.ones

/-- A network as `net.ParseCIDR` gives it. -/
structure IPNet.WellFormed (net : IPNet) : Prop where
  width_eq : net.width = 4 ∨ net.width = 16
  ones_le : net.ones ≤ net.width * 8
  masked : net.ip % 2 ^ net.hostBits = 0
  ip_lt : net.ip < 2 ^ 128
  mapped : net.width = 4 → ∃ v4, GoNet.to4 net.ip = some v4

/-- The parts of an accepted CIDR: an address, a length that fits it, and the network's address.
-/
theorem parseCIDR_parts (h : parseCIDR s = some (ip, net)) :
    ∃ addr mask, GoStrings.cut '/' s.toList = some (addr, mask) ∧
      GoNet.parseIP (String.ofList addr) = some ip ∧ dtoi mask = some net.ones ∧
      net.width = addrWidth addr ∧ net.ones ≤ net.width * 8 ∧
      net.ip = ip / 2 ^ net.hostBits * 2 ^ net.hostBits := by
  unfold parseCIDR at h
  split at h
  · cases h
  · rename_i addr mask hcut
    split at h
    · rename_i ip' ones hip hones
      dsimp only at h
      split at h
      · rename_i hle
        cases h
        exact ⟨addr, mask, hcut, hip, hones, rfl, hle, rfl⟩
      · cases h
    · cases h

theorem addrWidth_cases (addr : List Char) : addrWidth addr = 4 ∨ addrWidth addr = 16 := by
  unfold addrWidth
  split
  · exact Or.inl rfl
  · exact Or.inr rfl

theorem to4_of_addrWidth {addr : List Char} (hwidth : addrWidth addr = 4)
    (hip : GoNet.parseIP (String.ofList addr) = some ip) : ∃ v4, GoNet.to4 ip = some v4 := by
  have hmark : addr.find? (fun c => c = '.' ∨ c = ':' ∨ c = '%') = some '.' := by
    by_contra hother
    rw [addrWidth, if_neg hother] at hwidth
    omega
  rw [GoNet.parseIP, String.toList_ofList, hmark] at hip
  obtain ⟨fields, hfields, rfl⟩ := Option.map_eq_some_iff.mp hip
  obtain ⟨-, hlength, hbytes⟩ := GoNet.parseIPv4Fields_spec hfields
  have hbound := GoNet.foldl_lt hbytes 0
  rw [hlength] at hbound
  exact ⟨_, GoNet.to4_mapped (by omega)⟩

theorem IPNet.hostBits_le (hwidth : net.width = 4) : net.hostBits ≤ 32 := by
  rw [IPNet.hostBits]
  omega

theorem to4_masked {bits : Nat} (hbits : bits ≤ 32) (h : GoNet.to4 ip = some v4) :
    GoNet.to4 (ip / 2 ^ bits * 2 ^ bits) = some (v4 / 2 ^ bits * 2 ^ bits) := by
  obtain ⟨rfl, hlt⟩ := GoNet.to4_eq_some h
  obtain ⟨rest, hrest⟩ := Nat.exists_eq_add_of_le hbits
  have hbase : GoNet.mappedBase = 2 ^ bits * (0xffff * 2 ^ rest) := by
    rw [GoNet.mappedBase, hrest, Nat.pow_add]
    ac_rfl
  have hmask : (GoNet.mappedBase + v4) / 2 ^ bits * 2 ^ bits =
      GoNet.mappedBase + v4 / 2 ^ bits * 2 ^ bits := by
    rw [hbase, Nat.mul_add_div (Nat.two_pow_pos bits), Nat.add_mul]
    ac_rfl
  rw [hmask]
  exact GoNet.to4_mapped (lt_of_le_of_lt (Nat.div_mul_le_self v4 _) hlt)

theorem parseCIDR_chars (h : parseCIDR s = some (ip, net)) {c : Char} (hc : c ∈ s.toList) :
    46 ≤ c.toNat ∧ c.toNat ≤ 102 := by
  obtain ⟨addr, mask, hcut, hip, hones, -⟩ := parseCIDR_parts h
  rw [(GoStrings.cut_eq_some.mp hcut).2, List.mem_append, List.mem_cons] at hc
  rcases hc with haddr | rfl | hmask
  · exact GoNet.addrChar_range ((GoNet.parseIP_spec hip).1 c (by rwa [String.toList_ofList]))
  · decide
  · obtain ⟨⟨-, hdigits⟩, -⟩ := Option.ite_none_right_eq_some.mp hones
    exact GoNet.addrChar_range (GoNet.addrChar_of_isDigit (List.all_eq_true.mp hdigits c hmask))

theorem isWord_of_parseCIDR (h : parseCIDR s = some (ip, net)) : GoStrings.IsWord s := by
  refine ⟨?_, ?_⟩
  · rintro rfl
    cases h
  · intro c hc
    obtain ⟨hlow, hhigh⟩ := parseCIDR_chars h hc
    exact GoStrings.isSpace_eq_false (by omega) (by omega)

/-- An accepted CIDR gives a well-formed network. -/
theorem parseCIDR_wellFormed (h : parseCIDR s = some (ip, net)) : net.WellFormed := by
  obtain ⟨addr, mask, hcut, hip, hones, hwidth, hle, hmask⟩ := parseCIDR_parts h
  refine ⟨hwidth ▸ addrWidth_cases addr, hle, ?_, ?_, ?_⟩
  · rw [hmask]
    exact Nat.mul_mod_left _ _
  · rw [hmask]
    exact lt_of_le_of_lt (Nat.div_mul_le_self ip _) (GoNet.parseIP_spec hip).2
  · intro hfour
    obtain ⟨v4, hv4⟩ := to4_of_addrWidth (hwidth ▸ hfour) hip
    rw [hmask]
    exact ⟨_, to4_masked (IPNet.hostBits_le hfour) hv4⟩

/-- The address lies in the range, both as they are written. -/
def Within (ip cidr : String) : Prop :=
  ∃ addr, GoNet.parseIP ip = some addr ∧
    ∃ written net, parseCIDR cidr = some (written, net) ∧ net.contains addr = true

theorem dtoi_toString (n : Nat) : dtoi (toString n).toList = some n := by
  rw [dtoi, if_pos ⟨GoStrings.toString_toList_ne_nil n, GoStrings.all_isDigit_toString n⟩,
    GoStrings.foldl_toString]

/-- An address with a length that fits it is an accepted CIDR. -/
theorem parseCIDR_slash {addr : String} {ones : Nat} (haddr : GoNet.parseIP addr = some ip)
    (hones : ones ≤ addrWidth addr.toList * 8) :
    ∃ net, parseCIDR (addr ++ "/" ++ toString ones) = some (ip, net) ∧
      net.width = addrWidth addr.toList ∧ net.ones = ones := by
  have hslash : '/' ∉ addr.toList := by
    intro hmem
    have haddrChar := (GoNet.parseIP_spec haddr).1 '/' hmem
    revert haddrChar
    decide
  have hcut : GoStrings.cut '/' (addr ++ "/" ++ toString ones).toList =
      some (addr.toList, (toString ones).toList) := by
    rw [GoStrings.cut_eq_some]
    refine ⟨hslash, ?_⟩
    simp
  rw [parseCIDR, hcut]
  simp only [String.ofList_toList, haddr, dtoi_toString, if_pos hones]
  exact ⟨_, rfl, rfl, rfl⟩

theorem addrWidth_ipv4String (n : Nat) : addrWidth (GoNet.ipv4String n).toList = 4 := by
  rw [addrWidth, GoNet.ipv4String_toList, GoNet.find?_mark (by omega) _ (Or.inl rfl), if_pos rfl]

theorem addrWidth_ipv6String (ip : Nat) : addrWidth (GoNet.ipv6String ip).toList = 16 := by
  rw [addrWidth, GoNet.find?_ipv6String, if_neg (by decide)]

theorem IPNet.WellFormed.hostBits_le_of_to4 (h : net.WellFormed)
    (hv4 : GoNet.to4 net.ip = some v4) :
    net.hostBits ≤ 32 := by
  obtain ⟨hip, hlt⟩ := GoNet.to4_eq_some hv4
  by_contra hlarge
  obtain ⟨rest, hrest⟩ := Nat.exists_eq_add_of_le (show 33 ≤ net.hostBits by omega)
  have hmasked := h.masked
  rw [hrest, hip, Nat.pow_add] at hmasked
  have hdvd : 2 ^ 33 ∣ 0xffff * 2 ^ 32 + v4 :=
    Dvd.dvd.trans (Dvd.intro _ rfl) (Nat.dvd_of_mod_eq_zero hmasked)
  omega

theorem IPNet.string_of_to4 (h : GoNet.to4 net.ip = some v4) :
    net.string = GoNet.ipv4String v4 ++ "/" ++ toString (net.ones - (net.width * 8 - 32)) := by
  simp only [IPNet.string, h]

theorem IPNet.string_of_to4_none (h : GoNet.to4 net.ip = none) :
    net.string = GoNet.ipv6String net.ip ++ "/" ++ toString net.ones := by
  simp only [IPNet.string, h]

/-- A well-formed network's text parses to the same network. -/
theorem parseCIDR_string (h : net.WellFormed) :
    ∃ net', parseCIDR net.string = some (net.ip, net') ∧ net'.ip = net.ip ∧
      net'.hostBits = net.hostBits := by
  have hones := h.ones_le
  have hself : net.ip / 2 ^ net.hostBits * 2 ^ net.hostBits = net.ip :=
    Nat.div_mul_cancel (Nat.dvd_of_mod_eq_zero h.masked)
  -- the network that is read back has the host bits of the one that was written
  suffices hread : ∃ net', parseCIDR net.string = some (net.ip, net') ∧
      net'.hostBits = net.hostBits by
    obtain ⟨net', hparse, hbits⟩ := hread
    obtain ⟨-, -, -, -, -, -, -, hip⟩ := parseCIDR_parts hparse
    exact ⟨net', hparse, by rw [hip, hbits, hself], hbits⟩
  cases hv4 : GoNet.to4 net.ip with
  | some v4 =>
    obtain ⟨hip, hlt⟩ := GoNet.to4_eq_some hv4
    have hbits := h.hostBits_le_of_to4 hv4
    have hwidth := h.width_eq
    have hfits : net.ones - (net.width * 8 - 32) ≤ addrWidth (GoNet.ipv4String v4).toList * 8 := by
      rw [addrWidth_ipv4String]
      omega
    obtain ⟨net', hparse, hwidth', hones'⟩ :=
      parseCIDR_slash (GoNet.parseIP_ipv4String hlt) hfits
    rw [← hip, ← IPNet.string_of_to4 hv4] at hparse
    refine ⟨net', hparse, ?_⟩
    rw [IPNet.hostBits] at hbits ⊢
    rw [IPNet.hostBits, hwidth', addrWidth_ipv4String]
    omega
  | none =>
    have hwidth : net.width = 16 := by
      rcases h.width_eq with hfour | hsixteen
      · obtain ⟨v4, hsome⟩ := h.mapped hfour
        cases hv4.symm.trans hsome
      · exact hsixteen
    have hfits : net.ones ≤ addrWidth (GoNet.ipv6String net.ip).toList * 8 := by
      rw [addrWidth_ipv6String]
      omega
    obtain ⟨net', hparse, hwidth', hones'⟩ :=
      parseCIDR_slash (GoNet.parseIP_ipv6String h.ip_lt) hfits
    rw [← IPNet.string_of_to4_none hv4] at hparse
    refine ⟨net', hparse, ?_⟩
    rw [IPNet.hostBits, IPNet.hostBits, hwidth', hones', addrWidth_ipv6String, hwidth]

/-- An address lies in a network exactly where it lies in its masked text. -/
theorem within_string_iff {ip cidr : String} {written : Nat}
    (hparse : parseCIDR cidr = some (written, net)) : Within ip net.string ↔ Within ip cidr := by
  obtain ⟨net', hstring, hip, hbits⟩ := parseCIDR_string (parseCIDR_wellFormed hparse)
  have hsame : ∀ addr, net'.contains addr = net.contains addr := by
    intro addr
    rw [IPNet.contains, IPNet.contains, hip, hbits]
  constructor
  · rintro ⟨addr, haddr, written', read, hread, hcontains⟩
    cases hstring.symm.trans hread
    exact ⟨addr, haddr, written, net, hparse, (hsame addr).symm.trans hcontains⟩
  · rintro ⟨addr, haddr, written', read, hread, hcontains⟩
    cases hparse.symm.trans hread
    exact ⟨addr, haddr, net.ip, net', hstring, (hsame addr).trans hcontains⟩

end MacVz
