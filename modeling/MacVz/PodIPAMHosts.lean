/-
Which addresses the Pod allocator hands out.  Every text in its table stands for a
host offset of the CIDR, unless the CIDR is an IPv4 network in IPv6 notation: there
the offset is added to the four-byte address and the sum written in sixteen bytes.
The circular search misses no free offset, wherever the cursor rests.
-/
import MacVz.PodIPAMHistory

namespace MacVz

open TwoWayTable

variable {off : Nat}

/-- An address for a Pod: one of the network that is not the network address, nor
the gateway after it, nor the broadcast address of an IPv4 network. -/
structure IPNet.PodAddress (net : IPNet) (addr : Nat) : Prop where
  inside : addr / 2 ^ net.hostBits = net.ip / 2 ^ net.hostBits
  ne_network : addr ≠ net.ip
  ne_gateway : addr ≠ net.ip + 1
  ne_broadcast : net.width = 4 → addr ≠ net.ip + (2 ^ net.hostBits - 1)

/-- The text names an address for Pods. -/
def IPNet.PodText (net : IPNet) (s : String) : Prop :=
  ∃ addr, GoNet.parseIP s = some addr ∧ net.PodAddress addr

def IPNet.PlainNotation (net : IPNet) : Prop := net.width = 4 ∨ GoNet.to4 net.ip = none

theorem newPodIPAM_last (net : IPNet) : (newPodIPAM net).last =
      if net.width = 4 then (2 : Int) ^ net.hostBits - 2 else (2 : Int) ^ net.hostBits - 1 := by
  simp only [newPodIPAM]
  split
  · omega
  · rfl

theorem lt_of_le_newPodIPAM_last {net : IPNet} (hlast : (off : Int) ≤ (newPodIPAM net).last) :
    off < 2 ^ net.hostBits := by
  rw [newPodIPAM_last] at hlast
  have hcast : (off : Int) < ((2 ^ net.hostBits : Nat) : Int) := by
    push_cast
    split at hlast
    · omega
    · omega
  exact_mod_cast hcast

theorem div_two_pow_of_le {m n a b : Nat} (hmn : m ≤ n) (h : a / 2 ^ m = b / 2 ^ m) :
    a / 2 ^ n = b / 2 ^ n := by
  obtain ⟨rest, rfl⟩ := Nat.exists_eq_add_of_le hmn
  rw [Nat.pow_add, ← Nat.div_div_eq_div_mul, ← Nat.div_div_eq_div_mul, h]

theorem IPNet.WellFormed.div_add {net : IPNet} (hnet : net.WellFormed)
    (hoff : off < 2 ^ net.hostBits) :
    (net.ip + off) / 2 ^ net.hostBits = net.ip / 2 ^ net.hostBits := by
  obtain ⟨block, hblock⟩ := Nat.dvd_of_mod_eq_zero hnet.masked
  have hpos := Nat.two_pow_pos net.hostBits
  rw [hblock, Nat.mul_add_div hpos, Nat.mul_div_cancel_left _ hpos, Nat.div_eq_of_lt hoff,
    Nat.add_zero]

theorem IPNet.WellFormed.podAddress {net : IPNet} (hnet : net.WellFormed) (hfirst : 2 ≤ off)
    (hlast : (off : Int) ≤ (newPodIPAM net).last) : net.PodAddress (net.ip + off) := by
  refine ⟨hnet.div_add (lt_of_le_newPodIPAM_last hlast), by omega, by omega, ?_⟩
  intro hwidth hbroadcast
  rw [newPodIPAM_last, if_pos hwidth] at hlast
  have hcast : (off : Int) ≤ ((2 ^ net.hostBits : Nat) : Int) - 2 := by
    exact hlast
  omega

section Plain

variable {net : IPNet}

theorem IPNet.WellFormed.width_sixteen (hnet : net.WellFormed) (hwidth : net.width ≠ 4) :
    net.width = 16 := hnet.width_eq.resolve_left hwidth

theorem ipToBig_of_to4_none {ip : Nat} (h : GoNet.to4 ip = none) : ipToBig ip = ip := by
  rw [ipToBig, h, Option.getD_none]

theorem ipToBig_of_to4 {ip v4 : Nat} (h : GoNet.to4 ip = some v4) : ipToBig ip = v4 := by
  rw [ipToBig, h, Option.getD_some]

/-- An address of the network parses back from its text. -/
theorem IPNet.PlainNotation.parse_offset (hplain : net.PlainNotation) (hnet : net.WellFormed)
    (hoff : off < 2 ^ net.hostBits) :
    GoNet.parseIP (GoNet.ipString net.width (ipToBig net.ip + off)) = some (net.ip + off) := by
  have hdiv := hnet.div_add hoff
  by_cases hwidth : net.width = 4
  · obtain ⟨base, hbase⟩ := hnet.mapped hwidth
    obtain ⟨hip, hlt⟩ := GoNet.to4_eq_some hbase
    have hsame := div_two_pow_of_le (IPNet.hostBits_le hwidth) hdiv
    have hfits : base + off < 2 ^ 32 := by
      rw [hip, GoNet.mappedBase] at hsame
      omega
    rw [ipToBig_of_to4 hbase, hwidth, GoNet.ipString, if_pos rfl, Nat.mod_eq_of_lt hfits,
      GoNet.parseIP_ipv4String hfits, hip, Nat.add_assoc]
  · have hsixteen := hnet.width_sixteen hwidth
    have hbits : net.hostBits ≤ 128 := by
      rw [IPNet.hostBits]
      omega
    have hfits : net.ip + off < 2 ^ 128 := by
      have hsame := div_two_pow_of_le hbits hdiv
      rw [Nat.div_eq_of_lt hnet.ip_lt] at hsame
      exact Nat.lt_of_div_eq_zero (Nat.two_pow_pos 128) hsame
    rw [ipToBig_of_to4_none (hplain.resolve_left hwidth), hsixteen, GoNet.parseIP_ipString hfits]

theorem IPNet.PlainNotation.canon_offset {a : PodIPAM} (hplain : a.net.PlainNotation)
    (hnet : a.net.WellFormed) {parsed : Nat} {canon : String}
    (hcanon : canonIP parsed a.net.width = some canon) (husable : a.usable parsed = true) :
    ∃ off, a.first ≤ off ∧ off ≤ a.last ∧ canon = a.offsetIP off := by
  simp only [PodIPAM.usable, Bool.and_eq_true, decide_eq_true_eq] at husable
  obtain ⟨hcontains, hfirst, hlast⟩ := husable
  refine ⟨ipToBig parsed - ipToBig a.net.ip, hfirst, hlast, ?_⟩
  rw [PodIPAM.offsetIP, add_sub_cancel, Int.toNat_natCast]
  by_cases hwidth : a.net.width = 4
  · rw [canonIP, if_pos hwidth, Option.map_eq_some_iff] at hcanon
    obtain ⟨v4, hv4, rfl⟩ := hcanon
    have hlt := (GoNet.to4_eq_some hv4).2
    rw [ipToBig_of_to4 hv4, hwidth, GoNet.ipString, if_pos rfl, Nat.mod_eq_of_lt hlt]
  · rw [canonIP, if_neg hwidth] at hcanon
    -- a network that is not IPv4 contains no IPv4 address
    have hfamily : GoNet.to4 parsed = none := by
      simp only [IPNet.contains, hplain.resolve_left hwidth, Option.isSome_none, beq_false,
        Bool.and_eq_true, Bool.not_eq_eq_eq_not, Bool.not_true, Option.isSome_eq_false_iff,
        Option.isNone_iff_eq_none] at hcontains
      exact hcontains.1
    rw [ipToBig_of_to4_none hfamily, hnet.width_sixteen hwidth]
    exact (Option.some.inj hcanon).symm

/-- A held address is the text of a usable offset. -/
theorem IPNet.PlainNotation.held_offset (hplain : net.PlainNotation) (hnet : net.WellFormed)
    (calls : List IPAMCall) {key s : String}
    (hs : ((newPodIPAM net).after calls).table.byKey key = some s) :
    ∃ off : Nat, 2 ≤ off ∧ (off : Int) ≤ (newPodIPAM net).last ∧
      s = (newPodIPAM net).offsetIP off := by
  have hfollows : (newPodIPAM net).Follows ((newPodIPAM net).after calls) :=
    PodIPAM.after_follows le_rfl calls
  have hoffset : ∃ off, (newPodIPAM net).first ≤ off ∧ off ≤ (newPodIPAM net).last ∧
      s = (newPodIPAM net).offsetIP off := by
    rcases hfollows.held key s hs with hheld | hoffer | ⟨parsed, hcanon, husable⟩
    · cases hheld
    · exact hoffer
    · exact IPNet.PlainNotation.canon_offset hplain hnet hcanon husable
  obtain ⟨off, hfirst, hlast, rfl⟩ := hoffset
  have htwo : (2 : Int) ≤ off := hfirst
  obtain ⟨n, rfl⟩ := Int.eq_ofNat_of_zero_le (by omega : 0 ≤ off)
  exact ⟨n, by omega, hlast, rfl⟩

theorem offsetIP_natCast (a : PodIPAM) (off : Nat) :
    a.offsetIP off = GoNet.ipString a.net.width (ipToBig a.net.ip + off) := by
  rw [PodIPAM.offsetIP, ← Int.natCast_add, Int.toNat_natCast]

theorem IPNet.PlainNotation.parse_offsetIP (hplain : net.PlainNotation) (hnet : net.WellFormed)
    (hlast : (off : Int) ≤ (newPodIPAM net).last) :
    GoNet.parseIP ((newPodIPAM net).offsetIP off) = some (net.ip + off) := by
  exact hplain.parse_offset hnet (lt_of_le_newPodIPAM_last hlast)

end Plain

theorem newPodIPAM_allocate {net : IPNet} (hroom : 2 ≤ (newPodIPAM net).last) (key : String) :
    ((newPodIPAM net).call (.allocate key)).2.table.byKey key =
      some ((newPodIPAM net).offsetIP 2) := by
  have hkey : (newPodIPAM net).table.byKey key = none := rfl
  have hfree : (newPodIPAM net).table.byValue ((newPodIPAM net).offsetIP 2) = none := rfl
  obtain ⟨fuel, hfuel⟩ : ∃ fuel,
      ((newPodIPAM net).last - (newPodIPAM net).first + 1).toNat = fuel + 1 := by
    have hfirst : (newPodIPAM net).first = 2 := rfl
    exact ⟨((newPodIPAM net).last - (newPodIPAM net).first).toNat, by omega⟩
  have hfound : (newPodIPAM net).findFree
      ((newPodIPAM net).last - (newPodIPAM net).first + 1).toNat (newPodIPAM net).cursor =
        some ⟨2, hfree⟩ := by
    have hcursor : (newPodIPAM net).cursor = 2 := rfl
    rw [hfuel, hcursor, PodIPAM.findFree]
    simp only [Int.not_lt.mpr hroom, ↓reduceIte, hfree, ↓reduceDIte]
  have hfirst : ¬ (newPodIPAM net).last < (newPodIPAM net).first := Int.not_lt.mpr hroom
  simp only [PodIPAM.call, PodIPAM.allocate_free hkey, hfound, if_neg hfirst]
  exact Function.update_self key _ (newPodIPAM net).table.byKey

/-- An IPv4 network in IPv6 notation: the first address that is handed out is not
even mapped to an IPv4 address. -/
theorem first_offset_outside {net : IPNet} (hnet : net.WellFormed) (hwidth : net.width ≠ 4)
    {base : Nat} (hbase : GoNet.to4 net.ip = some base) :
    ¬ net.PodText ((newPodIPAM net).offsetIP 2) := by
  rintro ⟨addr, hparse, haddr⟩
  obtain ⟨hip, hlt⟩ := GoNet.to4_eq_some hbase
  have htext : (newPodIPAM net).offsetIP 2 = GoNet.ipString 16 (base + 2) := by
    have hoffset := offsetIP_natCast (newPodIPAM net) 2
    have hsame : (newPodIPAM net).net = net := rfl
    rw [hsame, ipToBig_of_to4 hbase, hnet.width_sixteen hwidth] at hoffset
    exact hoffset
  rw [htext, GoNet.parseIP_ipString (by omega)] at hparse
  obtain rfl := Option.some.inj hparse
  have hblock := div_two_pow_of_le (hnet.hostBits_le_of_to4 hbase) haddr.inside
  rw [hip, GoNet.mappedBase] at hblock
  omega

theorem newPodIPAM_last_lt_iff {net : IPNet} (hwidth : net.width ≠ 4) :
    (newPodIPAM net).last < 2 ↔ net.hostBits ≤ 1 := by
  rw [newPodIPAM_last, if_neg hwidth]
  constructor
  · intro hlast
    by_contra hbits
    have hpow : (2 : Int) ^ 2 ≤ 2 ^ net.hostBits :=
      pow_le_pow_right₀ (by decide) (by omega)
    omega
  · intro hbits
    have hpow : (2 : Int) ^ net.hostBits ≤ 2 ^ 1 := pow_le_pow_right₀ (by decide) hbits
    omega

theorem PodIPAM.not_offers {a : PodIPAM} (hroom : a.last < a.first) (s : String) :
    ¬ a.Offers s := by
  rintro (⟨off, hfirst, hlast, -⟩ | ⟨parsed, -, husable⟩)
  · omega
  · simp only [PodIPAM.usable, Bool.and_eq_true, decide_eq_true_eq] at husable
    omega

theorem IPAMMaps.Holds.exists_key {net : IPNet} {calls : List IPAMCall} {s : String}
    (hs : ((newPodIPAM net).maps.after calls).Holds s) :
    ∃ key, ((newPodIPAM net).after calls).table.byKey key = some s := by
  rw [PodIPAM.after_maps] at hs
  rcases hs with hs | ⟨key, hs⟩
  · exact hs
  · exact ⟨key, (PodIPAM.maps_inverse _ key s).mpr hs⟩

/-- All that the allocator of a CIDR ever holds are addresses for Pods of the CIDR,
if and only if the CIDR is not an IPv4 network in IPv6 notation, or it leaves the
allocator no offset at all. -/
theorem held_for_pods_iff {cidr : String} {ip : Nat} {net : IPNet} {start : IPAMMaps}
    (hcidr : parseCIDR cidr = some (ip, net)) (hnew : IPAMMaps.new cidr = some start) :
    (∀ calls s, (start.after calls).Holds s → net.PodText s) ↔
      net.PlainNotation ∨ net.hostBits ≤ 1 := by
  obtain ⟨ip', net', hcidr', rfl⟩ := IPAMMaps.new_eq hnew
  obtain ⟨-, rfl⟩ := Prod.ext_iff.mp (Option.some.inj (hcidr.symm.trans hcidr'))
  have hnet := parseCIDR_wellFormed hcidr
  constructor
  · intro hall
    by_contra hother
    simp only [IPNet.PlainNotation, not_or] at hother
    obtain ⟨⟨hwidth, hmapped⟩, hbits⟩ := hother
    obtain ⟨base, hbase⟩ := Option.ne_none_iff_exists'.mp hmapped
    have hroom : 2 ≤ (newPodIPAM net).last :=
      Int.not_lt.mp fun hlast => hbits ((newPodIPAM_last_lt_iff hwidth).mp hlast)
    apply first_offset_outside hnet hwidth hbase
    apply hall [.allocate "default/web"]
    rw [PodIPAM.after_maps]
    exact Or.inl ⟨"default/web", newPodIPAM_allocate hroom "default/web"⟩
  · intro hcase calls s hs
    obtain ⟨key, hkey⟩ := hs.exists_key
    by_cases hplain : net.PlainNotation
    · obtain ⟨off, hfirst, hlast, rfl⟩ := hplain.held_offset hnet calls hkey
      exact ⟨net.ip + off, hplain.parse_offsetIP hnet hlast, hnet.podAddress hfirst hlast⟩
    · -- no offset is in the range, so nothing was ever written
      have hwidth : net.width ≠ 4 := fun hfour => hplain (Or.inl hfour)
      have hempty := (newPodIPAM_last_lt_iff hwidth).mpr (hcase.resolve_left hplain)
      have hfollows : (newPodIPAM net).Follows ((newPodIPAM net).after calls) :=
        PodIPAM.after_follows le_rfl calls
      rcases hfollows.held key s hkey with hheld | hoffer
      · cases hheld
      · exact absurd hoffer (PodIPAM.not_offers hempty s)

theorem held_for_pods_in_ipv6_network : ∃ start, IPAMMaps.new "fd00:10::/64" = some start ∧
      ∀ calls s, (start.after calls).Holds s →
        (⟨0xfd000010000000000000000000000000, 16, 64⟩ : IPNet).PodText s := by
  obtain ⟨start, hnew⟩ : ∃ start, IPAMMaps.new "fd00:10::/64" = some start :=
    Option.isSome_iff_exists.mp (by decide)
  have hcidr : parseCIDR "fd00:10::/64" =
      some (0xfd000010000000000000000000000000, ⟨0xfd000010000000000000000000000000, 16, 64⟩) := by
    decide
  exact ⟨start, hnew, (held_for_pods_iff hcidr hnew).mpr (Or.inl (Or.inr (by decide)))⟩

/-- The first Pod of the network ::ffff:10.244.1.0/120 is given an address outside it. -/
theorem mapped_network_leaves_range : ∃ start, IPAMMaps.new "::ffff:10.244.1.0/120" = some start ∧
      (start.after [.allocate "default/web"]).byKey "default/web" = some "::af4:102" ∧
      ∃ ip net addr, parseCIDR "::ffff:10.244.1.0/120" = some (ip, net) ∧
        GoNet.parseIP "::af4:102" = some addr ∧
        addr / 2 ^ net.hostBits ≠ net.ip / 2 ^ net.hostBits := by
  obtain ⟨start, hnew⟩ : ∃ start, IPAMMaps.new "::ffff:10.244.1.0/120" = some start :=
    Option.isSome_iff_exists.mp (by decide)
  have hheld : (IPAMMaps.new "::ffff:10.244.1.0/120").map
      (fun m => (m.after [.allocate "default/web"]).byKey "default/web") =
        some (some "::af4:102") := by decide
  rw [hnew] at hheld
  have hcidr : parseCIDR "::ffff:10.244.1.0/120" =
      some (0xffff0af40100, ⟨0xffff0af40100, 16, 120⟩) := by decide
  have hparse : GoNet.parseIP "::af4:102" = some 0x0af40102 := by decide
  exact ⟨start, hnew, Option.some.inj hheld, _, _, _, hcidr, hparse, by decide⟩

section Search

variable {a : PodIPAM}

/-- The address at the offset is somebody's. -/
def PodIPAM.Taken (a : PodIPAM) (off : Int) : Prop := a.table.byValue (a.offsetIP off) ≠ none

theorem PodIPAM.findFree_wrap (hroom : a.first ≤ a.last) {off : Int} (hoff : a.last < off)
    (fuel : Nat) : a.findFree fuel off = a.findFree fuel a.first := by
  cases fuel with
  | zero => rfl
  | succ fuel =>
    rw [PodIPAM.findFree, PodIPAM.findFree]
    simp only [hoff, Int.not_lt.mpr hroom, ↓reduceIte]

theorem PodIPAM.findFree_succ {fuel : Nat} {off : Int} (hoff : off ≤ a.last)
    (h : a.findFree (fuel + 1) off = none) : a.Taken off ∧ a.findFree fuel (off + 1) = none := by
  rw [PodIPAM.findFree] at h
  simp only [Int.not_lt.mpr hoff, ↓reduceIte] at h
  split at h
  · cases h
  · rename_i htaken
    exact ⟨htaken, h⟩

/-- A search without a result has found as many offsets taken as it made steps, up to
the last offset, and went on behind them. -/
theorem PodIPAM.findFree_none_run (steps fuel : Nat) {off : Int} (hoff : off + steps ≤ a.last + 1)
    (h : a.findFree (steps + fuel) off = none) :
    (∀ o, off ≤ o → o < off + steps → a.Taken o) ∧ a.findFree fuel (off + steps) = none := by
  induction steps generalizing off with
  | zero =>
    refine ⟨fun o hlow hhigh => by omega, ?_⟩
    simpa using h
  | succ steps ih =>
    rw [show steps + 1 + fuel = steps + fuel + 1 by omega] at h
    obtain ⟨htaken, hrest⟩ := PodIPAM.findFree_succ (by omega) h
    obtain ⟨hall, hend⟩ := ih (by omega) hrest
    refine ⟨?_, ?_⟩
    · intro o hlow hhigh
      by_cases ho : o = off
      · exact ho ▸ htaken
      · exact hall o (by omega) (by omega)
    · rw [show off + ((steps + 1 : Nat) : Int) = off + 1 + steps by omega]
      exact hend

/-- A search that makes as many steps as there are offsets has no result only if all
of them are taken. -/
theorem PodIPAM.taken_of_findFree_none (hroom : a.first ≤ a.last) {off : Int}
    (hoff : a.first ≤ off) (h : a.findFree (a.last - a.first + 1).toNat off = none) :
    ∀ o, a.first ≤ o → o ≤ a.last → a.Taken o := by
  by_cases hpast : a.last < off
  · rw [PodIPAM.findFree_wrap hroom hpast] at h
    obtain ⟨hall, -⟩ :=
      PodIPAM.findFree_none_run (a.last - a.first + 1).toNat 0 (by omega) h
    exact fun o hlow hhigh => hall o hlow (by omega)
  · -- the offsets up to the last one, and those from the first one on
    have hsplit : (a.last - a.first + 1).toNat =
        (a.last - off + 1).toNat + (off - a.first).toNat := by omega
    rw [hsplit] at h
    obtain ⟨hupper, hrest⟩ := PodIPAM.findFree_none_run _ _ (by omega) h
    rw [PodIPAM.findFree_wrap hroom (by omega)] at hrest
    obtain ⟨hlower, -⟩ :=
      PodIPAM.findFree_none_run (off - a.first).toNat 0 (by omega) hrest
    intro o hlow hhigh
    by_cases ho : off ≤ o
    · exact hupper o ho (by omega)
    · exact hlower o hlow (by omega)

/-- `Allocate` for a key that holds nothing: it fails if and only if every offset of the
range is taken, and otherwise returns the text of one that is not. -/
theorem PodIPAM.allocate_exhausted_iff (hcursor : a.first ≤ a.cursor) {key : String}
    (hkey : a.table.byKey key = none) : ((a.call (.allocate key)).1 = .error .exhausted ↔
        ∀ o, a.first ≤ o → o ≤ a.last → a.Taken o) ∧
      ((a.call (.allocate key)).1 ≠ .error .exhausted →
        ∃ o, a.first ≤ o ∧ o ≤ a.last ∧ ¬ a.Taken o ∧
          (a.call (.allocate key)).1 = .ok (some (a.offsetIP o))) := by
  simp only [PodIPAM.call, PodIPAM.allocate_free hkey]
  by_cases hroom : a.last < a.first
  · simp only [hroom, ↓reduceIte, ne_eq, not_true_eq_false, false_implies, and_true, true_iff]
    exact fun o hlow hhigh => absurd hroom (by omega)
  · simp only [hroom, ↓reduceIte]
    cases hfound : a.findFree (a.last - a.first + 1).toNat a.cursor with
    | none =>
      simp only [ne_eq, not_true_eq_false, false_implies, and_true, true_iff]
      exact PodIPAM.taken_of_findFree_none (Int.not_lt.mp hroom) hcursor hfound
    | some found =>
      have hrange := PodIPAM.findFree_range (Int.not_lt.mp hroom) hcursor hfound
      have hfree : ¬ a.Taken found.1 := fun htaken => htaken found.2
      refine ⟨⟨fun h => (by cases h), fun htaken => ?_⟩, fun _ => ?_⟩
      · exact absurd (htaken found.1 hrange.1 hrange.2) hfree
      · exact ⟨found.1, hrange.1, hrange.2, hfree, rfl⟩

end Search

/-- An offset is taken exactly where some key holds a text of its address. -/
theorem IPNet.PlainNotation.taken_iff {net : IPNet} (hplain : net.PlainNotation)
    (hnet : net.WellFormed) (calls : List IPAMCall) (hlast : (off : Int) ≤ (newPodIPAM net).last) :
    ((newPodIPAM net).after calls).Taken off ↔
      ∃ holder s, ((newPodIPAM net).after calls).table.byKey holder = some s ∧
        GoNet.parseIP s = some (net.ip + off) := by
  have hfollows : (newPodIPAM net).Follows ((newPodIPAM net).after calls) :=
    PodIPAM.after_follows le_rfl calls
  rw [PodIPAM.Taken, hfollows.range.offsetIP_eq]
  constructor
  · intro htaken
    obtain ⟨holder, hholder⟩ := Option.ne_none_iff_exists'.mp htaken
    rw [← ((newPodIPAM net).after calls).table.inverse] at hholder
    exact ⟨holder, _, hholder, hplain.parse_offsetIP hnet hlast⟩
  · rintro ⟨holder, s, hheld, hparse⟩
    obtain ⟨off', -, hlast', rfl⟩ := hplain.held_offset hnet calls hheld
    rw [hplain.parse_offsetIP hnet hlast', Option.some.injEq] at hparse
    obtain rfl : off' = off := by omega
    rw [((newPodIPAM net).after calls).table.inverse] at hheld
    rw [hheld]
    exact Option.some_ne_none holder

/-- An IPv4 allocator after any calls, asked for a key that holds nothing: it is exhausted
if and only if every offset from 2 to two before the end is the offset of an address some
key holds, and otherwise it returns an address that no key held. -/
theorem exhausted_iff_all_offsets_held {cidr : String} {ip : Nat} {net : IPNet} {start : IPAMMaps}
    (hcidr : parseCIDR cidr = some (ip, net)) (hwidth : net.width = 4)
    (hnew : IPAMMaps.new cidr = some start) (calls : List IPAMCall) {key : String}
    (hkey : (start.after calls).byKey key = none) : let before := start.after calls
    let result := (before.call (.allocate key)).1
    (result = .error .exhausted ↔
        ∀ off : Nat, 2 ≤ off → (off : Int) ≤ 2 ^ net.hostBits - 2 →
          ∃ holder s, before.byKey holder = some s ∧ GoNet.parseIP s = some (net.ip + off)) ∧
      (result ≠ .error .exhausted →
        ∃ s, result = .ok (some s) ∧
          ∀ holder held, before.byKey holder = some held →
            GoNet.parseIP held ≠ GoNet.parseIP s) := by
  obtain ⟨ip', net', hcidr', rfl⟩ := IPAMMaps.new_eq hnew
  obtain ⟨-, rfl⟩ := Prod.ext_iff.mp (Option.some.inj (hcidr.symm.trans hcidr'))
  have hnet := parseCIDR_wellFormed hcidr
  have hplain : net.PlainNotation := Or.inl hwidth
  have hfollows : (newPodIPAM net).Follows ((newPodIPAM net).after calls) :=
    PodIPAM.after_follows le_rfl calls
  have htaken (off : Nat) (hlast : (off : Int) ≤ (newPodIPAM net).last) :=
    hplain.taken_iff hnet calls hlast
  have hparse (off : Nat) (hlast : (off : Int) ≤ (newPodIPAM net).last) :=
    hplain.parse_offsetIP hnet hlast
  have hend : (newPodIPAM net).last = 2 ^ net.hostBits - 2 := by
    rw [newPodIPAM_last, if_pos hwidth]
  rw [PodIPAM.after_maps] at hkey ⊢
  have hlast := hfollows.range.last
  have hfirst : ((newPodIPAM net).after calls).first = 2 := hfollows.range.first
  have htext := hfollows.range.offsetIP_eq
  have hcursor := hfollows.cursor_ge
  generalize (newPodIPAM net).after calls = a at *
  intro before result
  have hresult : result = (a.call (.allocate key)).1 := congrArg Prod.fst (a.call_maps _)
  obtain ⟨hiff, hother⟩ := PodIPAM.allocate_exhausted_iff hcursor hkey
  rw [← hresult, hlast, hfirst, hend] at hiff
  rw [← hresult, hlast, hfirst] at hother
  constructor
  · rw [hiff]
    constructor
    · intro hall off hlow hhigh
      exact (htaken off (hend ▸ hhigh)).mp (hall off (by omega) hhigh)
    · intro hall o hlow hhigh
      obtain ⟨off, rfl⟩ := Int.eq_ofNat_of_zero_le (by omega : 0 ≤ o)
      exact (htaken off (hend ▸ hhigh)).mpr (hall off (by omega) hhigh)
  · intro hnot
    obtain ⟨o, hlow, hhigh, hfree, hok⟩ := hother hnot
    obtain ⟨off, rfl⟩ := Int.eq_ofNat_of_zero_le (by omega : 0 ≤ o)
    refine ⟨_, hok, ?_⟩
    intro holder held hheld hsame
    rw [htext, hparse off hhigh] at hsame
    exact hfree ((htaken off hhigh).mpr ⟨holder, held, hheld, hsame⟩)

theorem exhausted_with_one_offset : ∃ start, IPAMMaps.new "10.244.1.0/30" = some start ∧
      ((start.after [.allocate "default/web"]).call (.allocate "default/db")).1 =
        .error .exhausted := by
  obtain ⟨start, hnew⟩ : ∃ start, IPAMMaps.new "10.244.1.0/30" = some start :=
    Option.isSome_iff_exists.mp (by decide)
  have hcidr : parseCIDR "10.244.1.0/30" =
      some (0xffff0af40100, ⟨0xffff0af40100, 4, 30⟩) := by decide
  have hheld : (IPAMMaps.new "10.244.1.0/30").map
      (fun m => (m.after [.allocate "default/web"]).byKey "default/web") =
        some (some "10.244.1.2") := by decide
  have hfree : (IPAMMaps.new "10.244.1.0/30").map
      (fun m => (m.after [.allocate "default/web"]).byKey "default/db") = some none := by
    decide
  rw [hnew] at hheld hfree
  have hparse : GoNet.parseIP "10.244.1.2" = some (0xffff0af40100 + 2) := by decide
  refine ⟨start, hnew, ?_⟩
  refine (exhausted_iff_all_offsets_held hcidr rfl hnew _ (Option.some.inj hfree)).1.mpr ?_
  intro off hlow hhigh
  have hbits : (⟨0xffff0af40100, 4, 30⟩ : IPNet).hostBits = 2 := rfl
  rw [hbits] at hhigh
  obtain rfl : off = 2 := by omega
  exact ⟨"default/web", "10.244.1.2", Option.some.inj hheld, hparse⟩

end MacVz
