/-
The Pod allocator as the code keeps it: two maps that nothing ties together,
changed by calls in any order.  Every history is one of the allocator whose
tables are inverse by construction, and what an IPv4 allocator holds lies in its
network, so allocators over disjoint networks hold no address in common.
-/
import MacVz.AddressText
import MacVz.PodIPAM

namespace MacVz

open TwoWayTable

variable {a a' : PodIPAM} {ip s : String} {net : IPNet} {canon cidr : String} {parsed : Nat}

/-- `PodIPAM` with its maps `byKey` and `byIP`. -/
structure IPAMMaps where
  net : IPNet
  first : Int
  last : Int
  cursor : Int
  byKey : String → Option String
  byIP : String → Option String

/-- A call of the allocator. -/
inductive IPAMCall where
  | allocate (key : String)
  | reserve (key ip : String)
  | release (key : String)
deriving Repr, DecidableEq

variable {c : IPAMCall}

def IPAMCall.key : IPAMCall → String
  | .allocate key => key
  | .reserve key _ => key
  | .release key => key

/-- What a call returns: an error, or the address `Allocate` gives out. -/
abbrev IPAMResult := Except IPAMError (Option String)

namespace IPAMMaps

/-- `NewPodIPAM`. -/
def new (cidr : String) : Option IPAMMaps :=
  match parseCIDR cidr with
  | none => none
  | some (ip, net) =>
    let isIPv4 := (GoNet.to4 ip).isSome && net.width == 4
    let last : Int := 2 ^ net.hostBits - 1
    some
      { net := net
        first := 2
        last := if isIPv4 then last - 1 else last
        cursor := 2
        byKey := fun _ => none
        byIP := fun _ => none }

/-- `offsetIP`. -/
def offsetIP (m : IPAMMaps) (off : Int) : String :=
  GoNet.ipString m.net.width (ipToBig m.net.ip + off).toNat

/-- `usable`. -/
def usable (m : IPAMMaps) (ip : Nat) : Bool :=
  m.net.contains ip &&
    (let off : Int := ipToBig ip - ipToBig m.net.ip
     m.first ≤ off && off ≤ m.last)

def write (m : IPAMMaps) (key ip : String) : IPAMMaps :=
  { m with
    byKey := Function.update m.byKey key (some ip)
    byIP := Function.update m.byIP ip (some key) }

/-- The search loop of `Allocate`. -/
def findFree (m : IPAMMaps) : Nat → Int → Option Int
  | 0, _ => none
  | fuel + 1, off =>
    let off := if m.last < off then m.first else off
    if m.byIP (m.offsetIP off) = none then some off else m.findFree fuel (off + 1)

/-- `Allocate`. -/
def allocate (m : IPAMMaps) (key : String) : IPAMResult × IPAMMaps :=
  match m.byKey key with
  | some ip => (.ok (some ip), m)
  | none =>
    if m.last < m.first then (.error .exhausted, m)
    else
      match m.findFree (m.last - m.first + 1).toNat m.cursor with
      | none => (.error .exhausted, m)
      | some off =>
        (.ok (some (m.offsetIP off)),
          { m.write key (m.offsetIP off) with cursor := off + 1 })

/-- `Reserve`. -/
def reserve (m : IPAMMaps) (key ip : String) : IPAMResult × IPAMMaps :=
  match GoNet.parseIP ip with
  | none => (.error (.invalidIP key ip), m)
  | some parsed =>
    let canon := (canonIP parsed m.net.width).getD ""
    if canon = "" ∨ m.usable parsed = false then (.error (.outOfRange key ip), m)
    else
      match m.byIP canon with
      | some owner =>
        if owner = key then (.ok none, m) else (.error (.heldByOther canon key owner), m)
      | none =>
        match m.byKey key with
        | some existing =>
          if existing ≠ canon then (.error (.keyHolds key canon existing), m)
          else (.ok none, m.write key canon)
        | none => (.ok none, m.write key canon)

/-- `Release`. -/
def release (m : IPAMMaps) (key : String) : IPAMResult × IPAMMaps :=
  match m.byKey key with
  | none => (.ok none, m)
  | some ip =>
    (.ok none,
      { m with
        byKey := Function.update m.byKey key none
        byIP := Function.update m.byIP ip none })

def call (m : IPAMMaps) : IPAMCall → IPAMResult × IPAMMaps
  | .allocate key => m.allocate key
  | .reserve key ip => m.reserve key ip
  | .release key => m.release key

def after (m : IPAMMaps) (calls : List IPAMCall) : IPAMMaps :=
  calls.foldl (fun m c => (m.call c).2) m

/-- The two maps are inverse to each other. -/
def Inverse (m : IPAMMaps) : Prop := ∀ key ip, m.byKey key = some ip ↔ m.byIP ip = some key

end IPAMMaps

/-- The maps of the source behind the allocator. -/
def PodIPAM.maps (a : PodIPAM) : IPAMMaps where
  net := a.net
  first := a.first
  last := a.last
  cursor := a.cursor
  byKey := a.table.byKey
  byIP := a.table.byValue

def PodIPAM.call (a : PodIPAM) : IPAMCall → IPAMResult × PodIPAM
  | .allocate key =>
    match a.allocate key with
    | .ok (ip, a') => (.ok (some ip), a')
    | .error e => (.error e, a)
  | .reserve key ip =>
    match a.reserve key ip with
    | .ok a' => (.ok none, a')
    | .error e => (.error e, a)
  | .release key => (.ok none, a.release key)

theorem PodIPAM.maps_inverse (a : PodIPAM) : a.maps.Inverse := a.table.inverse

/-- The search on the maps is the search on the table. -/
theorem PodIPAM.findFree_maps (a : PodIPAM) (fuel : Nat) (off : Int) :
    a.maps.findFree fuel off = (a.findFree fuel off).map Subtype.val := by
  induction fuel generalizing off with
  | zero => rfl
  | succ fuel ih =>
    rw [PodIPAM.findFree]
    by_cases hfree : a.table.byValue (a.offsetIP (if a.last < off then a.first else off)) = none
    · rw [dif_pos hfree]
      exact if_pos hfree
    · rw [dif_neg hfree, ← ih]
      exact if_neg hfree

theorem PodIPAM.allocate_free {key : String} (hkey : a.table.byKey key = none) : a.allocate key =
      if a.last < a.first then .error .exhausted
      else
        match a.findFree (a.last - a.first + 1).toNat a.cursor with
        | none => .error .exhausted
        | some off =>
          .ok (a.offsetIP off,
            { a.assign key (a.offsetIP off) (GoNet.ipString_ne_empty _ _) hkey off.2
              with cursor := off + 1 }) := by
  unfold PodIPAM.allocate
  split
  · rename_i ip hheld
    rw [hkey] at hheld
    cases hheld
  · rfl

/-- `Allocate` on the maps is `Allocate` on the table. -/
theorem PodIPAM.allocate_maps (a : PodIPAM) (key : String) :
    a.maps.allocate key = ((a.call (.allocate key)).1, (a.call (.allocate key)).2.maps) := by
  cases hkey : a.table.byKey key with
  | some ip =>
    have hheld : a.maps.byKey key = some ip := hkey
    simp only [PodIPAM.call, a.allocate_held hkey, IPAMMaps.allocate, hheld]
  | none =>
    have hnone : a.maps.byKey key = none := hkey
    have hsearch := a.findFree_maps (a.last - a.first + 1).toNat a.cursor
    have hlast : a.maps.last = a.last := rfl
    have hfirst : a.maps.first = a.first := rfl
    have hcursor : a.maps.cursor = a.cursor := rfl
    simp only [IPAMMaps.allocate, PodIPAM.call, a.allocate_free hkey, hnone, hlast, hfirst,
      hcursor, hsearch]
    by_cases hroom : a.last < a.first
    · simp only [hroom, ↓reduceIte]
    · simp only [hroom, ↓reduceIte]
      cases a.findFree (a.last - a.first + 1).toNat a.cursor with
      | none => rfl
      | some off => rfl

theorem PodIPAM.reserve_fits (a : PodIPAM) (key : String) (hparse : GoNet.parseIP ip = some parsed)
    (hcanon : canonIP parsed a.net.width = some canon)
    (hfits : ¬ (canon = "" ∨ a.usable parsed = false)) :
    (∃ owner, a.table.byValue canon = some owner ∧
        a.reserve key ip = if owner = key then .ok a else .error (.heldByOther canon key owner)) ∨
      (∃ existing, a.table.byValue canon = none ∧ a.table.byKey key = some existing ∧
        a.reserve key ip = .error (.keyHolds key canon existing)) ∨
      ∃ (hip : a.table.byValue canon = none) (hkey : a.table.byKey key = none),
        a.reserve key ip = .ok (a.assign key canon (fun h => hfits (Or.inl h)) hkey hip) := by
  unfold PodIPAM.reserve
  simp only [hparse, hcanon, hfits, ↓reduceDIte]
  split
  · rename_i owner howner
    exact Or.inl ⟨owner, howner, rfl⟩
  · rename_i hip
    split
    · rename_i existing hexisting
      exact Or.inr (Or.inl ⟨existing, hip, hexisting, rfl⟩)
    · rename_i hkey
      exact Or.inr (Or.inr ⟨hip, hkey, rfl⟩)

/-- `Reserve` on the maps is `Reserve` on the table. -/
theorem PodIPAM.reserve_maps (a : PodIPAM) (key ip : String) : a.maps.reserve key ip =
      ((a.call (.reserve key ip)).1, (a.call (.reserve key ip)).2.maps) := by
  have hnet : a.maps.net = a.net := rfl
  have husable (parsed : Nat) : a.maps.usable parsed = a.usable parsed := rfl
  have hbyIP : a.maps.byIP = a.table.byValue := rfl
  have hbyKey : a.maps.byKey = a.table.byKey := rfl
  simp only [IPAMMaps.reserve, PodIPAM.call, hnet, husable, hbyIP, hbyKey]
  cases hparse : GoNet.parseIP ip with
  | none => simp only [PodIPAM.reserve, hparse]
  | some parsed =>
    cases hcanon : canonIP parsed a.net.width with
    | none => simp only [PodIPAM.reserve, hparse, hcanon, Option.getD_none, true_or, ↓reduceIte]
    | some canon =>
      simp only [hcanon, Option.getD_some]
      by_cases hfits : canon = "" ∨ a.usable parsed = false
      · simp only [PodIPAM.reserve, hparse, hcanon, hfits, ↓reduceIte, ↓reduceDIte]
      · rw [if_neg hfits]
        rcases a.reserve_fits key hparse hcanon hfits with
          ⟨owner, howner, hres⟩ | ⟨existing, hip, hkey, hres⟩ | ⟨hip, hkey, hres⟩
        · rw [howner, hres]
          by_cases hown : owner = key
          · simp only [hown, ↓reduceIte]
          · simp only [hown, ↓reduceIte]
        · -- the key cannot hold the address itself, which nobody holds
          have hother : existing ≠ canon := by
            rintro rfl
            rw [a.table.inverse, hip] at hkey
            cases hkey
          rw [hip, hkey, hres]
          exact if_pos hother
        · rw [hip, hkey, hres]
          rfl

theorem PodIPAM.release_maps (a : PodIPAM) (key : String) :
    a.maps.release key = (.ok none, (a.release key).maps) := by
  have hbyKey : a.maps.byKey = a.table.byKey := rfl
  unfold IPAMMaps.release
  rw [hbyKey]
  cases hkey : a.table.byKey key with
  | none => simp only [PodIPAM.release, PodIPAM.maps, a.table.free_of_none hkey]
  | some ip =>
    simp only [PodIPAM.release, PodIPAM.maps, TwoWay.free_byKey, a.table.free_byValue hkey]

theorem PodIPAM.call_maps (a : PodIPAM) (c : IPAMCall) :
    a.maps.call c = ((a.call c).1, (a.call c).2.maps) := by
  cases c with
  | allocate key => exact a.allocate_maps key
  | reserve key ip => exact a.reserve_maps key ip
  | release key => exact a.release_maps key

theorem IPAMMaps.new_eq {m : IPAMMaps} (h : IPAMMaps.new cidr = some m) :
    ∃ ip net, parseCIDR cidr = some (ip, net) ∧ m = (newPodIPAM net).maps := by
  unfold IPAMMaps.new at h
  split at h
  · cases h
  · rename_i ip net hcidr
    refine ⟨ip, net, hcidr, ?_⟩
    have hfamily : ((GoNet.to4 ip).isSome && net.width == 4) = decide (net.width = 4) := by
      by_cases hwidth : net.width = 4
      · obtain ⟨addr, mask, -, hip, -, hform, -⟩ := parseCIDR_parts hcidr
        obtain ⟨v4, hv4⟩ := to4_of_addrWidth (hform ▸ hwidth) hip
        simp [hwidth, hv4]
      · simp [hwidth]
    simp only [hfamily, decide_eq_true_eq, Option.some.injEq] at h
    rw [← h]
    rfl

/-- The allocator after a history of calls. -/
def PodIPAM.after (a : PodIPAM) (calls : List IPAMCall) : PodIPAM :=
  calls.foldl (fun a c => (a.call c).2) a

theorem PodIPAM.after_maps (a : PodIPAM) (calls : List IPAMCall) :
    a.maps.after calls = (a.after calls).maps := by
  induction calls generalizing a with
  | nil => rfl
  | cons c rest ih =>
    have hhead : a.maps.after (c :: rest) = (a.maps.call c).2.after rest := rfl
    rw [hhead, a.call_maps]
    exact ih _

/-- A call that fails changes nothing. -/
theorem PodIPAM.call_error {e : IPAMError} (h : (a.call c).1 = .error e) : (a.call c).2 = a := by
  cases c with
  | allocate key =>
    simp only [PodIPAM.call] at h ⊢
    cases hres : a.allocate key with
    | ok found => simp only [hres, reduceCtorEq] at h
    | error e' => rfl
  | reserve key ip =>
    simp only [PodIPAM.call] at h ⊢
    cases hres : a.reserve key ip with
    | ok a' => simp only [hres, reduceCtorEq] at h
    | error e' => rfl
  | release key => cases h

/-- A reservation leaves the allocator as it is, or binds a free key to the
canonical text of a usable address. -/
theorem PodIPAM.reserve_ok {key : String} (h : a.reserve key ip = .ok a') :
    a' = a ∨ ∃ parsed canon, GoNet.parseIP ip = some parsed ∧
      canonIP parsed a.net.width = some canon ∧ a.usable parsed = true ∧
      a'.table.byKey = Function.update a.table.byKey key (some canon) ∧
      a'.net = a.net ∧ a'.first = a.first ∧ a'.last = a.last ∧ a'.cursor = a.cursor := by
  cases hparse : GoNet.parseIP ip with
  | none => simp only [PodIPAM.reserve, hparse, reduceCtorEq] at h
  | some parsed =>
    cases hcanon : canonIP parsed a.net.width with
    | none => simp only [PodIPAM.reserve, hparse, hcanon, reduceCtorEq] at h
    | some canon =>
      by_cases hfits : canon = "" ∨ a.usable parsed = false
      · simp only [PodIPAM.reserve, hparse, hcanon, hfits, ↓reduceDIte, reduceCtorEq] at h
      · have husable : a.usable parsed = true := by
          rw [← Bool.not_eq_false]
          exact fun hunusable => hfits (Or.inr hunusable)
        rcases a.reserve_fits key hparse hcanon hfits with
          ⟨owner, howner, hres⟩ | ⟨existing, hip, hkey, hres⟩ | ⟨hip, hkey, hres⟩
        · rw [hres] at h
          split at h
          · cases h
            exact Or.inl rfl
          · cases h
        · rw [hres] at h
          cases h
        · rw [hres] at h
          cases h
          exact Or.inr ⟨parsed, canon, rfl, hcanon, husable, rfl, rfl, rfl, rfl, rfl⟩

/-- A call for one key leaves the others' addresses alone. -/
theorem PodIPAM.call_other (a : PodIPAM) {other : String} (hother : other ≠ c.key) :
    (a.call c).2.table.byKey other = a.table.byKey other := by
  cases c with
  | allocate key =>
    simp only [PodIPAM.call]
    cases hres : a.allocate key with
    | error e => rfl
    | ok found =>
      rw [PodIPAM.allocate_ok (show a.allocate key = .ok (found.1, found.2) from hres)]
      exact Function.update_of_ne hother _ _
  | reserve key ip =>
    simp only [PodIPAM.call]
    cases hres : a.reserve key ip with
    | error e => rfl
    | ok a' =>
      rcases PodIPAM.reserve_ok hres with rfl | ⟨parsed, canon, -, -, -, hbyKey, -⟩
      · rfl
      · simp only [hbyKey]
        exact Function.update_of_ne hother _ _
  | release key =>
    simp only [PodIPAM.call, PodIPAM.release_byKey]
    exact Function.update_of_ne hother _ _

/-- After any calls and one more: the maps are inverse to each other, so no
address has two keys and no key two addresses; a key that holds an address is
given it again and nothing changes; other keys keep what they hold, in both
maps; a call that fails changes neither map. -/
theorem allocator_maps_stay_inverse {cidr : String} {start : IPAMMaps}
    (hnew : IPAMMaps.new cidr = some start) (calls : List IPAMCall) (c : IPAMCall) :
    let before := start.after calls
    let result := (before.call c).1
    let next := (before.call c).2
    next.Inverse ∧
      (∀ left right ip, next.byKey left = some ip → next.byKey right = some ip → left = right) ∧
      (∀ left right key, next.byIP left = some key → next.byIP right = some key → left = right) ∧
      (∀ key ip, c = .allocate key → before.byKey key = some ip →
        result = .ok (some ip) ∧ next = before) ∧
      (∀ other, other ≠ c.key → next.byKey other = before.byKey other ∧
        ∀ ip, next.byIP ip = some other ↔ before.byIP ip = some other) ∧
      (∀ e, result = .error e → next.byKey = before.byKey ∧ next.byIP = before.byIP) := by
  obtain ⟨ip₀, net, -, rfl⟩ := IPAMMaps.new_eq hnew
  rw [PodIPAM.after_maps]
  generalize (newPodIPAM net).after calls = a
  intro before result next
  have hresult : result = (a.call c).1 := congrArg Prod.fst (a.call_maps c)
  have hnext : next = (a.call c).2.maps := congrArg Prod.snd (a.call_maps c)
  have hinverse : next.Inverse := hnext ▸ PodIPAM.maps_inverse _
  have hothers (other : String) (hother : other ≠ c.key) :
      next.byKey other = before.byKey other := by
    rw [hnext]
    exact a.call_other hother
  refine ⟨hinverse, ?_, ?_, ?_, ?_, ?_⟩
  · intro left right ip hleft hright
    rw [hinverse] at hleft hright
    exact Option.some.inj (hleft.symm.trans hright)
  · intro left right key hleft hright
    rw [← hinverse] at hleft hright
    exact Option.some.inj (hleft.symm.trans hright)
  · rintro key ip rfl hheld
    have hheld' : a.table.byKey key = some ip := hheld
    rw [hresult, hnext]
    simp only [PodIPAM.call, a.allocate_held hheld']
    exact ⟨trivial, rfl⟩
  · intro other hother
    refine ⟨hothers other hother, fun ip => ?_⟩
    rw [← hinverse, hothers other hother]
    exact a.maps_inverse other ip
  · intro e he
    rw [hresult] at he
    rw [hnext, PodIPAM.call_error he]
    exact ⟨rfl, rfl⟩

theorem allocator_maps_stay_inverse_held :
    ∃ start : IPAMMaps, IPAMMaps.new "10.244.1.0/30" = some start ∧
      (start.after [.allocate "default/web"]).byKey "default/web" = some "10.244.1.2" ∧
      ((start.after [.allocate "default/web"]).call (.allocate "default/web")).1 =
        .ok (some "10.244.1.2") := by
  obtain ⟨start, hnew⟩ : ∃ start, IPAMMaps.new "10.244.1.0/30" = some start :=
    Option.isSome_iff_exists.mp (by decide)
  have hheld : (IPAMMaps.new "10.244.1.0/30").map
      (fun m => (m.after [.allocate "default/web"]).byKey "default/web") =
        some (some "10.244.1.2") := by decide
  rw [hnew] at hheld
  have hheld := Option.some.inj hheld
  exact ⟨start, hnew, hheld, ((allocator_maps_stay_inverse hnew [.allocate "default/web"]
    (.allocate "default/web")).2.2.2.1 _ _ rfl hheld).1⟩

structure PodIPAM.SameRange (a a' : PodIPAM) : Prop where
  net : a'.net = a.net
  first : a'.first = a.first
  last : a'.last = a.last

/-- A text the allocator writes into its table: that of an offset in its range, or
the canonical one of a usable address. -/
def PodIPAM.Offers (a : PodIPAM) (s : String) : Prop :=
  (∃ off, a.first ≤ off ∧ off ≤ a.last ∧ s = a.offsetIP off) ∨
    ∃ parsed, canonIP parsed a.net.width = some s ∧ a.usable parsed = true

theorem PodIPAM.SameRange.refl (a : PodIPAM) : a.SameRange a := ⟨rfl, rfl, rfl⟩

theorem PodIPAM.SameRange.trans {b c : PodIPAM} (hab : a.SameRange b) (hbc : b.SameRange c) :
    a.SameRange c :=
  ⟨hbc.net.trans hab.net, hbc.first.trans hab.first, hbc.last.trans hab.last⟩

theorem PodIPAM.SameRange.offsetIP_eq (h : a.SameRange a') (off : Int) :
    a'.offsetIP off = a.offsetIP off := by
  rw [PodIPAM.offsetIP, PodIPAM.offsetIP, h.net]

theorem PodIPAM.SameRange.offers (h : a.SameRange a') (hs : a'.Offers s) : a.Offers s := by
  rcases hs with ⟨off, hfirst, hlast, rfl⟩ | ⟨parsed, hcanon, husable⟩
  · exact Or.inl ⟨off, h.first ▸ hfirst, h.last ▸ hlast, h.offsetIP_eq off⟩
  · refine Or.inr ⟨parsed, h.net ▸ hcanon, ?_⟩
    rw [PodIPAM.usable] at husable ⊢
    rwa [← h.net, ← h.first, ← h.last]

/-- The free offset found is in the usable range. -/
theorem PodIPAM.findFree_range (hroom : a.first ≤ a.last) {fuel : Nat} {off : Int}
    (hoff : a.first ≤ off) {found : { off : Int // a.table.byValue (a.offsetIP off) = none }}
    (h : a.findFree fuel off = some found) : a.first ≤ found.1 ∧ found.1 ≤ a.last := by
  induction fuel generalizing off with
  | zero => cases h
  | succ fuel ih =>
    rw [PodIPAM.findFree] at h
    have hwrapped : a.first ≤ (if a.last < off then a.first else off) ∧
        (if a.last < off then a.first else off) ≤ a.last := by
      split
      · exact ⟨le_rfl, hroom⟩
      · exact ⟨hoff, by omega⟩
    generalize (if a.last < off then a.first else off) = wrapped at h hwrapped
    split at h
    · cases h
      exact hwrapped
    · exact ih (by omega) h

/-- What a call leaves: the range, a cursor that is not before it, and a table that holds
nothing but what was held and what the range offers. -/
structure PodIPAM.Follows (a a' : PodIPAM) : Prop where
  range : a.SameRange a'
  cursor_ge : a'.first ≤ a'.cursor
  held : ∀ key s, a'.table.byKey key = some s → a.table.byKey key = some s ∨ a.Offers s

theorem PodIPAM.Follows.refl (hcursor : a.first ≤ a.cursor) : a.Follows a :=
  ⟨.refl a, hcursor, fun _ _ => Or.inl⟩

theorem PodIPAM.Offers.written {key : String} (hip : a.Offers ip) :
    ∀ other s, Function.update a.table.byKey key (some ip) other = some s →
      a.table.byKey other = some s ∨ a.Offers s := by
  intro other s hs
  by_cases hother : other = key
  · subst other
    rw [Function.update_self] at hs
    exact Or.inr (Option.some.inj hs ▸ hip)
  · rw [Function.update_of_ne hother] at hs
    exact Or.inl hs

theorem PodIPAM.allocate_follows (hcursor : a.first ≤ a.cursor) {key : String}
    (hres : a.allocate key = .ok (ip, a')) : a.Follows a' := by
  cases hkey : a.table.byKey key with
  | some held =>
    rw [a.allocate_held hkey] at hres
    cases hres
    exact .refl hcursor
  | none =>
    rw [a.allocate_free hkey] at hres
    split at hres
    · cases hres
    · rename_i hroom
      split at hres
      · cases hres
      · rename_i found hfound
        have hrange := PodIPAM.findFree_range (Int.not_lt.mp hroom) hcursor hfound
        have hoffer : a.Offers (a.offsetIP found.1) := Or.inl ⟨found.1, hrange.1, hrange.2, rfl⟩
        cases hres
        refine ⟨⟨rfl, rfl, rfl⟩, ?_, hoffer.written⟩
        change a.first ≤ found.1 + 1
        omega

theorem PodIPAM.reserve_follows (hcursor : a.first ≤ a.cursor) {key : String}
    (hres : a.reserve key ip = .ok a') : a.Follows a' := by
  rcases PodIPAM.reserve_ok hres with
    rfl | ⟨parsed, canon, -, hcanon, husable, hbyKey, hnet, hfirst, hlast, hcursor'⟩
  · exact .refl hcursor
  · have hoffer : a.Offers canon := Or.inr ⟨parsed, hcanon, husable⟩
    refine ⟨⟨hnet, hfirst, hlast⟩, ?_, ?_⟩
    · rwa [hfirst, hcursor']
    · rw [hbyKey]
      exact hoffer.written

theorem PodIPAM.release_follows (hcursor : a.first ≤ a.cursor) (key : String) :
    a.Follows (a.release key) := by
  refine ⟨⟨rfl, rfl, rfl⟩, hcursor, ?_⟩
  intro other s hs
  rw [PodIPAM.release_byKey] at hs
  by_cases hother : other = key
  · subst other
    simp at hs
  · rw [Function.update_of_ne hother] at hs
    exact Or.inl hs

/-- A call keeps the range, and what is held after it was held before or is offered. -/
theorem PodIPAM.call_follows (hcursor : a.first ≤ a.cursor) (c : IPAMCall) :
    a.Follows (a.call c).2 := by
  cases c with
  | allocate key =>
    simp only [PodIPAM.call]
    cases hres : a.allocate key with
    | error e => exact .refl hcursor
    | ok found =>
      exact a.allocate_follows hcursor (show a.allocate key = .ok (found.1, found.2) from hres)
  | reserve key ip =>
    simp only [PodIPAM.call]
    cases hres : a.reserve key ip with
    | error e => exact .refl hcursor
    | ok a' => exact a.reserve_follows hcursor hres
  | release key => exact a.release_follows hcursor key

/-- What is held after the calls was held before or was offered. -/
theorem PodIPAM.after_follows (hcursor : a.first ≤ a.cursor) (calls : List IPAMCall) :
    a.Follows (a.after calls) := by
  induction calls generalizing a with
  | nil => exact .refl hcursor
  | cons c rest ih =>
    have hcall := a.call_follows hcursor c
    have hrest := ih hcall.cursor_ge
    refine ⟨hcall.range.trans hrest.range, hrest.cursor_ge, ?_⟩
    intro key s hs
    rcases hrest.held key s hs with hheld | hoffer
    · exact hcall.held key s hheld
    · exact Or.inr (hcall.range.offers hoffer)

/-- An IPv4 address of the network, as it is written. -/
def IPNet.HasText (net : IPNet) (s : String) : Prop :=
  ∃ v4 < 2 ^ 32, s = GoNet.ipv4String v4 ∧ net.contains (GoNet.mappedBase + v4) = true

/-- The offsets that are given out are host offsets of an IPv4 network, and what
is held has the text of an address of the network. -/
structure PodIPAM.Inside (a : PodIPAM) : Prop where
  width_eq : a.net.width = 4
  wellFormed : a.net.WellFormed
  first_pos : 0 ≤ a.first
  last_lt : a.last < 2 ^ a.net.hostBits
  cursor_ge : a.first ≤ a.cursor
  held : ∀ key s, a.table.byKey key = some s → a.net.HasText s

theorem newPodIPAM_inside (hwidth : net.width = 4) (hnet : net.WellFormed) :
    (newPodIPAM net).Inside where
  width_eq := hwidth
  wellFormed := hnet
  first_pos := by simp [newPodIPAM]
  last_lt := by
    simp only [newPodIPAM, hwidth, ↓reduceIte]
    omega
  cursor_ge := le_rfl
  held := by simp [newPodIPAM, TwoWay.empty]

theorem IPNet.hasText_offset (hnet : net.WellFormed) (hwidth : net.width = 4) {off : Nat}
    (hoff : off < 2 ^ net.hostBits) : net.HasText (GoNet.ipString 4 (ipToBig net.ip + off)) := by
  obtain ⟨base, hbase⟩ := hnet.mapped hwidth
  have hbig : ipToBig net.ip = base := by rw [ipToBig, hbase, Option.getD_some]
  have hbits := IPNet.hostBits_le hwidth
  -- the network address ends in zeros, so the offset does not carry out of them
  have haligned : 2 ^ net.hostBits ∣ base := by
    have hmask := to4_masked hbits hbase
    rw [Nat.div_mul_cancel (Nat.dvd_of_mod_eq_zero hnet.masked), hbase] at hmask
    rw [Option.some.inj hmask]
    exact Nat.dvd_mul_left _ _
  obtain ⟨block, rfl⟩ := haligned
  have hlt : 2 ^ net.hostBits * block + off < 2 ^ 32 := by
    have hblock := (GoNet.to4_eq_some hbase).2
    rw [← Nat.add_sub_of_le hbits, Nat.pow_add] at hblock ⊢
    have hnext := Nat.lt_of_mul_lt_mul_left hblock
    calc 2 ^ net.hostBits * block + off < 2 ^ net.hostBits * block + 2 ^ net.hostBits := by omega
      _ = 2 ^ net.hostBits * (block + 1) := by rw [Nat.mul_add, Nat.mul_one]
      _ ≤ _ := Nat.mul_le_mul_left _ hnext
  refine ⟨2 ^ net.hostBits * block + off, hlt, ?_, ?_⟩
  · rw [GoNet.ipString, if_pos rfl, hbig, Nat.mod_eq_of_lt hlt]
  · have hpos := Nat.two_pow_pos net.hostBits
    simp only [IPNet.contains, GoNet.to4_mapped hlt, hbase, ipToBig, Option.isSome_some,
      Option.getD_some, BEq.rfl, Bool.true_and, beq_iff_eq]
    rw [Nat.mul_add_div hpos, Nat.mul_div_cancel_left _ hpos, Nat.div_eq_of_lt hoff, Nat.add_zero]

theorem PodIPAM.Inside.canon_text (h : a.Inside) (hcanon : canonIP parsed a.net.width = some canon)
    (husable : a.usable parsed = true) : a.net.HasText canon := by
  rw [canonIP, if_pos h.width_eq, Option.map_eq_some_iff] at hcanon
  obtain ⟨v4, hv4, rfl⟩ := hcanon
  obtain ⟨rfl, hlt⟩ := GoNet.to4_eq_some hv4
  rw [PodIPAM.usable, Bool.and_eq_true] at husable
  exact ⟨v4, hlt, rfl, husable.1⟩

theorem PodIPAM.Inside.offer_text (h : a.Inside) (hs : a.Offers s) : a.net.HasText s := by
  rcases hs with ⟨off, hfirst, hlast, rfl⟩ | ⟨parsed, hcanon, husable⟩
  · have hpos := h.first_pos
    have hbound := h.last_lt
    obtain ⟨n, rfl⟩ := Int.eq_ofNat_of_zero_le (hpos.trans hfirst)
    have hlt : n < 2 ^ a.net.hostBits := by
      have hcast : (n : Int) < ((2 ^ a.net.hostBits : Nat) : Int) := by
        exact lt_of_le_of_lt hlast hbound
      exact_mod_cast hcast
    rw [PodIPAM.offsetIP, h.width_eq]
    exact IPNet.hasText_offset h.wellFormed h.width_eq hlt
  · exact h.canon_text hcanon husable

/-- Every address held after the calls lies in the network. -/
theorem PodIPAM.Inside.after (h : a.Inside) (calls : List IPAMCall) : (a.after calls).Inside := by
  have hfollows := a.after_follows h.cursor_ge calls
  have hnet := hfollows.range.net
  exact
    { width_eq := hnet ▸ h.width_eq
      wellFormed := hnet ▸ h.wellFormed
      first_pos := hfollows.range.first ▸ h.first_pos
      last_lt := by rw [hnet, hfollows.range.last]; exact h.last_lt
      cursor_ge := hfollows.cursor_ge
      held := by
        intro key s hs
        rw [hnet]
        rcases hfollows.held key s hs with hheld | hoffer
        · exact h.held key s hheld
        · exact h.offer_text hoffer }

theorem IPNet.HasText.contains_both {left right : IPNet} (hleft : left.HasText s)
    (hright : right.HasText s) : ∃ ip, left.contains ip = true ∧ right.contains ip = true := by
  obtain ⟨v4, hlt, rfl, hin⟩ := hleft
  obtain ⟨v4', hlt', htext, hin'⟩ := hright
  obtain rfl := GoNet.ipv4String_injective hlt hlt' htext
  exact ⟨_, hin, hin'⟩

def IPAMMaps.Holds (m : IPAMMaps) (s : String) : Prop :=
  (∃ key, m.byKey key = some s) ∨ ∃ key, m.byIP s = some key

theorem IPAMMaps.Holds.hasText {ip : Nat} {start : IPAMMaps}
    (hcidr : parseCIDR cidr = some (ip, net)) (hwidth : net.width = 4)
    (hnew : IPAMMaps.new cidr = some start) {calls : List IPAMCall}
    (hs : (start.after calls).Holds s) : net.HasText s := by
  obtain ⟨ip', net', hcidr', rfl⟩ := IPAMMaps.new_eq hnew
  obtain ⟨-, rfl⟩ := Prod.ext_iff.mp (Option.some.inj (hcidr.symm.trans hcidr'))
  have hinside := (newPodIPAM_inside hwidth (parseCIDR_wellFormed hcidr)).after calls
  have hnet : ((newPodIPAM net).after calls).net = net :=
    (PodIPAM.after_follows le_rfl calls).range.net
  rw [PodIPAM.after_maps] at hs
  obtain ⟨key, hkey⟩ : ∃ key, ((newPodIPAM net).after calls).table.byKey key = some s := by
    rcases hs with hs | ⟨key, hs⟩
    · exact hs
    · exact ⟨key, (PodIPAM.maps_inverse _ key s).mpr hs⟩
  exact hnet ▸ hinside.held key s hkey

/-- Allocators over two IPv4 CIDRs with no address in common never hold the same
address, whatever was called on each. -/
theorem disjoint_allocators_share_no_address {cidr cidr' : String} {ip ip' : Nat} {net net' : IPNet}
    (hcidr : parseCIDR cidr = some (ip, net)) (hcidr' : parseCIDR cidr' = some (ip', net'))
    (hwidth : net.width = 4) (hwidth' : net'.width = 4)
    (hdisjoint : ∀ addr, ¬ (net.contains addr = true ∧ net'.contains addr = true))
    {start start' : IPAMMaps} (hnew : IPAMMaps.new cidr = some start)
    (hnew' : IPAMMaps.new cidr' = some start') (calls calls' : List IPAMCall) (s : String) :
    ¬ ((start.after calls).Holds s ∧ (start'.after calls').Holds s) := by
  rintro ⟨hheld, hheld'⟩
  have htext := hheld.hasText hcidr hwidth hnew
  have htext' := hheld'.hasText hcidr' hwidth' hnew'
  obtain ⟨addr, hboth⟩ := htext.contains_both htext'
  exact hdisjoint addr hboth

theorem neighbouring_allocators_share_no_address :
    ∃ start start' : IPAMMaps, IPAMMaps.new "10.244.1.0/24" = some start ∧
      IPAMMaps.new "10.244.2.0/24" = some start' ∧
      ∀ calls calls' s, ¬ ((start.after calls).Holds s ∧ (start'.after calls').Holds s) := by
  obtain ⟨start, hnew⟩ : ∃ start, IPAMMaps.new "10.244.1.0/24" = some start :=
    Option.isSome_iff_exists.mp (by decide)
  obtain ⟨start', hnew'⟩ : ∃ start, IPAMMaps.new "10.244.2.0/24" = some start :=
    Option.isSome_iff_exists.mp (by decide)
  have hcidr : parseCIDR "10.244.1.0/24" =
      some (0xffff0af40100, ⟨0xffff0af40100, 4, 24⟩) := by decide
  have hcidr' : parseCIDR "10.244.2.0/24" =
      some (0xffff0af40200, ⟨0xffff0af40200, 4, 24⟩) := by decide
  refine ⟨start, start', hnew, hnew', ?_⟩
  apply disjoint_allocators_share_no_address hcidr hcidr' rfl rfl ?_ hnew hnew'
  rintro addr ⟨hleft, hright⟩
  rw [IPNet.contains, Bool.and_eq_true, beq_iff_eq, beq_iff_eq] at hleft hright
  have hsame := hleft.2.symm.trans hright.2
  revert hsame
  decide

end MacVz
