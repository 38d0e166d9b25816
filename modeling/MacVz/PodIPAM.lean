/-
Pod addresses from one node's Pod CIDR.  The key-to-address and address-to-key
tables are kept inverse to each other, so two keys never hold the same address.
-/
import MacVz.IPNet
import MacVz.TwoWayTable

namespace MacVz

open TwoWayTable

/-- `canonIP`: the address at the allocator's width, or none if it does not fit. -/
def canonIP (ip width : Nat) : Option String :=
  if width = 4 then (GoNet.to4 ip).map GoNet.ipv4String
  else some (GoNet.ipString 16 ip)

/-- The errors of `Allocate` and `Reserve`. -/
inductive IPAMError where
  | exhausted
  | invalidIP (key ip : String)
  | outOfRange (key ip : String)
  | heldByOther (ip key owner : String)
  | keyHolds (key ip existing : String)
deriving Repr, DecidableEq

/-- `PodIPAM`: offsets are relative to the network address, and no address in
the table is empty. -/
structure PodIPAM where
  net : IPNet
  first : Int
  last : Int
  cursor : Int
  table : TwoWay String String
  nonempty : ∀ key ip, table.byKey key = some ip → ip ≠ ""

/-- `NewPodIPAM` over a parsed CIDR: the network address, the gateway and the
IPv4 broadcast address are never handed out. -/
def newPodIPAM (net : IPNet) : PodIPAM where
  net := net
  first := 2
  last :=
    if net.width = 4 then (2 : Int) ^ net.hostBits - 1 - 1
    else (2 : Int) ^ net.hostBits - 1
  cursor := 2
  table := .empty
  nonempty := by simp [TwoWay.empty]

/-- `IP`: the address a key holds. -/
def PodIPAM.ip (a : PodIPAM) (key : String) : String := (a.table.byKey key).getD ""

/-- `offsetIP`: the canonical text of the address at an offset. -/
def PodIPAM.offsetIP (a : PodIPAM) (off : Int) : String :=
  GoNet.ipString a.net.width (ipToBig a.net.ip + off).toNat

/-- `usable`: a host address of the managed range. -/
def PodIPAM.usable (a : PodIPAM) (ip : Nat) : Bool :=
  a.net.contains ip &&
    (let off : Int := ipToBig ip - ipToBig a.net.ip
     a.first ≤ off && off ≤ a.last)

/-- The table with a free key bound to a free, non-empty address. -/
def PodIPAM.assign (a : PodIPAM) (key ip : String) (hne : ip ≠ "")
    (hkey : a.table.byKey key = none) (hip : a.table.byValue ip = none) : PodIPAM :=
  { a with
    table := a.table.bind key ip hkey hip
    nonempty := by
      intro other held hheld
      rw [TwoWay.bind_byKey] at hheld
      by_cases hother : other = key
      · subst other
        rw [Function.update_self] at hheld
        exact Option.some.inj hheld ▸ hne
      · rw [Function.update_of_ne hother] at hheld
        exact a.nonempty other held hheld }

/-- The search loop of `Allocate` from an offset on, wrapping past the last one. -/
def PodIPAM.findFree (a : PodIPAM) :
    Nat → Int → Option { off : Int // a.table.byValue (a.offsetIP off) = none }
  | 0, _ => none
  | fuel + 1, off =>
    let off := if a.last < off then a.first else off
    if hfree : a.table.byValue (a.offsetIP off) = none then some ⟨off, hfree⟩
    else a.findFree fuel (off + 1)

/-- `Allocate`: the address a key holds, or the next free one. -/
def PodIPAM.allocate (a : PodIPAM) (key : String) :
    Except IPAMError (String × PodIPAM) :=
  match hkey : a.table.byKey key with
  | some ip => .ok (ip, a)
  | none =>
    if a.last < a.first then .error .exhausted
    else
      match a.findFree (a.last - a.first + 1).toNat a.cursor with
      | none => .error .exhausted
      | some off =>
        .ok (a.offsetIP off,
          { a.assign key (a.offsetIP off) (GoNet.ipString_ne_empty _ _) hkey off.2
            with cursor := off + 1 })

/-- `Reserve`: bind a key to the address recorded for it. -/
def PodIPAM.reserve (a : PodIPAM) (key ip : String) : Except IPAMError PodIPAM :=
  match GoNet.parseIP ip with
  | none => .error (.invalidIP key ip)
  | some parsed =>
    match canonIP parsed a.net.width with
    | none => .error (.outOfRange key ip)
    | some canon =>
      if hne : canon = "" ∨ a.usable parsed = false then .error (.outOfRange key ip)
      else
        match hip : a.table.byValue canon with
        | some owner => if owner = key then .ok a else .error (.heldByOther canon key owner)
        | none =>
          match hkey : a.table.byKey key with
          -- the key cannot hold this very address: it has no owner
          | some existing => .error (.keyHolds key canon existing)
          | none => .ok (a.assign key canon (fun h => hne (Or.inl h)) hkey hip)

/-- `Release`: a key that holds nothing is left alone. -/
def PodIPAM.release (a : PodIPAM) (key : String) : PodIPAM :=
  { a with
    table := a.table.free key
    nonempty := by
      intro other held hheld
      rw [TwoWay.free_byKey] at hheld
      by_cases hother : other = key
      · subst other
        simp at hheld
      · rw [Function.update_of_ne hother] at hheld
        exact a.nonempty other held hheld }

@[simp]
theorem PodIPAM.release_byKey (a : PodIPAM) (key : String) :
    (a.release key).table.byKey = Function.update a.table.byKey key none :=
  TwoWay.free_byKey a.table key

/-- What `Allocate` returns is what the key holds from then on; no other key is
touched. -/
theorem PodIPAM.allocate_ok {a a' : PodIPAM} {key ip : String} (h : a.allocate key = .ok (ip, a')) :
    a'.table.byKey = Function.update a.table.byKey key (some ip) := by
  unfold PodIPAM.allocate at h
  split at h
  · rename_i held hkey
    cases h
    rw [← hkey, Function.update_eq_self]
  · split at h
    · cases h
    · split at h
      · cases h
      · cases h
        rfl

theorem PodIPAM.allocate_held {a : PodIPAM} {key ip : String} (h : a.table.byKey key = some ip) :
    a.allocate key = .ok (ip, a) := by
  unfold PodIPAM.allocate
  split
  · rename_i held hkey
    obtain rfl := Option.some.inj (h.symm.trans hkey)
    rfl
  · rename_i hkey
    rw [h] at hkey
    cases hkey

theorem PodIPAM.allocate_ne_empty {a a' : PodIPAM} {key ip : String}
    (h : a.allocate key = .ok (ip, a')) : ip ≠ "" := by
  apply a'.nonempty key ip
  rw [PodIPAM.allocate_ok h, Function.update_self]

/-- An address has one holder. -/
theorem PodIPAM.holder_unique (a : PodIPAM) {left right ip : String}
    (hleft : a.table.byKey left = some ip) (hright : a.table.byKey right = some ip) :
    left = right :=
  a.table.byKey_injective hleft hright

end MacVz
