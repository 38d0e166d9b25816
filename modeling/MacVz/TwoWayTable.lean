/-
Tables read in both directions.  The two maps are kept inverse to each other,
so no key has two values and no value two keys.
-/
import Mathlib.Data.Option.Basic
import Mathlib.Logic.Function.Basic

namespace TwoWayTable

universe u v

/-- Two maps that are inverse to each other. -/
structure TwoWay (K : Type u) (V : Type v) where
  byKey : K → Option V
  byValue : V → Option K
  inverse : ∀ key value, byKey key = some value ↔ byValue value = some key

variable {K : Type u} {V : Type v}

def TwoWay.empty : TwoWay K V where
  byKey := fun _ => none
  byValue := fun _ => none
  inverse := by simp

theorem TwoWay.byKey_injective (table : TwoWay K V) {left right : K} {value : V}
    (hleft : table.byKey left = some value) (hright : table.byKey right = some value) :
    left = right := by
  rw [table.inverse] at hleft hright
  exact Option.some.inj (hleft.symm.trans hright)

variable [DecidableEq K] [DecidableEq V]

/-- A pair of a key and a value that are both free. -/
def TwoWay.bind (table : TwoWay K V) (key : K) (value : V)
    (hkey : table.byKey key = none) (hvalue : table.byValue value = none) :
    TwoWay K V where
  byKey := Function.update table.byKey key (some value)
  byValue := Function.update table.byValue value (some key)
  inverse := by
    intro otherKey otherValue
    by_cases hk : otherKey = key <;> by_cases hv : otherValue = value
    · simp [hk, hv]
    · have hnone : table.byValue otherValue ≠ some key := by
        rw [Ne, ← table.inverse, hkey]
        simp
      simp [hk, hv, hnone, Ne.symm hv]
    · have hnone : table.byKey otherKey ≠ some value := by
        rw [Ne, table.inverse, hvalue]
        simp
      simp [hk, hv, hnone, Ne.symm hk]
    · simp [hk, hv, table.inverse]

/-- The table without a key and its value. -/
def TwoWay.free (table : TwoWay K V) (key : K) : TwoWay K V :=
  match hkey : table.byKey key with
  | none => table
  | some value =>
    { byKey := Function.update table.byKey key none
      byValue := Function.update table.byValue value none
      inverse := by
        intro otherKey otherValue
        have hvalue : table.byValue value = some key := (table.inverse _ _).mp hkey
        by_cases hk : otherKey = key <;> by_cases hv : otherValue = value
        · simp [hk, hv]
        · have hnone : table.byValue otherValue ≠ some key := by
            rw [Ne, ← table.inverse, hkey]
            simpa using Ne.symm hv
          simp [hk, hv, hnone]
        · have hnone : table.byKey otherKey ≠ some value := by
            rw [Ne, table.inverse, hvalue]
            simpa using Ne.symm hk
          simp [hk, hv, hnone]
        · simp [hk, hv, table.inverse] }

@[simp]
theorem TwoWay.bind_byKey (table : TwoWay K V) (key : K) (value : V) (hkey : table.byKey key = none)
    (hvalue : table.byValue value = none) : (table.bind key value hkey hvalue).byKey =
      Function.update table.byKey key (some value) := rfl

@[simp]
theorem TwoWay.free_byKey (table : TwoWay K V) (key : K) :
    (table.free key).byKey = Function.update table.byKey key none := by
  unfold TwoWay.free
  split
  · rename_i hkey
    rw [← hkey, Function.update_eq_self]
  · rfl

theorem TwoWay.free_of_none (table : TwoWay K V) {key : K} (hkey : table.byKey key = none) :
    table.free key = table := by
  unfold TwoWay.free
  split
  · rfl
  · rename_i value hvalue
    rw [hkey] at hvalue
    cases hvalue

theorem TwoWay.free_byValue (table : TwoWay K V) {key : K} {value : V}
    (hkey : table.byKey key = some value) :
    (table.free key).byValue = Function.update table.byValue value none := by
  unfold TwoWay.free
  split
  · rename_i hnone
    rw [hkey] at hnone
    cases hnone
  · rename_i held hheld
    obtain rfl := Option.some.inj (hkey.symm.trans hheld)
    rfl

end TwoWayTable
