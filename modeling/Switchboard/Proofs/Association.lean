import Mathlib.Data.List.Nodup
import Switchboard.Association

/-!
Which pairs of a list a key finds, and what changing one of them does to the others.
-/

namespace Switchboard.Association

variable {α : Type} {key : String} {value : α} {entries : List (String × α)}

theorem lookup_eq_none_iff : entries.lookup key = none ↔ key ∉ entries.map Prod.fst := by
  rw [List.lookup_eq_none_iff, List.mem_map]
  exact ⟨fun other ⟨entry, member, same⟩ => absurd (other entry member) (by simp [same]),
    fun absent entry member => bne_iff_ne.mpr fun same => absent ⟨entry, member, same.symm⟩⟩

theorem lookup_eq_some_of_mem (distinct : (entries.map Prod.fst).Nodup)
    (member : (key, value) ∈ entries) : entries.lookup key = some value := by
  induction entries with
  | nil => cases member
  | cons entry rest ih =>
      rw [List.map_cons, List.nodup_cons] at distinct
      obtain rfl | later := List.mem_cons.mp member
      · simp
      · have other : (key == entry.1) = false :=
          beq_eq_false_iff_ne.mpr fun same => distinct.1 (same ▸ List.mem_map_of_mem later)
        rw [List.lookup_cons, other, ih distinct.2 later]

theorem mem_of_lookup_eq_some (found : entries.lookup key = some value) : (key, value) ∈ entries := by
  obtain ⟨before, after, split, -⟩ := List.lookup_eq_some_iff.mp found
  rw [split]
  exact List.mem_append_right before List.mem_cons_self

theorem lookup_eq_some_iff_mem (distinct : (entries.map Prod.fst).Nodup) :
    entries.lookup key = some value ↔ (key, value) ∈ entries :=
  ⟨mem_of_lookup_eq_some, lookup_eq_some_of_mem distinct⟩

/-- Without repeated keys, the order of the pairs does not matter. -/
theorem lookup_perm {others : List (String × α)} (distinct : (entries.map Prod.fst).Nodup)
    (perm : entries.Perm others) (key : String) : entries.lookup key = others.lookup key := by
  have keys := perm.map Prod.fst
  cases found : others.lookup key with
  | some value =>
      rw [lookup_eq_some_iff_mem (keys.nodup distinct), ← perm.mem_iff] at found
      exact lookup_eq_some_of_mem distinct found
  | none =>
      rw [lookup_eq_none_iff, ← keys.mem_iff] at found
      exact lookup_eq_none_iff.mpr found

theorem erase_of_lookup_eq_none (h : entries.lookup key = none) : erase key entries = entries := by
  rw [List.lookup_eq_none_iff] at h
  refine List.filter_eq_self.mpr fun entry member => bne_iff_ne.mpr fun same => ?_
  exact absurd (h entry member) (by simp [same])

theorem erase_put_self (value : α) (h : entries.lookup key = none) :
    erase key (put key value entries) = entries := by
  rw [put, erase, List.filter_cons_of_neg (by simp), ← erase, erase_of_lookup_eq_none h,
    erase_of_lookup_eq_none h]

/-- A value that was put under a key and then moved to another one is found there, and the other keys keep their
values. -/
theorem lookup_moved {source target other : String} (value : α) (apart : other ≠ source) :
    (put target value (erase source (put source value entries))).lookup other =
      if other = target then some value else entries.lookup other := by
  split
  case isTrue here => rw [here, lookup_put_self]
  case isFalse elsewhere =>
    rw [lookup_put_of_ne elsewhere, lookup_erase_of_ne apart, lookup_put_of_ne apart]

/-- Putting what became of the value of a key in its place changes that pair only. -/
theorem map_changed (distinct : (entries.map Prod.fst).Nodup) (found : entries.lookup key = some value)
    (f : α → α) :
    (entries.map fun entry => if entry.1 == key then (key, f value) else entry) =
      entries.map fun entry => (entry.1, if entry.1 == key then f entry.2 else entry.2) := by
  refine List.map_congr_left fun entry member => ?_
  split
  case isFalse _ => rfl
  case isTrue same =>
    obtain rfl := beq_iff_eq.mp same
    rw [lookup_eq_some_of_mem distinct member, Option.some.injEq] at found
    rw [found]

theorem map_unchanged (distinct : (entries.map Prod.fst).Nodup) {f : α → α}
    (same : ∀ value, entries.lookup key = some value → f value = value) :
    (entries.map fun entry => (entry.1, if entry.1 == key then f entry.2 else entry.2)) = entries := by
  refine (List.map_congr_left fun entry member => ?_).trans (List.map_id _)
  split
  case isFalse _ => rfl
  case isTrue here =>
    obtain rfl := beq_iff_eq.mp here
    rw [same entry.2 (lookup_eq_some_of_mem distinct member), id]

end Switchboard.Association
