import Mathlib.Data.List.Nodup

/-!
Numbers that are given out one after the other, to one connection or to others. The connection counts its own
from zero; what is kept under the numbers of all can be found again, by its own count, in what it would keep
alone.
-/

namespace Switchboard

/-- The numbers of one connection, in the order in which it got them, among all that were given out. -/
structure Share where
  numbers : List Nat
  /-- How many were given out. -/
  given : Nat
  nodup : numbers.Nodup
  lt : ∀ n ∈ numbers, n < given

namespace Share

variable {s t : Share} {n m : Nat}

/-- The connection counts a number of its own as its `n`-th. -/
def Holds (s : Share) (n m : Nat) : Prop :=
  s.numbers[n]? = some m

/-- A number that was given to another. -/
def Foreign (s : Share) (m : Nat) : Prop :=
  m < s.given ∧ m ∉ s.numbers

/-- The first numbers, all of them given to the connection. -/
def all (n : Nat) : Share where
  numbers := List.range n
  given := n
  nodup := List.nodup_range
  lt _ := List.mem_range.mp

/-- The next number goes to the connection. -/
def gain (s : Share) : Share where
  numbers := s.numbers ++ [s.given]
  given := s.given + 1
  nodup := s.nodup.append (List.nodup_singleton _)
    (List.disjoint_singleton.mpr fun mem => Nat.lt_irrefl _ (s.lt _ mem))
  lt := by
    intro n mem
    rcases List.mem_append.mp mem with old | new
    · exact Nat.lt_succ_of_lt (s.lt n old)
    · rw [List.mem_singleton.mp new]
      exact Nat.lt_succ_self _

/-- The next number goes to another. -/
def pass (s : Share) : Share where
  numbers := s.numbers
  given := s.given + 1
  nodup := s.nodup
  lt n mem := Nat.lt_succ_of_lt (s.lt n mem)

/-- More numbers have been given out. -/
inductive Grown : Share → Share → Prop
  | refl (s : Share) : Grown s s
  | gain {s t : Share} : Grown s t → Grown s t.gain
  | pass {s t : Share} : Grown s t → Grown s t.pass

theorem Holds.mem (h : s.Holds n m) : m ∈ s.numbers :=
  List.mem_of_getElem? h

theorem Holds.length_lt (h : s.Holds n m) : n < s.numbers.length :=
  (List.getElem?_eq_some_iff.mp h).1

theorem Holds.lt (h : s.Holds n m) : m < s.given :=
  s.lt m h.mem

theorem Holds.inj {n' : Nat} (h : s.Holds n m) (h' : s.Holds n' m) : n = n' :=
  (List.getElem?_inj h.length_lt s.nodup).mp (h.trans h'.symm)

theorem Holds.det {m' : Nat} (h : s.Holds n m) (h' : s.Holds n m') : m = m' :=
  Option.some.inj (h.symm.trans h')

theorem Foreign.ne {m' : Nat} (h : s.Foreign m) (h' : s.Holds n m') : m ≠ m' := by
  rintro rfl
  exact h.2 h'.mem

theorem Holds.eq_of_all {given : Nat} (h : (all given).Holds n m) : n = m := by
  have bound := h.length_lt
  rw [all, List.length_range] at bound
  rw [Holds, all, List.getElem?_range bound] at h
  exact Option.some.inj h

theorem holds_gain (s : Share) : s.gain.Holds s.numbers.length s.given :=
  List.getElem?_concat_length

theorem Holds.gain (h : s.Holds n m) : s.gain.Holds n m :=
  (List.getElem?_append_left h.length_lt).trans h

/-- What the connection holds after a gain, it held before or has just got. -/
theorem Holds.of_gain (h : s.gain.Holds n m) :
    s.Holds n m ∨ n = s.numbers.length ∧ m = s.given := by
  have bound := h.length_lt
  rw [Share.gain, List.length_append] at bound
  rcases Nat.lt_or_eq_of_le (Nat.lt_succ_iff.mp bound) with old | rfl
  · exact .inl ((List.getElem?_append_left old).symm.trans h)
  · exact .inr ⟨rfl, h.det s.holds_gain⟩

theorem foreign_pass (s : Share) : s.pass.Foreign s.given :=
  ⟨Nat.lt_succ_self _, fun mem => Nat.lt_irrefl _ (s.lt _ mem)⟩

theorem Foreign.gain (h : s.Foreign m) : s.gain.Foreign m := by
  refine ⟨Nat.lt_succ_of_lt h.1, ?_⟩
  intro mem
  rcases List.mem_append.mp mem with old | new
  · exact h.2 old
  · exact Nat.ne_of_lt h.1 (List.mem_singleton.mp new)

theorem Grown.trans {u : Share} (h : Grown s t) (h' : Grown t u) : Grown s u := by
  induction h' with
  | refl => exact h
  | gain _ ih => exact .gain ih
  | pass _ ih => exact .pass ih

theorem Holds.grown (h : s.Holds n m) (grown : Grown s t) : t.Holds n m := by
  induction grown with
  | refl => exact h
  | gain _ ih => exact ih.gain
  | pass _ ih => exact ih

theorem Foreign.grown (h : s.Foreign m) (grown : Grown s t) : t.Foreign m := by
  induction grown with
  | refl => exact h
  | gain _ ih => exact ih.gain
  | pass _ ih => exact ⟨Nat.lt_succ_of_lt ih.1, ih.2⟩

/-- What is kept under the numbers of all, and what the connection would keep alone. -/
structure Copied {α : Type} (s : Share) (all own : List α) : Prop where
  given : all.length = s.given
  held : own.length = s.numbers.length
  same : ∀ n m, s.Holds n m → all[m]? = own[n]?

namespace Copied

variable {α : Type} {all own : List α}

theorem refl (entries : List α) : Copied (.all entries.length) entries entries := by
  refine ⟨rfl, List.length_range.symm, ?_⟩
  intro n m holds
  rw [holds.eq_of_all]

theorem gain (c : Copied s all own) (x : α) : Copied s.gain (all ++ [x]) (own ++ [x]) := by
  refine ⟨?_, ?_, ?_⟩
  · rw [List.length_append, c.given]
    rfl
  · rw [List.length_append, c.held, Share.gain, List.length_append]
    rfl
  · intro n m holds
    rcases holds.of_gain with old | ⟨rfl, rfl⟩
    · rw [List.getElem?_append_left (Nat.lt_of_lt_of_eq old.lt c.given.symm),
        List.getElem?_append_left (Nat.lt_of_lt_of_eq old.length_lt c.held.symm)]
      exact c.same n m old
    · rw [← c.given, ← c.held, List.getElem?_concat_length, List.getElem?_concat_length]

theorem pass (c : Copied s all own) (x : α) : Copied s.pass (all ++ [x]) own := by
  refine ⟨?_, c.held, ?_⟩
  · rw [List.length_append, c.given]
    rfl
  · intro n m holds
    have old : s.Holds n m := holds
    rw [List.getElem?_append_left (Nat.lt_of_lt_of_eq old.lt c.given.symm)]
    exact c.same n m old

theorem set (c : Copied s all own) (holds : s.Holds n m) (x : α) :
    Copied s (all.set m x) (own.set n x) := by
  refine ⟨List.length_set.trans c.given, List.length_set.trans c.held, ?_⟩
  intro n' m' holds'
  by_cases same : m = m'
  · subst same
    obtain rfl := holds.inj holds'
    rw [List.getElem?_set_self (Nat.lt_of_lt_of_eq holds.lt c.given.symm),
      List.getElem?_set_self (Nat.lt_of_lt_of_eq holds.length_lt c.held.symm)]
  · have apart : n ≠ n' := by
      rintro rfl
      exact same (holds.det holds')
    rw [List.getElem?_set_ne same, List.getElem?_set_ne apart]
    exact c.same n' m' holds'

theorem set_foreign (c : Copied s all own) (foreign : s.Foreign m) (x : α) :
    Copied s (all.set m x) own := by
  refine ⟨List.length_set.trans c.given, c.held, ?_⟩
  intro n' m' holds'
  rw [List.getElem?_set_ne (foreign.ne holds')]
  exact c.same n' m' holds'

end Copied

end Share

end Switchboard
