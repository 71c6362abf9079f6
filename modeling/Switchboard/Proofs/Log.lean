import Mathlib.Data.List.DropRight
import Mathlib.Data.List.Induction

/-!
Logs: what happened in a run, the oldest first. What is true of each event and of those before it grows
with the log.
-/

namespace Switchboard

variable {E A : Type}

/-- When an event is added that stands as it should to what was there, each event still does. -/
theorem follows_concat {Follows : List E → E → Prop} {log : List E} {e : E}
    (earlier : ∀ n e, log[n]? = some e → Follows (log.take n) e) (last : Follows log e) :
    ∀ n e', (log ++ [e])[n]? = some e' → Follows ((log ++ [e]).take n) e' := by
  intro n e' found
  rcases Nat.lt_trichotomy n log.length with before | rfl | behind
  · rw [List.getElem?_append_left before] at found
    rw [List.take_append_of_le_length (Nat.le_of_lt before)]
    exact earlier n e' found
  · rw [List.getElem?_concat_length, Option.some.injEq] at found
    rw [List.take_left, ← found]
    exact last
  · have beyond : (log ++ [e]).length ≤ n := by
      rw [List.length_append, List.length_singleton]
      exact behind
    rw [List.getElem?_eq_none beyond] at found
    cases found

/-- A member that changes without a trace in what is read of it leaves what is read of all. -/
theorem map_set_same {f : E → A} {members : List E} {n : Nat} {member next : E}
    (found : members[n]? = some member) (same : f next = f member) :
    (members.set n next).map f = members.map f := by
  have there := (List.getElem?_eq_some_iff.mp found).2
  rw [List.map_set, same, ← there, ← List.map_set, List.set_getElem_self]

/-- Members at different places differ in what is different for all. -/
theorem apart_of_nodup_map {f : E → A} {members : List E} (nodup : (members.map f).Nodup) {n m : Nat}
    {member other : E} (found : members[n]? = some member) (found' : members[m]? = some other)
    (apart : m ≠ n) : f other ≠ f member := by
  intro same
  have there : (members.map f)[m]? = (members.map f)[n]? := by
    rw [List.getElem?_map, List.getElem?_map, found, found', Option.map_some, Option.map_some, same]
  have bound : m < (members.map f).length := by
    rw [List.length_map]
    exact (List.getElem?_eq_some_iff.mp found').1
  exact apart ((List.getElem?_inj bound nodup).mp there)

/-- What the events before a place give begins what those before a later place give. -/
theorem flatMap_take_mono (f : E → List A) (log : List E) {m n : Nat} (le : m ≤ n) :
    (log.take m).flatMap f <+: (log.take n).flatMap f := by
  obtain ⟨rest, split⟩ := List.take_prefix_take_left (l := log) le
  exact ⟨rest.flatMap f, by rw [← split, List.flatMap_append]⟩

/-- An event behind a place of a log has everything up to that place before it. -/
theorem exists_getElem?_of_mem_drop {log : List E} {n : Nat} {e later : E} (found : log[n]? = some e)
    (behind : later ∈ log.drop (n + 1)) : ∃ m, log[m]? = some later ∧ e ∈ log.take m := by
  obtain ⟨k, there⟩ := List.mem_iff_getElem?.mp behind
  rw [List.getElem?_drop] at there
  refine ⟨n + 1 + k, there, ?_⟩
  refine List.mem_of_getElem? (i := n) ?_
  rw [List.getElem?_take_of_lt (by omega), found]

/-- The events behind the last one of a kind, or all when there is none. -/
def sinceLast (ends : E → Bool) (log : List E) : List E :=
  log.rtakeWhile fun e => !ends e

theorem sinceLast_concat (ends : E → Bool) (log : List E) (e : E) :
    sinceLast ends (log ++ [e]) = if ends e then [] else sinceLast ends log ++ [e] := by
  rw [sinceLast, List.rtakeWhile_concat, sinceLast]
  cases ends e <;> rfl

theorem sinceLast_append_cons {ends : E → Bool} {e : E} (last : ends e = true) (before later : List E) :
    sinceLast ends (before ++ e :: later) = sinceLast ends later := by
  induction later using List.reverseRecOn with
  | nil => simp [last, sinceLast]
  | append_singleton later x ih =>
      rw [← List.cons_append, ← List.append_assoc, sinceLast_concat, sinceLast_concat, ih]

end Switchboard
