/-!
Lists of pairs with at most one value under each key. Looking a key up after a change gives what was put
there, and other keys keep their values.
-/

namespace Switchboard.Association

variable {α : Type}

def erase (key : String) (entries : List (String × α)) : List (String × α) :=
  entries.filter fun entry => entry.1 != key

/-- Puts a value under a key, in place of the one that was there. -/
def put (key : String) (value : α) (entries : List (String × α)) : List (String × α) :=
  (key, value) :: erase key entries

@[simp] theorem lookup_erase_self (key : String) (entries : List (String × α)) :
    (erase key entries).lookup key = none := by
  induction entries with
  | nil => rfl
  | cons entry rest ih =>
    obtain ⟨name, value⟩ := entry
    by_cases h : name = key
    · simpa [erase, h] using ih
    · have hne : (key == name) = false := beq_eq_false_iff_ne.2 (Ne.symm h)
      simpa [erase, h, List.lookup_cons, hne] using ih

theorem lookup_erase_of_ne {key other : String} (h : other ≠ key) (entries : List (String × α)) :
    (erase key entries).lookup other = entries.lookup other := by
  induction entries with
  | nil => rfl
  | cons entry rest ih =>
    obtain ⟨name, value⟩ := entry
    by_cases hname : name = key
    · have hne : (other == name) = false := beq_eq_false_iff_ne.2 fun e => h (e.trans hname)
      simpa [erase, hname, List.lookup_cons, hname ▸ hne] using ih
    · by_cases ho : other = name
      · simp [erase, hname, ho]
      · have hne : (other == name) = false := beq_eq_false_iff_ne.2 ho
        simpa [erase, hname, List.lookup_cons, hne] using ih

@[simp] theorem lookup_put_self (key : String) (value : α) (entries : List (String × α)) :
    (put key value entries).lookup key = some value := by
  simp [put]

theorem lookup_put_of_ne {key other : String} (h : other ≠ key) (value : α)
    (entries : List (String × α)) :
    (put key value entries).lookup other = entries.lookup other := by
  have hne : (other == key) = false := beq_eq_false_iff_ne.2 h
  simp [put, List.lookup_cons, hne, lookup_erase_of_ne h]

end Switchboard.Association
