import Mathlib.Data.String.Basic
import Switchboard.Json.Value

/-!
The members of an object. Where a name repeats, its last member counts; the value that an object stands for
has exactly these members, ordered by name.
-/

namespace Switchboard.Json.Value

/-- The value of the last member of a name. -/
def lastOf (name : String) (members : List (String × Value)) : Option Value :=
  members.reverse.lookup name

theorem lookup_cons_eq (name other : String) (value : Value) (rest : List (String × Value)) :
    ((other, value) :: rest).lookup name = if name = other then some value else rest.lookup name := by
  by_cases same : name = other
  · simp [same]
  · have apart : (name == other) = false := by simpa using same
    simp [List.lookup_cons, apart, same]

theorem lastOf_cons (name other : String) (value : Value) (rest : List (String × Value)) :
    lastOf name ((other, value) :: rest) =
      (lastOf name rest).or (if name = other then some value else none) := by
  rw [lastOf, List.reverse_cons, List.lookup_append, lookup_cons_eq, List.lookup_nil, lastOf]

theorem lookup_insertMember (name other : String) (value : Value) (members : List (String × Value)) :
    (insertMember other value members).lookup name =
      if name = other then some value else members.lookup name := by
  induction members with
  | nil => exact lookup_cons_eq name other value []
  | cons member rest ih =>
      obtain ⟨first, old⟩ := member
      rw [insertMember]
      split
      case isTrue found =>
        obtain rfl : other = first := beq_iff_eq.mp found
        rw [lookup_cons_eq, lookup_cons_eq]
        split
        · rfl
        · rfl
      case isFalse elsewhere =>
        split
        · exact lookup_cons_eq name other value _
        · rw [lookup_cons_eq, lookup_cons_eq, ih]
          by_cases here : name = first
          · have apart : ¬name = other := fun same => elsewhere (beq_iff_eq.mpr (same.symm.trans here))
            rw [if_pos here, if_neg apart, if_pos here]
          · rw [if_neg here, if_neg here]

theorem lookup_canonicalMembers (name : String) (members ordered : List (String × Value)) :
    (canonicalMembers members ordered).lookup name =
      ((lastOf name members).map canonical).or (ordered.lookup name) := by
  induction members generalizing ordered with
  | nil => rfl
  | cons member rest ih =>
      obtain ⟨other, value⟩ := member
      rw [canonicalMembers, ih, lookup_insertMember, lastOf_cons]
      cases lastOf name rest with
      | some found => rfl
      | none =>
          by_cases same : name = other
          · simp [same]
          · simp [same]

/-- Members ordered by name, so that no name repeats. -/
def Ordered (members : List (String × Value)) : Prop :=
  members.Pairwise fun first later => first.1 < later.1

theorem Ordered.distinct {members : List (String × Value)} (h : Ordered members) :
    (members.map Prod.fst).Nodup := by
  rw [List.nodup_iff_pairwise_ne, List.pairwise_map]
  exact h.imp fun less => ne_of_lt less

theorem mem_insertMember {name : String} {value : Value} {members : List (String × Value)}
    {member : String × Value} (mem : member ∈ insertMember name value members) :
    member.1 = name ∨ member ∈ members := by
  induction members with
  | nil => exact .inl (congrArg Prod.fst (List.mem_singleton.mp mem))
  | cons first rest ih =>
      rw [insertMember] at mem
      split at mem
      · rcases List.mem_cons.mp mem with rfl | later
        · exact .inl rfl
        · exact .inr (List.mem_cons_of_mem _ later)
      · split at mem
        · rcases List.mem_cons.mp mem with rfl | old
          · exact .inl rfl
          · exact .inr old
        · rcases List.mem_cons.mp mem with rfl | later
          · exact .inr List.mem_cons_self
          · exact (ih later).imp_right (List.mem_cons_of_mem _)

theorem Ordered.insertMember {members : List (String × Value)} (h : Ordered members) (name : String)
    (value : Value) : Ordered (insertMember name value members) := by
  induction members with
  | nil => exact List.pairwise_singleton _ _
  | cons first rest ih =>
      obtain ⟨least, later⟩ := List.pairwise_cons.mp h
      rw [Value.insertMember]
      split
      case isTrue same =>
        refine List.pairwise_cons.mpr ⟨?_, later⟩
        intro member mem
        rw [beq_iff_eq.mp same]
        exact least member mem
      case isFalse apart =>
        split
        case isTrue less =>
          refine List.pairwise_cons.mpr ⟨?_, h⟩
          intro member mem
          rcases List.mem_cons.mp mem with rfl | behind
          · exact less
          · exact less.trans (least member behind)
        case isFalse noLess =>
          refine List.pairwise_cons.mpr ⟨?_, ih later⟩
          intro member mem
          rcases mem_insertMember mem with new | old
          · rw [new]
            exact lt_of_le_of_ne (not_lt.mp noLess) fun same => apart (beq_iff_eq.mpr same.symm)
          · exact least member old

theorem Ordered.canonicalMembers {ordered : List (String × Value)} (h : Ordered ordered)
    (members : List (String × Value)) : Ordered (canonicalMembers members ordered) := by
  induction members generalizing ordered with
  | nil => exact h
  | cons member rest ih =>
      obtain ⟨name, value⟩ := member
      rw [Value.canonicalMembers]
      exact ih (h.insertMember name _)

/-- The members of the value that an object stands for. -/
def standing (members : List (String × Value)) : List (String × Value) :=
  canonicalMembers members []

theorem distinct_standing (members : List (String × Value)) :
    ((standing members).map Prod.fst).Nodup :=
  (Ordered.canonicalMembers List.Pairwise.nil members).distinct

theorem lookup_standing (name : String) (members : List (String × Value)) :
    (standing members).lookup name = (lastOf name members).map canonical := by
  rw [standing, lookup_canonicalMembers, List.lookup_nil, Option.or_none]

theorem any_standing (name : String) (members : List (String × Value)) :
    ((standing members).any fun member => member.1 == name) = (lastOf name members).isSome := by
  have named (ordered : List (String × Value)) :
      (ordered.any fun member => member.1 == name) = (ordered.lookup name).isSome := by
    induction ordered with
    | nil => rfl
    | cons member rest ih =>
        obtain ⟨other, value⟩ := member
        rw [List.any_cons, lookup_cons_eq, ih]
        by_cases same : name = other
        · simp [same]
        · simp [same, Ne.symm same]
  rw [named, lookup_standing, Option.isSome_map]

end Switchboard.Json.Value
