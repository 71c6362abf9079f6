import Switchboard.Json.Tagged
import Switchboard.Proofs.Json.Records

/-!
Reading tagged choices: an object that names its variant first is read as that variant with the members
after it.
-/

namespace Switchboard.Json.TaggedShape

open Cursor

variable {shape : TaggedShape} {variant : String} {text rest : List Char}
  {members : List (String × Value)}

theorem variant_eq (known : variant ∈ shape.variants) {at' : Cursor}
    (here : at'.rest = (Value.text variant).chars ++ rest) :
    ∃ next : Cursor, next.rest = rest ∧ shape.variant at' = .ok (variant, next) := by
  have token : at'.token.rest = stringChars variant ++ rest := token_rest allSpaces_nil (by decide) here
  obtain ⟨next, left, read⟩ := string_stringChars token
  refine ⟨next, left, ?_⟩
  rw [stringChars, List.cons_append] at token
  simp only [TaggedShape.variant, token, read, List.contains_eq_mem, known, decide_true, if_true]

/-- Once the variant is known, the members that follow are kept as they are. -/
theorem membersFrom_eq {isFirst : Bool} (variant : String)
    (h : MembersText (value (greatestDepth - 1)) isFirst text members)
    (others : ∀ member ∈ members, member.1 ≠ shape.tag) {at' : Cursor}
    (here : at'.rest = text ++ '\x7d' :: rest) {fuel : Nat} (enough : members.length < fuel)
    (before : List (String × Value)) :
    ∃ next : Cursor, next.rest = '\x7d' :: rest ∧
      shape.membersFrom fuel isFirst (some variant) before at' =
        .ok (.ok (variant, .object (before.reverse ++ members)), next) := by
  induction h generalizing at' fuel before with
  | done isFirst blanks =>
      obtain ⟨fuel, rfl⟩ : ∃ n, fuel = n + 1 := ⟨fuel - 1, by simp at enough; omega⟩
      refine ⟨at'.token, token_rest blanks (by decide) here, ?_⟩
      simp only [membersFrom, nextName_end _ blanks here, List.append_nil]
  | @member isFirst head text more name x xs head' reads tail ih =>
      obtain ⟨fuel, rfl⟩ : ∃ n, fuel = n + 1 := ⟨fuel - 1, by simp at enough; omega⟩
      obtain ⟨noTag, later⟩ := List.forall_mem_cons.mp others
      simp only [List.append_assoc] at here
      obtain ⟨place, next, after, step, named, colon, left⟩ := name_eq head' here
      obtain ⟨next, left, read⟩ := reads after _ tail.delimits left
      obtain ⟨last, left, all⟩ := ih later left (by simpa using enough) ((name, x) :: before)
      refine ⟨last, left, ?_⟩
      have apart : (name == shape.tag) = false := beq_eq_false_iff_ne.mpr noTag
      rw [membersFrom]
      simp only [step, named, apart, colon, read, all, Bool.false_eq_true, if_false, List.reverse_cons,
        List.append_assoc, List.singleton_append]

/-- A choice that was written with its variant first is read back. -/
theorem reads_object (known : variant ∈ shape.variants)
    (others : ∀ member ∈ members, member.1 ≠ shape.tag)
    (each : ∀ member ∈ members, Reads (value (greatestDepth - 1)) member.2.chars member.2) :
    Reads shape.read (Value.object ((shape.tag, .text variant) :: members)).chars
      (variant, .object members) := by
  intro at' rest _ here
  obtain ⟨text, chars, membersText⟩ := membersText_chars members each
  have head := nameText_stringChars (.first allSpaces_nil) shape.tag
  rw [Value.chars, chars] at here
  have token : at'.token.rest =
      '\x7b' :: (stringChars shape.tag ++ [':'] ++ ((Value.text variant).chars ++ (text ++ '\x7d' :: rest))) :=
    token_rest allSpaces_nil (by decide) (by simpa using here)
  obtain ⟨place, next, after, step, named, colon, left⟩ := name_eq head (advance_rest token)
  obtain ⟨chosen, left, choice⟩ := variant_eq known left
  have enough : members.length < at'.token.rest.length := by
    have := membersText.length_le
    rw [token]
    simp only [List.length_append, List.length_cons]
    omega
  obtain ⟨last, left, all⟩ := membersFrom_eq variant membersText others left enough []
  obtain ⟨next, left, close⟩ := closeObject_eq allSpaces_nil left
  refine ⟨next, left, ?_⟩
  have opening : at'.token.opening? = some .object := by simp only [opening?, token]
  rw [read]
  simp only [opening, membersFrom, step, named, colon, choice, all, close, BEq.rfl, if_true,
    Option.isSome_none, Bool.false_eq_true, if_false]
  rfl

end Switchboard.Json.TaggedShape
